import RunLedger.Proofs.Paging.Listing
import RunLedger.Proofs.Store.MaskedDisk
import RunLedger.Session.Call

/-!
# Sessions without the texts of parameters

A session is masked when all its ledgers are.  Every operation on a masked session ends in the same
way as on the session itself, and leaves its masked form: the clock, the handle, the locks and links
and the log are the same.

    call.Masks f masked → s.masked.perform masked =
      ((s.perform call).1.map f, (s.perform call).2.masked)
    (start epoch time r).Masks Execution.masked (start epoch time r.masked)          (masks_start)
    (page epoch f index size).Masks (Page.map Execution.masked) (page epoch f index size)
                                                                                     (masks_page)
-/

namespace RunLedger

/-! ## Transactions of recording -/

namespace Recording

open Transaction

theorem masks_create (now : Timestamp) (taskName : Option String) (parentId : Option Int)
    (externalId : Option String) :
    Masks (Prod.map id Execution.masked) (create now taskName parentId externalId)
      (create now taskName parentId externalId) :=
  (masks_storedTime now).bind fun _ => (masks_insertExecution _ _).bind fun number =>
    (masks_loadExecution number).bind fun _ => .pure _ _

theorem masks_start (now : Timestamp) (startTime : Instant) (s : Start) :
    Masks Execution.masked (start now startTime s) (start now startTime s.masked) := by
  refine (masks_fetchExecution s.id).bind fun row => (Masks.check _).bind fun _ =>
    (masks_storedTime now).bind fun _ => (masks_checkNumber? s.parentId).bind fun _ =>
      (masks_updateExecutions _ s.id _).bind fun _ => ?_
  have hempty : s.masked.parameters.isEmpty = s.parameters.isEmpty := List.isEmpty_map
  have hrows : Transaction.parameterRows s.masked.id 0 s.masked.parameters =
      (Transaction.parameterRows s.id 0 s.parameters).map ParameterRow.masked :=
    parameterRows_blanks s.id 0 s.parameters
  rw [hempty, hrows]
  exact .ite ((masks_insertParameters _).bind fun _ => masks_loadExecution s.id)
    (masks_loadExecution s.id)

theorem masks_complete (now : Timestamp) (endTime : Instant) (o : Outcome) :
    Masks Execution.masked (complete now endTime o) (complete now endTime o) :=
  (masks_fetchExecution o.id).bind fun _ => (Masks.check _).bind fun _ =>
    (masks_storedTime now).bind fun _ => (masks_checkNumber _).bind fun _ =>
      (masks_updateExecutions _ o.id _).bind fun _ => masks_loadExecution o.id

theorem masks_setExternalId (now : Timestamp) (number : Int) (externalId : Option String) :
    Masks id (setExternalId now number externalId) (setExternalId now number externalId) :=
  (masks_storedTime now).bind fun _ => masks_updateExecutions _ number _

theorem masks_storedTime? (t : Option Timestamp) :
    Masks id (t.mapM storedTime) (t.mapM storedTime) := by
  cases t with
  | none => exact .pure id _
  | some t => exact (masks_storedTime t).bind fun _ => .pure id _

theorem masks_insertRow (r : RawRow) : Masks id (insertRow r) (insertRow r) := by
  refine (masks_storedTime? _).bind fun _ => (masks_storedTime? _).bind fun _ =>
    (masks_storedTime? _).bind fun _ => ?_
  dsimp only [id]
  split
  · exact Masks.get.bind fun _ => (masks_require _ _).bind fun _ =>
      (masks_checkNumber? _).bind fun _ => (masks_insertExecution _ _).bind fun _ => .pure id _
  · refine Masks.get.bind fun _ => (masks_require _ _).bind fun t =>
      (masks_checkNumber _).bind fun _ => (masks_checkNumber? _).bind fun _ =>
        (masks_checkNumber? _).bind fun _ => ?_
    exact .ite (.bind (.throw id _) fun _ => .modify fun _ => rfl) (.modify fun _ => rfl)

theorem masks_createAndGiveUp (taskName : Option String) :
    Masks id (createAndGiveUp taskName) (createAndGiveUp taskName) :=
  (masks_insertExecution _ _).bind fun _ => .throw id _

end Recording

/-! ## Transactions of reading -/

namespace Reading

open Transaction

theorem masks_find? (number : Int) :
    Masks (Option.map Execution.masked) (find? number) (find? number) := by
  refine Masks.get.bind fun _ => (masks_require _ _).bind fun t =>
    (masks_checkNumber _).bind fun _ => (masks_loadExecutions _).bind fun es => ?_
  rw [List.head?_map]
  exact .pure _ _

theorem toExecution_parameters {r : ExecutionRow} {ps : List String} {e : Execution}
    (h : r.toExecution ps = .ok e) : e.parameters = ps := by
  unfold ExecutionRow.toExecution ExecutionFields.toExecution at h
  split at h
  · cases h
    rfl
  · cases h

/-- What is loaded at one time has its parameters by number. -/
theorem parametersById_of_loadExecutions {l m : Ledger} {rows : List ExecutionRow}
    {es : List Execution} (h : exec (loadExecutions rows) l = (.ok es, m)) :
    ParametersById es := by
  rw [loadExecutions, exec_ite] at h
  split at h
  · have hnone : [] = es := Except.ok.inj (congrArg Prod.fst h)
    rw [← hnone]
    intro a ha
    cases ha
  · obtain ⟨-, l₁, -, hrest⟩ := exec_bind_ok_iff.1 h
    rw [exec_get_bind] at hrest
    obtain ⟨t, l₂, -, hload⟩ := exec_bind_ok_iff.1 hrest
    rw [exec_mapM] at hload
    have hall := mapM_eq_ok_iff.1 (congrArg Prod.fst hload)
    have hparameters : ∀ e ∈ es, e.parameters = (e.id.map (parametersOf t.rows)).getD [] := by
      intro e he
      obtain ⟨r, -, hr⟩ := exists_mem_left hall he
      rw [Recording.toExecution_id hr]
      exact toExecution_parameters hr
    intro a ha b hb hid
    rw [hparameters a ha, hparameters b hb, hid]

theorem orderedById_masked (es : List Execution) :
    orderedById (es.map Execution.masked) =
      (orderedById es).map (List.map Execution.masked) := by
  have hnone : ((es.map Execution.masked).any fun e => e.id.isNone) =
      es.any fun e => e.id.isNone := List.any_map
  have hfirst : (es.map Execution.masked).findSome? (·.id) = es.findSome? (·.id) :=
    List.findSome?_map
  have hsort : (es.mergeSort fun a b => ExecutionRow.idAtMost a.id b.id).map Execution.masked =
      (es.map Execution.masked).mergeSort fun a b => ExecutionRow.idAtMost a.id b.id :=
    List.map_mergeSort fun _ _ _ _ => rfl
  rw [orderedById, orderedById, List.length_map, hnone, hfirst, ← hsort]
  split <;> rfl

theorem masks_running (taskName : String) :
    Masks (List.map Execution.masked) (running taskName) (running taskName) := by
  refine (masks_selectExecutions _ _).bind fun rows =>
    (masks_loadExecutions rows).bind_of_ok fun es l m hes => ?_
  rw [eraseDups_map _ (parametersById_of_loadExecutions hes).masked_injective, orderedById_masked]
  exact .liftM _ _

theorem masks_latest (names : List String) :
    Masks (List.map Execution.masked) (latest names) (latest names) := by
  refine .ite (.pure _ _) ((masks_selectExecutions _ _).bind fun rows => ?_)
  dsimp only [id]
  split
  · exact .throw _ _
  · exact masks_loadExecutions _

theorem masks_count (f : Filter) : Masks id (count f) (count f) :=
  (masks_selectExecutions _ _).bind fun _ => .pure id _

theorem masks_countRunning : Masks id countRunning countRunning :=
  (masks_selectExecutions _ _).bind fun _ => .pure id _

theorem masks_taskNames : Masks id taskNames taskNames :=
  (masks_selectExecutions _ _).bind fun _ => .pure id _

theorem masks_window (form : PageForm) (tablePrefix : String) (f : Filter) (w : Window) :
    Masks (List.map Execution.masked) (window form tablePrefix f w)
      (window form tablePrefix f w) := by
  have hselect : Masks (List.map Execution.masked)
      (do
        let rows ← selectExecutions executionColumns f.keeps
        loadExecutions (← selectWindow form w (newestFirst rows)))
      (do
        let rows ← selectExecutions executionColumns f.keeps
        loadExecutions (← selectWindow form w (newestFirst rows))) :=
    (masks_selectExecutions _ _).bind fun _ => (Masks.check _).bind fun _ =>
      masks_loadExecutions _
  refine .ite (.bind (.throw id _) fun _ => ?_) ?_
  all_goals exact .ite (.bind (.throw id _) fun _ => hselect) hselect

end Reading

/-! ## Transactions on links and locks -/

namespace Link

open Transaction

theorem masks_record (executionId jobId : Int) :
    Masks id (record executionId jobId) (record executionId jobId) :=
  Masks.get.bind fun _ => (masks_require _ _).bind fun _ => (masks_checkNumber _).bind fun _ =>
    (masks_checkNumber _).bind fun _ => .bind (.modify fun _ => rfl) fun _ => .pure id _

theorem masks_jobsOf (executionId : Int) : Masks id (jobsOf executionId) (jobsOf executionId) :=
  Masks.get.bind fun _ => (masks_require _ _).bind fun _ => (masks_checkNumber _).bind fun _ =>
    .pure id _

theorem masks_executionOf (jobId : Int) : Masks id (executionOf jobId) (executionOf jobId) :=
  Masks.get.bind fun _ => (masks_require _ _).bind fun _ => (masks_checkNumber _).bind fun _ =>
    .pure id _

end Link

namespace Lock

open Transaction

theorem masks_acquire (now : Timestamp) (region taskName clientId : String) :
    Masks id (acquire now region taskName clientId) (acquire now region taskName clientId) :=
  (masks_storedTime now).bind fun _ => Masks.get.bind fun _ => (masks_require _ _).bind fun _ =>
    .ite (.bind (.throw id _) fun _ => .modify fun _ => rfl) (.modify fun _ => rfl)

theorem masks_release (region taskName : String) :
    Masks id (release region taskName) (release region taskName) :=
  Masks.get.bind fun _ => (masks_require _ _).bind fun _ => .bind (.modify fun _ => rfl) fun _ =>
    .pure id _

theorem masks_holder (region taskName : String) :
    Masks id (holder region taskName) (holder region taskName) :=
  Masks.get.bind fun _ => (masks_require _ _).bind fun _ => .pure id _

end Lock

theorem Session.masks_rowCounts : Transaction.Masks id rowCounts rowCounts := by
  refine .bind .get fun _ => (Transaction.masks_require _ _).bind fun _ =>
    (Transaction.masks_requireParameters _ _).bind fun t => (Transaction.masks_require _ _).bind
      fun _ => (Transaction.masks_require _ _).bind fun _ => ?_
  have hlength : t.masked.rows.length = t.rows.length := List.length_map _
  rw [hlength]
  exact .pure id _

/-! ## Masked sessions -/

namespace Session

theorem target_masked (d : Disk) (url : String) (declared : Option DialectChoice) :
    target d.masked url declared = target d url declared := by
  have hkeeps : d.masked.keepsSettings = d.keepsSettings := by
    funext place
    cases place <;> rfl
  rw [target, target, locate, locate, hkeeps]

theorem openHandle_masked (d : Disk) (url : String) (o : Opening) :
    openHandle d.masked url o = ((openHandle d url o).1, (openHandle d url o).2.masked) := by
  unfold openHandle
  rw [target_masked]
  rcases target d url o.dialect with f | ⟨place, dialect⟩
  · rfl
  · have hstart : (if place = .memory then Database.empty else d.masked.get place) =
        (if place = .memory then Database.empty else d.get place).masked := by
      rw [Disk.get_masked]
      split <;> rfl
    dsimp only
    rw [hstart, Database.openLedger_masked, Disk.put_masked]


/-- The session with blank parameters in all that is stored. -/
def masked (s : Session) : Session := { s with disk := s.disk.masked }

theorem tick_masked (s : Session) : s.masked.tick = s.tick.masked := by
  have hclock : s.masked.clock = s.clock := rfl
  rw [tick, tick, hclock]
  -- the next second is better not worked out
  generalize s.clock.nextSecond = clock
  rfl

theorem ledger_masked (s : Session) : s.masked.ledger = s.ledger.masked := by
  have hhandle : s.masked.handle = s.handle := rfl
  have hdisk : s.masked.disk = s.disk.masked := rfl
  rw [ledger, hhandle, hdisk, Disk.get_masked, Database.ledger_masked]
  rfl

theorem setDatabase_masked (s : Session) (db : Database) :
    s.masked.setDatabase db.masked = (s.setDatabase db).masked := by
  have hput : s.masked.disk.put s.masked.handle.place db.masked =
      (s.disk.put s.handle.place db).masked := s.disk.put_masked s.handle.place db
  rw [setDatabase, hput]
  rfl

theorem setLedger_masked (s : Session) (l : Ledger) :
    s.masked.setLedger l.masked = (s.setLedger l).masked := by
  have hget : (s.masked.disk.get s.masked.handle.place).setLedger s.masked.handle.tablePrefix
      l.masked = ((s.disk.get s.handle.place).setLedger s.handle.tablePrefix l).masked := by
    rw [← Database.setLedger_masked, ← Disk.get_masked]
    rfl
  rw [setLedger, hget, setDatabase_masked]
  rfl

end Session

namespace SessionM

open Session

variable {α β γ δ : Type}

/-- Two calls of which the second does in masked sessions what the first does in sessions as they
are, its value seen through a function. -/
def Masks (f : α → β) (c : SessionM α) (d : SessionM β) : Prop :=
  ∀ s : Session, s.masked.perform d = ((s.perform c).1.map f, (s.perform c).2.masked)

namespace Masks

variable {f : α → β} {g : γ → δ} {c : SessionM α} {d : SessionM β}

theorem pure (f : α → β) (a : α) : Masks f (Pure.pure a) (Pure.pure (f a)) := fun _ => rfl

theorem throw (f : α → β) (e : Failure) :
    Masks f (MonadExcept.throw e) (MonadExcept.throw e) := fun _ => rfl

theorem get : Masks Session.masked MonadState.get MonadState.get := fun _ => rfl

theorem set (s : Session) : Masks id (MonadStateOf.set s) (MonadStateOf.set s.masked) :=
  fun _ => rfl

theorem liftM (f : α → β) (r : Except Failure α) :
    Masks f (MonadLiftT.monadLift r) (MonadLiftT.monadLift (r.map f)) := by
  cases r <;> exact fun _ => rfl

theorem check (r : Except Failure α) :
    Masks id (MonadLiftT.monadLift r) (MonadLiftT.monadLift r) := by
  cases r <;> exact fun _ => rfl

theorem emit (e : LogEvent) : Masks id (SessionM.emit e) (SessionM.emit e) := fun _ => rfl

theorem bind {k : α → SessionM γ} {k' : β → SessionM δ} (hc : Masks f c d)
    (hk : ∀ a, Masks g (k a) (k' (f a))) : Masks g (c >>= k) (d >>= k') := by
  intro s
  have h := hc s
  rw [perform_bind, perform_bind, h]
  rcases s.perform c with ⟨e | a, t⟩
  · rfl
  · exact hk a t

theorem ite {p : Prop} [Decidable p] {c' : SessionM α} {d' : SessionM β}
    (hc : Masks f c d) (hc' : Masks f c' d') :
    Masks f (if p then c else c') (if p then d else d') := by
  split
  · exact hc
  · exact hc'

theorem tryCatch {k : Failure → SessionM α} {k' : Failure → SessionM β} (hc : Masks f c d)
    (hk : ∀ e, Masks f (k e) (k' e)) :
    Masks f (MonadExcept.tryCatch c k) (MonadExcept.tryCatch d k') := by
  intro s
  have h := hc s
  rw [perform_tryCatch, perform_tryCatch, h]
  rcases s.perform c with ⟨e | a, t⟩
  · exact hk e t
  · rfl

theorem transact {t : Transaction α} {u : Transaction β} (epoch : Nat)
    (h : Transaction.Masks f t u) :
    Masks f (SessionM.transact epoch t) (SessionM.transact epoch u) := by
  intro s
  have hsame : s.masked.isAt epoch = s.isAt epoch := rfl
  cases hat : s.isAt epoch with
  | false => rw [perform_transact_of_closed hat, perform_transact_of_closed (hsame.trans hat)]; rfl
  | true =>
    rw [perform_transact hat, perform_transact (hsame.trans hat), ledger_masked, h.commit,
      setLedger_masked]

end Masks

/-- Two calls of which the second ends in masked sessions as the first does in sessions as they are,
and leaves the masked form, whatever they answer. -/
def EndsAlike (c : SessionM α) (d : SessionM β) : Prop :=
  ∀ s : Session,
    (s.masked.perform d).1.map (fun _ => ()) = (s.perform c).1.map (fun _ => ()) ∧
      (s.masked.perform d).2 = (s.perform c).2.masked

namespace EndsAlike

variable {f : α → β} {c : SessionM α} {d : SessionM β}

theorem of_masks (h : Masks f c d) : EndsAlike c d := by
  intro s
  rw [h s]
  rcases s.perform c with ⟨e | a, t⟩ <;> exact ⟨rfl, rfl⟩

theorem bind {k : α → SessionM γ} {k' : β → SessionM δ} (hc : Masks f c d)
    (hk : ∀ a, EndsAlike (k a) (k' (f a))) : EndsAlike (c >>= k) (d >>= k') := by
  intro s
  have h := hc s
  rw [perform_bind, perform_bind, h]
  rcases s.perform c with ⟨e | a, t⟩
  · exact ⟨rfl, rfl⟩
  · exact hk a t

theorem pure (a : α) (b : β) : EndsAlike (Pure.pure a) (Pure.pure b) := fun _ => ⟨rfl, rfl⟩

/-- What is made of the value does not matter. -/
theorem answer (h : EndsAlike c d) (a : α → γ) (b : β → δ) :
    EndsAlike (c >>= fun x => Pure.pure (a x)) (d >>= fun y => Pure.pure (b y)) := by
  intro s
  obtain ⟨houtcome, hstate⟩ := h s
  have hforget {ε ι κ : Type} (r : Except ε ι) (b : ι → κ) :
      (r.map b).map (fun _ => ()) = r.map fun _ => () := by
    cases r <;> rfl
  rw [perform_map_snd, perform_map_snd, perform_map_fst, perform_map_fst, hforget, hforget]
  exact ⟨houtcome, hstate⟩

theorem map (hc : Masks f c d) (a : α → γ) (b : β → δ) :
    EndsAlike (c >>= fun x => Pure.pure (a x)) (d >>= fun y => Pure.pure (b y)) :=
  (of_masks hc).answer a b

end EndsAlike

end SessionM

namespace Session

open SessionM

/-! ## Operations -/

theorem masks_create (epoch : Nat) (taskName : Option String) (parentId : Option Int)
    (externalId : Option String) :
    Masks (Prod.map id Execution.masked) (create epoch taskName parentId externalId)
      (create epoch taskName parentId externalId) :=
  Masks.get.bind fun s => (Masks.transact epoch (Recording.masks_create s.clock _ _ _)).bind
    fun ⟨_, _⟩ => (Masks.emit _).bind fun _ => .pure _ _

theorem masks_start (epoch : Nat) (time : Timestamp) (r : Recording.Start) :
    Masks Execution.masked (start epoch time r) (start epoch time r.masked) := by
  have hlength : r.masked.parameters.length = r.parameters.length := List.length_map _
  unfold start
  rw [hlength]
  exact Masks.get.bind fun s => (Masks.check _).bind fun _ =>
    (Masks.transact epoch (Recording.masks_start s.clock _ r)).bind fun _ =>
      (Masks.emit _).bind fun _ => .pure _ _

theorem masks_complete (epoch : Nat) (number : Int) (status : Option ExitStatus)
    (time : Timestamp) (exitMessage errorMessage : Option String) :
    Masks Execution.masked (complete epoch number status time exitMessage errorMessage)
      (complete epoch number status time exitMessage errorMessage) :=
  Masks.get.bind fun s => (Masks.check _).bind fun ⟨_, _⟩ =>
    (Masks.transact epoch (Recording.masks_complete s.clock _ _)).bind fun _ =>
      (Masks.emit _).bind fun _ => .pure _ _

theorem masks_setExternalId (epoch : Nat) (number : Int) (externalId : Option String) :
    Masks id (setExternalId epoch number externalId) (setExternalId epoch number externalId) :=
  Masks.get.bind fun s => (Masks.transact epoch (Recording.masks_setExternalId s.clock _ _)).bind
    fun _ => .ite (.bind (.throw id _) fun _ => .emit _) (.emit _)

theorem masks_announcePager (f : Reading.Filter) :
    Masks id (announcePager f) (announcePager f) :=
  Masks.get.bind fun _ => .ite ((Masks.check _).bind fun _ => (Masks.set _).bind fun _ =>
    .emit _) (.pure id _)

theorem masks_page (epoch : Nat) (f : Reading.Filter) (index size : Int) :
    Masks (Page.map Execution.masked) (page epoch f index size)
      (page epoch f index size) := by
  refine (Masks.transact epoch (Reading.masks_count f)).bind fun _ => (Masks.check _).bind fun _ =>
    (masks_announcePager f).bind fun _ => (Masks.check _).bind fun _ => Masks.get.bind fun _ =>
      (Masks.transact epoch (Reading.masks_window _ _ f _)).bind fun items => ?_
  rw [List.length_map]
  exact (Masks.emit _).bind fun _ => .pure _ _

theorem masks_recordLink (epoch : Nat) (store : LinkStore) (executionId jobId : Int) :
    Masks id (recordLink epoch store executionId jobId)
      (recordLink epoch store executionId jobId) := by
  cases store with
  | ledger =>
    exact (Masks.transact epoch (Link.masks_record _ _)).bind fun _ => (Masks.emit _).bind fun _ =>
      .pure id _
  | memory =>
    exact Masks.get.bind fun _ => .ite ((Masks.set _).bind fun _ => .pure id _) (.pure id _)

theorem masks_jobsOf (executionId : Int) : Masks id (jobsOf executionId) (jobsOf executionId) := by
  refine Masks.get.bind fun s => ?_
  have hplan : s.masked.plan = s.plan := rfl
  rw [hplan]
  split
  · exact .transact _ (Link.masks_jobsOf _)
  · exact .pure id _

theorem masks_executionOf (jobId : Int) : Masks id (executionOf jobId) (executionOf jobId) := by
  refine Masks.get.bind fun s => ?_
  have hplan : s.masked.plan = s.plan := rfl
  rw [hplan]
  split
  · exact .transact _ (Link.masks_executionOf _)
  · exact .pure id _

theorem masks_acquire (epoch : Nat) (client : LockClient) (taskName : String)
    (other : Option String) :
    Masks id (acquire epoch client taskName other) (acquire epoch client taskName other) := by
  refine .ite (.bind (.throw id _) fun _ => ?_) ?_
  all_goals
    refine Masks.get.bind fun s => .bind (.tryCatch (.transact epoch
      (Lock.masks_acquire s.clock client.region taskName _)) fun e => ?_) fun _ => .emit _
    split
    · exact (Masks.emit _).bind fun _ => .throw id _
    · exact .throw id _

theorem masks_release (epoch : Nat) (client : LockClient) (taskName : String) :
    Masks id (release epoch client taskName) (release epoch client taskName) :=
  (Masks.transact epoch (Lock.masks_release _ _)).bind fun _ => (Masks.emit _).bind fun _ =>
    .pure id _

theorem masks_ensureOpen (epoch : Nat) : Masks id (ensureOpen epoch) (ensureOpen epoch) :=
  Masks.get.bind fun _ => .ite (.pure id _) (.throw id _)

theorem masks_tables : Masks id tables tables := by
  refine Masks.get.bind fun s => (masks_ensureOpen s.epoch).bind fun _ => ?_
  have hshapes : (s.masked.disk.get s.masked.handle.place).shapes =
      (s.disk.get s.handle.place).shapes := by
    rw [← Database.shapes_masked (s.disk.get s.handle.place), ← Disk.get_masked]
    rfl
  rw [hshapes]
  exact .pure id _

theorem masks_connectionSetup : Masks id connectionSetup connectionSetup :=
  Masks.get.bind fun s => (masks_ensureOpen s.epoch).bind fun _ => .pure id _

theorem masks_dropTable (name : String) : Masks id (dropTable name) (dropTable name) := by
  refine Masks.get.bind fun s => (masks_ensureOpen s.epoch).bind fun _ => ?_
  have hdrop : (s.masked.disk.get s.masked.handle.place).dropTable name =
      ((s.disk.get s.handle.place).dropTable name).map Database.masked := by
    rw [← Database.dropTable_masked, ← Disk.get_masked]
    rfl
  rw [hdrop]
  refine (Masks.liftM Database.masked _).bind fun db => ?_
  rw [setDatabase_masked]
  exact .set _

theorem masks_lockClient (lock : Nat) : Masks id (lockClient lock) (lockClient lock) := by
  refine Masks.get.bind fun s => ?_
  have hlocks : s.masked.locks = s.locks := rfl
  rw [hlocks]
  split
  · exact .pure id _
  · exact .throw id _

theorem masks_reopen (o : Opening) : Masks id (reopen o) (reopen o) := by
  have hclose : Masks id close close := fun _ => rfl
  refine hclose.bind fun _ => Masks.get.bind fun s => ?_
  have hopen : openHandle s.masked.disk s.masked.plan.url o =
      ((openHandle s.disk s.plan.url o).1, (openHandle s.disk s.plan.url o).2.masked) :=
    openHandle_masked s.disk s.plan.url o
  rw [hopen]
  exact (Masks.set _).bind fun _ => (Masks.check _).bind fun _ => .set _

end Session

end RunLedger
