import RunLedger.Proofs.Launch.Begun

/-!
# The record of a launch

Whatever the body of a launch does, the launch's execution keeps the start, the name and the
parameters that it was started with, and what is said about its end is what the launch itself says
once the body has ended.  Nothing else that the body wrote is touched.

    the handle is open at the end → launch r body s = (the body's report and fault, …)
                                                                            (launch_of_begun)
    the execution of the launch, and all that the launch leaves alone       (launch_records)
-/

namespace RunLedger

open Session SessionM

/-! ## Messages -/

/-- The messages that the first steps of a body assign, one after the other. -/
def Body.messages : (steps : Nat) → Body → List (Option String)
  | 0, _ => []
  | _ + 1, done => []
  | n + 1, act (.exitMessage text) _ rest => text :: rest.messages n
  | n + 1, act _ _ rest => rest.messages n
  | n + 1, launch _ _ _ rest => rest.messages n

namespace Body

theorem after_fst (report : Report) (ends : Bool) (running : Running) (s : Session)
    (rest : Running → Session → BodyOutcome (List Report) × Session) :
    (after report ends running s rest).1 =
      if report.endsBody ends then ⟨running, [report], report.fault?⟩
      else { (rest running s).1 with report := report :: (rest running s).1.report } := by
  unfold after Report.endsBody
  cases h : report.fault? <;> cases ends <;> simp

/-- The message that a body leaves is the last one that a step of it assigned. -/
theorem exitMessage_run (body : Body) (running : Running) (s : Session) :
    (body.run running s).1.running.exitMessage =
      (body.messages (body.run running s).1.report.length).getLast?.getD running.exitMessage := by
  induction body generalizing running s with
  | done => rfl
  | act a passesOn rest ih =>
    rw [run, after_fst]
    cases a with
    | exitMessage text =>
      split
      · next hends => simp [Action.run, Report.endsBody, Report.fault?] at hends
      · rw [List.length_cons, messages, List.getLast?_cons, Option.getD_some]
        exact ih _ _
    | _ =>
      split
      · rfl
      · exact ih _ _
  | launch r passesOn body rest ihBody ih =>
    rw [run, after_fst]
    split
    · rfl
    · exact ih _ _

end Body

namespace Launch

variable {s t : Session} {r : LaunchRequest} {p : Prepared} {now : Instant} {running : Running}

/-! ## The end of a launch -/

/-- What a launch says about the end of its execution. -/
def outcomeOf {ρ : Type} (id : Int) (o : BodyOutcome ρ) : Recording.Outcome :=
  ⟨id, (exitStatus o.fault).toInt, o.running.exitMessage, errorReport o.fault⟩

/-- The deed of giving back the lock, if the launch took it. -/
def releases (p : Prepared) (taskName : String) : List Deed :=
  p.lock.toList.map fun client => .release (lockKey taskName) client.region

/-- A session that another one leads to by writing to its ledger and its log. -/
structure Wrote (s : Session) (l : Ledger) (u : Session) : Prop where
  framed : Framed s u
  ledger : u.ledger = l
  notebook : u.notebook = s.notebook

theorem Wrote.doing (d : Deed) (e : LogEvent) (s : Session) :
    Wrote s (d.apply s.ledger) (s.doing d e) :=
  ⟨framed_doing d e s, ledger_doing d e s, notebook_doing d e s⟩

theorem perform_giveBack (hat : s.isAt p.epoch = true) (hm : s.ledger.IsMade) (taskName : String) :
    ∃ u, s.perform (giveBack p taskName) = (.ok (), u) ∧
      Wrote s (applyAll (releases p taskName) s.ledger) u := by
  rw [releases]
  cases hp : p.lock with
  | none => exact ⟨s, perform_giveBack_of_noLock hp taskName s, Framed.refl s, rfl, rfl⟩
  | some client =>
    obtain ⟨event, hgive⟩ := perform_giveBack_of_lock hat hm hp taskName
    exact ⟨_, hgive, Wrote.doing (.release (lockKey taskName) client.region) event s⟩

theorem perform_completeTask {ρ : Type} {o : BodyOutcome ρ} {row : ExecutionRow}
    (hat : s.isAt p.epoch = true) (hm : s.ledger.IsMade) (hnow : s.clock.toInstant = .ok now)
    (hid : Signed64.holds p.id = true) (hrow : Deed.rowOf p.id s.ledger = some row)
    (hend : ∀ start ∈ row.startTime, start ≤ now)
    (hcode : Signed64.holds (exitStatus o.fault).toInt = true) :
    ∃ u, s.perform (completeTask p o.running.exitMessage o.fault) = (.ok (), u) ∧
      Wrote s ((Deed.complete now now (outcomeOf p.id o)).apply s.ledger) u := by
  obtain ⟨e, event, hcomplete⟩ := perform_complete (exitStatus o.fault)
    o.running.exitMessage (errorReport o.fault) hat hm hnow hid hrow hend hcode
  refine ⟨_, ?_, .doing _ event s⟩
  rw [completeTask, perform_get_bind]
  exact perform_bind_of_ok hcomplete

/-- What comes of a launch that reached its body and can be completed: the body's report and fault,
with its execution completed and its lock given back. -/
theorem launch_of_begun {ρ : Type} {body : Running → Session → BodyOutcome ρ × Session}
    {t₀ : Session} (hp : s.perform (prepare r) = (.ok p, t₀))
    (hstart : t₀.perform (startTask p r) = (.ok running, t))
    (hat : (body running t).2.isAt p.epoch = true) (hm : (body running t).2.ledger.IsMade)
    (hnow : (body running t).2.clock.toInstant = .ok now) (hid : Signed64.holds p.id = true)
    {row : ExecutionRow} (hrow : Deed.rowOf p.id (body running t).2.ledger = some row)
    (hend : ∀ start ∈ row.startTime, start ≤ now)
    (hcode : Signed64.holds (exitStatus (body running t).1.fault).toInt = true) :
    ∃ w, launch r body s = (⟨some (p.id, (body running t).1.report), (body running t).1.fault⟩, w) ∧
      Wrote (body running t).2 (applyAll (releases p r.taskName)
        ((Deed.complete now now (outcomeOf p.id (body running t).1)).apply
          (body running t).2.ledger)) w := by
  obtain ⟨v, hcomplete, hv⟩ := perform_completeTask hat hm hnow hid hrow hend hcode
  obtain ⟨w, hgive, hw⟩ := perform_giveBack (hv.framed.isAt p.epoch ▸ hat)
    (hv.ledger ▸ hm.apply _) r.taskName
  rw [hv.ledger] at hw
  refine ⟨w, ?_, hv.framed.trans hw.framed, hw.ledger, hw.notebook.trans hv.notebook⟩
  have henter : enter p r body t₀ =
      (⟨some (p.id, (body running t).1.report), (body running t).1.fault⟩, v) := by
    unfold enter
    rw [hstart]
    dsimp only
    rw [hcomplete]
  rw [launch, hp]
  dsimp only
  rw [henter]
  dsimp only
  rw [hgive]

/-! ## Around a body -/

/-- The row of a launch's execution at the end of its body. -/
theorem Begun.goesOn (h : Begun r s running now t) {body : Body}
    (hbody : body.callsAll Call.isRegular = true) :
    (body.run running t).2.ledger.IsKept ∧
      ∃ row, (body.run running t).2.ledger.rowsOf running.id = [row] ∧
        (begunAs r running.id now).GoesOn row ∧
        (body.run running t).2.ledger.parameterRowsOf running.id =
          t.ledger.parameterRowsOf running.id := by
  have hallow := Body.moves_allow hbody running t
  have hkept := Move.runAll_isKept h.isKept hallow
  obtain ⟨hfit, hledger⟩ := Move.runAll_history h.isKept hallow
  rw [Body.runAll_moves] at hledger hkept
  refine ⟨hkept, ?_⟩
  rw [hledger]
  exact hfit.goesOn h.isKept h.row rfl

/-- The parameters that a launch was asked for are those of its execution. -/
theorem Begun.parameterRowsOf (h : Begun r s running now t) (ho : s.ledger.IsOrderly)
    (hnext : running.id = s.ledger.lastId + 1) :
    t.ledger.parameterRowsOf running.id = Transaction.parameterRows running.id 0 r.parameters := by
  have hold : s.ledger.parameterRows.filter (fun q => q.executionId = running.id) = [] := by
    rw [List.filter_eq_nil_iff]
    intro q hq hid
    have hle := ho.owner_le q hq
    have hsame : q.executionId = running.id := by simpa using hid
    omega
  have hnew : (Transaction.parameterRows running.id 0 r.parameters).filter
      (fun q => q.executionId = running.id) =
        Transaction.parameterRows running.id 0 r.parameters := by
    rw [List.filter_eq_self]
    intro q hq
    simpa using mem_parameterRows hq
  rw [Ledger.parameterRowsOf, h.parameterRows, List.filter_append, hold, hnew, List.nil_append]

/-! ## The record -/

/-- The lock rows without those that a launch gives back. -/
def withoutOwn (l : Lifecycle) (r : LaunchRequest) (rows : List LockRow) : List LockRow :=
  match lockClient? l r with
  | .ok (some client) => othersOf (lockKey r.taskName) client.region rows
  | _ => rows

/-- What is recorded of a launch that is over. -/
structure Recorded (r : LaunchRequest) (id : Int) (start endTime : Instant)
    (exitMessage : Option String) (fault : Option Fault) (e : Execution) : Prop where
  id : e.id = some id
  taskName : e.taskName = some r.taskName
  parameters : e.parameters = r.parameters
  startTime : e.startTime = some start.toUtc
  endTime : e.endTime = some endTime.toUtc
  exitCode : e.exitCode = some (fault.elim 0 fun f => f.exitStatus.toInt)
  exitMessage : e.exitMessage = exitMessage
  errorMessage : e.errorMessage = errorReport fault
  silent : e.errorMessage = none ↔ e.exitCode = some 0

/-- The end of a launch leaves everything but the row of its own execution and its own lock as it
was at the end of its body. -/
structure Spares (l : Lifecycle) (r : LaunchRequest) (id : Int) (v w : Session) : Prop where
  framed : Framed v w
  ids : w.ledger.executionRows.map (·.id) = v.ledger.executionRows.map (·.id)
  rowsOf : ∀ i, i ≠ id → w.ledger.rowsOf i = v.ledger.rowsOf i
  parameterRows : w.ledger.parameterRows = v.ledger.parameterRows
  linkRows : w.ledger.linkRows = v.ledger.linkRows
  lockRows : w.ledger.lockRows = withoutOwn l r v.ledger.lockRows
  lastId : w.ledger.lastId = v.ledger.lastId
  notebook : w.notebook = v.notebook

theorem exitStatus_toInt (fault : Option Fault) :
    (exitStatus fault).toInt = fault.elim 0 fun f => f.exitStatus.toInt := by
  cases fault <;> rfl

theorem errorReport_eq_none_iff (fault : Option Fault) :
    errorReport fault = none ↔ (exitStatus fault).toInt = 0 := by
  rw [errorReport]
  split
  · next hzero => simp [hzero]
  · next hne =>
    cases fault with
    | none => exact absurd rfl hne
    | some f => simp [hne]

/-- Giving back a lock changes lock rows alone. -/
theorem applyAll_releases (p : Prepared) (taskName : String) (l : Ledger) :
    (applyAll (releases p taskName) l).executionRows = l.executionRows ∧
      (applyAll (releases p taskName) l).parameterRows = l.parameterRows ∧
      (applyAll (releases p taskName) l).linkRows = l.linkRows ∧
      (applyAll (releases p taskName) l).lastId = l.lastId := by
  rw [releases]
  cases p.lock <;> exact ⟨rfl, rfl, rfl, rfl⟩

theorem lockRows_releases {l : Ledger} (hm : l.IsMade) {s : Lifecycle}
    (hlock : lockClient? s r = .ok p.lock) :
    (applyAll (releases p r.taskName) l).lockRows = withoutOwn s r l.lockRows := by
  rw [releases, withoutOwn, hlock]
  cases p.lock with
  | none => rfl
  | some client => exact hm.lockRows_mapLocks _

section
variable {v w : Session} {o : Recording.Outcome}

theorem rowsOf_of_wrote
    (h : Wrote v (applyAll (releases p r.taskName) ((Deed.complete now now o).apply v.ledger)) w)
    (id : Int) :
    w.ledger.rowsOf id =
      (v.ledger.mapExecutions (changeAt o.id (Recording.completedRow now now o))).rowsOf id := by
  rw [h.ledger, Ledger.rowsOf, (applyAll_releases _ _ _).1]
  rfl

theorem spares_of_wrote {l : Lifecycle} (hm : v.ledger.IsMade)
    (hlock : lockClient? l r = .ok p.lock)
    (h : Wrote v (applyAll (releases p r.taskName) ((Deed.complete now now o).apply v.ledger)) w) :
    Spares l r o.id v w := by
  obtain ⟨hrows, hparameters, hlinks, hlast⟩ :=
    applyAll_releases p r.taskName ((Deed.complete now now o).apply v.ledger)
  exact {
    framed := h.framed
    ids := by
      rw [h.ledger, hrows, Deed.apply, hm.executionRows_mapExecutions]
      exact map_id_changeAt (completedRow_keepsId now now o) _
    rowsOf := fun i hi => by
      rw [rowsOf_of_wrote h]
      exact hm.rowsOf_changeAt_of_ne (completedRow_keepsId now now o) (Ne.symm hi)
    parameterRows := by rw [h.ledger, hparameters]; rfl
    linkRows := by rw [h.ledger, hlinks]; rfl
    lockRows := by rw [h.ledger, lockRows_releases (hm.apply _) hlock, Deed.lockRows_apply _ rfl]
    lastId := by rw [h.ledger, hlast]; rfl
    notebook := h.notebook }

end

/-- A launch that is over: what its body left, with its execution completed. -/
structure Closed {ρ : Type} (r : LaunchRequest) (s : Session) (running : Running)
    (start endTime : Instant) (o : BodyOutcome ρ) (v w : Session) : Prop where
  spares : Spares s.lifecycle r running.id v w
  isMade : w.ledger.IsMade
  isAt : w.isAt w.epoch = true
  row : ∃ row, row.id = some running.id ∧ (begunAs r running.id start).GoesOn row ∧
    w.ledger.rowsOf running.id =
      [Recording.completedRow endTime endTime (outcomeOf running.id o) row]

/-- The end of a launch that reached its body, if the body leaves the handle open, the clock has not
gone back behind the start and the exit status fits a column. -/
theorem closed_of_bodyStart (hk : s.ledger.IsKept) (hbegin : bodyStart? r s = some (running, t))
    {body : Body} (hbody : body.callsAll Call.isRegular = true)
    (hopen : (body.run running t).2.isAt s.epoch = true) {start endTime : Instant}
    (hstart : s.clock.toInstant = .ok start)
    (hend : (body.run running t).2.clock.toInstant = .ok endTime) (hle : start ≤ endTime)
    (hcode : Signed64.holds (exitStatus (body.run running t).1.fault).toInt = true) :
    (launch r body.run s).1 =
      ⟨some (running.id, (body.run running t).1.report), (body.run running t).1.fault⟩ ∧
    Closed r s running start endTime (body.run running t).1 (body.run running t).2
      (launch r body.run s).2 := by
  obtain ⟨p, t₀, hp, hs⟩ := bodyStart?_eq_some hbegin
  obtain ⟨now, hreg⟩ := registered_of_ok hk hp
  -- the instant that the clock showed at first is the one that the launch recorded
  cases hreg.clock.symm.trans hstart
  obtain ⟨-, hid, -⟩ := startTask_ok hs
  obtain ⟨hkept, row, hrow, hgoes, -⟩ := (begun_of_startTask hk hreg hs).goesOn hbody
  have hafter : ∀ i ∈ row.startTime, i ≤ endTime := by
    intro i hi
    rw [hgoes.startTime] at hi
    cases hi
    exact hle
  have hrowId : row.id = some running.id := Recording.rowOf_id (Deed.rowOf_of_rowsOf hrow)
  obtain ⟨w, hlaunch, hw⟩ := launch_of_begun hp hs (hreg.epoch ▸ hopen) hkept.isMade hend
    hreg.holds (hid ▸ Deed.rowOf_of_rowsOf hrow) hafter hcode
  rw [hlaunch, ← hid]
  rw [← hid] at hw
  refine ⟨rfl, spares_of_wrote hkept.isMade hreg.lock hw, ?_, ?_, row, hrowId, hgoes, ?_⟩
  · rw [hw.ledger]
    exact (hkept.isMade.apply _).applyAll _
  · have hboth := hopen
    rw [isAt, Bool.and_eq_true, decide_eq_true_eq] at hboth
    rw [hw.framed.epoch, hboth.1, hw.framed.isAt, hopen]
  · have hsame : (outcomeOf running.id (body.run running t).1).id = running.id := rfl
    rw [rowsOf_of_wrote hw, hsame, hkept.isMade.rowsOf_changeAt (completedRow_keepsId _ _ _), hrow]
    rfl

theorem recorded {ρ : Type} {l : Ledger} {id : Int} {start endTime : Instant} {row : ExecutionRow}
    (hid : row.id = some id) (hrow : (begunAs r id start).GoesOn row)
    (hparameters : l.parameterRowsOf id = Transaction.parameterRows id 0 r.parameters)
    (o : BodyOutcome ρ) :
    ∃ e, l.load (Recording.completedRow endTime endTime (outcomeOf id o) row) = .ok e ∧
      Recorded r id start endTime o.running.exitMessage o.fault e := by
  obtain ⟨e, he⟩ := l.load_ok
    (r := Recording.completedRow endTime endTime (outcomeOf id o) row) fun _ => rfl
  have hread : Transaction.rowParameters l.parameterRows
      (Recording.completedRow endTime endTime (outcomeOf id o) row) = r.parameters := by
    have hsame : (Recording.completedRow endTime endTime (outcomeOf id o) row).id = some id := hid
    rw [Transaction.rowParameters, hsame]
    exact Transaction.parametersOf_eq hparameters
  have hcode := exitStatus_toInt o.fault
  refine ⟨e, he, ?_⟩
  rw [Ledger.load, hread] at he
  unfold ExecutionRow.toExecution ExecutionFields.toExecution at he
  split at he
  · cases he
    exact {
      id := hid
      taskName := hrow.taskName
      parameters := rfl
      startTime := congrArg (Option.map Instant.toUtc) hrow.startTime
      endTime := rfl
      exitCode := congrArg some hcode
      exitMessage := rfl
      errorMessage := rfl
      silent := (errorReport_eq_none_iff o.fault).trans Option.some_inj.symm }
  · cases he

/-- A launch of which the body is reached, whatever the body does, if it leaves the handle open, the
clock has not gone back behind the start and the exit status fits a column.  Before its body the
launch has put in one row; what comes of it is the body's report and fault; its execution is then
found with the start, the name and the parameters that it was launched with, and with the end, the
status, the report and the last message that the body left; and nothing else that the body has
written is changed. -/
theorem launch_records (ho : s.ledger.IsOrderly) (hbegin : bodyStart? r s = some (running, t))
    {body : Body} (hbody : body.callsAll Call.isRegular = true)
    (hopen : (body.run running t).2.isAt s.epoch = true) {start endTime : Instant}
    (hstart : s.clock.toInstant = .ok start)
    (hend : (body.run running t).2.clock.toInstant = .ok endTime) (hle : start ≤ endTime)
    (hcode : Signed64.holds (exitStatus (body.run running t).1.fault).toInt = true) :
    (∃ row, row.id = some running.id ∧
      t.ledger.executionRows = s.ledger.executionRows ++ [row]) ∧
    (launch r body.run s).1 =
      ⟨some (running.id, (body.run running t).1.report), (body.run running t).1.fault⟩ ∧
    (∃ e, ((launch r body.run s).2.perform (Call.find running.id).run).1 =
        .ok (.execution (some e)) ∧
      Recorded r running.id start endTime
        ((body.messages (body.run running t).1.report.length).getLast?.getD none)
        (body.run running t).1.fault e) ∧
    Spares s.lifecycle r running.id (body.run running t).2 (launch r body.run s).2 := by
  obtain ⟨houtcome, hclosed⟩ :=
    closed_of_bodyStart ho.isKept hbegin hbody hopen hstart hend hle hcode
  obtain ⟨p, t₀, hp, hs⟩ := bodyStart?_eq_some hbegin
  obtain ⟨now, hreg⟩ := registered_of_ok ho.isKept hp
  obtain ⟨-, hid, hmessage, -⟩ := startTask_ok hs
  have hbegun := begun_of_startTask ho.isKept hreg hs
  obtain ⟨-, -, -, -, hparameters⟩ := hbegun.goesOn hbody
  obtain ⟨row, hrowId, hgoes, hrow⟩ := hclosed.row
  have hkept : (launch r body.run s).2.ledger.parameterRowsOf running.id =
      Transaction.parameterRows running.id 0 r.parameters := by
    rw [Ledger.parameterRowsOf, hclosed.spares.parameterRows]
    exact hparameters.trans (hbegun.parameterRowsOf ho (hid ▸ hreg.next))
  obtain ⟨e, hload, he⟩ := recorded hrowId hgoes hkept (body.run running t).1
  rw [Body.exitMessage_run, hmessage] at he
  exact ⟨⟨_, rfl, hbegun.rows⟩, houtcome,
    ⟨e, Call.perform_find_of_row hclosed.isAt hclosed.isMade hbegun.holds hrow hload, he⟩,
    hclosed.spares⟩

/-- A body that completes its own execution, leaves a message, links a job and exits with 3. -/
theorem launch_records_overruled :
    let s := Session.inMemory [] (.parts false true false)
    let r : LaunchRequest := ⟨"t", ["a"], none, none, none⟩
    let body : Body :=
      .act (.call (.complete 1 (some (.code 7)) Instant.first.toUtc none none)) false
        (.act (.exitMessage (some "m")) false
          (.act (.linkJob 5) false (.act (.raise ⟨.exit, [.int 3]⟩) false .done)))
    let w := (launch r body.run s).2
    w.ledger.linkRows = [⟨1, 5⟩] ∧
      ∃ e, (w.perform (Call.find 1).run).1 = .ok (.execution (some e)) ∧ e.parameters = ["a"] ∧
        e.exitCode = some 3 ∧ e.exitMessage = some "m" := by
  intro s r body w
  have hbegins : (bodyStart? r s).isSome = true := by decide +kernel
  obtain ⟨⟨running, t⟩, hbegin⟩ := Option.isSome_iff_exists.1 hbegins
  have hbody : ∀ b ∈ bodyStart? r s, b.1.id = 1 ∧ (body.run b.1 b.2).2.isAt s.epoch = true ∧
      (body.run b.1 b.2).2.clock = (⟨4000000, by decide⟩ : Instant).toUtc ∧
      (body.run b.1 b.2).1.report.length = 4 ∧
      (body.run b.1 b.2).1.fault.elim 0 (fun f => f.exitStatus.toInt) = 3 := by decide +kernel
  obtain ⟨hid, hopen, hend, hlength, hcode⟩ := hbody (running, t) hbegin
  obtain ⟨-, -, ⟨e, hfind, he⟩, -⟩ := launch_records (startsEmpty_inMemory [] _).isOrderly hbegin
    (show body.callsAll Call.isRegular = true from rfl) hopen
    (Timestamp.toInstant_toUtc Instant.first) (hend ▸ Timestamp.toInstant_toUtc _) (by decide)
    (by rw [exitStatus_toInt, hcode]; rfl)
  rw [hid] at hfind
  refine ⟨by decide +kernel, e, hfind, he.parameters, he.exitCode.trans (congrArg some hcode), ?_⟩
  rw [he.exitMessage, hlength]
  rfl

end Launch

end RunLedger
