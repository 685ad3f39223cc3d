import RunLedger.Proofs.History.Numbering
import RunLedger.Proofs.Session.Effect

/-!
# Records that can be read

On a ledger that is numbered in turn what has ended has an exit code, so that every row makes an
execution: no look-up, count or page fails for a record that does not fit together.

    l.IsNumbered → rows ⊆ l.executionRows →
      ReadsWell (loadExecutions rows) l                               (readsWell_loadExecutions)
    s.ledger.IsNumbered → c.isLookUp = true → (s.perform c.run).1 = .error f →
      f.isOfRecord = false                                                  (perform_lookUp)
-/

namespace RunLedger

/-- Whether a failure is that of a record that makes no execution. -/
def Failure.isOfRecord : Failure → Bool
  | .badArgument (.endWithoutExitCode _) | .parametersNotTuple _ => true
  | _ => false

/-- Whether a call looks something up. -/
def Call.isLookUp : Call → Bool
  | .createAndGiveUp _ => false
  | c => c.isReading

/-! ## Transactions -/

namespace Transaction

variable {α β : Type} {l : Ledger}

/-- A transaction that leaves a ledger as it is and does not fail for a record of it. -/
structure ReadsWell (t : Transaction α) (l : Ledger) : Prop where
  ledger : (exec t l).2 = l
  failure : ∀ f, (exec t l).1 = .error f → f.isOfRecord = false

namespace ReadsWell

theorem pure (a : α) : ReadsWell (Pure.pure a) l := ⟨rfl, fun f h => by cases h⟩

theorem throw {f : Failure} (hf : f.isOfRecord = false) :
    ReadsWell (MonadExcept.throw f : Transaction α) l :=
  ⟨rfl, fun g h => by cases h; exact hf⟩

theorem get : ReadsWell MonadState.get l := ⟨rfl, fun f h => by cases h⟩

theorem liftM {r : Except Failure α} (hr : ∀ f, r = .error f → f.isOfRecord = false) :
    ReadsWell (MonadLiftT.monadLift r : Transaction α) l := by
  cases r with
  | error f => exact throw (hr f rfl)
  | ok a => exact pure a

theorem bind {t : Transaction α} {k : α → Transaction β} (ht : ReadsWell t l)
    (hk : ∀ a, exec t l = (.ok a, l) → ReadsWell (k a) l) : ReadsWell (t >>= k) l := by
  have hsame := ht.ledger
  have hfail := ht.failure
  rcases he : exec t l with ⟨f | a, m⟩
  · rw [he] at hsame hfail
    obtain rfl : m = l := hsame
    have hexec : exec (t >>= k) m = (.error f, m) := by rw [exec_bind, he]
    refine ⟨by rw [hexec], fun g h => ?_⟩
    rw [hexec] at h
    cases h
    exact hfail f rfl
  · rw [he] at hsame
    obtain rfl : m = l := hsame
    have hrest := hk a he
    have hexec := exec_bind_of_ok (k := k) he
    exact ⟨hexec ▸ hrest.ledger, fun g h => hrest.failure g (hexec ▸ h)⟩

theorem ite {p : Prop} [Decidable p] {t u : Transaction α} (ht : ReadsWell t l)
    (hu : ReadsWell u l) : ReadsWell (if p then t else u) l := by
  split
  · exact ht
  · exact hu

theorem require {ρ : Type} (table : Option (Table ρ)) (columns : List String) :
    ReadsWell (Transaction.require table columns) l := by
  unfold Transaction.require
  split
  · exact ite (pure _) (throw rfl)
  · exact throw rfl

theorem checkNumber (n : Int) : ReadsWell (Transaction.checkNumber n) l := ite (pure _) (throw rfl)

theorem selectExecutions (columns : List String) (keep : ExecutionRow → Bool) :
    ReadsWell (Transaction.selectExecutions columns keep) l :=
  get.bind fun _ _ => (require _ _).bind fun _ _ => pure _

end ReadsWell

theorem mapM_load_ok (h : l.IsNumbered) {rows : List ExecutionRow}
    (hrows : rows ⊆ l.executionRows) :
    ∃ es, rows.mapM l.load = .ok es := by
  induction rows with
  | nil => exact ⟨[], rfl⟩
  | cons r rows ih =>
    obtain ⟨hr, hrest⟩ := List.cons_subset.1 hrows
    obtain ⟨e, he⟩ := l.load_ok (h.ended r hr)
    obtain ⟨es, hes⟩ := ih hrest
    exact ⟨e :: es, by rw [List.mapM_cons, he, hes]; rfl⟩

/-- Every row of a ledger that is numbered in turn makes an execution; that the database refuses to
load so many at once says nothing about a row. -/
theorem readsWell_loadExecutions (h : l.IsNumbered) {rows : List ExecutionRow}
    (hrows : rows ⊆ l.executionRows) : ReadsWell (loadExecutions rows) l := by
  rcases Nat.lt_or_ge variableLimit rows.length with hmany | hfit
  · have hexec := exec_loadExecutions_of_lt hmany l
    exact ⟨by rw [hexec], fun f hf => by rw [hexec] at hf; cases hf; rfl⟩
  · obtain ⟨es, hes⟩ := mapM_load_ok h hrows
    have hexec := exec_loadExecutions h.isMade hfit
    rw [hes] at hexec
    exact ⟨by rw [hexec], fun f hf => by rw [hexec] at hf; cases hf⟩

end Transaction

/-! ## Reading -/

namespace Reading

open Transaction

variable {l : Ledger}

theorem readsWell_find? (h : l.IsNumbered) (id : Int) : ReadsWell (find? id) l := by
  refine .bind .get fun m hm => .bind (.require _ _) fun t ht => .bind (.checkNumber _) fun _ _ =>
    .bind (readsWell_loadExecutions h ?_) fun _ _ => .pure _
  cases hm
  have hrows := rows_of_executions (require_ok ht).1
  rw [hrows]
  exact List.filter_subset_self _

theorem readsWell_running (h : l.IsNumbered) (taskName : String) :
    ReadsWell (running taskName) l := by
  refine .bind (.selectExecutions _ _) fun rows hrows => .bind (readsWell_loadExecutions h ?_)
    fun es _ => .liftM fun f hf => ?_
  · rw [selectExecutions_ok hrows]
    exact List.filter_subset_self _
  · unfold orderedById at hf
    split at hf
    · cases hf
      rfl
    · cases hf

theorem readsWell_count (f : Filter) : ReadsWell (count f) l :=
  .bind (.selectExecutions _ _) fun _ _ => .pure _

theorem latestRow?_mem {rows : List ExecutionRow} {taskName : String} {r : ExecutionRow}
    (h : latestRow? rows taskName = some r) : r ∈ rows := by
  have hmem := List.mem_of_mem_head? h
  exact List.mem_of_mem_filter (List.mem_mergeSort.1 hmem)

theorem readsWell_latest (h : l.IsNumbered) (names : List String) : ReadsWell (latest names) l := by
  refine .ite (.pure _) (.bind (.selectExecutions _ _) fun rows hrows => ?_)
  dsimp only
  split
  · exact .throw rfl
  · refine readsWell_loadExecutions h fun r hr => ?_
    obtain ⟨name, -, hlatest⟩ := List.mem_filterMap.1 (List.mem_mergeSort.1 hr)
    have hmem := latestRow?_mem hlatest
    rw [selectExecutions_ok hrows] at hmem
    exact List.mem_of_mem_filter hmem

/-- A page form selects the rows of the window, or the database refuses it. -/
theorem selectWindow_cases {α : Type} (form : PageForm) (w : Window) (rows : List α) :
    selectWindow form w rows = .ok (w.slice rows) ∨
      selectWindow form w rows = .error .constraintViolated ∨
        selectWindow form w rows = .error .statementRefused := by
  have hlimit : (if (Signed64.holds w.offset && Signed64.holds w.limit) = true
      then .ok (w.slice rows) else .error .constraintViolated : Except Failure (List α)) =
        .ok (w.slice rows) ∨
      (if (Signed64.holds w.offset && Signed64.holds w.limit) = true
      then .ok (w.slice rows) else .error .constraintViolated : Except Failure (List α)) =
        .error .constraintViolated := by
    split
    · exact .inl rfl
    · exact .inr rfl
  cases form with
  | postgres | sqlite | mysql => exact hlimit.imp id .inl
  | sqlserver | db2 => exact .inl (congrArg _ (w.numbered_eq_slice rows))
  | hsql | h2 | oracle => exact .inr (.inr rfl)

theorem slice_subset {α : Type} (w : Window) (rows : List α) : w.slice rows ⊆ rows :=
  fun _ hr => List.mem_of_mem_drop (List.mem_of_mem_take hr)

theorem readsWell_window (h : l.IsNumbered) (form : PageForm) (tablePrefix : String) (f : Filter)
    (w : Window) : ReadsWell (window form tablePrefix f w) l := by
  have rest : ReadsWell (do
      let rows ← selectExecutions executionColumns f.keeps
      loadExecutions (← selectWindow form w (newestFirst rows))) l := by
    refine .bind (.selectExecutions _ _) fun rows hrows => .bind (.liftM fun g hg => ?_)
      fun found hfound => readsWell_loadExecutions h fun r hr => ?_
    · rcases selectWindow_cases form w (newestFirst rows) with hw | hw | hw
      all_goals
        rw [hw] at hg
        cases hg
      all_goals rfl
    · have hselect := (liftM_ok hfound).1
      rcases selectWindow_cases form w (newestFirst rows) with hw | hw | hw
      all_goals
        rw [hw] at hselect
        cases hselect
      have hmem := List.mem_mergeSort.1 (slice_subset w _ hr)
      rw [selectExecutions_ok hrows] at hmem
      exact List.mem_of_mem_filter hmem
  unfold window
  refine .ite (.bind (.throw rfl) fun _ _ => ?_) ?_
  all_goals exact .ite (.bind (.throw rfl) fun _ _ => rest) rest

end Reading

/-! ## Calls -/

namespace SessionM

open Session Transaction

variable {α β : Type} {l : Ledger}

/-- A call that, on a ledger, leaves it as it is and does not fail for a record of it. -/
def ReadsWell (call : SessionM α) (l : Ledger) : Prop :=
  ∀ s : Session, s.ledger = l → (s.perform call).2.ledger = l ∧
    ∀ f, (s.perform call).1 = .error f → f.isOfRecord = false

namespace ReadsWell

theorem pure (a : α) : ReadsWell (Pure.pure a) l := fun _ hs => ⟨hs, fun f h => by cases h⟩

theorem throw {f : Failure} (hf : f.isOfRecord = false) :
    ReadsWell (MonadExcept.throw f : SessionM α) l :=
  fun _ hs => ⟨hs, fun g h => by cases h; exact hf⟩

theorem get : ReadsWell MonadState.get l := fun _ hs => ⟨hs, fun f h => by cases h⟩

theorem emit (e : LogEvent) : ReadsWell (SessionM.emit e) l :=
  fun _ hs => ⟨hs, fun f h => by cases h⟩

theorem liftM {r : Except Failure α} (hr : ∀ f, r = .error f → f.isOfRecord = false) :
    ReadsWell (MonadLiftT.monadLift r : SessionM α) l := by
  cases r with
  | error f => exact throw (hr f rfl)
  | ok a => exact pure a

theorem bind {call : SessionM α} {k : α → SessionM β} (hc : ReadsWell call l)
    (hk : ∀ a, ReadsWell (k a) l) : ReadsWell (call >>= k) l := by
  intro s hs
  have hcall := hc s hs
  rw [perform_bind]
  rcases he : s.perform call with ⟨f | a, t⟩
  · rw [he] at hcall
    refine ⟨hcall.1, fun g h => ?_⟩
    cases h
    exact hcall.2 f rfl
  · rw [he] at hcall
    exact hk a t hcall.1

theorem map {call : SessionM α} (hc : ReadsWell call l) (b : α → β) :
    ReadsWell (call >>= fun a => Pure.pure (b a)) l := hc.bind fun _ => pure _

theorem transact {t : Transaction α} (ht : Transaction.ReadsWell t l) (epoch : Nat) :
    ReadsWell (SessionM.transact epoch t) l := by
  intro s hs
  cases hat : s.isAt epoch
  · rw [perform_transact_of_closed hat]
    exact ⟨hs, fun f h => by cases h; rfl⟩
  · rw [perform_transact hat, hs]
    refine ⟨?_, fun f h => ht.failure f (by rw [← commit_fst]; exact h)⟩
    rw [ledger_setLedger]
    rcases commit_cases t l with ⟨a, m, hc, he⟩ | ⟨f, hc, -⟩
    · rw [hc]
      have hsame := ht.ledger
      rw [he] at hsame
      exact hsame
    · rw [hc]

end ReadsWell

end SessionM

namespace Session

open SessionM

variable {l : Ledger}

theorem readsWell_announcePager (f : Reading.Filter) : SessionM.ReadsWell (announcePager f) l := by
  intro s hs
  rw [announcePager, perform_get_bind]
  by_cases h : (!s.pagers.contains f.clause) = true
  · rw [if_pos h]
    rcases Reading.pager s.handle.dialect f with cause | p
    · exact ⟨hs, fun g hg => by cases hg; rfl⟩
    · exact ⟨hs, fun g hg => by cases hg⟩
  · rw [if_neg h]
    exact ⟨hs, fun g hg => by cases hg⟩

theorem checkPage_failure {index size : Int} {f : Failure}
    (h : Reading.checkPage index size = .error f) : f.isOfRecord = false := by
  unfold Reading.checkPage at h
  split at h
  · cases h
    rfl
  · split at h
    · cases h
      rfl
    · cases h

theorem pageWindow_failure {index size : Int} {f : Failure}
    (h : Reading.pageWindow index size = .error f) : f.isOfRecord = false := by
  unfold Reading.pageWindow Window.of? at h
  split at h
  · cases h
    rfl
  · split at h
    · cases h
      rfl
    · cases h

theorem readsWell_page (h : l.IsNumbered) (epoch : Nat) (f : Reading.Filter) (index size : Int) :
    SessionM.ReadsWell (page epoch f index size) l :=
  .bind (.transact (Reading.readsWell_count f) _) fun _ =>
    .bind (.liftM fun _ => checkPage_failure) fun _ => .bind (readsWell_announcePager f) fun _ =>
      .bind (.liftM fun _ => pageWindow_failure) fun _ => .bind .get fun _ =>
        .bind (.transact (Reading.readsWell_window h _ _ _ _) _) fun _ => .bind (.emit _) fun _ =>
          .pure _

theorem readsWell_jobsOf (executionId : Int) : SessionM.ReadsWell (jobsOf executionId) l := by
  refine .bind .get fun s => ?_
  split
  · exact .transact (.bind .get fun _ _ => .bind (.require _ _) fun _ _ =>
      .bind (.checkNumber _) fun _ _ => .pure _) _
  · exact .pure _

theorem readsWell_executionOf (jobId : Int) : SessionM.ReadsWell (executionOf jobId) l := by
  refine .bind .get fun s => ?_
  split
  · exact .transact (.bind .get fun _ _ => .bind (.require _ _) fun _ _ =>
      .bind (.checkNumber _) fun _ _ => .pure _) _
  · exact .pure _

theorem readsWell_ensureOpen (epoch : Nat) : SessionM.ReadsWell (ensureOpen epoch) l := by
  refine .bind .get fun s => ?_
  split
  · exact .pure _
  · exact .throw rfl

theorem readsWell_lockClient (lock : Nat) : SessionM.ReadsWell (lockClient lock) l := by
  refine .bind .get fun s => ?_
  split
  · exact .pure _
  · exact .throw rfl

end Session

namespace Call

open Session SessionM

/-- In a session of such a ledger no look-up, count or page fails for a record. -/
theorem readsWell_run {l : Ledger} (h : l.IsNumbered) {c : Call} (hc : c.isLookUp = true) :
    SessionM.ReadsWell c.run l := by
  unfold run
  refine .bind .get fun s => ?_
  cases c with
  | find id => exact .map (.transact (Reading.readsWell_find? h id) _) _
  | running taskName => exact .map (.transact (Reading.readsWell_running h taskName) _) _
  | latest names => exact .map (.transact (Reading.readsWell_latest h names) _) _
  | count f => exact .map (.transact (Reading.readsWell_count f) _) _
  | countRunning =>
    exact .map (.transact (.bind (.selectExecutions _ _) fun _ _ => .pure _) _) _
  | taskNames => exact .map (.transact (.bind (.selectExecutions _ _) fun _ _ => .pure _) _) _
  | page f index size => exact .map (readsWell_page h _ f index size) _
  | jobsOf executionId => exact .map (readsWell_jobsOf executionId) _
  | executionOf jobId => exact .map (readsWell_executionOf jobId) _
  | holder lock taskName =>
    exact .bind (readsWell_lockClient lock) fun _ =>
      .map (.transact (.bind .get fun _ _ => .bind (.require _ _) fun _ _ => .pure _) _) _
  | client lock => exact .map (readsWell_lockClient lock) _
  | describeHandle => exact .map .get _
  | resolvePrefix sql => exact .map .get _
  | tables => exact .map (.bind .get fun _ => .bind (readsWell_ensureOpen _) fun _ => .pure _) _
  | connectionSetup =>
    exact .map (.bind .get fun _ => .bind (readsWell_ensureOpen _) fun _ => .pure _) _
  | rowCounts =>
    exact .map (.transact (.bind .get fun _ _ => .bind (.require _ _) fun _ _ =>
      .bind (.require _ _) fun _ _ => .bind (.require _ _) fun _ _ =>
        .bind (.require _ _) fun _ _ => .pure _) _) _
  | _ => cases hc

theorem perform_lookUp {s : Session} (h : s.ledger.IsNumbered) {c : Call} (hc : c.isLookUp = true)
    {f : Failure} (hf : (s.perform c.run).1 = .error f) : f.isOfRecord = false :=
  (readsWell_run h hc s rfl).2 f hf

end Call

end RunLedger
