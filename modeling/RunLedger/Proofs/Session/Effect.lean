import RunLedger.Proofs.Session.Write

/-!
# What calls of a session do to the ledger

A call writes as one of the writing calls, or leaves the ledger as it is.  Commands and calls that
change the session itself stand apart.

    c.write? s = some w → s.perform c.run = s.perform (w.run s.epoch)        (perform_run_of_write)
    c.isReading = true → c.run.IsReading                                     (run_isReading)
-/

namespace RunLedger

/-! ## Transactions that only read -/

namespace Reading

open Transaction

theorem find?_isReading (id : Int) : (find? id).IsReading :=
  .bind .get fun _ => .bind (.require _ _) fun _ => .bind (.checkNumber _) fun _ =>
    .bind (.loadExecutions _) fun _ => .pure _

theorem running_isReading (taskName : String) : (running taskName).IsReading :=
  .bind (.selectExecutions _ _) fun _ => .bind (.loadExecutions _) fun _ => .liftM _

theorem latest_isReading (names : List String) : (latest names).IsReading := by
  refine .ite (.pure _) (.bind (.selectExecutions _ _) fun rows => ?_)
  dsimp only
  split
  · exact .throw _
  · exact .loadExecutions _

theorem count_isReading (f : Filter) : (count f).IsReading :=
  .bind (.selectExecutions _ _) fun _ => .pure _

theorem countRunning_isReading : countRunning.IsReading :=
  .bind (.selectExecutions _ _) fun _ => .pure _

theorem taskNames_isReading : taskNames.IsReading :=
  .bind (.selectExecutions _ _) fun _ => .pure _

theorem window_isReading (form : PageForm) (tablePrefix : String) (f : Filter) (w : Window) :
    (window form tablePrefix f w).IsReading := by
  have rest : IsReading (do
      let rows ← selectExecutions executionColumns f.keeps
      loadExecutions (← selectWindow form w (newestFirst rows))) :=
    .bind (.selectExecutions _ _) fun _ => .bind (.liftM _) fun _ => .loadExecutions _
  unfold window
  refine .ite (.bind (.throw _) fun _ => ?_) ?_
  all_goals exact .ite (.bind (.throw _) fun _ => rest) rest

end Reading

namespace Link

open Transaction

theorem jobsOf_isReading (executionId : Int) : (jobsOf executionId).IsReading :=
  .bind .get fun _ => .bind (.require _ _) fun _ => .bind (.checkNumber _) fun _ => .pure _

theorem executionOf_isReading (jobId : Int) : (executionOf jobId).IsReading :=
  .bind .get fun _ => .bind (.require _ _) fun _ => .bind (.checkNumber _) fun _ => .pure _

end Link

namespace Session

open SessionM

theorem rowCounts_isReading : rowCounts.IsReading :=
  .bind .get fun _ => .bind (.require _ _) fun _ => .bind (.require _ _) fun _ =>
    .bind (.require _ _) fun _ => .bind (.require _ _) fun _ => .pure _

/-! ## Calls that only read -/

theorem announcePager_isReading (f : Reading.Filter) : SessionM.IsReading (announcePager f) := by
  intro s
  rw [announcePager, perform_get_bind]
  by_cases h : (!s.pagers.contains f.clause) = true
  · rw [if_pos h]
    cases hp : (Reading.pager s.handle.dialect f).mapError Failure.configuration with
    | error g => exact ⟨Framed.refl s, rfl⟩
    | ok p => exact ⟨⟨⟨rfl, rfl, rfl, rfl, rfl⟩, rfl, fun _ _ _ => rfl⟩, rfl⟩
  · rw [if_neg h]
    exact ⟨Framed.refl s, rfl⟩

theorem page_isReading (epoch : Nat) (f : Reading.Filter) (index size : Int) :
    SessionM.IsReading (page epoch f index size) :=
  .bind (.transact (Reading.count_isReading f) _) fun _ => .bind (.liftM _) fun _ =>
    .bind (announcePager_isReading f) fun _ => .bind (.liftM _) fun _ => .bind .get fun _ =>
      .bind (.transact (Reading.window_isReading _ _ _ _) _) fun _ => .bind (.emit _) fun _ =>
        .pure _

theorem jobsOf_isReading (executionId : Int) : SessionM.IsReading (jobsOf executionId) := by
  refine .bind .get fun s => ?_
  split
  · exact .transact (Link.jobsOf_isReading _) _
  · exact .pure _

theorem executionOf_isReading (jobId : Int) : SessionM.IsReading (executionOf jobId) := by
  refine .bind .get fun s => ?_
  split
  · exact .transact (Link.executionOf_isReading _) _
  · exact .pure _

theorem ensureOpen_isReading (epoch : Nat) : SessionM.IsReading (ensureOpen epoch) :=
  .bind .get fun _ => .ite (.pure _) (.throw _)

theorem lockClient_isReading (lock : Nat) : SessionM.IsReading (lockClient lock) := by
  refine .bind .get fun s => ?_
  split
  · exact .pure _
  · exact .throw _

end Session

namespace Call

open Session SessionM

/-- Whether a call only looks things up, or gives up what it writes. -/
def isReading : Call → Bool
  | find _ | running _ | latest _ | count _ | countRunning | taskNames | page _ _ _ | jobsOf _
  | executionOf _ | holder _ _ | client _ | describeHandle | resolvePrefix _ | tables
  | connectionSetup | rowCounts | createAndGiveUp _ => true
  | _ => false

theorem run_isReading {c : Call} (h : c.isReading = true) : SessionM.IsReading c.run := by
  unfold run
  refine .bind .get fun s => ?_
  cases c with
  | find id => exact .map (.transact (Reading.find?_isReading id) _) _
  | running taskName => exact .map (.transact (Reading.running_isReading taskName) _) _
  | latest names => exact .map (.transact (Reading.latest_isReading names) _) _
  | count f => exact .map (.transact (Reading.count_isReading f) _) _
  | countRunning => exact .map (.transact Reading.countRunning_isReading _) _
  | taskNames => exact .map (.transact Reading.taskNames_isReading _) _
  | page f index size => exact .map (page_isReading _ f index size) _
  | jobsOf executionId => exact .map (jobsOf_isReading executionId) _
  | executionOf jobId => exact .map (executionOf_isReading jobId) _
  | holder lock taskName =>
    exact .bind (lockClient_isReading lock) fun _ =>
      .map (.transact (Lock.holder_isReading _ _) _) _
  | client lock => exact .map (lockClient_isReading lock) _
  | describeHandle => exact .map .get _
  | resolvePrefix sql => exact .map .get _
  | tables => exact .map (.bind .get fun _ => .bind (ensureOpen_isReading _) fun _ => .pure _) _
  | connectionSetup =>
    exact .map (.bind .get fun _ => .bind (ensureOpen_isReading _) fun _ => .pure _) _
  | rowCounts => exact .map (.transact rowCounts_isReading _) _
  | createAndGiveUp taskName =>
    exact .bind (.transact_of_commit (Recording.createAndGiveUp_commit taskName) _) fun _ =>
      .pure _
  | _ => cases h

theorem perform_find {u : Session} (hat : u.isAt u.epoch = true) {id : Int}
    {found : Option Execution} :
    (u.perform (Call.find id).run).1 = .ok (.execution found) ↔
      (Reading.find? id).commit u.ledger = (.ok found, u.ledger) := by
  have hread := (Reading.find?_isReading id).commit u.ledger
  rw [Call.run, perform_get_bind, perform_bind, perform_transact hat]
  rcases hc : (Reading.find? id).commit u.ledger with ⟨f | d, l⟩
  · constructor
    · intro h
      cases h
    · intro h
      cases h
  · rw [hc] at hread
    obtain rfl : l = u.ledger := hread
    constructor
    · intro h
      cases h
      rfl
    · intro h
      cases h
      rfl

theorem perform_find_of_row {u : Session} (hat : u.isAt u.epoch = true) (hm : u.ledger.IsMade)
    {id : Int} (hid : Signed64.holds id = true) {row : ExecutionRow}
    (hrow : u.ledger.rowsOf id = [row]) {e : Execution} (he : u.ledger.load row = .ok e) :
    (u.perform (Call.find id).run).1 = .ok (.execution (some e)) := by
  rw [perform_find hat, Reading.commit_find? hm hid (hrow ▸ Nat.le_refl 1), hrow, List.mapM_cons, he]
  rfl

/-! ## Calls that write -/

/-- The writing call that a call comes to in a session; a lock that the session has no client for
is neither taken nor given back. -/
def write? (s : Session) : Call → Option Write
  | create taskName parentId externalId => some (.create taskName parentId externalId)
  | start time r => some (.start time r)
  | complete id status time exitMessage errorMessage =>
    some (.complete id status time exitMessage errorMessage)
  | setExternalId id externalId => some (.setExternalId id externalId)
  | recordLink executionId jobId => some (.link s.plan.links executionId jobId)
  | acquire lock taskName other => s.locks[lock]?.map fun client => .acquire client taskName other
  | release lock taskName => s.locks[lock]?.map fun client => .release client taskName
  | _ => none

theorem perform_lockClient {lock : Nat} {client : LockClient} {s : Session}
    (h : s.locks[lock]? = some client) : s.perform (lockClient lock) = (.ok client, s) := by
  rw [lockClient, perform_get_bind, h]
  rfl

theorem perform_run_of_write {c : Call} {w : Write} {s : Session} (h : c.write? s = some w) :
    s.perform c.run = s.perform (w.run s.epoch) := by
  cases c with
  | create | start | complete | setExternalId | recordLink =>
    cases h
    rfl
  | acquire lock taskName other =>
    obtain ⟨client, hc, rfl⟩ := Option.map_eq_some_iff.1 h
    rw [run, perform_get_bind]
    exact perform_bind_of_ok (perform_lockClient hc)
  | release lock taskName =>
    obtain ⟨client, hc, rfl⟩ := Option.map_eq_some_iff.1 h
    rw [run, perform_get_bind]
    exact perform_bind_of_ok (perform_lockClient hc)
  | _ => cases h

end Call

end RunLedger
