import RunLedger.Proofs.Session.Write

/-!
# Calls that go through

On a ledger with its own tables, through an open handle: an execution that was only created is
started, one that is there is completed at any time from its start on, a lock is given back, and a
link of which columns can hold the numbers is recorded.  What each call does to the session is its
deed and one more event in the log.

    s.perform (complete …) = (.ok e, s.doing (.complete …) event)              (perform_complete)
-/

namespace RunLedger.Session

open SessionM

/-- The session once a deed is done to its ledger and an event is logged. -/
def doing (d : Deed) (e : LogEvent) (s : Session) : Session :=
  (s.setLedger (d.apply s.ledger)).logging e

variable {s : Session} {epoch : Nat}

@[simp] theorem ledger_doing (d : Deed) (e : LogEvent) (s : Session) :
    (s.doing d e).ledger = d.apply s.ledger := ledger_setLedger s _

theorem framed_doing (d : Deed) (e : LogEvent) (s : Session) : Framed s (s.doing d e) :=
  (Framed.setLedger s _).trans (Framed.logging e _)

@[simp] theorem notebook_doing (d : Deed) (e : LogEvent) (s : Session) :
    (s.doing d e).notebook = s.notebook := rfl

theorem perform_start {time : Timestamp} {now startTime : Instant} {r : Recording.Start}
    {row : ExecutionRow} (hat : s.isAt epoch = true) (hm : s.ledger.IsMade)
    (hname : r.taskName ≠ "") (hnow : s.clock.toInstant = .ok now)
    (htime : time.toInstant = .ok startTime) (hid : Signed64.holds r.id = true)
    (hrow : Deed.rowOf r.id s.ledger = some row) (hfresh : row.startTime = none)
    (hopen : row.endTime = none) (hparent : ∀ i ∈ r.parentId, Signed64.holds i = true)
    (hfree : ∀ p ∈ s.ledger.parameterRows, p.executionId ≠ r.id) :
    ∃ e event, s.perform (start epoch time r) =
      (.ok e, s.doing (.start now startTime r) event) := by
  have hcheck : Recording.checkStart r.taskName time = .ok startTime := by
    rw [Recording.checkStart, if_neg hname, htime]
    rfl
  obtain ⟨e, hcommit⟩ : ∃ e, (Recording.start s.clock startTime r).commit s.ledger =
      (.ok e, (Deed.start now startTime r).apply s.ledger) :=
    Recording.commit_start hm hid hrow hfresh hopen hnow hparent hfree
  refine ⟨e, ?_⟩
  rw [start, perform_get_bind, hcheck, perform_bind_of_ok (perform_liftM _ s), perform_bind,
    perform_transact hat, hcommit]
  exact ⟨_, rfl⟩

theorem perform_complete {id : Int} {row : ExecutionRow} {now : Instant} (status : ExitStatus)
    (exitMessage errorMessage : Option String) (hat : s.isAt epoch = true) (hm : s.ledger.IsMade)
    (hnow : s.clock.toInstant = .ok now) (hid : Signed64.holds id = true)
    (hrow : Deed.rowOf id s.ledger = some row) (hend : ∀ start ∈ row.startTime, start ≤ now)
    (hcode : Signed64.holds status.toInt = true) :
    ∃ e event, s.perform (complete epoch id (some status) s.clock exitMessage errorMessage) =
      (.ok e, s.doing (.complete now now ⟨id, status.toInt, exitMessage, errorMessage⟩) event) := by
  have hcheck : Recording.checkCompletion ((some status).map ExitStatus.toInt) s.clock =
      .ok (status.toInt, now) := by
    rw [Option.map_some, Recording.checkCompletion, hnow]
    rfl
  obtain ⟨e, hcommit⟩ := Recording.commit_complete
    (o := ⟨id, status.toInt, exitMessage, errorMessage⟩) hm hid hrow hend hnow hcode
  refine ⟨e, ?_⟩
  rw [complete, perform_get_bind, hcheck, perform_bind_of_ok (perform_liftM _ s), perform_bind,
    perform_transact hat, hcommit]
  exact ⟨_, rfl⟩

theorem perform_release (client : LockClient) (hat : s.isAt epoch = true) (hm : s.ledger.IsMade)
    (taskName : String) :
    ∃ event, s.perform (release epoch client taskName) =
      (.ok (s.ledger.isHeld (lockKey taskName) client.region),
        s.doing (.release (lockKey taskName) client.region) event) := by
  rw [release, perform_bind, perform_transact hat, Lock.commit_release hm]
  exact ⟨_, rfl⟩

theorem perform_recordLink {executionId jobId : Int} (hat : s.isAt epoch = true)
    (hm : s.ledger.IsMade) (hid : Signed64.holds executionId = true)
    (hjob : Signed64.holds jobId = true) :
    ∃ event, s.perform (recordLink epoch .ledger executionId jobId) =
      (.ok ⟨executionId, jobId⟩, s.doing (.link ⟨executionId, jobId⟩) event) := by
  rw [recordLink, perform_bind, perform_transact hat, Link.commit_record hm hid hjob]
  exact ⟨_, rfl⟩

end RunLedger.Session
