import RunLedger.Proofs.History.Turns
import RunLedger.Proofs.Session.Write

/-!
# What clients of locks can observe

Taking a lock, giving it back and asking for its holder, by any client.  What such a request
answers, and what it leaves behind, depends on the row of its own key and region alone; the rows of
all other pairs it leaves as they are.

    (s.perform (q.run epoch)).1 =
      q.answer s.clock (s.ledger.lockOf q.pair.1 q.pair.2)                   (perform_run)
    p.pair ≠ q.pair → ((s.perform (q.run epoch)).2.perform (p.run epoch)).1 =
      (s.perform (p.run epoch)).1                                          (perform_run_after_other)
-/

namespace RunLedger

open Session SessionM

/-- What a client of locks can ask for. -/
inductive LockRequest where
  | acquire (client : LockClient) (taskName : String) (other : Option String)
  | release (client : LockClient) (taskName : String)
  | holder (client : LockClient) (taskName : String)

namespace LockRequest

/-- The key and the region that a request is about. -/
def pair : LockRequest → String × String
  | acquire client taskName _ | release client taskName | holder client taskName =>
    (lockKey taskName, client.region)

/-- Makes the request through the handle of an opening. -/
def run (epoch : Nat) : LockRequest → SessionM Answer
  | acquire client taskName other => (Write.acquire client taskName other).run epoch
  | release client taskName => (Write.release client taskName).run epoch
  | holder client taskName => return .lock (← transact epoch (Lock.holder client.region taskName))

/-- What a request answers where the row of its pair is known: a lock is taken exactly where it is
free, whoever asks.  Without a name, or while the clock shows no instant, none is taken. -/
def answer (clock : Timestamp) (held : Option LockRow) : LockRequest → Except Failure Answer
  | acquire _ taskName _ =>
    if taskName = "" then .error (.badArgument .lockNameMissing)
    else
      match clock.toInstant with
      | .error _ => .error .statementUnbuilt
      | .ok _ =>
        if held.isSome then .error (.alreadyHeld taskName (lockKey taskName)) else .ok (.flag true)
  | release _ _ => .ok (.flag held.isSome)
  | holder _ _ => .ok (.lock held)

variable {epoch : Nat} {s : Session}

theorem perform_acquire (hm : s.ledger.IsMade) (hat : s.isAt epoch = true) (client : LockClient)
    (taskName : String) (other : Option String) :
    (s.perform ((acquire client taskName other).run epoch)).1 =
      (acquire client taskName other).answer s.clock
        (s.ledger.lockOf (lockKey taskName) client.region) := by
  rw [run, Write.run, answer, perform_bind, ← Ledger.isHeld_eq_isSome]
  by_cases hname : taskName = ""
  · rw [if_pos hname, hname, Write.acquire_of_noName]
  · rw [if_neg hname, Write.perform_acquire other hname, perform_transact hat]
    cases hnow : s.clock.toInstant with
    | error f => rw [Lock.commit_acquire_of_noInstant hnow]
    | ok now =>
      rw [Lock.commit_acquire hm hnow]
      cases s.ledger.isHeld (lockKey taskName) client.region <;> rfl

theorem perform_release (hm : s.ledger.IsMade) (hat : s.isAt epoch = true) (client : LockClient)
    (taskName : String) :
    (s.perform ((release client taskName).run epoch)).1 =
      .ok (.flag (s.ledger.isHeld (lockKey taskName) client.region)) := by
  rw [run, Write.run, Session.release, perform_bind, perform_bind, perform_transact hat,
    Lock.commit_release hm]
  rfl

theorem perform_holder (hm : s.ledger.IsMade) (hat : s.isAt epoch = true) (client : LockClient)
    (taskName : String) :
    (s.perform ((holder client taskName).run epoch)).1 =
      .ok (.lock (s.ledger.lockOf (lockKey taskName) client.region)) := by
  rw [run, perform_bind, perform_transact hat, Lock.commit_holder hm]
  rfl

/-- What a request answers depends on the clock and on the row of its own pair. -/
theorem perform_run (hm : s.ledger.IsMade) (hat : s.isAt epoch = true) (q : LockRequest) :
    (s.perform (q.run epoch)).1 = q.answer s.clock (s.ledger.lockOf q.pair.1 q.pair.2) := by
  cases q with
  | acquire client taskName other => exact perform_acquire hm hat client taskName other
  | release client taskName =>
    rw [perform_release hm hat, Ledger.isHeld_eq_isSome]
    rfl
  | holder client taskName => exact perform_holder hm hat client taskName

/-! ## What requests leave alone -/

theorem run_isFramed (epoch : Nat) (q : LockRequest) : IsFramed (q.run epoch) := by
  cases q with
  | acquire client taskName other => exact Write.run_isFramed _ _
  | release client taskName => exact Write.run_isFramed _ _
  | holder client taskName =>
    exact (IsFramed.transact _ _).bind fun _ => (SessionM.IsReading.pure _).isFramed

/-- A request does no deed, or takes or gives back the lock of its own pair. -/
theorem run_doneIn (hm : s.ledger.IsMade) (epoch : Nat) (q : LockRequest) :
    ∃ d?, DoneIn? d? s.ledger (s.perform (q.run epoch)).2.ledger ∧
      ∀ d ∈ d?, ∀ key region, (key, region) ≠ q.pair → Deed.turnOf key region d = none := by
  cases q with
  | acquire client taskName other =>
    refine ⟨_, Write.run_doneIn hm epoch (.acquire client taskName other), ?_⟩
    intro d hd key region hne
    obtain ⟨now, -, rfl⟩ := Write.told_acquire hd
    refine if_neg fun hfor => hne ?_
    obtain ⟨hkey, hregion⟩ := Lock.isFor_iff.1 hfor
    exact Prod.ext hkey.symm hregion.symm
  | release client taskName =>
    refine ⟨_, Write.run_doneIn hm epoch (.release client taskName), ?_⟩
    intro d hd key region hne
    rw [Write.told_release hd]
    exact if_neg fun hpair => hne (Prod.ext hpair.1.symm hpair.2.symm)
  | holder client taskName =>
    refine ⟨none, ?_, fun d hd => by cases hd⟩
    exact ((SessionM.IsReading.transact (Lock.holder_isReading _ _) epoch).bind
      (fun _ => .pure _) s).2

/-- The lock of another pair stays as it is. -/
theorem lockOf_run_of_ne (hm : s.ledger.IsMade) {q : LockRequest} {key region : String}
    (hne : (key, region) ≠ q.pair) :
    (s.perform (q.run epoch)).2.ledger.lockOf key region = s.ledger.lockOf key region := by
  obtain ⟨d?, hdone, hother⟩ := run_doneIn hm epoch q
  rw [Ledger.lockOf_eq_head?, Ledger.lockOf_eq_head?]
  cases d? with
  | none => rw [show (s.perform (q.run epoch)).2.ledger = s.ledger from hdone]
  | some d =>
    obtain ⟨-, hledger⟩ : d.DoneIn s.ledger (s.perform (q.run epoch)).2.ledger := hdone
    rw [hledger, Guards.rows_of_noTurn hm (hother d rfl key region hne)]

theorem run_isMade (hm : s.ledger.IsMade) (q : LockRequest) :
    (s.perform (q.run epoch)).2.ledger.IsMade := by
  obtain ⟨d?, hdone, -⟩ := run_doneIn hm epoch q
  cases d? with
  | none =>
    rw [show (s.perform (q.run epoch)).2.ledger = s.ledger from hdone]
    exact hm
  | some d =>
    obtain ⟨-, hledger⟩ : d.DoneIn s.ledger (s.perform (q.run epoch)).2.ledger := hdone
    rw [hledger]
    exact hm.apply d

/-- A request for one pair is not observed by any request for another. -/
theorem perform_run_after_other (hm : s.ledger.IsMade) (hat : s.isAt epoch = true)
    {q p : LockRequest} (hne : p.pair ≠ q.pair) :
    ((s.perform (q.run epoch)).2.perform (p.run epoch)).1 = (s.perform (p.run epoch)).1 := by
  have hframed := run_isFramed epoch q s
  have hat' : (s.perform (q.run epoch)).2.isAt epoch = true := by
    rw [hframed.isAt, hat]
  have hpair : (p.pair.1, p.pair.2) ≠ q.pair := hne
  rw [perform_run (run_isMade hm q) hat', perform_run hm hat, hframed.clock,
    lockOf_run_of_ne hm hpair]

/-- A refused request changes nothing in the ledger. -/
theorem run_isAtomic (epoch : Nat) (q : LockRequest) : IsAtomic (q.run epoch) := by
  cases q with
  | acquire client taskName other => exact Write.run_isAtomic epoch (.acquire client taskName other)
  | release client taskName => exact Write.run_isAtomic epoch (.release client taskName)
  | holder client taskName =>
    exact ((SessionM.IsReading.transact (Lock.holder_isReading _ _) epoch).bind
      fun _ => .pure _).isAtomic

end LockRequest

end RunLedger
