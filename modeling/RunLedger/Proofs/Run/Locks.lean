import RunLedger.Proofs.Run.History
import RunLedger.Proofs.Session.LockRequest
import RunLedger.Proofs.Session.Start

/-!
# Locks along a run

From an empty ledger, whatever calls, launches and commands are made in whatever order, every
state that the run passes through keeps each lock to one holder at most.  What any client observes
of a lock in such a state is what the history of takings and givings back tells.

    locks_exclusive : one row to a pair, turns that alternate, answers that follow the history
-/

namespace RunLedger

open Session SessionM

/-- A state that a run of steps from a session passes through, and the deeds done up to there. -/
structure Step.Passes (steps : List Step) (s u : Session) (ds : List Deed) : Prop where
  split : ∃ ms rest, Step.movesOfAll steps s = ms ++ rest ∧ u = Move.runAll ms s ∧
    ds = Move.deeds ms s

theorem Step.Passes.guards {steps : List Step} {s u : Session} {ds : List Deed}
    (h : Step.Passes steps s u ds) (hs : s.StartsEmpty)
    (hsteps : ∀ step ∈ steps, step.callsAll Call.isRegular = true) (key region : String) :
    Guards key region ds u.ledger := by
  obtain ⟨ms, rest, hsplit, rfl, rfl⟩ := h.split
  have hallow : ∀ m ∈ ms, m.allows Call.isRegular = true := fun m hm =>
    Step.movesOfAll_allow hsteps s m (hsplit ▸ List.mem_append_left rest hm)
  -- the moves up to the state make a history from the empty ledger
  obtain ⟨hfit, hledger⟩ := Move.runAll_history hs.isKept hallow
  rw [hs.ledger] at hfit hledger
  rw [hledger]
  exact guards_of_fitAll key region hfit

/-- In every state that a run from an empty ledger passes through: a pair has one lock row at most;
its takings and givings back alternate, beginning with a taking; what a client asks is answered as
the last taking that was not given back tells, so that a lock is taken exactly where it is free,
whoever asks; what is refused changes nothing; and a request for one pair is not observed by any
request for another. -/
theorem Step.locks_exclusive {s u : Session} (hs : s.StartsEmpty) {steps : List Step}
    (hsteps : ∀ step ∈ steps, step.callsAll Call.isRegular = true) {ds : List Deed}
    (hu : Step.Passes steps s u ds) :
    (∀ key region, (u.ledger.locksOf key region).length ≤ 1 ∧
      Alternates false (ds.filterMap (Deed.turnOf key region))) ∧
    (u.handle.isOpen = true →
      (∀ q : LockRequest, (u.perform (q.run u.epoch)).1 =
        q.answer u.clock (lockLeft q.pair.1 q.pair.2 ds)) ∧
      (∀ (q : LockRequest) f, (u.perform (q.run u.epoch)).1 = .error f →
        (u.perform (q.run u.epoch)).2.ledger = u.ledger) ∧
      ∀ q p : LockRequest, p.pair ≠ q.pair →
        ((u.perform (q.run u.epoch)).2.perform (p.run u.epoch)).1 =
          (u.perform (p.run u.epoch)).1) := by
  have hguards := hu.guards hs hsteps
  refine ⟨fun key region => ⟨(hguards key region).length_rows, (hguards key region).alternates⟩,
    fun hopen => ?_⟩
  have hat : u.isAt u.epoch = true := by simp [isAt, hopen]
  have hmade := (hguards "" "").isMade
  refine ⟨fun q => ?_, fun q f hf => ?_, fun q p hne => ?_⟩
  · rw [LockRequest.perform_run hmade hat, (hguards _ _).lockOf_eq]
  · exact LockRequest.run_isAtomic u.epoch q u _ f (Prod.ext hf rfl)
  · exact LockRequest.perform_run_after_other hmade hat hne

/-- Two clients contend for a lock: the second one is refused, gives back what the first one holds,
and takes the lock then. -/
theorem Step.locks_exclusive_contended :
    let s := Session.inMemory [⟨"r", some "a"⟩, ⟨"r", some "b"⟩] (.parts false false false)
    let steps : List Step := [.call (.acquire 0 "t" none), .call (.acquire 1 "t" none),
      .call (.release 1 "t"), .call (.acquire 1 "t" none)]
    let turns := (Step.history steps s).filterMap (Deed.turnOf (lockKey "t") "r")
    turns.map (·.map (·.clientId)) = [some "a", none, some "b"] ∧ Alternates false turns :=
  ⟨by decide +kernel, ((Step.locks_exclusive (startsEmpty_inMemory _ _) (by decide)
    ⟨_, [], (List.append_nil _).symm, rfl, rfl⟩).1 (lockKey "t") "r").2⟩

end RunLedger
