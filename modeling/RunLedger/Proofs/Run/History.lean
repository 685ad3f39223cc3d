import RunLedger.Proofs.Run.Move

/-!
# The history of a run

The deeds of a run, move by move.  Each fits the ledger as the deeds before it left it, and
together they make the ledger that the run ends with; nothing else is written.

    s.ledger.IsKept → (∀ m ∈ ms, m.allows Call.isRegular) →
      FitAll (deeds ms s) s.ledger ∧
        (runAll ms s).ledger = applyAll (deeds ms s) s.ledger                (Move.runAll_history)
-/

namespace RunLedger

open Session SessionM

/-! ## Which calls a run makes -/

namespace Body

/-- Whether all calls in a body, and in the launches in it, are of a kind. -/
def callsAll (kind : Call → Bool) : Body → Bool
  | done => true
  | act (.call c) _ rest => kind c && rest.callsAll kind
  | act _ _ rest => rest.callsAll kind
  | launch _ _ body rest => body.callsAll kind && rest.callsAll kind

end Body

/-- Whether all calls in a step are of a kind. -/
def Step.callsAll (kind : Call → Bool) : Step → Bool
  | call c => kind c
  | launch _ body => body.callsAll kind

/-- Whether a move, if it is a call, is of a kind. -/
def Move.allows (kind : Call → Bool) : Move → Bool
  | call c => kind c
  | _ => true

section
variable {kind : Call → Bool}

namespace Launch

variable {ρ : Type} {body : Running → Session → BodyOutcome ρ × Session}
  {bodyMoves : Running → Session → List Move}

theorem lockMoves_allow (epoch : Nat) (client : LockClient) (id : Int) (taskName : String)
    (s : Session) : ∀ m ∈ lockMoves epoch client id taskName s, m.allows kind = true := by
  intro m hm
  rw [lockMoves] at hm
  rcases List.mem_cons.1 hm with rfl | hm
  · rfl
  · split at hm
    · rcases List.mem_cons.1 hm with rfl | hm
      · rfl
      · rw [List.mem_singleton.1 hm]
        rfl
    · cases hm

theorem prepareMoves_allow (r : LaunchRequest) (s : Session) :
    ∀ m ∈ prepareMoves r s, m.allows kind = true := by
  intro m hm
  rw [prepareMoves] at hm
  split at hm
  · cases hm
  · rcases List.mem_cons.1 hm with rfl | hm
    · rfl
    · split at hm
      · exact lockMoves_allow _ _ _ _ _ m hm
      · cases hm

theorem enterMoves_allow (p : Prepared) (r : LaunchRequest)
    (hbody : ∀ running t, ∀ m ∈ bodyMoves running t, m.allows kind = true) (s : Session) :
    ∀ m ∈ enterMoves p r body bodyMoves s, m.allows kind = true := by
  intro m hm
  rw [enterMoves] at hm
  rcases List.mem_cons.1 hm with rfl | hm
  · rfl
  · split at hm
    · cases hm
    · rcases List.mem_append.1 hm with hm | hm
      · exact hbody _ _ m hm
      · rw [List.mem_singleton.1 hm]
        rfl

theorem giveBackMoves_allow (p : Prepared) (taskName : String) :
    ∀ m ∈ giveBackMoves p taskName, m.allows kind = true := by
  intro m hm
  rw [giveBackMoves] at hm
  split at hm
  · rw [List.mem_singleton.1 hm]
    rfl
  · cases hm

theorem moves_allow (r : LaunchRequest)
    (hbody : ∀ running t, ∀ m ∈ bodyMoves running t, m.allows kind = true) (s : Session) :
    ∀ m ∈ moves r body bodyMoves s, m.allows kind = true := by
  intro m hm
  rw [moves] at hm
  rcases List.mem_append.1 hm with hm | hm
  · exact prepareMoves_allow r s m hm
  · split at hm
    · cases hm
    · rcases List.mem_append.1 hm with hm | hm
      · exact enterMoves_allow _ r hbody _ m hm
      · exact giveBackMoves_allow _ _ m hm

end Launch

theorem Body.callsAll_act {a : Action} {passesOn : Bool} {rest : Body} (running : Running) :
    (act a passesOn rest).callsAll kind = true ↔
      (∀ m ∈ a.moves running, m.allows kind = true) ∧ rest.callsAll kind = true := by
  cases a with
  | call c => simp [callsAll, Action.moves, Move.allows]
  | linkJob jobId =>
    have hlink : ∀ m ∈ (Action.linkJob jobId).moves running, m.allows kind = true := by
      intro m hm
      rw [Action.moves] at hm
      split at hm
      · rw [List.mem_singleton.1 hm]
        rfl
      · cases hm
    exact ⟨fun h => ⟨hlink, h⟩, And.right⟩
  | _ => simp [callsAll, Action.moves]

theorem Body.moves_allow {body : Body} (h : body.callsAll kind = true) (running : Running)
    (s : Session) : ∀ m ∈ body.moves running s, m.allows kind = true := by
  induction body generalizing running s with
  | done =>
    intro m hm
    cases hm
  | act a passesOn rest ih =>
    obtain ⟨haction, hrest⟩ := (callsAll_act running).1 h
    intro m hm
    rw [moves] at hm
    rcases List.mem_cons.1 hm with rfl | hm
    · rfl
    · rcases List.mem_append.1 hm with hm | hm
      · exact haction m hm
      · split at hm
        · cases hm
        · exact ih hrest _ _ m hm
  | launch r passesOn body rest ihBody ih =>
    obtain ⟨hbody, hrest⟩ := Bool.and_eq_true_iff.1 h
    intro m hm
    rw [moves] at hm
    rcases List.mem_cons.1 hm with rfl | hm
    · rfl
    · rcases List.mem_cons.1 hm with rfl | hm
      · rfl
      · rcases List.mem_append.1 hm with hm | hm
        · exact Launch.moves_allow r (ihBody hbody) _ m hm
        · split at hm
          · cases hm
          · exact ih hrest _ _ m hm

theorem Step.moves_allow {step : Step} (h : step.callsAll kind = true) (s : Session) :
    ∀ m ∈ step.moves s, m.allows kind = true := by
  intro m hm
  cases step with
  | call c =>
    rcases List.mem_cons.1 hm with rfl | hm
    · rfl
    · rw [List.mem_singleton.1 hm]
      exact h
  | launch r body =>
    rcases List.mem_cons.1 hm with rfl | hm
    · rfl
    · rcases List.mem_cons.1 hm with rfl | hm
      · rfl
      · exact Launch.moves_allow r (Body.moves_allow h) _ m hm

theorem Step.movesOfAll_allow {steps : List Step} (h : ∀ step ∈ steps, step.callsAll kind = true)
    (s : Session) : ∀ m ∈ movesOfAll steps s, m.allows kind = true := by
  induction steps generalizing s with
  | nil =>
    intro m hm
    cases hm
  | cons step steps ih =>
    obtain ⟨hstep, hsteps⟩ := List.forall_mem_cons.1 h
    intro m hm
    rw [movesOfAll] at hm
    rcases List.mem_append.1 hm with hm | hm
    · exact Step.moves_allow hstep s m hm
    · exact ih hsteps _ m hm

end

/-! ## Deeds of moves -/

namespace Move

/-- The deed that a move does to the session's ledger, as its outcome tells. -/
def deed? : Move → Session → Option Deed
  | call c, s => c.deed? s
  | write epoch w, s => w.told s.clock (s.perform (w.run epoch)).1
  | _, _ => none

/-- The deeds of moves made one after the other. -/
def deeds : List Move → Session → List Deed
  | [], _ => []
  | m :: ms, s => (m.deed? s).toList ++ deeds ms (m.run s)

theorem run_doneIn {m : Move} {s : Session} (hm : s.ledger.IsMade)
    (h : m.allows Call.isRegular = true) : DoneIn? (m.deed? s) s.ledger (m.run s).ledger := by
  cases m with
  | tick => exact ledger_tick s
  | attempt r body => rfl
  | call c => exact Call.run_doneIn hm h
  | write epoch w => exact Write.run_doneIn hm epoch w
  | remark e => rfl

/-- A run of moves does its deeds, each where it fits, and nothing else. -/
theorem runAll_history {ms : List Move} {s : Session} (hk : s.ledger.IsKept)
    (h : ∀ m ∈ ms, m.allows Call.isRegular = true) :
    FitAll (deeds ms s) s.ledger ∧ (runAll ms s).ledger = applyAll (deeds ms s) s.ledger := by
  induction ms generalizing s with
  | nil => exact ⟨trivial, rfl⟩
  | cons m ms ih =>
    obtain ⟨hm, hms⟩ := List.forall_mem_cons.1 h
    have hdone := run_doneIn hk.isMade hm
    rw [deeds, runAll_cons]
    cases hd : m.deed? s with
    | none =>
      rw [hd] at hdone
      have hsame : (m.run s).ledger = s.ledger := hdone
      have hrest := ih (s := m.run s) (hsame ▸ hk) hms
      rw [hsame] at hrest
      exact hrest
    | some d =>
      rw [hd] at hdone
      obtain ⟨hfits, hledger⟩ : d.DoneIn s.ledger (m.run s).ledger := hdone
      obtain ⟨hrest, hend⟩ := ih (s := m.run s) (hledger ▸ hk.apply hfits) hms
      rw [hledger] at hrest hend
      exact ⟨⟨hfits, hrest⟩, hend⟩

/-- What one deed keeps, a run keeps. -/
theorem runAll_keeps {P : Ledger → Prop} (step : ∀ (d : Deed) l, d.Fits l → P l → P (d.apply l))
    {ms : List Move} {s : Session} (hk : s.ledger.IsKept)
    (h : ∀ m ∈ ms, m.allows Call.isRegular = true) (hs : P s.ledger) :
    P (runAll ms s).ledger := by
  obtain ⟨hfit, hledger⟩ := runAll_history hk h
  rw [hledger]
  exact hfit.keeps step hs

theorem runAll_isKept {ms : List Move} {s : Session} (hk : s.ledger.IsKept)
    (h : ∀ m ∈ ms, m.allows Call.isRegular = true) : (runAll ms s).ledger.IsKept := by
  obtain ⟨hfit, hledger⟩ := runAll_history hk h
  rw [hledger]
  exact hfit.keeps (fun d l hd hl => hl.apply hd) hk

theorem run_isKept {m : Move} {s : Session} (hk : s.ledger.IsKept)
    (h : m.allows Call.isRegular = true) : (m.run s).ledger.IsKept := by
  have hall : ∀ n ∈ [m], n.allows Call.isRegular = true := fun _ hn =>
    List.mem_singleton.1 hn ▸ h
  have hkept : (runAll [m] s).ledger.IsKept := runAll_isKept hk hall
  exact hkept

theorem allows_mono {kind other : Call → Bool} (hk : ∀ c, kind c = true → other c = true) {m : Move}
    (h : m.allows kind = true) : m.allows other = true := by
  cases m with
  | call c => exact hk c h
  | _ => rfl

theorem run_sameSetup {m : Move} (h : m.allows Call.keepsOpen = true) (s : Session) :
    SameSetup s (m.run s) := by
  cases m with
  | tick => exact SameSetup.tick s
  | attempt r body => exact SameSetup.refl s
  | call c => exact Call.run_sameSetup h s
  | write epoch w => exact (Write.run_isFramed epoch w s).toSameSetup
  | remark e => exact (Framed.logging e s).toSameSetup

/-- Moves that do not close the handle leave the set-up of the session. -/
theorem runAll_sameSetup {ms : List Move} (h : ∀ m ∈ ms, m.allows Call.keepsOpen = true)
    (s : Session) : SameSetup s (runAll ms s) :=
  runAll_induction (fun m hm t hsame => hsame.trans (run_sameSetup (h m hm) t)) (SameSetup.refl s)

end Move

/-- The deeds of steps. -/
def Step.history (steps : List Step) (s : Session) : List Deed :=
  Move.deeds (Step.movesOfAll steps s) s

end RunLedger
