import RunLedger.Proofs.Launch.Record
import RunLedger.Proofs.Paging.Running

/-!
# Launches that are over

A launch with a name that has created an execution leaves it with an end, whether the lock was held,
the body was entered or an error came out of it, as long as the completion at the end is not
refused: it is where the clock has gone back behind the start.  What has an end is not found
running.

    id ∈ created? r s → the row of id has an end after launch r body s          (launch_closes)
    the clock goes back in the body → the launch is over and counted as running
                                                                      (launch_leaves_running)
-/

namespace RunLedger

open Session SessionM

/-- An execution has ended. -/
def Ledger.HasEnded (id : Int) (l : Ledger) : Prop :=
  ∃ row, l.rowsOf id = [row] ∧ row.endTime.isSome = true

namespace Launch

variable {s t u v : Session} {r : LaunchRequest} {p : Prepared} {running : Running} {id : Int}

/-- The number of the execution that a launch creates, if it gets as far. -/
def created? (r : LaunchRequest) (s : Session) : Option Int :=
  match lockClient? s.lifecycle r, (s.perform (creation r s)).1 with
  | .ok _, .ok (id, _) => some id
  | _, _ => none

theorem created?_eq_some (h : created? r s = some id) :
    ∃ lock e u, lockClient? s.lifecycle r = .ok lock ∧
      s.perform (creation r s) = (.ok (id, e), u) := by
  unfold created? at h
  split at h
  · next lock made e hlock hmade =>
    cases h
    exact ⟨lock, e, _, hlock, Prod.ext hmade rfl⟩
  · cases h

/-! ## What has ended stays so -/

theorem hasEnded_runAll {ms : List Move} (hk : v.ledger.IsKept)
    (hms : ∀ m ∈ ms, m.allows Call.isRegular = true) (h : v.ledger.HasEnded id) :
    (Move.runAll ms v).ledger.HasEnded id := by
  obtain ⟨row, hrow, hend⟩ := h
  obtain ⟨hfit, hledger⟩ := Move.runAll_history hk hms
  have hbegun : row.isBegun = true := by rw [ExecutionRow.isBegun, hend, Bool.or_true]
  obtain ⟨later, hlater, hgoes, -⟩ := hfit.goesOn hk hrow hbegun
  exact ⟨later, hledger ▸ hlater, hgoes.ended hend⟩

/-- The moves that are left of a launch once its body has ended. -/
def closingMoves {ρ : Type} (p : Prepared) (r : LaunchRequest) (o : BodyOutcome ρ) (v : Session) :
    List Move :=
  completeMove p o v :: giveBackMoves p r.taskName

theorem closingMoves_allow {ρ : Type} {kind : Call → Bool} (p : Prepared) (r : LaunchRequest)
    (o : BodyOutcome ρ) (v : Session) : ∀ m ∈ closingMoves p r o v, m.allows kind = true :=
  List.forall_mem_cons.2 ⟨rfl, giveBackMoves_allow p r.taskName⟩

theorem launch_snd_eq_closing {ρ : Type} {body : Running → Session → BodyOutcome ρ × Session}
    (hp : s.perform (prepare r) = (.ok p, t)) (hs : t.perform (startTask p r) = (.ok running, u)) :
    (launch r body s).2 =
      Move.runAll (closingMoves p r (body running u).1 (body running u).2) (body running u).2 := by
  rw [launch_snd hp, enter_snd_of_ok hs, closingMoves, Move.runAll_cons, run_completeMove,
    runAll_giveBackMoves]

/-! ## Around a body -/

/-- At the end of a body the handle is open, and the execution of the launch can be completed or has
been: the clock has not gone back behind the start and the exit status fits a column, or there is an
end already. -/
structure CanClose {ρ : Type} (s : Session) (id : Int) (o : BodyOutcome ρ) (v : Session) :
    Prop where
  isAt : v.isAt s.epoch = true
  ends : (∃ start endTime, s.clock.toInstant = .ok start ∧ v.clock.toInstant = .ok endTime ∧
      start ≤ endTime ∧ Signed64.holds (exitStatus o.fault).toInt = true) ∨ v.ledger.HasEnded id

/-- A launch that is over, with an end to the execution of a number. -/
structure IsOver (id : Int) (w : Session) : Prop where
  isMade : w.ledger.IsMade
  isAt : w.isAt w.epoch = true
  hasEnded : w.ledger.HasEnded id

theorem isAt_epoch {epoch : Nat} (h : v.isAt epoch = true) : v.isAt v.epoch = true := by
  rw [isAt, Bool.and_eq_true, decide_eq_true_eq] at h
  rw [h.1, isAt, h.2, Bool.and_true, decide_eq_true_eq, h.1]

theorem isOver_of_entered (hk : s.ledger.IsKept) (hbegin : bodyStart? r s = some (running, t))
    {body : Body} (hbody : body.callsAll Call.isRegular = true)
    (hclose : CanClose s running.id (body.run running t).1 (body.run running t).2) :
    IsOver running.id (launch r body.run s).2 := by
  rcases hclose.ends with ⟨start, endTime, hstart, hend, hle, hcode⟩ | hended
  · obtain ⟨-, hclosed⟩ :=
      closed_of_bodyStart hk hbegin hbody hclose.isAt hstart hend hle hcode
    obtain ⟨row, -, -, hrow⟩ := hclosed.row
    exact ⟨hclosed.isMade, hclosed.isAt, _, hrow, rfl⟩
  · obtain ⟨p, t₀, hp, hs⟩ := bodyStart?_eq_some hbegin
    obtain ⟨now, hreg⟩ := registered_of_ok hk hp
    obtain ⟨hkept, -⟩ := (begun_of_startTask hk hreg hs).goesOn hbody
    rw [launch_snd_eq_closing hp hs]
    have hsame := Move.runAll_sameSetup (closingMoves_allow p r (body.run running t).1
      (body.run running t).2) (body.run running t).2
    refine ⟨(Move.runAll_isKept hkept (closingMoves_allow p r _ _)).isMade, ?_,
      hasEnded_runAll hkept (closingMoves_allow p r _ _) hended⟩
    rw [hsame.isAt, hsame.epoch]
    exact isAt_epoch hclose.isAt

/-! ## Around a held lock -/

theorem isOver_of_held {ρ : Type} {body : Running → Session → BodyOutcome ρ × Session}
    {client : LockClient} {e : Execution} (hk : s.ledger.IsKept) (hname : r.taskName ≠ "")
    (hlock : lockClient? s.lifecycle r = .ok (some client))
    (hc : s.perform (creation r s) = (.ok (id, e), u))
    (hheld : s.ledger.isHeld (lockKey r.taskName) client.region = true) :
    IsOver id (launch r body s).2 := by
  have hcreated := created_of_ok hk hc
  have hheld' : u.ledger.isHeld (lockKey r.taskName) client.region = true := by
    rw [Ledger.isHeld, hcreated.lockRows]
    exact hheld
  obtain ⟨start, -, hrow⟩ := hcreated.rowsOf hk
  -- taking the lock fails, and the execution that was created is completed by that
  obtain ⟨now, v, htake, hledger, hsame⟩ :=
    perform_takeLock_of_held hk hcreated hcreated.isAt hname hheld'
  have hprepare : s.perform (prepare r) =
      (.error (.alreadyHeld r.taskName (lockKey r.taskName)), v) := by
    rw [perform_prepare_of_lock hlock hc, htake]
  have hlaunch : (launch r body s).2 = v := by rw [launch, hprepare]
  rw [hlaunch]
  constructor
  · rw [hledger]
    exact hcreated.isKept.isMade.apply _
  · rw [hsame.isAt, hsame.epoch]
    exact isAt_epoch hcreated.isAt
  · have hchanged : v.ledger.rowsOf id = (u.ledger.rowsOf id).map (Recording.completedRow now now
        ⟨id, 1, some (heldText r.taskName), some (heldText r.taskName)⟩) := by
      rw [hledger]
      exact hcreated.isKept.isMade.rowsOf_changeAt (completedRow_keepsId _ _ _)
    rw [hrow] at hchanged
    exact ⟨_, hchanged, rfl⟩

/-! ## The execution of a launch -/

/-- Unless the lock that it is to take is held, a launch with a name gets to its body. -/
theorem exists_bodyStart {lock : Option LockClient} {e : Execution} (ho : s.ledger.IsOrderly)
    (hname : r.taskName ≠ "") (hlock : lockClient? s.lifecycle r = .ok lock)
    (hc : s.perform (creation r s) = (.ok (id, e), u))
    (hfree : ∀ client ∈ lock, s.ledger.isHeld (lockKey r.taskName) client.region = false) :
    ∃ running t, bodyStart? r s = some (running, t) ∧ running.id = id := by
  obtain ⟨p, t, hp, hid⟩ : ∃ p t, s.perform (prepare r) = (.ok p, t) ∧ p.id = id := by
    cases lock with
    | none => exact ⟨_, _, perform_prepare_of_noLock hlock hc, rfl⟩
    | some client =>
      obtain ⟨now, t, -, hp, -⟩ := prepare_of_free ho.isKept hlock hc hname (hfree client rfl)
      exact ⟨_, t, hp, rfl⟩
  obtain ⟨now, hreg⟩ := registered_of_ok ho.isKept hp
  obtain ⟨running, v, hs⟩ := exists_startTask ho hreg hname
  refine ⟨running, v, ?_, (startTask_ok hs).2.1.trans hid⟩
  rw [bodyStart?, hp]
  dsimp only
  rw [hs]

/-- A launch with a name, in any state of the ledger.  If it creates an execution and its body, if
it is entered, leaves the handle open and can be followed by a completion, then the launch leaves
the execution with an end, however it ends itself, and the execution is not found running. -/
theorem launch_closes (ho : s.ledger.IsOrderly) (hname : r.taskName ≠ "") {body : Body}
    (hbody : body.callsAll Call.isRegular = true)
    (hclose : ∀ b ∈ bodyStart? r s,
      CanClose s b.1.id (body.run b.1 b.2).1 (body.run b.1 b.2).2)
    (hcreated : id ∈ created? r s) :
    (launch r body.run s).2.ledger.HasEnded id ∧ (launch r body.run s).2.Overlooks id := by
  obtain ⟨lock, e, u, hlock, hc⟩ := created?_eq_some hcreated
  have hover : IsOver id (launch r body.run s).2 := by
    by_cases hfree : ∀ client ∈ lock,
      s.ledger.isHeld (lockKey r.taskName) client.region = false
    · obtain ⟨running, t, hbegin, rfl⟩ := exists_bodyStart ho hname hlock hc hfree
      exact isOver_of_entered ho.isKept hbegin hbody (hclose _ hbegin)
    · cases lock with
      | none => exact absurd (fun client h => by cases h) hfree
      | some client =>
        have hheld : s.ledger.isHeld (lockKey r.taskName) client.region = true := by
          simpa using hfree
        exact isOver_of_held ho.isKept hname hlock hc hheld
  obtain ⟨row, hrow, hend⟩ := hover.hasEnded
  exact ⟨hover.hasEnded, overlooks_of_ended hover.isAt hover.isMade hrow hend⟩

/-- A body that raises an error. -/
theorem launch_closes_raised :
    let s := Session.inMemory [] (.parts false false false)
    let r : LaunchRequest := ⟨"t", [], none, none, none⟩
    let body : Body := .act (.raise ⟨.other "RuntimeError", []⟩) false .done
    let w := (launch r body.run s).2
    created? r s = some 1 ∧ w.ledger.HasEnded 1 ∧ w.Overlooks 1 := by
  intro s r body w
  have hcreated : created? r s = some 1 := by decide +kernel
  have hbody : ∀ b ∈ bodyStart? r s, (body.run b.1 b.2).2.isAt s.epoch = true ∧
      (body.run b.1 b.2).2.clock = (⟨1000000, by decide⟩ : Instant).toUtc ∧
      Signed64.holds (exitStatus (body.run b.1 b.2).1.fault).toInt = true := by decide +kernel
  refine ⟨hcreated, launch_closes (startsEmpty_inMemory [] _).isOrderly (by decide)
    (show body.callsAll Call.isRegular = true from rfl) (fun b hb => ?_) hcreated⟩
  obtain ⟨hat, hclock, hcode⟩ := hbody b hb
  exact ⟨hat, .inl ⟨Instant.first, ⟨1000000, by decide⟩, Timestamp.toInstant_toUtc _,
    hclock ▸ Timestamp.toInstant_toUtc _, by decide, hcode⟩⟩

/-- A launch is over with its handle open, and the execution that it has created is the one that is
counted as running. -/
def LeavesRunning (r : LaunchRequest) (body : Body) (s : Session) : Prop :=
  ∃ id, created? r s = some id ∧ (launch r body.run s).2.isAt s.epoch = true ∧
    ((launch r body.run s).2.ledger.rowsOf id).map (·.endTime) = [none] ∧
    ((launch r body.run s).2.perform Call.countRunning.run).1 = .ok (.number (some 1))

/-- A body that sets the clock back: the completion is refused for ending before the start.  Without
a name the launch is refused its start, and does not complete what it has created. -/
theorem launch_leaves_running :
    let s := (Session.inMemory [] (.parts false false false)).tick
    LeavesRunning ⟨"t", [], none, none, none⟩
        (.act (.call (.setClock Instant.first.toUtc)) false .done) s ∧
      LeavesRunning ⟨"", [], none, none, none⟩ .done s := by
  constructor
  · refine ⟨1, by decide +kernel, by decide +kernel, by decide +kernel, ?_⟩
    rfl
  · refine ⟨1, by decide +kernel, by decide +kernel, by decide +kernel, ?_⟩
    rfl

end Launch

end RunLedger
