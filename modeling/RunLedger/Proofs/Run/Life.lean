import RunLedger.Proofs.History.Life
import RunLedger.Proofs.Run.Locks
import RunLedger.Proofs.Session.Readable

/-!
# Lives of executions along a run

From an empty ledger, whatever calls, launches and commands are made in whatever order and however
they end, what the rows of executions and parameters say fits together in every state that the run
passes through.  Numbers only grow, what was completed without being started stays unstarted, and
no look-up fails for a record.

    executions_sound : the rows of a state, and what they are in a later one
-/

namespace RunLedger

open Session SessionM

/-- Two states that a run of steps from a session passes through, one after the other. -/
structure Step.PassesBoth (steps : List Step) (s u v : Session) : Prop where
  split : ∃ ms ns rest, Step.movesOfAll steps s = ms ++ ns ++ rest ∧ u = Move.runAll ms s ∧
    v = Move.runAll ns u

/-- What one deed keeps holds in every state that a run passes through. -/
theorem Step.Passes.keeps {P : Ledger → Prop} {steps : List Step} {s u : Session} {ds : List Deed}
    (h : Step.Passes steps s u ds)
    (hsteps : ∀ step ∈ steps, step.callsAll Call.isRegular = true) (hk : s.ledger.IsKept)
    (step : ∀ (d : Deed) l, d.Fits l → P l → P (d.apply l)) (hs : P s.ledger) : P u.ledger := by
  obtain ⟨ms, rest, hsplit, rfl, -⟩ := h.split
  refine Move.runAll_keeps step hk (fun m hm => ?_) hs
  exact Step.movesOfAll_allow hsteps s m (hsplit ▸ List.mem_append_left rest hm)

theorem Step.Passes.isSound {steps : List Step} {s u : Session} {ds : List Deed}
    (h : Step.Passes steps s u ds) (hs : s.StartsEmpty)
    (hsteps : ∀ step ∈ steps, step.callsAll Call.isRegular = true) : u.ledger.IsSound := by
  refine h.keeps hsteps hs.isKept (fun d l hd hl => hl.apply hd) ?_
  rw [hs.ledger]
  exact .made _

namespace Step.PassesBoth

variable {steps : List Step} {s u v : Session}

theorem passes (h : Step.PassesBoth steps s u v) : ∃ ds, Step.Passes steps s u ds := by
  obtain ⟨ms, ns, rest, hsplit, rfl, -⟩ := h.split
  exact ⟨_, ms, ns ++ rest, hsplit.trans (List.append_assoc ms ns rest), rfl, rfl⟩

theorem passes_later (h : Step.PassesBoth steps s u v) : ∃ ds, Step.Passes steps s v ds := by
  obtain ⟨ms, ns, rest, hsplit, rfl, rfl⟩ := h.split
  exact ⟨_, ms ++ ns, rest, hsplit, (Move.runAll_append ms ns s).symm, rfl⟩

/-- A run passes through its state after its first steps, and through its last one. -/
theorem of_append (first later : List Step) (s : Session) :
    Step.PassesBoth (first ++ later) s (Step.runAll first s).2
      (Step.runAll (first ++ later) s).2 := by
  refine ⟨Step.movesOfAll first s, Step.movesOfAll later (Step.runAll first s).2, [], ?_,
    (Step.runAll_movesOfAll first s).symm, ?_⟩
  · rw [Step.movesOfAll_append, List.append_nil]
  · rw [← Step.runAll_movesOfAll, Step.movesOfAll_append, Move.runAll_append,
      Step.runAll_movesOfAll]

/-- What was begun in the first of the states goes on in the second. -/
theorem goesOn (h : Step.PassesBoth steps s u v) (hk : u.ledger.IsKept)
    (hsteps : ∀ step ∈ steps, step.callsAll Call.isRegular = true) {id : Int} {row : ExecutionRow}
    (hrow : u.ledger.rowsOf id = [row]) (hbegun : row.isBegun = true) :
    ∃ later, v.ledger.rowsOf id = [later] ∧ row.GoesOn later := by
  obtain ⟨ms, ns, rest, hsplit, rfl, rfl⟩ := h.split
  have hallow : ∀ m ∈ ns, m.allows Call.isRegular = true := fun m hm =>
    Step.movesOfAll_allow hsteps s m
      (hsplit ▸ List.mem_append_left rest (List.mem_append_right ms hm))
  obtain ⟨hfit, hledger⟩ := Move.runAll_history hk hallow
  rw [hledger]
  obtain ⟨later, hlater, hgoes, -⟩ := hfit.goesOn hk hrow hbegun
  exact ⟨later, hlater, hgoes⟩

end Step.PassesBoth

theorem Ledger.IsSound.create_exceeds {u w : Session} (h : u.ledger.IsSound) {epoch : Nat}
    {taskName externalId : Option String} {parentId : Option Int} {id : Int} {e : Execution}
    (hc : u.perform (create epoch taskName parentId externalId) = (.ok (id, e), w)) :
    e.id = some id ∧ ∀ r ∈ u.ledger.executionRows, ∀ i ∈ r.id, i < id := by
  obtain ⟨now, -, hid, -, hfits, -⟩ := Write.create_ok h.isNumbered.isMade hc
  refine ⟨hid, fun r hr i hi => ?_⟩
  have hle := h.isNumbered.isKept.id_le r hr i hi
  have hnext := hfits.1
  omega

/-- In every state that a run from an empty ledger passes through: the numbers of executions are
positive and each is given once, and what each row says fits together; parameters are those of
started executions and are numbered from 0 on; a new execution gets a greater number than all
others; what has ended unstarted is unstarted in every later state of the run; and no look-up fails
for a record. -/
theorem Step.executions_sound {s u v : Session} (hs : s.StartsEmpty) {steps : List Step}
    (hsteps : ∀ step ∈ steps, step.callsAll Call.isRegular = true)
    (huv : Step.PassesBoth steps s u v) :
    (∀ r ∈ u.ledger.executionRows, (∃ id, r.id = some id ∧ 0 < id) ∧ r.IsSound) ∧
    u.ledger.executionRows.Pairwise (fun r q => r.id ≠ q.id) ∧
    (∀ p ∈ u.ledger.parameterRows, ∃ r ∈ u.ledger.executionRows,
      r.id = some p.executionId ∧ r.startTime.isSome = true) ∧
    (∀ id, (u.ledger.parameterRowsOf id).map (·.index) =
      List.range (u.ledger.parameterRowsOf id).length) ∧
    (∀ epoch taskName parentId externalId id e w,
      u.perform (create epoch taskName parentId externalId) = (.ok (id, e), w) →
        e.id = some id ∧ ∀ r ∈ u.ledger.executionRows, ∀ i ∈ r.id, i < id) ∧
    (∀ r ∈ u.ledger.executionRows, r.startTime = none → r.endTime.isSome = true →
      ∀ q ∈ v.ledger.executionRows, q.id = r.id → q.startTime = none) ∧
    ∀ c : Call, c.isLookUp = true → ∀ f, (u.perform c.run).1 = .error f → f.isOfRecord = false := by
  obtain ⟨ds, hu⟩ := huv.passes
  obtain ⟨es, hv⟩ := huv.passes_later
  have hsound := hu.isSound hs hsteps
  have hnumbered := hsound.isNumbered
  refine ⟨fun r hr => ⟨?_, hsound.rows r hr⟩, hnumbered.pairwise_id_ne, hsound.owned,
    hsound.indices, fun _ _ _ _ _ _ _ => hsound.create_exceeds, ?_,
    fun c hc f hf => Call.perform_lookUp hnumbered hc hf⟩
  · obtain ⟨i, hi, hpos, -⟩ := hnumbered.exists_id hr
    exact ⟨i, hi, hpos⟩
  · intro r hr hfresh hend q hq hid
    obtain ⟨i, hi, -⟩ := hnumbered.exists_id hr
    have hbegun : r.isBegun = true := by
      rw [ExecutionRow.isBegun, hend, Bool.or_true]
    -- what has ended only goes on to the later state, with the start that it had
    obtain ⟨later, hlater, hgoes⟩ :=
      huv.goesOn hnumbered.isKept hsteps (hnumbered.rowsOf_eq hr hi) hbegun
    have hq' := (hv.isSound hs hsteps).isNumbered.rowsOf_eq hq (hid.trans hi)
    cases hq'.symm.trans hlater
    rw [hgoes.startTime, hfresh]

/-- An execution that was completed as created cannot be started any more; another one is started
with two parameters. -/
theorem Step.executions_sound_unstarted :
    let s := Session.inMemory [] (.parts false false false)
    let closed : List Step := [.call (.create (some "t") none none),
      .call (.complete 1 (some (.code 0)) Instant.first.toUtc none none)]
    let later : List Step := [.call (.start Instant.first.toUtc ⟨1, "t", ["a"], none, none⟩),
      .call (.create none none none),
      .call (.start Instant.first.toUtc ⟨2, "t", ["a", "b"], none, none⟩)]
    let v := (Step.runAll (closed ++ later) s).2
    (v.ledger.executionRows.map fun r => r.startTime.isSome) = [false, true] ∧
      v.ledger.parameterRows.map (·.index) = [0, 1] ∧
      ∀ q ∈ v.ledger.executionRows, q.id = some 1 → q.startTime = none := by
  intro s closed later v
  have huv : Step.PassesBoth (closed ++ later) s (Step.runAll closed s).2 v := .of_append _ _ s
  obtain ⟨-, -, -, -, -, hstays, -⟩ :=
    Step.executions_sound (startsEmpty_inMemory [] _) (by decide) huv
  have hrows : (Step.runAll closed s).2.ledger.executionRows =
      [⟨some 1, some "t", none, some Instant.first, some 0, none, none, none, none,
        some ⟨2000000, by decide⟩⟩] := by decide +kernel
  refine ⟨by decide +kernel, by decide +kernel, ?_⟩
  exact hstays _ (hrows ▸ List.mem_singleton_self _) rfl rfl

end RunLedger
