import RunLedger.Proofs.History.Replay
import RunLedger.Proofs.Run.History
import RunLedger.Proofs.Session.Start

/-!
# Looking up what happened

From an empty ledger, whatever calls and launches are made in whatever order, looking up a number
gives the execution that the history of successful calls tells, or nothing if none created it.

    (Step.runAll steps s).2 finds id as replay id (Step.history steps s)     (find_replays)
-/

namespace RunLedger

open Session SessionM

theorem replay_eq_none_iff {id : Int} {ds : List Deed} :
    replay id ds = none ↔ ∀ d ∈ ds, Deed.nameOf id d = none := by
  rw [replay, Option.map_eq_none_iff, latest_eq_none_iff]

namespace Recalls

variable {id : Int} {ds : List Deed} {l : Ledger}

theorem load_eq (h : Recalls id ds l) {r : ExecutionRow} (hr : replayRow id ds = some r) :
    ∃ e, l.load r = .ok e ∧ replay id ds = some e := by
  obtain ⟨name, hname, rfl⟩ := Option.map_eq_some_iff.1 hr
  have hps := Transaction.parametersOf_eq h.parameters
  refine ⟨_, ?_, by rw [replay, hname, Option.map_some]⟩
  rw [Ledger.load, Transaction.rowParameters, Option.map_some, Option.getD_some, hps]
  unfold ExecutionRow.toExecution ExecutionFields.toExecution
  rw [dif_pos (by cases latest (Deed.endOf id) ds <;> simp)]
  simp [replayParameters, Option.map_map, Function.comp_def]

/-- A ledger that recalls a history answers a look-up as the history tells. -/
theorem commit_find? (h : Recalls id ds l) (hid : Signed64.holds id = true) :
    (Reading.find? id).commit l = (.ok (replay id ds), l) := by
  have hone : (l.rowsOf id).length ≤ 1 := h.rows ▸ Option.length_toList_le
  rw [Reading.commit_find? h.isKept.isMade hid hone, h.rows]
  cases hr : replayRow id ds with
  | none =>
    have hname : latest (Deed.nameOf id) ds = none := Option.map_eq_none_iff.1 hr
    rw [replay, hname]
    rfl
  | some r =>
    obtain ⟨e, hload, hreplay⟩ := h.load_eq hr
    rw [Option.toList_some, List.mapM_cons, hload, hreplay]
    rfl

end Recalls

theorem Step.recalls {s : Session} (hs : s.StartsEmpty) {steps : List Step}
    (hsteps : ∀ step ∈ steps, step.callsAll Call.keepsOpen = true) (id : Int) :
    Recalls id (Step.history steps s) (Step.runAll steps s).2.ledger := by
  have hallow : ∀ m ∈ Step.movesOfAll steps s, m.allows Call.isRegular = true := fun m hm =>
    Move.allows_mono (fun _ => Call.keepsOpen_isRegular) (Step.movesOfAll_allow hsteps s m hm)
  obtain ⟨hfit, hledger⟩ := Move.runAll_history hs.isKept hallow
  rw [hs.ledger] at hfit hledger
  rw [Step.runAll_movesOfAll] at hledger
  rw [hledger]
  exact recalls_of_fitAll id hfit

/-- Looking up a number after any run of calls and launches from an empty ledger gives what the
history tells, and the history creates and starts an execution at most once. -/
theorem Step.find_replays {s : Session} (hs : s.StartsEmpty) {steps : List Step}
    (hsteps : ∀ step ∈ steps, step.callsAll Call.keepsOpen = true) {id : Int}
    (hid : Signed64.holds id = true) :
    ((Step.runAll steps s).2.perform (Call.find id).run).1 =
        .ok (.execution (replay id (Step.history steps s))) ∧
      ((Step.history steps s).filterMap (Deed.nameOf id)).length ≤ 1 ∧
      ((Step.history steps s).filterMap (Deed.startOf id)).length ≤ 1 := by
  have hrecalls := Step.recalls hs hsteps id
  refine ⟨?_, hrecalls.created, hrecalls.started⟩
  have hsame := Move.runAll_sameSetup (Step.movesOfAll_allow hsteps s) s
  rw [Step.runAll_movesOfAll] at hsame
  have hat : (Step.runAll steps s).2.isAt (Step.runAll steps s).2.epoch = true := by
    rw [isAt, hsame.handle, hs.isOpen]
    simp
  rw [Call.run, perform_get_bind, perform_bind, perform_transact hat,
    hrecalls.commit_find? hid]
  rfl

/-- The start of an execution overrides the name that it was created with; a second start does
not count, and neither does a call on another execution. -/
theorem Step.find_replays_startedOnce :
    let s := Session.inMemory [] (.parts false false false)
    let steps : List Step := [
      .call (.create (some "created") none (some "external")),
      .call (.start Instant.first.toUtc ⟨1, "started", ["b", "a"], none, some 7⟩),
      .call (.start Instant.first.toUtc ⟨1, "again", [], none, none⟩),
      .call (.complete 2 (some (.code 0)) Instant.first.toUtc none none)]
    ((Step.runAll steps s).2.perform (Call.find 1).run).1 =
        .ok (.execution (replay 1 (Step.history steps s))) ∧
      (replay 1 (Step.history steps s)).map (fun e =>
        (e.taskName, e.parameters, e.externalId, e.parentId, e.endTime)) =
          some (some "started", ["b", "a"], some "external", some 7, none) :=
  ⟨(Step.find_replays (startsEmpty_inMemory [] (.parts false false false)) (by decide)
    (by decide)).1, rfl⟩

end RunLedger
