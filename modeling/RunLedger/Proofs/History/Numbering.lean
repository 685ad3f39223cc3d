import Mathlib.Data.List.Nodup
import RunLedger.Proofs.History.Deed

/-!
# Numbers given out in turn

From an empty ledger the executions are numbered from 1 on, in the order of their rows and without
a gap, and what has ended has an exit code.

    d.Fits l → l.IsNumbered → (d.apply l).IsNumbered                         (IsNumbered.apply)
    r ∈ l.executionRows → r.id = some i → l.rowsOf i = [r]                   (rowsOf_eq)
-/

namespace RunLedger

/-- Whether a row that has an end has an exit code. -/
def ExecutionRow.EndsWithCode (r : ExecutionRow) : Prop :=
  r.endTime.isSome = true → r.exitCode.isSome = true

namespace Ledger

/-- The rows bear the numbers from 1 to the one last given out, in this order, and what has ended
has an exit code. -/
structure IsNumbered (l : Ledger) : Prop where
  isMade : l.IsMade
  lastId_nonneg : 0 ≤ l.lastId
  lastId_le : l.lastId ≤ Signed64.greatest
  ids : l.executionRows.map (·.id) =
    (List.range l.lastId.toNat).map fun k : Nat => some ((k : Int) + 1)
  ended : ∀ r ∈ l.executionRows, r.EndsWithCode

namespace IsNumbered

variable {l m : Ledger} {r : ExecutionRow} {i : Int}

theorem made (tablePrefix : String) : (Ledger.made tablePrefix).IsNumbered where
  isMade := .made _
  lastId_nonneg := Int.le_refl 0
  lastId_le := show (0 : Int) ≤ Signed64.greatest by decide
  ids := rfl
  ended r hr := by cases hr

theorem of_rows (h : l.IsNumbered) (hm : m.IsMade) (hrows : m.executionRows = l.executionRows)
    (hlast : m.lastId = l.lastId) : m.IsNumbered where
  isMade := hm
  lastId_nonneg := hlast ▸ h.lastId_nonneg
  lastId_le := hlast ▸ h.lastId_le
  ids := by rw [hrows, hlast, h.ids]
  ended := hrows ▸ h.ended

theorem of_changeAt (h : l.IsNumbered) (hm : m.IsMade) {change : ExecutionRow → ExecutionRow}
    (hrows : m.executionRows = changeAt i change l.executionRows) (hlast : m.lastId = l.lastId)
    (hid : KeepsId change) (hend : ∀ r, r.EndsWithCode → (change r).EndsWithCode) :
    m.IsNumbered where
  isMade := hm
  lastId_nonneg := hlast ▸ h.lastId_nonneg
  lastId_le := hlast ▸ h.lastId_le
  ids := by rw [hrows, hlast, map_id_changeAt hid, h.ids]
  ended := by
    intro r hr
    rw [hrows] at hr
    obtain ⟨q, hq, rfl⟩ := List.mem_map.1 hr
    split
    · exact hend q (h.ended q hq)
    · exact h.ended q hq

theorem apply (h : l.IsNumbered) {d : Deed} (hf : d.Fits l) : (d.apply l).IsNumbered := by
  have hm := h.isMade.apply d
  cases d with
  | create id now taskName parentId externalId =>
    obtain ⟨hid, hle⟩ := hf
    have hrows : ((Deed.create id now taskName parentId externalId).apply l).executionRows =
        l.executionRows ++ [{ Recording.createdRow (some now) taskName parentId externalId with
          id := some id }] := by
      rw [Deed.apply, executionRows_withLastId, h.isMade.executionRows_mapExecutions]
    have hlast : ((Deed.create id now taskName parentId externalId).apply l).lastId = id := rfl
    have hnonneg := h.lastId_nonneg
    refine ⟨hm, by omega, by omega, ?_, ?_⟩
    -- the numbers are those of a range that becomes one longer
    · have hnat : id.toNat = l.lastId.toNat + 1 := by omega
      rw [hrows, hlast, hnat, List.range_succ, List.map_append, List.map_append, h.ids,
        List.map_singleton, List.map_singleton]
      have hcast : ((l.lastId.toNat : Nat) : Int) + 1 = id := by omega
      rw [hcast]
    · intro r hr
      rw [hrows, List.mem_append, List.mem_singleton] at hr
      rcases hr with hr | rfl
      · exact h.ended r hr
      · intro hend
        cases hend
  | start now startTime s =>
    refine h.of_changeAt (i := s.id) hm ?_ rfl (startedRow_keepsId now startTime s) fun r hr => hr
    rw [Deed.apply, executionRows_mapParameters, h.isMade.executionRows_mapExecutions]
  | complete now endTime o =>
    refine h.of_changeAt (i := o.id) hm ?_ rfl (completedRow_keepsId now endTime o) fun r _ _ => rfl
    rw [Deed.apply, h.isMade.executionRows_mapExecutions]
  | setExternalId now id externalId =>
    refine h.of_changeAt (i := id) hm ?_ rfl (relabelledRow_keepsId now externalId) fun r hr => hr
    rw [Deed.apply, h.isMade.executionRows_mapExecutions]
  | link row => exact h.of_rows hm rfl rfl
  | acquire row => exact h.of_rows hm rfl rfl
  | release key region => exact h.of_rows hm rfl rfl

/-! ## What numbers tell -/

theorem nodup_ids (h : l.IsNumbered) : (l.executionRows.map (·.id)).Nodup := by
  rw [h.ids]
  refine List.Nodup.map (fun a b hab => ?_) List.nodup_range
  have hcast : (a : Int) + 1 = b + 1 := Option.some.inj hab
  omega

theorem pairwise_id_ne (h : l.IsNumbered) :
    l.executionRows.Pairwise fun r q => r.id ≠ q.id := List.pairwise_map.1 h.nodup_ids

theorem length_executionRows (h : l.IsNumbered) :
    (l.executionRows.length : Int) = l.lastId := by
  have hlength := congrArg List.length h.ids
  rw [List.length_map, List.length_map, List.length_range] at hlength
  have hnonneg := h.lastId_nonneg
  omega

/-- Every row bears a number, from 1 to the one last given out. -/
theorem exists_id (h : l.IsNumbered) (hr : r ∈ l.executionRows) :
    ∃ i, r.id = some i ∧ 0 < i ∧ i ≤ l.lastId := by
  have hmem : r.id ∈ l.executionRows.map (·.id) := List.mem_map_of_mem hr
  rw [h.ids] at hmem
  obtain ⟨k, hk, hid⟩ := List.mem_map.1 hmem
  have hlt := List.mem_range.1 hk
  exact ⟨(k : Int) + 1, hid.symm, by omega, by omega⟩

theorem isKept (h : l.IsNumbered) : l.IsKept := by
  refine ⟨h.isMade, fun r hr i hi => ?_⟩
  obtain ⟨j, hj, -, hle⟩ := h.exists_id hr
  cases hj.symm.trans hi
  exact hle

theorem holds_id (h : l.IsNumbered) (hr : r ∈ l.executionRows) :
    ∃ i, r.id = some i ∧ Signed64.holds i = true := by
  obtain ⟨i, hid, hpos, hlast⟩ := h.exists_id hr
  exact ⟨i, hid, Signed64.holds_of_nonneg (by omega) (Int.le_trans hlast h.lastId_le)⟩

/-- No number is given twice. -/
theorem eq_of_id (h : l.IsNumbered) {q : ExecutionRow} (hr : r ∈ l.executionRows)
    (hq : q ∈ l.executionRows) (hid : r.id = q.id) : r = q :=
  List.inj_on_of_nodup_map h.nodup_ids hr hq hid

theorem rowsOf_eq (h : l.IsNumbered) (hr : r ∈ l.executionRows) (hi : r.id = some i) :
    l.rowsOf i = [r] := by
  have hnodup : (l.rowsOf i).Nodup := (h.nodup_ids.of_map _).filter _
  refine List.perm_singleton.1 ((List.perm_ext_iff_of_nodup hnodup (List.nodup_singleton r)).2 ?_)
  intro q
  rw [Ledger.rowsOf, List.mem_filter, decide_eq_true_eq, List.mem_singleton]
  constructor
  · rintro ⟨hq, hid⟩
    exact h.eq_of_id hq hr (hid.trans hi.symm)
  · rintro rfl
    exact ⟨hr, hi⟩

theorem length_rowsOf_le (h : l.IsNumbered) (id : Int) : (l.rowsOf id).length ≤ 1 := by
  cases hrows : l.rowsOf id with
  | nil => exact Nat.zero_le 1
  | cons r rest =>
    have hmem : r ∈ l.rowsOf id := hrows ▸ List.mem_cons_self
    obtain ⟨hr, hid⟩ := List.mem_filter.1 hmem
    rw [← hrows, h.rowsOf_eq hr (of_decide_eq_true hid)]
    exact Nat.le_refl 1

theorem rowOf_eq (h : l.IsNumbered) (hr : r ∈ l.executionRows) (hi : r.id = some i) :
    Deed.rowOf i l = some r := by
  rw [Deed.rowOf_eq_head?, h.rowsOf_eq hr hi]
  rfl

end IsNumbered

end Ledger

end RunLedger
