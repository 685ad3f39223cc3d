import RunLedger.Proofs.History.Numbering
import RunLedger.Proofs.History.Replay

/-!
# Lives of executions

What the rows of an execution say fits together, whatever deeds were done in whatever order: it
ends with an exit code and not before its start, what is said about an end comes with one, what is
started has a name and its parameters are numbered from 0 on, and what was completed without being
started stays so.

    d.Fits l → l.rowsOf id = [row] → (d.apply l).rowsOf id = [d.rewrite id row]   (rowsOf_apply)
    d.Fits l → l.IsSound → (d.apply l).IsSound                                    (IsSound.apply)
-/

namespace RunLedger

/-! ## One row through deeds -/

namespace Deed

/-- What a deed makes of the row of an execution that is there. -/
def rewrite (id : Int) : Deed → ExecutionRow → ExecutionRow
  | start now startTime s, row =>
    if s.id = id then Recording.startedRow now startTime s row else row
  | complete now endTime o, row =>
    if o.id = id then Recording.completedRow now endTime o row else row
  | setExternalId now i externalId, row =>
    if i = id then { row with externalId := externalId, lastUpdated := some now } else row
  | _, row => row

variable {l : Ledger} {id i : Int} {row : ExecutionRow} {d : Deed}

theorem rowsOf_mapExecutions (hm : l.IsMade) {change : ExecutionRow → ExecutionRow}
    (hc : KeepsId change) (hrow : l.rowsOf id = [row]) :
    (l.mapExecutions (changeAt i change)).rowsOf id = [if i = id then change row else row] := by
  by_cases h : i = id
  · subst h
    rw [hm.rowsOf_changeAt hc, hrow, if_pos rfl, List.map_singleton]
  · rw [hm.rowsOf_changeAt_of_ne hc h, hrow, if_neg h]

/-- An execution that is there keeps its one row. -/
theorem rowsOf_apply (hk : l.IsKept) (hf : d.Fits l) (hrow : l.rowsOf id = [row]) :
    (d.apply l).rowsOf id = [d.rewrite id row] := by
  have hm := hk.isMade
  cases d with
  | create i now taskName parentId externalId =>
    have hmem : row ∈ l.rowsOf id := hrow ▸ List.mem_singleton_self row
    obtain ⟨hr, hid⟩ := List.mem_filter.1 hmem
    have hne : i ≠ id := by
      have hle := hk.id_le row hr id (by simpa using hid)
      have hnext := hf.1
      omega
    refine (hm.rowsOf_append _).trans ?_
    rw [hrow, if_neg (by simpa using hne), List.append_nil]
    rfl
  | start now startTime s => exact rowsOf_mapExecutions hm (startedRow_keepsId now startTime s) hrow
  | complete now endTime o =>
    exact rowsOf_mapExecutions hm (completedRow_keepsId now endTime o) hrow
  | setExternalId now i externalId =>
    exact rowsOf_mapExecutions hm (relabelledRow_keepsId now externalId) hrow
  | link | acquire | release => exact hrow

end Deed

/-- Whether an execution has been started or completed. -/
def ExecutionRow.isBegun (r : ExecutionRow) : Bool := r.startTime.isSome || r.endTime.isSome

/-- A later row of an execution that was begun: its start and its name are what they were, and what
has ended has ended for good. -/
structure ExecutionRow.GoesOn (row later : ExecutionRow) : Prop where
  startTime : later.startTime = row.startTime
  taskName : later.taskName = row.taskName
  ended : row.endTime.isSome = true → later.endTime.isSome = true

namespace ExecutionRow.GoesOn

variable {row later last : ExecutionRow}

theorem refl (row : ExecutionRow) : row.GoesOn row := ⟨rfl, rfl, fun hend => hend⟩

theorem trans (h : row.GoesOn later) (k : later.GoesOn last) : row.GoesOn last :=
  ⟨k.startTime.trans h.startTime, k.taskName.trans h.taskName, fun hend => k.ended (h.ended hend)⟩

theorem isBegun (h : row.GoesOn later) (hrow : row.isBegun = true) : later.isBegun = true := by
  rw [ExecutionRow.isBegun, Bool.or_eq_true] at hrow ⊢
  exact hrow.imp (fun hs => h.startTime ▸ hs) h.ended

end ExecutionRow.GoesOn

namespace Deed

variable {l : Ledger} {id : Int} {row : ExecutionRow} {d : Deed}

/-- What is started or completed is not started any more. -/
theorem startOf_eq_none (hf : d.Fits l) (hrow : l.rowsOf id = [row])
    (hbegun : row.isBegun = true) : startOf id d = none := by
  cases d with
  | start now startTime s =>
    refine if_neg ?_
    rintro rfl
    obtain ⟨-, q, hq, hfresh, hopen⟩ := hf
    cases hq.symm.trans (rowOf_of_rowsOf hrow)
    rw [ExecutionRow.isBegun, hfresh, hopen] at hbegun
    cases hbegun
  | _ => rfl

theorem goesOn_rewrite (hstart : startOf id d = none) : row.GoesOn (d.rewrite id row) := by
  cases d with
  | start now startTime s =>
    have hne : s.id ≠ id := fun he => by simp [startOf, he] at hstart
    rw [rewrite, if_neg hne]
    exact .refl row
  | complete now endTime o =>
    rw [rewrite]
    split
    · exact ⟨rfl, rfl, fun _ => rfl⟩
    · exact .refl row
  | setExternalId now i externalId =>
    rw [rewrite]
    split
    · exact ⟨rfl, rfl, fun hend => hend⟩
    · exact .refl row
  | create | link | acquire | release => exact .refl row

end Deed

/-- The rows of an execution's parameters, in the order in which they were put in. -/
def Ledger.parameterRowsOf (id : Int) (l : Ledger) : List ParameterRow :=
  l.parameterRows.filter fun p => p.executionId = id

/-- What was begun goes on through a history, with its parameters. -/
theorem FitAll.goesOn {ds : List Deed} {l : Ledger} {id : Int} {row : ExecutionRow}
    (h : FitAll ds l) (hk : l.IsKept) (hrow : l.rowsOf id = [row]) (hbegun : row.isBegun = true) :
    ∃ later, (applyAll ds l).rowsOf id = [later] ∧ row.GoesOn later ∧
      (applyAll ds l).parameterRowsOf id = l.parameterRowsOf id := by
  induction ds generalizing l row with
  | nil => exact ⟨row, hrow, .refl row, rfl⟩
  | cons d ds ih =>
    have hstart := Deed.startOf_eq_none h.1 hrow hbegun
    -- what was begun is begun still, so that the rest of the history cannot start it either
    have hnext : row.GoesOn (d.rewrite id row) := Deed.goesOn_rewrite hstart
    obtain ⟨later, hlater, hgoes, hparameters⟩ :=
      ih h.2 (hk.apply h.1) (Deed.rowsOf_apply hk h.1 hrow) (hnext.isBegun hbegun)
    exact ⟨later, hlater, hnext.trans hgoes,
      hparameters.trans (Recalls.parameters_of_silent hk hstart)⟩

/-! ## What a row says -/

/-- What a row says fits together: there is an exit code if and only if there is an end, and what is
said about an end comes with one; the end is not before the start; and what was started has a
name. -/
structure ExecutionRow.IsSound (r : ExecutionRow) : Prop where
  ended : r.endTime.isSome = r.exitCode.isSome
  silent : r.endTime = none → r.exitMessage = none ∧ r.errorMessage = none
  ordered : ∀ start ∈ r.startTime, ∀ endTime ∈ r.endTime, start ≤ endTime
  named : r.startTime.isSome = true → ∃ name ∈ r.taskName, name ≠ ""

namespace ExecutionRow.IsSound

variable {r : ExecutionRow}

theorem created (now : Option Instant) (taskName : Option String) (parentId : Option Int)
    (externalId : Option String) (id : Option Int) :
    IsSound { Recording.createdRow now taskName parentId externalId with id := id } where
  ended := rfl
  silent _ := ⟨rfl, rfl⟩
  ordered start hstart := by cases hstart
  named hstart := by cases hstart

theorem started (h : r.IsSound) {s : Recording.Start} (hname : s.taskName ≠ "")
    (hopen : r.endTime = none) (now startTime : Instant) :
    (Recording.startedRow now startTime s r).IsSound where
  ended := h.ended
  silent := h.silent
  ordered start _ endTime hend := by
    have hnone : endTime ∈ r.endTime := hend
    rw [hopen] at hnone
    cases hnone
  named _ := ⟨s.taskName, rfl, hname⟩

theorem completed (h : r.IsSound) {endTime : Instant}
    (hstart : ∀ start ∈ r.startTime, start ≤ endTime) (now : Instant) (o : Recording.Outcome) :
    (Recording.completedRow now endTime o r).IsSound where
  ended := rfl
  silent hnone := by cases hnone
  ordered start hs e he := by
    cases he
    exact hstart start hs
  named := h.named

theorem relabelled (h : r.IsSound) (now : Instant) (externalId : Option String) :
    IsSound { r with externalId := externalId, lastUpdated := some now } :=
  ⟨h.ended, h.silent, h.ordered, h.named⟩

end ExecutionRow.IsSound

/-! ## What a ledger says -/

namespace Ledger

/-- The numbers are given out in turn, what each row says fits together, and parameters are those of
started executions and numbered from 0 on. -/
structure IsSound (l : Ledger) : Prop where
  isNumbered : l.IsNumbered
  rows : ∀ r ∈ l.executionRows, r.IsSound
  owned : ∀ p ∈ l.parameterRows, ∃ r ∈ l.executionRows,
    r.id = some p.executionId ∧ r.startTime.isSome = true
  indices : ∀ id, (l.parameterRowsOf id).map (·.index) =
    List.range (l.parameterRowsOf id).length

/-- The tables are the ledger's own, and no execution bears and no parameter is kept for a number
that is still to be given out. -/
structure IsOrderly (l : Ledger) : Prop where
  isKept : l.IsKept
  owner_le : ∀ p ∈ l.parameterRows, p.executionId ≤ l.lastId

namespace IsSound

variable {l m : Ledger} {id : Int} {d : Deed}

theorem isOrderly (h : l.IsSound) : l.IsOrderly := by
  refine ⟨h.isNumbered.isKept, fun p hp => ?_⟩
  obtain ⟨r, hr, hid, -⟩ := h.owned p hp
  exact h.isNumbered.isKept.id_le r hr _ hid

theorem made (tablePrefix : String) : (Ledger.made tablePrefix).IsSound where
  isNumbered := .made _
  rows r hr := by cases hr
  owned p hp := by cases hp
  indices _ := rfl

/-- What has not been started has no parameters. -/
theorem parameterRowsOf_eq_nil (h : l.IsSound) {row : ExecutionRow}
    (hrow : Deed.rowOf id l = some row) (hfresh : row.startTime = none) :
    l.parameterRowsOf id = [] := by
  refine List.filter_eq_nil_iff.2 fun p hp hid => ?_
  obtain ⟨r, hr, hrid, hstart⟩ := h.owned p hp
  obtain rfl : p.executionId = id := by simpa using hid
  cases (h.isNumbered.rowOf_eq hr hrid).symm.trans hrow
  rw [hfresh] at hstart
  cases hstart

theorem rows_changeAt (h : l.IsSound) {change : ExecutionRow → ExecutionRow}
    (hchange : ∀ row, Deed.rowOf id l = some row → row.IsSound → (change row).IsSound) :
    ∀ r ∈ changeAt id change l.executionRows, r.IsSound := by
  intro r hr
  obtain ⟨q, hq, rfl⟩ := List.mem_map.1 hr
  split
  · next hid => exact hchange q (h.isNumbered.rowOf_eq hq hid) (h.rows q hq)
  · exact h.rows q hq

/-- Changes that leave numbers and take no start away leave every started execution one. -/
theorem started_changeAt {rows : List ExecutionRow} {change : ExecutionRow → ExecutionRow}
    (hid : KeepsId change)
    (hstart : ∀ r, r.startTime.isSome = true → (change r).startTime.isSome = true)
    {r : ExecutionRow} (hr : r ∈ rows) (hs : r.startTime.isSome = true) :
    ∃ q ∈ changeAt id change rows, q.id = r.id ∧ q.startTime.isSome = true := by
  refine ⟨_, List.mem_map_of_mem hr, changeAt_keepsId hid r, ?_⟩
  split
  · exact hstart r hs
  · exact hs

/-- A change of one execution that leaves its parameters. -/
theorem of_changeAt (h : l.IsSound) (hm : m.IsNumbered) {change : ExecutionRow → ExecutionRow}
    (hrows : m.executionRows = changeAt id change l.executionRows)
    (hparameters : m.parameterRows = l.parameterRows) (hid : KeepsId change)
    (hchange : ∀ row, Deed.rowOf id l = some row → row.IsSound → (change row).IsSound)
    (hstart : ∀ r, r.startTime.isSome = true → (change r).startTime.isSome = true) :
    m.IsSound where
  isNumbered := hm
  rows := hrows ▸ h.rows_changeAt hchange
  owned p hp := by
    rw [hparameters] at hp
    obtain ⟨r, hr, hrid, hs⟩ := h.owned p hp
    obtain ⟨q, hq, hqid, hqs⟩ := started_changeAt hid hstart hr hs
    exact ⟨q, hrows ▸ hq, hqid.trans hrid, hqs⟩
  indices i := by
    have hsame : m.parameterRowsOf i = l.parameterRowsOf i := by
      rw [parameterRowsOf, hparameters, parameterRowsOf]
    rw [hsame, h.indices]

theorem of_rows (h : l.IsSound) (hm : m.IsNumbered) (hrows : m.executionRows = l.executionRows)
    (hparameters : m.parameterRows = l.parameterRows) : m.IsSound where
  isNumbered := hm
  rows := hrows ▸ h.rows
  owned := by
    rw [hrows, hparameters]
    exact h.owned
  indices i := by
    have hsame : m.parameterRowsOf i = l.parameterRowsOf i := by
      rw [parameterRowsOf, hparameters, parameterRowsOf]
    rw [hsame, h.indices]

theorem apply_create (h : l.IsSound) {now : Instant} {taskName : Option String}
    {parentId : Option Int} {externalId : Option String}
    (hf : (Deed.create id now taskName parentId externalId).Fits l) :
    ((Deed.create id now taskName parentId externalId).apply l).IsSound := by
  have hrows : ((Deed.create id now taskName parentId externalId).apply l).executionRows =
      l.executionRows ++ [{ Recording.createdRow (some now) taskName parentId externalId with
        id := some id }] := by
    rw [Deed.apply, executionRows_withLastId, h.isNumbered.isMade.executionRows_mapExecutions]
  refine ⟨h.isNumbered.apply hf, ?_, ?_, h.indices⟩
  · intro r hr
    rw [hrows] at hr
    rcases List.mem_append.1 hr with hr | hr
    · exact h.rows r hr
    · rw [List.mem_singleton.1 hr]
      exact .created _ _ _ _ _
  · intro p hp
    obtain ⟨r, hr, hfacts⟩ := h.owned p hp
    exact ⟨r, hrows ▸ List.mem_append_left _ hr, hfacts⟩

theorem apply_start (h : l.IsSound) {now startTime : Instant} {s : Recording.Start}
    (hf : (Deed.start now startTime s).Fits l) :
    ((Deed.start now startTime s).apply l).IsSound := by
  have hnumbered := h.isNumbered.apply hf
  have hmade := h.isNumbered.isMade
  obtain ⟨hname, row, hrow, hfresh, hopen⟩ := hf
  have hid := startedRow_keepsId now startTime s
  have hrows : ((Deed.start now startTime s).apply l).executionRows =
      changeAt s.id (Recording.startedRow now startTime s) l.executionRows := by
    rw [Deed.apply, executionRows_mapParameters, hmade.executionRows_mapExecutions]
  have hparameters : ((Deed.start now startTime s).apply l).parameterRows =
      l.parameterRows ++ Transaction.parameterRows s.id 0 s.parameters :=
    (hmade.mapExecutions _).parameterRows_mapParameters _
  -- the rows, the owners of parameters, and the positions of each execution's parameters
  refine ⟨hnumbered, ?_, ?_, fun i => ?_⟩
  · rw [hrows]
    refine h.rows_changeAt fun q hq hsound => ?_
    cases hq.symm.trans hrow
    exact hsound.started hname hopen now startTime
  · intro p hp
    rw [hparameters] at hp
    rw [hrows]
    rcases List.mem_append.1 hp with hp | hp
    · obtain ⟨r, hr, hrid, hs⟩ := h.owned p hp
      obtain ⟨q, hq, hqid, hqs⟩ : ∃ q ∈ changeAt s.id (Recording.startedRow now startTime s)
          l.executionRows, q.id = r.id ∧ q.startTime.isSome = true :=
        started_changeAt hid (fun _ _ => rfl) hr hs
      exact ⟨q, hq, hqid.trans hrid, hqs⟩
    · -- the new parameters are those of the execution that is started
      have hmem : row ∈ l.executionRows := List.mem_of_find?_eq_some hrow
      have hrid := Recording.rowOf_id hrow
      refine ⟨_, List.mem_map_of_mem hmem, ?_, ?_⟩
      · rw [if_pos hrid, mem_parameterRows hp]
        exact hrid
      · rw [if_pos hrid]
        rfl
  · rw [parameterRowsOf, hparameters, List.filter_append]
    by_cases hi : s.id = i
    · subst hi
      -- what was not started has no parameters, so that its positions begin at 0
      have hold : l.parameterRows.filter (fun p => p.executionId = s.id) = [] :=
        h.parameterRowsOf_eq_nil hrow hfresh
      have hnew : (Transaction.parameterRows s.id 0 s.parameters).filter
          (fun p => p.executionId = s.id) = Transaction.parameterRows s.id 0 s.parameters := by
        rw [List.filter_eq_self]
        intro p hp
        simpa using mem_parameterRows hp
      rw [hold, hnew, List.nil_append, Transaction.map_index_parameterRows, List.range_eq_range',
        Transaction.length_parameterRows]
    · have hnew : (Transaction.parameterRows s.id 0 s.parameters).filter
          (fun p => p.executionId = i) = [] := by
        rw [List.filter_eq_nil_iff]
        intro p hp
        simpa [mem_parameterRows hp] using hi
      rw [hnew, List.append_nil]
      exact h.indices i

/-- A deed that fits leaves what a ledger says sound. -/
theorem apply (h : l.IsSound) (hf : d.Fits l) : (d.apply l).IsSound := by
  have hnumbered := h.isNumbered.apply hf
  have hmade := h.isNumbered.isMade
  cases d with
  | create id now taskName parentId externalId => exact h.apply_create hf
  | start now startTime s => exact h.apply_start hf
  | complete now endTime o =>
    obtain ⟨row, hrow, hstart⟩ := hf
    refine h.of_changeAt hnumbered (hmade.executionRows_mapExecutions _) rfl
      (completedRow_keepsId now endTime o) (fun q hq hsound => ?_) fun _ hs => hs
    cases hq.symm.trans hrow
    exact hsound.completed hstart now o
  | setExternalId now id externalId =>
    exact h.of_changeAt hnumbered (hmade.executionRows_mapExecutions _) rfl
      (relabelledRow_keepsId now externalId) (fun q _ hsound => hsound.relabelled now externalId)
      fun _ hs => hs
  | link | acquire | release => exact h.of_rows hnumbered rfl rfl

end IsSound

end Ledger

end RunLedger
