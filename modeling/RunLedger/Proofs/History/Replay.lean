import RunLedger.Proofs.History.Recording

/-!
# Replaying a history

What a history says about one execution: its number is given out at most once and it starts at most
once; name, start and parameters are those of the start; what is said about its end is what was
said last, all of it together; its external and parent numbers are those given last, where a start
may give none.  The rows of a ledger say the same.

    (applyAll ds (Ledger.made p)).rowsOf id = (replayRow id ds).toList     (Recalls.rows)
-/

namespace RunLedger

namespace Deed

/-! ## What a deed says about an execution -/

/-- The name that an execution is created with. -/
def nameOf (id : Int) : Deed → Option (Option String)
  | create i _ taskName _ _ => if i = id then some taskName else none
  | _ => none

/-- The instant of an execution's start and what is said at it. -/
def startOf (id : Int) : Deed → Option (Instant × Recording.Start)
  | start _ startTime s => if s.id = id then some (startTime, s) else none
  | _ => none

/-- The instant of an execution's end and what is said about it. -/
def endOf (id : Int) : Deed → Option (Instant × Recording.Outcome)
  | complete _ endTime o => if o.id = id then some (endTime, o) else none
  | _ => none

/-- The external number that an execution is given, or that it is given none; a start that brings
none says nothing. -/
def externalOf (id : Int) : Deed → Option (Option String)
  | create i _ _ _ externalId => if i = id then some externalId else none
  | start _ _ s => if s.id = id then s.externalId.map some else none
  | setExternalId _ i externalId => if i = id then some externalId else none
  | _ => none

/-- The parent that an execution is given, or that it is given none; a start that brings none says
nothing. -/
def parentOf (id : Int) : Deed → Option (Option Int)
  | create i _ _ parentId _ => if i = id then some parentId else none
  | start _ _ s => if s.id = id then s.parentId.map some else none
  | _ => none

/-- When an execution was written to. -/
def stampOf (id : Int) : Deed → Option Instant
  | create i now _ _ _ => if i = id then some now else none
  | start now _ s => if s.id = id then some now else none
  | complete now _ o => if o.id = id then some now else none
  | setExternalId now i _ => if i = id then some now else none
  | _ => none

end Deed

open Deed

/-! ## What a history says -/

/-- The row of an execution as a history tells it, if the history creates it. -/
def replayRow (id : Int) (ds : List Deed) : Option ExecutionRow :=
  (latest (nameOf id) ds).map fun name =>
    let begun := latest (startOf id) ds
    let ended := latest (endOf id) ds
    { id := some id
      taskName := (begun.map fun b => some b.2.taskName).getD name
      startTime := begun.map (·.1)
      endTime := ended.map (·.1)
      exitCode := ended.map (·.2.exitCode)
      exitMessage := ended.bind (·.2.exitMessage)
      errorMessage := ended.bind (·.2.errorMessage)
      externalId := (latest (externalOf id) ds).join
      parentId := (latest (parentOf id) ds).join
      lastUpdated := latest (stampOf id) ds }

/-- The parameters of an execution as a history tells them: those of its start. -/
def replayParameters (id : Int) (ds : List Deed) : List String :=
  ((latest (startOf id) ds).map (·.2.parameters)).getD []

/-- An execution as a history tells it, if the history creates it.  Its times are in UTC. -/
def replay (id : Int) (ds : List Deed) : Option Execution :=
  (latest (nameOf id) ds).map fun name =>
    let begun := latest (startOf id) ds
    let ended := latest (endOf id) ds
    { id := some id
      taskName := (begun.map fun b => some b.2.taskName).getD name
      startTime := begun.map (·.1.toUtc)
      endTime := ended.map (·.1.toUtc)
      exitCode := ended.map (·.2.exitCode)
      exitMessage := ended.bind (·.2.exitMessage)
      errorMessage := ended.bind (·.2.errorMessage)
      externalId := (latest (externalOf id) ds).join
      parentId := (latest (parentOf id) ds).join
      parameters := (begun.map (·.2.parameters)).getD []
      lastUpdated := (latest (stampOf id) ds).map (·.toUtc)
      exitCode_of_endTime := by cases ended <;> simp }

/-! ## The ledger recalls its history -/

/-- The rows of a ledger say about an execution what a history says. -/
structure Recalls (id : Int) (ds : List Deed) (l : Ledger) : Prop where
  isKept : l.IsKept
  rows : l.rowsOf id = (replayRow id ds).toList
  parameters : l.parameterRows.filter (fun r => r.executionId = id) =
    Transaction.parameterRows id 0 (replayParameters id ds)
  silent : latest (nameOf id) ds = none → ∀ d ∈ ds, stampOf id d = none
  created : (ds.filterMap (nameOf id)).length ≤ 1
  started : (ds.filterMap (startOf id)).length ≤ 1

/-- A deed that does not write to an execution says nothing about it. -/
theorem silent_of_stampOf {id : Int} {d : Deed} (h : stampOf id d = none) :
    nameOf id d = none ∧ startOf id d = none ∧ endOf id d = none ∧ externalOf id d = none ∧
      parentOf id d = none := by
  cases d <;> simp_all [stampOf, nameOf, startOf, endOf, externalOf, parentOf]

theorem mem_parameterRows {id : Int} {k : Nat} {ps : List String} {r : ParameterRow}
    (h : r ∈ Transaction.parameterRows id k ps) : r.executionId = id := by
  induction ps generalizing k with
  | nil => cases h
  | cons p ps ih =>
    rcases List.mem_cons.1 h with rfl | h
    · rfl
    · exact ih h

namespace Recalls

variable {id : Int} {ds : List Deed} {l : Ledger} {d : Deed}

theorem made (id : Int) (tablePrefix : String) : Recalls id [] (Ledger.made tablePrefix) where
  isKept := .made _
  rows := rfl
  parameters := rfl
  silent := fun _ _ h => by cases h
  created := Nat.zero_le _
  started := Nat.zero_le _

theorem rowOf_eq (h : Recalls id ds l) : Deed.rowOf id l = replayRow id ds := by
  rw [rowOf_eq_head?, h.rows]
  cases replayRow id ds <;> rfl

/-- Before an execution is created its history is empty. -/
theorem before (h : Recalls id ds l) (hnone : latest (nameOf id) ds = none) :
    ∀ d ∈ ds, nameOf id d = none ∧ startOf id d = none ∧ endOf id d = none ∧
      externalOf id d = none ∧ parentOf id d = none :=
  fun d hd => silent_of_stampOf (h.silent hnone d hd)

/-! ### Deeds that do not write to the execution -/

theorem rows_of_silent (hk : l.IsKept) (hd : stampOf id d = none) :
    (d.apply l).rowsOf id = l.rowsOf id := by
  cases d with
  | create i now taskName parentId externalId =>
    have hne : i ≠ id := fun he => by simp [stampOf, he] at hd
    refine (hk.isMade.rowsOf_append _).trans ?_
    rw [if_neg (by simpa using hne), List.append_nil]
  | start now startTime s =>
    have hne : s.id ≠ id := fun he => by simp [stampOf, he] at hd
    exact hk.isMade.rowsOf_changeAt_of_ne (startedRow_keepsId _ _ _) hne
  | complete now endTime o =>
    have hne : o.id ≠ id := fun he => by simp [stampOf, he] at hd
    exact hk.isMade.rowsOf_changeAt_of_ne (completedRow_keepsId _ _ _) hne
  | setExternalId now i externalId =>
    have hne : i ≠ id := fun he => by simp [stampOf, he] at hd
    exact hk.isMade.rowsOf_changeAt_of_ne (relabelledRow_keepsId _ _) hne
  | _ => rfl

theorem parameters_of_silent (hk : l.IsKept) (hd : startOf id d = none) :
    (d.apply l).parameterRows.filter (fun r => r.executionId = id) =
      l.parameterRows.filter fun r => r.executionId = id := by
  cases d with
  | start now startTime s =>
    have hne : s.id ≠ id := fun he => by simp [startOf, he] at hd
    have hother : (Transaction.parameterRows s.id 0 s.parameters).filter
        (fun r => r.executionId = id) = [] := by
      rw [List.filter_eq_nil_iff]
      intro r hr
      simpa [mem_parameterRows hr] using hne
    have hmade := hk.isMade.mapExecutions (changeAt s.id (Recording.startedRow now startTime s))
    rw [Deed.apply, hmade.parameterRows_mapParameters, List.filter_append, hother,
      List.append_nil]
    rfl
  | _ => rfl

/-- A deed that neither creates the execution nor starts it is recalled with the others wherever
the row of the execution is what the longer history says. -/
theorem append_of_rows (h : Recalls id ds l) (hf : d.Fits l) (hname : nameOf id d = none)
    (hstart : startOf id d = none)
    (hsilent : latest (nameOf id) ds = none → stampOf id d = none)
    (hrows : (d.apply l).rowsOf id = (replayRow id (ds ++ [d])).toList) :
    Recalls id (ds ++ [d]) (d.apply l) where
  isKept := h.isKept.apply hf
  rows := hrows
  parameters := by
    rw [parameters_of_silent h.isKept hstart, h.parameters]
    simp [replayParameters, hstart]
  silent := by
    intro hnone e he
    rw [latest_append_singleton, hname, Option.none_or] at hnone
    rcases List.mem_append.1 he with he | he
    · exact h.silent hnone e he
    · rw [List.mem_singleton.1 he]
      exact hsilent hnone
  created := by simpa [hname] using h.created
  started := by simpa [hstart] using h.started

theorem append_of_silent (h : Recalls id ds l) (hf : d.Fits l) (hd : stampOf id d = none) :
    Recalls id (ds ++ [d]) (d.apply l) := by
  obtain ⟨hname, hstart, hend, hexternal, hparent⟩ := silent_of_stampOf hd
  have hrow : replayRow id (ds ++ [d]) = replayRow id ds := by
    simp [replayRow, hname, hstart, hend, hexternal, hparent, hd]
  refine h.append_of_rows hf hname hstart (fun _ => hd) ?_
  rw [rows_of_silent h.isKept hd, h.rows, hrow]

/-! ### Deeds that write to the execution -/

theorem append_create {now : Instant} {taskName : Option String} {parentId : Option Int}
    {externalId : Option String} (h : Recalls id ds l)
    (hf : (Deed.create id now taskName parentId externalId).Fits l) :
    Recalls id (ds ++ [.create id now taskName parentId externalId])
      ((Deed.create id now taskName parentId externalId).apply l) := by
  have hid : id = l.lastId + 1 := hf.1
  -- the number is new, so that no row bears it yet and nothing was said about it
  have hnew : l.rowsOf id = [] := by
    rw [Ledger.rowsOf, List.filter_eq_nil_iff]
    intro r hr he
    have hle := h.isKept.id_le r hr id (by simpa using he)
    omega
  have hname : latest (nameOf id) ds = none := by
    have hrow : replayRow id ds = none := by
      have hrows := h.rows
      rw [hnew] at hrows
      cases hr : replayRow id ds with
      | none => rfl
      | some r =>
        rw [hr] at hrows
        cases hrows
    exact Option.map_eq_none_iff.1 hrow
  have hbefore := h.before hname
  have hstart : latest (startOf id) ds = none :=
    (latest_eq_none_iff _).2 fun d hd => (hbefore d hd).2.1
  have hend : latest (endOf id) ds = none :=
    (latest_eq_none_iff _).2 fun d hd => (hbefore d hd).2.2.1
  refine ⟨h.isKept.apply hf, ?_, ?_, ?_, ?_, ?_⟩
  · refine (h.isKept.isMade.rowsOf_append _).trans ?_
    rw [hnew]
    simp [replayRow, nameOf, startOf, endOf, externalOf, parentOf, stampOf, hstart, hend,
      Recording.createdRow]
  · simp only [Deed.apply, Ledger.parameterRows_withLastId, Ledger.parameterRows_mapExecutions,
      h.parameters, replayParameters]
    simp [startOf]
  · simp [nameOf]
  · have hnames : ds.filterMap (nameOf id) = [] :=
      List.filterMap_eq_nil_iff.2 fun d hd => (hbefore d hd).1
    simp [hnames, nameOf]
  · simpa [List.filterMap_cons, startOf] using h.started

theorem append_start {now startTime : Instant} {s : Recording.Start} (h : Recalls id ds l)
    (hs : s.id = id) (hf : (Deed.start now startTime s).Fits l) :
    Recalls id (ds ++ [.start now startTime s]) ((Deed.start now startTime s).apply l) := by
  have ⟨_, row, hrow, hfresh, _⟩ := hf
  rw [hs, h.rowOf_eq] at hrow
  have hreplay := hrow
  obtain ⟨name, hname, rfl⟩ := Option.map_eq_some_iff.1 hrow
  -- what bears no start was never started
  have hstart : latest (startOf id) ds = none := Option.map_eq_none_iff.1 hfresh
  have hmade := h.isKept.isMade.mapExecutions (changeAt s.id (Recording.startedRow now startTime s))
  refine ⟨h.isKept.apply hf, ?_, ?_, ?_, ?_, ?_⟩
  · rw [← hs]
    refine (h.isKept.isMade.rowsOf_changeAt (startedRow_keepsId now startTime s)).trans ?_
    rw [hs, h.rows, hreplay]
    -- what the start leaves open stays as it was said before
    cases hx : s.externalId <;> cases hp : s.parentId <;>
      simp [replayRow, nameOf, startOf, endOf, externalOf, parentOf, stampOf, hs, hname,
        Recording.startedRow, hx, hp]
  · have hparameters := h.parameters
    rw [replayParameters, hstart] at hparameters
    have hold : l.parameterRows.filter (fun r => r.executionId = id) = [] := hparameters
    have hall : (Transaction.parameterRows s.id 0 s.parameters).filter
        (fun r => r.executionId = id) = Transaction.parameterRows id 0 s.parameters := by
      rw [hs, List.filter_eq_self]
      intro r hr
      simpa using mem_parameterRows hr
    rw [Deed.apply, hmade.parameterRows_mapParameters, List.filter_append, hall,
      Ledger.parameterRows_mapExecutions, hold]
    simp [replayParameters, startOf, hs]
  · simp [nameOf, hname]
  · simpa [List.filterMap_cons, nameOf] using h.created
  · have hnone : ds.filterMap (startOf id) = [] :=
      List.filterMap_eq_nil_iff.2 ((latest_eq_none_iff _).1 hstart)
    simp [hnone, startOf, hs]

theorem append_complete {now endTime : Instant} {o : Recording.Outcome} (h : Recalls id ds l)
    (ho : o.id = id) (hf : (Deed.complete now endTime o).Fits l) :
    Recalls id (ds ++ [.complete now endTime o]) ((Deed.complete now endTime o).apply l) := by
  have ⟨row, hrow, _⟩ := hf
  rw [ho, h.rowOf_eq] at hrow
  have hreplay := hrow
  obtain ⟨name, hname, rfl⟩ := Option.map_eq_some_iff.1 hrow
  refine h.append_of_rows hf rfl rfl (by simp [hname]) ?_
  rw [← ho]
  refine (h.isKept.isMade.rowsOf_changeAt (completedRow_keepsId now endTime o)).trans ?_
  rw [ho, h.rows, hreplay]
  simp [replayRow, nameOf, startOf, endOf, externalOf, parentOf, stampOf, ho, hname,
    Recording.completedRow]

theorem append_setExternalId {now : Instant} {externalId : Option String} (h : Recalls id ds l)
    (hf : (Deed.setExternalId now id externalId).Fits l) :
    Recalls id (ds ++ [.setExternalId now id externalId])
      ((Deed.setExternalId now id externalId).apply l) := by
  have ⟨row, hrow⟩ := hf
  rw [h.rowOf_eq] at hrow
  have hreplay := hrow
  obtain ⟨name, hname, rfl⟩ := Option.map_eq_some_iff.1 hrow
  refine h.append_of_rows hf rfl rfl (by simp [hname]) ?_
  refine (h.isKept.isMade.rowsOf_changeAt (relabelledRow_keepsId now externalId)).trans ?_
  rw [h.rows, hreplay]
  simp [replayRow, nameOf, startOf, endOf, externalOf, parentOf, stampOf, hname]

/-- One more deed that fits is recalled with the others. -/
theorem append (h : Recalls id ds l) (hf : d.Fits l) : Recalls id (ds ++ [d]) (d.apply l) := by
  by_cases hd : stampOf id d = none
  · exact h.append_of_silent hf hd
  · cases d with
    | create i now taskName parentId externalId =>
      by_cases hi : i = id
      · subst hi
        exact h.append_create hf
      · exact absurd (if_neg hi) hd
    | start now startTime s =>
      by_cases hs : s.id = id
      · exact h.append_start hs hf
      · exact absurd (if_neg hs) hd
    | complete now endTime o =>
      by_cases ho : o.id = id
      · exact h.append_complete ho hf
      · exact absurd (if_neg ho) hd
    | setExternalId now i externalId =>
      by_cases hi : i = id
      · subst hi
        exact h.append_setExternalId hf
      · exact absurd (if_neg hi) hd
    | _ => exact absurd rfl hd

end Recalls

/-- A ledger recalls every history that happened to it from the beginning. -/
theorem recalls_of_fitAll (id : Int) {tablePrefix : String} {ds : List Deed}
    (h : FitAll ds (Ledger.made tablePrefix)) :
    Recalls id ds (applyAll ds (Ledger.made tablePrefix)) :=
  FitAll.induction (.made id tablePrefix) (fun _ _ _ hd ih => ih.append hd) h

end RunLedger
