import Mathlib.Data.List.Induction
import RunLedger.Lock.Holding
import RunLedger.Proofs.Store.Loading
import RunLedger.Recording

/-!
# Deeds

What a call that went through has done to a ledger.  Whatever calls, launches and commands do to
the rows of a ledger is one of seven deeds; a deed fits a ledger if the ledger's rules let it
happen there.  A history is a list of deeds, the first one first.

    d.Fits l → l.IsKept → (d.apply l).IsKept                       (IsKept.apply)
    latest f (ds ++ [d]) = (f d).or (latest f ds)                  (latest_append_singleton)
-/

namespace RunLedger

/-- Rows with the ones that bear a number changed. -/
def changeAt (id : Int) (change : ExecutionRow → ExecutionRow) (rows : List ExecutionRow) :
    List ExecutionRow :=
  rows.map fun r => if r.id = some id then change r else r

/-- What was done to a ledger, with the instant at which it was done where a row keeps it. -/
inductive Deed where
  | create (id : Int) (now : Instant) (taskName : Option String) (parentId : Option Int)
      (externalId : Option String)
  | start (now startTime : Instant) (s : Recording.Start)
  | complete (now endTime : Instant) (o : Recording.Outcome)
  | setExternalId (now : Instant) (id : Int) (externalId : Option String)
  | link (row : LinkRow)
  | acquire (row : LockRow)
  | release (key region : String)
deriving DecidableEq

namespace Deed

/-- The ledger once the deed is done. -/
def apply : Deed → Ledger → Ledger
  | create id now taskName parentId externalId, l =>
    (l.mapExecutions (· ++ [{ Recording.createdRow (some now) taskName parentId externalId with
      id := some id }])).withLastId id
  | start now startTime s, l =>
    (l.mapExecutions (changeAt s.id (Recording.startedRow now startTime s))).mapParameters
      (· ++ Transaction.parameterRows s.id 0 s.parameters)
  | complete now endTime o, l =>
    l.mapExecutions (changeAt o.id (Recording.completedRow now endTime o))
  | setExternalId now id externalId, l =>
    l.mapExecutions (changeAt id fun row =>
      { row with externalId := externalId, lastUpdated := some now })
  | link row, l => l.mapLinks (· ++ [row])
  | acquire row, l => l.mapLocks (· ++ [row])
  | release key region, l => l.mapLocks (·.filter fun r => !Lock.isFor key region r)

/-- The first row that bears a number. -/
def rowOf (id : Int) (l : Ledger) : Option ExecutionRow :=
  l.executionRows.find? fun r => r.id = some id

/-- Whether the rules of the ledger let the deed happen: numbers are given out in turn, only what
was neither started nor completed is started, nothing ends before its start, and a lock is taken
only where it is free and given back only where it is held. -/
def Fits : Deed → Ledger → Prop
  | create id _ _ _ _, l => id = l.lastId + 1 ∧ id ≤ Signed64.greatest
  | start _ _ s, l => s.taskName ≠ "" ∧
      ∃ row, rowOf s.id l = some row ∧ row.startTime = none ∧ row.endTime = none
  | complete _ endTime o, l =>
      ∃ row, rowOf o.id l = some row ∧ ∀ start ∈ row.startTime, start ≤ endTime
  | setExternalId _ id _, l => ∃ row, rowOf id l = some row
  | link _, _ => True
  | acquire row, l => l.lockRows.any (Lock.isFor row.key row.region) = false
  | release key region, l => l.lockRows.any (Lock.isFor key region) = true

/-- Whether the deed takes or gives back a lock. -/
def onLocks : Deed → Bool
  | acquire _ | release _ _ => true
  | _ => false

theorem lockRows_apply (d : Deed) (h : d.onLocks = false) (l : Ledger) :
    (d.apply l).lockRows = l.lockRows := by
  cases d <;> first | rfl | cases h

end Deed

/-- Deeds that happen one after the other, each where it fits. -/
def FitAll : List Deed → Ledger → Prop
  | [], _ => True
  | d :: ds, l => d.Fits l ∧ FitAll ds (d.apply l)

def applyAll (ds : List Deed) (l : Ledger) : Ledger := ds.foldl (fun l d => d.apply l) l

@[simp] theorem applyAll_nil (l : Ledger) : applyAll [] l = l := rfl

@[simp] theorem applyAll_cons (d : Deed) (ds : List Deed) (l : Ledger) :
    applyAll (d :: ds) l = applyAll ds (d.apply l) := rfl

theorem applyAll_append (ds es : List Deed) (l : Ledger) :
    applyAll (ds ++ es) l = applyAll es (applyAll ds l) := List.foldl_append

theorem fitAll_append {ds es : List Deed} {l : Ledger} :
    FitAll (ds ++ es) l ↔ FitAll ds l ∧ FitAll es (applyAll ds l) := by
  induction ds generalizing l with
  | nil => simp [FitAll]
  | cons d ds ih => simp [FitAll, ih, and_assoc]

/-- What one deed keeps, a history keeps. -/
theorem FitAll.keeps {P : Ledger → Prop} (step : ∀ (d : Deed) l, d.Fits l → P l → P (d.apply l))
    {ds : List Deed} {l : Ledger} (h : FitAll ds l) (hl : P l) : P (applyAll ds l) := by
  induction ds generalizing l with
  | nil => exact hl
  | cons d ds ih => exact ih h.2 (step d l h.1 hl)

/-- What holds of no deeds and goes along with one more deed holds of every history and of the
ledger that it leaves. -/
theorem FitAll.induction {P : List Deed → Ledger → Prop} {l : Ledger} (start : P [] l)
    (step : ∀ ds d l', d.Fits l' → P ds l' → P (ds ++ [d]) (d.apply l'))
    {ds : List Deed} (h : FitAll ds l) : P ds (applyAll ds l) := by
  -- from the end: the deed that comes next is the one behind all others
  induction ds using List.reverseRecOn with
  | nil => exact start
  | append_singleton ds d ih =>
    obtain ⟨hds, hd, -⟩ := fitAll_append.1 h
    rw [applyAll_append]
    exact step ds d _ hd (ih hds)

/-! ## What a history says last -/

/-- What the deeds of a history say last. -/
def latest {α : Type} (f : Deed → Option α) (ds : List Deed) : Option α := ds.reverse.findSome? f

section
variable {α : Type} (f : Deed → Option α)

@[simp] theorem latest_nil : latest f [] = none := rfl

@[simp] theorem latest_append_singleton (ds : List Deed) (d : Deed) :
    latest f (ds ++ [d]) = (f d).or (latest f ds) := by
  rw [latest, List.reverse_append, List.reverse_singleton, List.singleton_append,
    List.findSome?_cons]
  cases f d <;> rfl

theorem latest_eq_none_iff {ds : List Deed} : latest f ds = none ↔ ∀ d ∈ ds, f d = none := by
  rw [latest, List.findSome?_eq_none_iff]
  simp

end

/-! ## Ledgers whose numbers are given out in turn -/

namespace Ledger

/-- The tables are the ledger's own, and no execution bears a number that is still to be given
out.  The rows may be any other. -/
structure IsKept (l : Ledger) : Prop where
  isMade : l.IsMade
  id_le : ∀ r ∈ l.executionRows, ∀ i ∈ r.id, i ≤ l.lastId

theorem IsMade.apply {l : Ledger} (h : l.IsMade) (d : Deed) : (d.apply l).IsMade := by
  cases d <;> rw [Deed.apply]
  case create => exact (h.mapExecutions _).withLastId _
  case start => exact (h.mapExecutions _).mapParameters _
  case complete => exact h.mapExecutions _
  case setExternalId => exact h.mapExecutions _
  case link => exact h.mapLinks _
  case acquire => exact h.mapLocks _
  case release => exact h.mapLocks _

theorem IsMade.applyAll {l : Ledger} (h : l.IsMade) (ds : List Deed) : (applyAll ds l).IsMade := by
  induction ds generalizing l with
  | nil => exact h
  | cons d ds ih => exact ih (h.apply d)

end Ledger

/-- A change that leaves the number of a row. -/
def KeepsId (change : ExecutionRow → ExecutionRow) : Prop := ∀ r, (change r).id = r.id

theorem changeAt_keepsId {id : Int} {change : ExecutionRow → ExecutionRow} (hc : KeepsId change) :
    KeepsId fun r => if r.id = some id then change r else r := by
  intro r
  dsimp only
  split
  · exact hc r
  · rfl

theorem map_id_changeAt {id : Int} {change : ExecutionRow → ExecutionRow} (hc : KeepsId change)
    (rows : List ExecutionRow) : (changeAt id change rows).map (·.id) = rows.map (·.id) := by
  rw [changeAt, List.map_map]
  exact List.map_congr_left fun r _ => changeAt_keepsId hc r

theorem startedRow_keepsId (now start : Instant) (s : Recording.Start) :
    KeepsId (Recording.startedRow now start s) := fun _ => rfl

theorem completedRow_keepsId (now endTime : Instant) (o : Recording.Outcome) :
    KeepsId (Recording.completedRow now endTime o) := fun _ => rfl

theorem relabelledRow_keepsId (now : Instant) (externalId : Option String) :
    KeepsId fun row => { row with externalId := externalId, lastUpdated := some now } :=
  fun _ => rfl

/-! ## Rows under a change -/

theorem Deed.rowOf_eq_head? (id : Int) (l : Ledger) : rowOf id l = (l.rowsOf id).head? :=
  List.head?_filter.symm

theorem Deed.rowOf_of_rowsOf {l : Ledger} {id : Int} {row : ExecutionRow}
    (hrow : l.rowsOf id = [row]) : rowOf id l = some row := by
  rw [rowOf_eq_head?, hrow]
  rfl

namespace Ledger.IsMade

variable {l : Ledger} {id i : Int}

theorem rowsOf_append (h : l.IsMade) (r : ExecutionRow) :
    (l.mapExecutions (· ++ [r])).rowsOf id =
      l.rowsOf id ++ if r.id = some id then [r] else [] := by
  rw [rowsOf, h.executionRows_mapExecutions, List.filter_append, rowsOf, List.filter_cons]
  simp

theorem rowsOf_changeAt (h : l.IsMade) {change : ExecutionRow → ExecutionRow}
    (hc : KeepsId change) :
    (l.mapExecutions (changeAt id change)).rowsOf id = (l.rowsOf id).map change := by
  rw [rowsOf, h.executionRows_mapExecutions, rowsOf, changeAt, List.filter_map]
  rw [List.filter_congr (q := fun r => r.id = some id)]
  · refine List.map_congr_left fun r hr => if_pos ?_
    simpa using (List.mem_filter.1 hr).2
  · intro r _
    rw [Function.comp_apply, changeAt_keepsId hc r]

theorem rowsOf_changeAt_of_ne (h : l.IsMade) {change : ExecutionRow → ExecutionRow}
    (hc : KeepsId change) (hne : i ≠ id) :
    (l.mapExecutions (changeAt i change)).rowsOf id = l.rowsOf id := by
  rw [rowsOf, h.executionRows_mapExecutions, rowsOf, changeAt, List.filter_map]
  rw [List.filter_congr (q := fun r => r.id = some id)]
  · refine (List.map_congr_left fun r hr => if_neg ?_).trans (List.map_id _)
    intro hi
    have hid : r.id = some id := by simpa using (List.mem_filter.1 hr).2
    exact hne (Option.some.inj (hi.symm.trans hid))
  · intro r _
    rw [Function.comp_apply, changeAt_keepsId hc r]

theorem rowOf_changeAt (h : l.IsMade) {change : ExecutionRow → ExecutionRow}
    (hc : KeepsId change) :
    Deed.rowOf id (l.mapExecutions (changeAt id change)) = (Deed.rowOf id l).map change := by
  rw [Deed.rowOf_eq_head?, h.rowsOf_changeAt hc, List.head?_map, ← Deed.rowOf_eq_head?]

end Ledger.IsMade

namespace Ledger.IsKept

variable {l : Ledger}

theorem made (tablePrefix : String) : (Ledger.made tablePrefix).IsKept :=
  ⟨.made _, fun r hr => by cases hr⟩

theorem of_ids {m : Ledger} (h : l.IsKept) (hm : m.IsMade)
    (ids : m.executionRows.map (·.id) = l.executionRows.map (·.id)) (last : m.lastId = l.lastId) :
    m.IsKept := by
  refine ⟨hm, fun r hr i hi => ?_⟩
  have hmem : r.id ∈ l.executionRows.map (·.id) := ids ▸ List.mem_map_of_mem hr
  obtain ⟨q, hq, he⟩ := List.mem_map.1 hmem
  rw [last]
  exact h.id_le q hq i (he ▸ hi)

theorem apply (h : l.IsKept) {d : Deed} (hf : d.Fits l) : (d.apply l).IsKept := by
  have hm := h.isMade.apply d
  cases d with
  | create id now taskName parentId externalId =>
    refine ⟨hm, fun r hr i hi => ?_⟩
    -- the new row bears the number behind the last one that was given out
    simp only [Deed.apply, executionRows_withLastId, h.isMade.executionRows_mapExecutions,
      List.mem_append, List.mem_singleton, lastId_withLastId] at hr ⊢
    rcases hr with hr | rfl
    · have := h.id_le r hr i hi
      have := hf.1
      omega
    · cases hi
      exact Int.le_refl _
  | start now startTime s =>
    refine h.of_ids hm ?_ rfl
    simp only [Deed.apply, executionRows_mapParameters, h.isMade.executionRows_mapExecutions]
    exact map_id_changeAt (startedRow_keepsId _ _ _) _
  | complete now endTime o =>
    refine h.of_ids hm ?_ rfl
    simp only [Deed.apply, h.isMade.executionRows_mapExecutions]
    exact map_id_changeAt (completedRow_keepsId _ _ _) _
  | setExternalId now id externalId =>
    refine h.of_ids hm ?_ rfl
    simp only [Deed.apply, h.isMade.executionRows_mapExecutions]
    exact map_id_changeAt (relabelledRow_keepsId _ _) _
  | link row => exact h.of_ids hm rfl rfl
  | acquire row => exact h.of_ids hm rfl rfl
  | release key region => exact h.of_ids hm rfl rfl

end Ledger.IsKept

end RunLedger
