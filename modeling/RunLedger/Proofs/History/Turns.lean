import Mathlib.Data.List.Induction
import RunLedger.Proofs.History.Locking

/-!
# The turns of a lock

What a history says about the lock of a key in a region: it is taken and given back by turns,
beginning with a taking, and it is held by whoever took it last unless it was given back since.
The rows of a ledger say the same: the pair has one row while it is held, and else none.

    l.locksOf key region = (lockLeft key region ds).toList                 (Guards.rows)
    l.locksOf key region = own.toList → FitAll ds l → (applyAll ds l).locksOf key region =
      ((latest (Deed.turnOf key region) ds).getD own).toList               (FitAll.locksOf)
    Alternates false (ds.filterMap (Deed.turnOf key region))               (Guards.alternates)
-/

namespace RunLedger

namespace Deed

/-- The turn of a pair's lock: it is taken with a row, or given back. -/
def turnOf (key region : String) : Deed → Option (Option LockRow)
  | acquire row => if Lock.isFor key region row then some (some row) else none
  | release k r => if k = key ∧ r = region then some none else none
  | _ => none

end Deed

/-- Turns that alternate, beginning with a taking unless the lock is held. -/
def Alternates : (held : Bool) → List (Option LockRow) → Prop
  | _, [] => True
  | held, turn :: turns => turn.isSome = !held ∧ Alternates turn.isSome turns

/-- The row that a history leaves to a pair: that of the last taking, if it was not given back. -/
def lockLeft (key region : String) (ds : List Deed) : Option LockRow :=
  (latest (Deed.turnOf key region) ds).join

theorem latest_eq_getLast? {α : Type} (f : Deed → Option α) (ds : List Deed) :
    latest f ds = (ds.filterMap f).getLast? := by
  induction ds using List.reverseRecOn with
  | nil => rfl
  | append_singleton ds d ih =>
    rw [latest_append_singleton, ih, List.filterMap_append, List.filterMap_cons]
    cases f d <;> simp

/-- Whether a lock is held after some turns. -/
def heldAfter (held : Bool) (turns : List (Option LockRow)) : Bool :=
  (turns.getLast?.map Option.isSome).getD held

theorem heldAfter_cons (held : Bool) (turn : Option LockRow) (turns : List (Option LockRow)) :
    heldAfter held (turn :: turns) = heldAfter turn.isSome turns := by
  cases turns with
  | nil => rfl
  | cons next turns =>
    rw [heldAfter, heldAfter, List.getLast?_cons_cons,
      List.getLast?_eq_some_getLast (List.cons_ne_nil _ _), Option.map_some, Option.getD_some,
      Option.getD_some]

theorem alternates_append_singleton {held : Bool} {turns : List (Option LockRow)}
    {turn : Option LockRow} :
    Alternates held (turns ++ [turn]) ↔
      Alternates held turns ∧ turn.isSome = !heldAfter held turns := by
  induction turns generalizing held with
  | nil => simp [Alternates, heldAfter]
  | cons next turns ih =>
    rw [List.cons_append, Alternates, Alternates, ih, heldAfter_cons, and_assoc]

theorem heldAfter_turns (key region : String) (ds : List Deed) :
    heldAfter false (ds.filterMap (Deed.turnOf key region)) = (lockLeft key region ds).isSome := by
  rw [heldAfter, lockLeft, latest_eq_getLast?]
  cases (ds.filterMap (Deed.turnOf key region)).getLast? with
  | none => rfl
  | some turn => cases turn <;> rfl

/-! ## The rows of a pair -/

namespace Ledger

/-- The lock rows of a key in a region. -/
def locksOf (key region : String) (l : Ledger) : List LockRow :=
  l.lockRows.filter (Lock.isFor key region)

theorem lockOf_eq_head? (key region : String) (l : Ledger) :
    l.lockOf key region = (l.locksOf key region).head? := List.head?_filter.symm

theorem locksOf_eq_nil_iff {key region : String} {l : Ledger} :
    l.locksOf key region = [] ↔ l.isHeld key region = false := by
  rw [← lockOf_eq_none_iff, lockOf_eq_head?, List.head?_eq_none_iff]

end Ledger

theorem Lock.isFor_iff {key region : String} {r : LockRow} :
    Lock.isFor key region r = true ↔ r.key = key ∧ r.region = region := by
  simp [Lock.isFor]

/-- A row that is put behind the others while its pair is free is the only one of the pair. -/
theorem Ledger.locksOf_of_append {key region : String} {l m : Ledger} {row : LockRow}
    (hfor : Lock.isFor key region row = true) (hfree : l.isHeld key region = false)
    (h : m.lockRows = l.lockRows ++ [row]) : m.locksOf key region = [row] := by
  have hnone : l.lockRows.filter (Lock.isFor key region) = [] := locksOf_eq_nil_iff.2 hfree
  rw [locksOf, h, List.filter_append, hnone, List.nil_append, List.filter_cons_of_pos hfor,
    List.filter_nil]

/-- The lock rows of a pair say what a history says. -/
structure Guards (key region : String) (ds : List Deed) (l : Ledger) : Prop where
  isMade : l.IsMade
  rows : l.locksOf key region = (lockLeft key region ds).toList
  alternates : Alternates false (ds.filterMap (Deed.turnOf key region))

namespace Guards

variable {key region : String} {ds : List Deed} {l : Ledger} {d : Deed}

theorem made (key region tablePrefix : String) : Guards key region [] (Ledger.made tablePrefix) :=
  ⟨.made _, rfl, trivial⟩

theorem lockOf_eq (h : Guards key region ds l) : l.lockOf key region = lockLeft key region ds := by
  rw [Ledger.lockOf_eq_head?, h.rows]
  cases lockLeft key region ds <;> rfl

theorem isHeld_eq (h : Guards key region ds l) :
    l.isHeld key region = (lockLeft key region ds).isSome := by
  rw [Ledger.isHeld_eq_isSome, h.lockOf_eq]

theorem length_rows (h : Guards key region ds l) : (l.locksOf key region).length ≤ 1 := by
  rw [h.rows]
  cases lockLeft key region ds <;> simp

/-- A deed that is no turn of the pair's lock leaves its rows. -/
theorem rows_of_noTurn (hm : l.IsMade) (hd : Deed.turnOf key region d = none) :
    (d.apply l).locksOf key region = l.locksOf key region := by
  cases d with
  | acquire row =>
    have hother : Lock.isFor key region row = false := by
      cases h : Lock.isFor key region row with
      | false => rfl
      | true => simp [Deed.turnOf, h] at hd
    rw [Ledger.locksOf, Deed.apply, hm.lockRows_mapLocks, List.filter_append]
    simp [hother, Ledger.locksOf]
  | release k r =>
    have hother : ¬ (k = key ∧ r = region) := fun h => by simp [Deed.turnOf, h] at hd
    rw [Ledger.locksOf, Deed.apply, hm.lockRows_mapLocks, List.filter_filter, Ledger.locksOf]
    -- a row of the pair is not one of the other pair whose rows are taken away
    refine List.filter_congr fun row _ => ?_
    cases h : Lock.isFor key region row with
    | false => rfl
    | true =>
      obtain ⟨rfl, rfl⟩ := Lock.isFor_iff.1 h
      have hne : Lock.isFor k r row = false := by
        rw [Bool.eq_false_iff]
        exact fun hk => hother ((Lock.isFor_iff.1 hk).imp Eq.symm Eq.symm)
      rw [hne]
      rfl
  | _ => rfl

/-- A deed that fits and is a turn of the pair's lock leaves the turn's rows; it takes the lock
where it was free, and gives it back where it was held. -/
theorem rows_of_turn (hm : l.IsMade) (hf : d.Fits l) {turn : Option LockRow}
    (hd : Deed.turnOf key region d = some turn) :
    (d.apply l).locksOf key region = turn.toList ∧ turn.isSome = !l.isHeld key region := by
  cases d with
  | acquire row =>
    have hfor : Lock.isFor key region row = true := by
      by_contra hne
      simp [Deed.turnOf, hne] at hd
    obtain ⟨rfl, rfl⟩ := Lock.isFor_iff.1 hfor
    have hturn : turn = some row := by simpa [Deed.turnOf, hfor] using hd.symm
    have hfree : l.isHeld row.key row.region = false := hf
    subst hturn
    constructor
    · exact Ledger.locksOf_of_append hfor hfree (hm.lockRows_mapLocks _)
    · rw [hfree]
      rfl
  | release k r =>
    have hpair : k = key ∧ r = region := by
      by_contra hne
      simp [Deed.turnOf, hne] at hd
    obtain ⟨rfl, rfl⟩ := hpair
    have hturn : turn = none := by simpa [Deed.turnOf] using hd.symm
    have hheld : l.isHeld k r = true := hf
    subst hturn
    constructor
    · rw [Ledger.locksOf, Deed.apply, hm.lockRows_mapLocks, List.filter_filter]
      simp
    · rw [hheld]
      rfl
  | _ => cases hd

/-- One more deed that fits takes the lock where it was free, gives it back where it was held, or
leaves it. -/
theorem append (h : Guards key region ds l) (hf : d.Fits l) :
    Guards key region (ds ++ [d]) (d.apply l) := by
  cases hd : Deed.turnOf key region d with
  | none =>
    refine ⟨h.isMade.apply d, ?_, ?_⟩
    · rw [rows_of_noTurn h.isMade hd, h.rows, lockLeft, lockLeft, latest_append_singleton, hd,
        Option.none_or]
    · simpa [List.filterMap_cons, hd] using h.alternates
  | some turn =>
    obtain ⟨hrows, hturn⟩ := rows_of_turn h.isMade hf hd
    refine ⟨h.isMade.apply d, ?_, ?_⟩
    · rw [hrows, lockLeft, latest_append_singleton, hd]
      rfl
    · rw [List.filterMap_append, List.filterMap_cons, hd]
      refine alternates_append_singleton.2 ⟨h.alternates, ?_⟩
      rw [heldAfter_turns, hturn, h.isHeld_eq]

end Guards

/-- What a history leaves of the rows of a pair: those of the last turn, or those before if it has
no turn of the pair. -/
theorem FitAll.locksOf {key region : String} {ds : List Deed} {l : Ledger} (h : FitAll ds l)
    (hm : l.IsMade) {own : Option LockRow} (hown : l.locksOf key region = own.toList) :
    (applyAll ds l).locksOf key region =
      ((latest (Deed.turnOf key region) ds).getD own).toList := by
  -- the last turn of the pair is the one that counts
  refine (FitAll.induction (P := fun ds l' => l'.IsMade ∧ l'.locksOf key region =
    ((latest (Deed.turnOf key region) ds).getD own).toList) ⟨hm, hown⟩
    (fun ds d l' hd ih => ⟨ih.1.apply d, ?_⟩) h).2
  rw [latest_append_singleton]
  cases hturn : Deed.turnOf key region d with
  | none => rw [Guards.rows_of_noTurn ih.1 hturn, ih.2, Option.none_or]
  | some turn => rw [(Guards.rows_of_turn ih.1 hd hturn).1, Option.some_or, Option.getD_some]

/-- A ledger guards every pair as its history from the beginning says. -/
theorem guards_of_fitAll (key region : String) {tablePrefix : String} {ds : List Deed}
    (h : FitAll ds (Ledger.made tablePrefix)) :
    Guards key region ds (applyAll ds (Ledger.made tablePrefix)) :=
  FitAll.induction (.made key region tablePrefix) (fun _ _ _ hd ih => ih.append hd) h

end RunLedger
