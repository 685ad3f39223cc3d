import RunLedger.Failure

/-!
# Windows of rows

A window starts after `offset` rows and spans `limit` of them.  Its rows can be taken by skipping
and counting, or by numbering all rows from 1 and keeping a range of numbers.

    numbered w rows = slice w rows                              (numbered_eq_slice)
-/

namespace RunLedger

/-- A place among ordered rows: how many rows to skip, and how many to take. -/
structure Window where
  offset : Nat
  limit : Nat
  limit_pos : 0 < limit
deriving Repr, DecidableEq

namespace Window

/-- The window with the given offset and limit, if they make sense. -/
def of? (offset limit : Int) : Except BadArgument Window :=
  if offset < 0 then .error (.offsetNegative offset)
  else if h : limit ≤ 0 then .error (.limitNotPositive limit)
  else .ok ⟨offset.toNat, limit.toNat, by omega⟩

/-- The number of the window's first row, counted from 1. -/
def first (w : Window) : Nat := w.offset + 1

/-- The number after that of the window's last row. -/
def next (w : Window) : Nat := w.offset + 1 + w.limit

/-- Rows taken by skipping and counting. -/
def slice {α : Type} (w : Window) (rows : List α) : List α := (rows.drop w.offset).take w.limit

/-- Rows taken by their numbers, counted from 1. -/
def numbered {α : Type} (w : Window) (rows : List α) : List α :=
  ((rows.zipIdx 1).filter fun r => w.first ≤ r.2 && r.2 < w.next).map (·.1)

/-! ## Lemmas -/

theorem filter_zipIdx_eq {α : Type} (a b k : Nat) (rows : List α) :
    ((rows.zipIdx k).filter fun r => a ≤ r.2 && r.2 < b).map (·.1) =
      (rows.drop (a - k)).take (b - max a k) := by
  induction rows generalizing k with
  | nil => simp
  | cons x xs ih =>
    rw [List.zipIdx_cons, List.filter_cons]
    by_cases ha : a ≤ k
    · by_cases hb : k < b
      · have h1 : a - k = 0 := by omega
        have h2 : a - (k + 1) = 0 := by omega
        have h3 : b - max a k = (b - max a (k + 1)) + 1 := by omega
        rw [h1, h3]
        simp [ha, hb, ih, h2]
      · have h1 : b - max a k = 0 := by omega
        have h2 : b - max a (k + 1) = 0 := by omega
        simp [hb, ih, h1, h2]
    · have h1 : a - k = (a - (k + 1)) + 1 := by omega
      have h2 : max a (k + 1) = max a k := by omega
      simp [ha, ih, h1, h2]

/-- Both ways to take a window's rows give the same rows in the same order. -/
theorem numbered_eq_slice {α : Type} (w : Window) (rows : List α) :
    w.numbered rows = w.slice rows := by
  have h1 : w.first - 1 = w.offset := by simp [first]
  have h2 : w.next - max w.first 1 = w.limit := by simp only [next, first]; omega
  unfold numbered slice
  rw [filter_zipIdx_eq, h1, h2]

end Window

end RunLedger
