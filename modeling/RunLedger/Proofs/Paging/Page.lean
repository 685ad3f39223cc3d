import Mathlib.Data.List.Basic
import RunLedger.Paging.Page

/-!
# Pages of a list

Pages of one size that make up a list: put one behind the other they are the list, and each of them
says how many there are, and whether another one follows.

    (range m).flatMap (fun k => (pages k).items) = items.take (m * size)     (flatMap_ofList)
    IsPaging size (fun k => ofList items k size) items                       (isPaging_ofList)
-/

namespace RunLedger.Page

variable {α : Type}

/-- The page of an index, where a list is cut into pages of one size. -/
def ofList (items : List α) (index size : Nat) : Page α :=
  ⟨(items.drop (index * size)).take size, items.length, index, size⟩

/-- Pages of one size that make up a list. -/
structure IsPaging (size : Nat) (pages : Nat → Page α) (items : List α) : Prop where
  total : ∀ k, (pages k).total = items.length
  totalPages_le_iff : ∀ k n : Nat, (pages k).totalPages ≤ n ↔ items.length ≤ n * size
  joined : ∀ k, ((List.range (pages k).totalPages.toNat).flatMap fun i => (pages i).items) = items
  full : ∀ k : Nat, k + 1 < (pages k).totalPages → (pages k).items.length = size
  last : ∀ k : Nat, k + 1 = (pages k).totalPages →
    1 ≤ (pages k).items.length ∧ (pages k).items.length ≤ size
  ne_nil_iff : ∀ k : Nat, (pages k).items ≠ [] ↔ k < (pages k).totalPages
  hasNext_iff : ∀ k, (pages k).hasNext = true ↔ (pages (k + 1)).items ≠ []

/-- No page has more items than it has room for. -/
theorem IsPaging.length_items_le {size : Nat} {pages : Nat → Page α} {items : List α}
    (h : IsPaging size pages items) (k : Nat) : (pages k).items.length ≤ size := by
  rcases Int.lt_trichotomy (k + 1) (pages k).totalPages with hlt | heq | hgt
  · exact Nat.le_of_eq (h.full k hlt)
  · exact (h.last k heq).2
  · have hnil : (pages k).items = [] := by
      by_contra hne
      have hlt := (h.ne_nil_iff k).1 hne
      omega
    rw [hnil]
    exact Nat.zero_le size

section
variable {items : List α} {index size : Nat}

/-- The page count is the quotient of length and size, rounded up. -/
theorem totalPages_ofList_le_iff (items : List α) (index : Nat) (hsize : 0 < size) (n : Int) :
    (ofList items index size).totalPages ≤ n ↔ (items.length : Int) ≤ n * size := by
  have hpos : (0 : Int) < size := by omega
  have hroom : ¬ ((ofList items index size).size ≤ 0) := Int.not_le.2 hpos
  have hcount : (ofList items index size).totalPages = -(-(items.length : Int) / size) := by
    rw [totalPages, if_neg hroom, ofList]
    exact congrArg _ (Int.fdiv_eq_ediv_of_nonneg _ (Int.le_of_lt hpos))
  have hle : -n ≤ -(items.length : Int) / size ↔ -n * size ≤ -(items.length : Int) :=
    Int.le_ediv_iff_mul_le hpos
  rw [Int.neg_mul] at hle
  rw [hcount]
  omega

theorem lt_totalPages_ofList_iff (items : List α) (index : Nat) (hsize : 0 < size) (n : Int) :
    n < (ofList items index size).totalPages ↔ n * size < (items.length : Int) := by
  rw [← Int.not_le, totalPages_ofList_le_iff items _ hsize, Int.not_le]

theorem totalPages_ofList_nonneg (items : List α) (index : Nat) (hsize : 0 < size) :
    0 ≤ (ofList items index size).totalPages := by
  have hone : -1 < (ofList items index size).totalPages := by
    rw [lt_totalPages_ofList_iff items _ hsize]
    omega
  omega

/-- Pages one behind the other are the beginning of the list. -/
theorem flatMap_ofList (items : List α) (size n : Nat) :
    ((List.range n).flatMap fun k => (ofList items k size).items) = items.take (n * size) := by
  induction n with
  | zero => simp
  | succ n ih =>
    rw [List.range_succ, List.flatMap_append, ih, List.flatMap_singleton, ofList, Nat.succ_mul,
      List.take_add]

theorem length_items_ofList :
    (ofList items index size).items.length = min size (items.length - index * size) := by
  rw [ofList, List.length_take, List.length_drop]

theorem ofList_ne_nil_iff (hsize : 0 < size) :
    (ofList items index size).items ≠ [] ↔ index * size < items.length := by
  rw [← List.length_pos_iff, length_items_ofList]
  omega

/-- The pages of a list make it up. -/
theorem isPaging_ofList (items : List α) (hsize : 0 < size) :
    IsPaging size (fun k => ofList items k size) items where
  total k := rfl
  totalPages_le_iff k n := by
    rw [totalPages_ofList_le_iff items _ hsize]
    norm_cast
  joined k := by
    have hnonneg := totalPages_ofList_nonneg items k hsize
    have hall : items.length ≤ (ofList items k size).totalPages.toNat * size := by
      have h := (totalPages_ofList_le_iff items k hsize _).1 (Int.le_refl _)
      rw [← Int.toNat_of_nonneg hnonneg] at h
      exact_mod_cast h
    rw [flatMap_ofList, List.take_of_length_le hall]
  full k h := by
    rw [lt_totalPages_ofList_iff items _ hsize] at h
    norm_cast at h
    rw [Nat.succ_mul] at h
    rw [length_items_ofList]
    omega
  last k h := by
    have hbefore : (k : Int) * size < items.length := by
      rw [← lt_totalPages_ofList_iff items k hsize]
      omega
    norm_cast at hbefore
    rw [length_items_ofList]
    omega
  ne_nil_iff k := by
    rw [ofList_ne_nil_iff hsize, lt_totalPages_ofList_iff items _ hsize]
    norm_cast
  hasNext_iff k := by
    have hindex : (ofList items k size).index = k := rfl
    rw [ofList_ne_nil_iff hsize, hasNext, decide_eq_true_eq,
      lt_totalPages_ofList_iff items _ hsize, hindex]
    norm_cast

end

end RunLedger.Page
