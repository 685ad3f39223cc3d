import Mathlib.Data.List.Basic
import Mathlib.Data.List.Nodup
import RunLedger.Link

/-!
# Lists in order, each member once

Repeated members are taken out and the others sorted.  What comes out depends on the members alone,
not on their order or how often they come.

    (as ++ bs).eraseDups =
      as.eraseDups ++ bs.eraseDups.filter (· ∉ as.eraseDups)           (eraseDups_append_eq_filter)
    (ascending ns).Pairwise (· < ·)                                    (pairwise_ascending)
    n ∈ ascending ns ↔ n ∈ ns                                          (mem_ascending)
    least? ns = some m ↔ m ∈ ns ∧ ∀ n ∈ ns, m ≤ n                       (least?_eq_some_iff)
    (∀ n, n ∈ ns ↔ n ∈ ms) → ascending ns = ascending ms               (ascending_congr)
-/

namespace RunLedger

section
variable {α : Type} [DecidableEq α]

/-- Induction as repetitions are taken out: behind its first member a list has others only. -/
theorem eraseDups_induction {P : List α → Prop} (nil : P [])
    (cons : ∀ a as, P (as.filter fun b => !b == a) → P (a :: as)) (as : List α) : P as := by
  induction h : as.length using Nat.strongRecOn generalizing as with
  | ind n ih =>
    cases as with
    | nil => exact nil
    | cons a as =>
      have hlength : (as.filter fun b => !b == a).length < n := by
        have := List.length_filter_le (fun b => !b == a) as
        rw [List.length_cons] at h
        omega
      exact cons a as (ih _ hlength _ rfl)

theorem nodup_eraseDups (as : List α) : as.eraseDups.Nodup := by
  induction as using eraseDups_induction with
  | nil => exact List.nodup_nil
  | cons a as ih =>
    rw [List.eraseDups_cons, List.nodup_cons]
    refine ⟨?_, ih⟩
    rw [List.mem_eraseDups, List.mem_filter]
    simp

/-- Of some members of a list the repetitions are taken out as they are of all. -/
theorem eraseDups_filter (p : α → Bool) (as : List α) :
    (as.filter p).eraseDups = as.eraseDups.filter p := by
  induction as using eraseDups_induction with
  | nil => rfl
  | cons a as ih =>
    rw [List.eraseDups_cons, List.filter_cons, List.filter_cons, ← ih, List.filter_filter]
    split
    · rw [List.eraseDups_cons, List.filter_filter]
      simp only [Bool.and_comm]
    · next ha =>
      -- the others of these members are all of them
      refine congrArg List.eraseDups (List.filter_congr fun b _ => ?_)
      cases hb : p b with
      | false => rfl
      | true =>
        have hne : ¬ b = a := by
          rintro rfl
          exact ha hb
        simp [hne]

/-- What stands behind a list adds the members that the list does not have. -/
theorem eraseDups_append_eq_filter (as bs : List α) :
    (as ++ bs).eraseDups = as.eraseDups ++ bs.eraseDups.filter (· ∉ as.eraseDups) := by
  rw [List.eraseDups_append, List.removeAll, eraseDups_filter]
  refine congrArg _ (List.filter_congr fun b _ => ?_)
  simp

theorem perm_eraseDups {as : List α} (h : as.Nodup) : as.eraseDups.Perm as :=
  (List.perm_ext_iff_of_nodup (nodup_eraseDups as) h).2 fun _ => List.mem_eraseDups

theorem mem_mergeSort_eraseDups {le : α → α → Bool} {as : List α} {a : α} :
    a ∈ as.eraseDups.mergeSort le ↔ a ∈ as := by
  rw [List.mem_mergeSort, List.mem_eraseDups]

theorem nodup_mergeSort_eraseDups (le : α → α → Bool) (as : List α) :
    (as.eraseDups.mergeSort le).Nodup :=
  (List.mergeSort_perm _ _).nodup_iff.2 (nodup_eraseDups as)

/-- What is sorted, each member once, is strictly in order. -/
theorem pairwise_mergeSort_eraseDups {le : α → α → Bool}
    (htrans : ∀ a b c, le a b = true → le b c = true → le a c = true)
    (htotal : ∀ a b, (le a b || le b a) = true) (as : List α) :
    (as.eraseDups.mergeSort le).Pairwise fun a b => le a b = true ∧ a ≠ b :=
  (List.pairwise_mergeSort htrans htotal _).and (nodup_mergeSort_eraseDups le as)

end

/-! ## Numbers -/

section
variable {ns ms : List Int} {n : Int}

theorem mem_ascending : n ∈ ascending ns ↔ n ∈ ns := mem_mergeSort_eraseDups

theorem pairwise_ascending (ns : List Int) : (ascending ns).Pairwise (· < ·) := by
  have htrans : ∀ a b c : Int, decide (a ≤ b) = true → decide (b ≤ c) = true →
      decide (a ≤ c) = true := by
    intro a b c hab hbc
    exact decide_eq_true (Int.le_trans (of_decide_eq_true hab) (of_decide_eq_true hbc))
  have htotal : ∀ a b : Int, (decide (a ≤ b) || decide (b ≤ a)) = true := by
    intro a b
    simpa using Int.le_total a b
  refine (pairwise_mergeSort_eraseDups htrans htotal ns).imp fun hab => ?_
  have hle := of_decide_eq_true hab.1
  have hne := hab.2
  omega

theorem ascending_congr (h : ∀ n, n ∈ ns ↔ n ∈ ms) : ascending ns = ascending ms := by
  have hperm : (ascending ns).Perm (ascending ms) :=
    (List.perm_ext_iff_of_nodup (nodup_mergeSort_eraseDups _ ns)
      (nodup_mergeSort_eraseDups _ ms)).2 fun n =>
        mem_ascending.trans ((h n).trans mem_ascending.symm)
  exact hperm.eq_of_pairwise (fun a b _ _ hab hba => absurd hba (by omega))
    (pairwise_ascending ns) (pairwise_ascending ms)

theorem least?_congr (h : ∀ n, n ∈ ns ↔ n ∈ ms) : least? ns = least? ms := by
  rw [least?, least?, ascending_congr h]

theorem least?_eq_some_iff {m : Int} : least? ns = some m ↔ m ∈ ns ∧ ∀ n ∈ ns, m ≤ n := by
  have hpairwise := pairwise_ascending ns
  rw [least?]
  -- the least member stands first among the members in ascending order
  cases hsorted : ascending ns with
  | nil =>
    have hnone : ∀ n, n ∉ ns := fun n hn => by
      have hmem := mem_ascending.2 hn
      rw [hsorted] at hmem
      cases hmem
    exact ⟨nofun, fun h => absurd h.1 (hnone m)⟩
  | cons k rest =>
    have hk : k ∈ ns := mem_ascending.1 (hsorted ▸ List.mem_cons_self)
    have hleast : ∀ n ∈ ns, k ≤ n := fun n hn => by
      have hmem := mem_ascending.2 hn
      rw [hsorted] at hmem hpairwise
      rcases List.mem_cons.1 hmem with rfl | hrest
      · exact Int.le_refl n
      · exact Int.le_of_lt ((List.pairwise_cons.1 hpairwise).1 n hrest)
    constructor
    · intro h
      cases h
      exact ⟨hk, hleast⟩
    · rintro ⟨hm, hall⟩
      exact congrArg some (Int.le_antisymm (hleast m hm) (hall k hk))

theorem least?_eq_none_iff : least? ns = none ↔ ns = [] := by
  rw [least?, List.head?_eq_none_iff]
  constructor
  · intro h
    refine List.eq_nil_iff_forall_not_mem.2 fun n hn => ?_
    have hmem := mem_ascending.2 hn
    rw [h] at hmem
    cases hmem
  · rintro rfl
    simp [ascending]

end

end RunLedger
