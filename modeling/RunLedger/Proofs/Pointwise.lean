import Mathlib.Data.List.Forall2

/-!
# Lists that correspond member by member

Two lists of one length whose members are related, each to the one at the same place.  Mapping a
function that may fail gives such a list just where it fails on no member.

    as.mapM f = .ok bs ↔ List.Forall₂ (f · = .ok ·) as bs                     (mapM_eq_ok_iff)
    (∀ a ∈ as, ∃ b, R a b) → List.Forall₂ R as bs for some bs                  (exists_forall₂)
-/

namespace RunLedger

section
variable {α β : Type} {R : α → β → Prop} {as : List α} {bs : List β}

theorem exists_forall₂ (h : ∀ a ∈ as, ∃ b, R a b) : ∃ bs, List.Forall₂ R as bs := by
  induction as with
  | nil => exact ⟨[], .nil⟩
  | cons a as ih =>
    obtain ⟨ha, has⟩ := List.forall_mem_cons.1 h
    obtain ⟨b, hb⟩ := ha
    obtain ⟨bs, hbs⟩ := ih has
    exact ⟨b :: bs, .cons hb hbs⟩

theorem exists_mem_left (h : List.Forall₂ R as bs) {b : β} (hb : b ∈ bs) : ∃ a ∈ as, R a b := by
  induction h with
  | nil => cases hb
  | cons hab _ ih =>
    rcases List.mem_cons.1 hb with rfl | hb
    · exact ⟨_, List.mem_cons_self, hab⟩
    · obtain ⟨a, ha, hr⟩ := ih hb
      exact ⟨a, List.mem_cons_of_mem _ ha, hr⟩

theorem exists_mem_right (h : List.Forall₂ R as bs) {a : α} (ha : a ∈ as) : ∃ b ∈ bs, R a b :=
  exists_mem_left (List.Forall₂.flip h) ha

theorem pairwise_of_forall₂ {P : α → α → Prop} {Q : β → β → Prop} (h : List.Forall₂ R as bs)
    (hP : as.Pairwise P)
    (hPQ : ∀ a ∈ as, ∀ a' ∈ as, ∀ b b', R a b → R a' b' → P a a' → Q b b') : bs.Pairwise Q := by
  induction h with
  | nil => exact .nil
  | cons hab hrest ih =>
    obtain ⟨hhead, htail⟩ := List.pairwise_cons.1 hP
    refine List.pairwise_cons.2 ⟨fun b' hb' => ?_, ih htail fun a ha a' ha' => ?_⟩
    · obtain ⟨a', ha', hr⟩ := exists_mem_left hrest hb'
      exact hPQ _ List.mem_cons_self a' (List.mem_cons_of_mem _ ha') _ _ hab hr (hhead a' ha')
    · exact hPQ a (List.mem_cons_of_mem _ ha) a' (List.mem_cons_of_mem _ ha')

end

theorem mapM_eq_ok_iff {α β ε : Type} {f : α → Except ε β} {as : List α} {bs : List β} :
    as.mapM f = .ok bs ↔ List.Forall₂ (fun a b => f a = .ok b) as bs := by
  induction as generalizing bs with
  | nil =>
    rw [List.mapM_nil, List.forall₂_nil_left_iff]
    exact ⟨fun h => (Except.ok.inj h).symm, fun h => congrArg _ h.symm⟩
  | cons a as ih =>
    rw [List.mapM_cons, List.forall₂_cons_left_iff]
    constructor
    · intro h
      cases ha : f a with
      | error g =>
        rw [ha] at h
        cases h
      | ok b =>
        rw [ha] at h
        cases has : as.mapM f with
        | error g =>
          rw [has] at h
          cases h
        | ok bs =>
          rw [has] at h
          cases h
          exact ⟨b, bs, rfl, ih.1 has, rfl⟩
    · rintro ⟨b, bs, ha, has, rfl⟩
      rw [ha, ih.2 has]
      rfl

/-- What is read member by member as it was written is read back. -/
theorem mapM_map_eq_some {α β : Type} {f : β → Option α} {g : α → β} {as : List α}
    (h : ∀ a ∈ as, f (g a) = some a) : (as.map g).mapM f = some as := by
  induction as with
  | nil => rfl
  | cons a as ih =>
    obtain ⟨ha, has⟩ := List.forall_mem_cons.1 h
    rw [List.map_cons, List.mapM_cons, ha, ih has]
    rfl

end RunLedger
