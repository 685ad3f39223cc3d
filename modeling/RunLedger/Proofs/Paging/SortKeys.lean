import RunLedger.Paging.SortKey
import RunLedger.Proofs.Pointwise
import RunLedger.Proofs.Text.Trim

/-!
# Directions and sort keys

A direction is given as such or by a word for it, in any case and between blanks.  Only texts are
words: any other value is written with a digit, a point, a sign or a bracket, or is one of a few
words that mean no direction.  The sort keys are what the caller gives, one by one and in order.

    ofWord? v.display = some o → v = .text s for some s                    (exists_text_of_ofWord?)
    c.resolve column = .ok o ↔ c.Means o                                         (resolve_eq_ok_iff)
    ofChoices choices = .ok keys ↔ the keys are those given                    (ofChoices_eq_ok_iff)
-/

namespace RunLedger

/-! ## Words for a direction -/

namespace SortOrder

/-- The words for a direction. -/
def words : SortOrder → List String
  | ascending => ["ASC", "ASCENDING"]
  | descending => ["DESC", "DESCENDING"]

theorem ofWord?_eq_some_iff {s : String} {o : SortOrder} :
    ofWord? s = some o ↔ Text.uppered (Text.trimmed s) ∈ o.words := by
  have hapart : ∀ w ∈ ascending.words, w ∉ descending.words := by decide
  unfold ofWord?
  generalize Text.uppered (Text.trimmed s) = word
  cases o <;> grind [words]

/-- A character that neither trimming nor upper case takes from a text, and that no word has. -/
def IsStray (c : Char) : Prop :=
  Text.isBlank c = false ∧ Text.upperChar c = [c] ∧
    ∀ w ∈ ascending.words ++ descending.words, c ∉ w.toList

instance (c : Char) : Decidable (IsStray c) := inferInstanceAs (Decidable (_ ∧ _ ∧ _))

theorem isStray_of_isDigit {c : Char} (h : c.isDigit = true) : IsStray c := by
  have hdigits : ∀ n, n < 10 → IsStray (Char.ofNat (48 + n)) := by decide +kernel
  have hrange : 48 ≤ c.toNat ∧ c.toNat ≤ 57 := by
    simpa [Char.isDigit, UInt32.le_iff_toNat_le] using h
  have hstray := hdigits (c.toNat - 48) (by omega)
  rwa [Nat.add_sub_cancel' hrange.1, Char.ofNat_toNat] at hstray

theorem ofWord?_of_stray {s : String} {c : Char} (h : IsStray c) (hc : c ∈ s.toList) :
    ofWord? s = none := by
  obtain ⟨hink, hupper, hnone⟩ := h
  cases hword : ofWord? s with
  | none => rfl
  | some o =>
    have hmem : c ∈ (Text.uppered (Text.trimmed s)).toList := by
      rw [Text.uppered, Text.trimmed, String.toList_ofList, String.toList_ofList]
      refine List.mem_flatMap.2 ⟨c, Text.mem_trim_of_not_blank hc hink, ?_⟩
      rw [hupper]
      exact List.mem_singleton_self c
    have hwords : o.words ⊆ ascending.words ++ descending.words := by
      cases o <;> simp
    exact absurd hmem (hnone _ (hwords (ofWord?_eq_some_iff.1 hword)))

end SortOrder

/-! ## Values that are no words -/

theorem exists_digit_mem_toString (n : Nat) : ∃ c ∈ (toString n).toList, c.isDigit = true := by
  rw [Nat.toString_eq_repr, Nat.toList_repr]
  obtain ⟨c, hc⟩ := List.exists_mem_of_ne_nil _ (Nat.toDigits_ne_nil (n := n) (b := 10))
  exact ⟨c, hc, Nat.isDigit_of_mem_toDigits (by decide) (by decide) hc⟩

namespace Binary64

theorem exists_stray_mem_decimalText (digits : List Char) (places : Int) :
    ∃ c, SortOrder.IsStray c ∧ c ∈ (decimalText digits places).toList := by
  unfold decimalText
  split
  · refine ⟨'.', by decide +kernel, ?_⟩
    rw [String.toList_ofList, positional]
    exact List.mem_append_right _ List.mem_cons_self
  · unfold exponentText
    by_cases hsmall : places - 1 < 0
    · exact ⟨'-', by decide +kernel, by simp [hsmall]⟩
    · exact ⟨'+', by decide +kernel, by simp [hsmall]⟩

theorem ofWord?_append_decimalText (sign : String) (digits : List Char) (places : Int) :
    SortOrder.ofWord? (sign ++ decimalText digits places) = none := by
  obtain ⟨c, hstray, hc⟩ := exists_stray_mem_decimalText digits places
  refine SortOrder.ofWord?_of_stray hstray ?_
  rw [String.toList_append]
  exact List.mem_append_right _ hc

theorem ofWord?_text (x : Binary64) : SortOrder.ofWord? x.text = none := by
  cases x with
  | finite negative m e => exact ofWord?_append_decimalText _ _ _
  | infinite negative => cases negative <;> decide +kernel
  | undefined => decide +kernel

end Binary64

namespace SortOrder

/-- Only a text is a word for a direction. -/
theorem exists_text_of_ofWord? {v : Value} {o : SortOrder} (h : ofWord? v.display = some o) :
    ∃ s, v = .text s := by
  have hnone (hstray : ofWord? v.display = none) : ∃ s, v = .text s := by
    rw [hstray] at h
    cases h
  -- whatever is no text is shown with a character that no word for a direction has
  cases v with
  | null => exact hnone (by decide +kernel)
  | bool b => exact hnone (by cases b <;> decide +kernel)
  | int n =>
    obtain ⟨c, hc, hdigit⟩ := exists_digit_mem_toString n.natAbs
    refine hnone (ofWord?_of_stray (isStray_of_isDigit hdigit) ?_)
    cases n with
    | ofNat m => exact hc
    | negSucc m =>
      have hsign : Value.display (.int (.negSucc m)) = "-" ++ toString (m + 1) := rfl
      rw [hsign, String.toList_append]
      exact List.mem_append_right _ hc
  | real x => exact hnone x.ofWord?_text
  | moment m =>
    obtain ⟨c, hc, hdigit⟩ := (Option.any_eq_true _ _).1 m.digit_first
    exact hnone (ofWord?_of_stray (isStray_of_isDigit hdigit) (List.mem_of_head? hc))
  | text s => exact ⟨s, rfl⟩
  | list items =>
    refine hnone (ofWord?_of_stray (c := '[') (by decide +kernel) ?_)
    simp [Value.display, Value.literal]
  | map entries =>
    refine hnone (ofWord?_of_stray (c := '\x7b') (by decide +kernel) ?_)
    simp [Value.display, Value.literal]

end SortOrder

/-! ## Sort keys -/

/-- What a choice of a direction means: a direction stands for itself, and a text for the one of
which it is a word. -/
inductive OrderChoice.Means : OrderChoice → SortOrder → Prop where
  | order (o : SortOrder) : Means (.order o) o
  | word {s : String} {o : SortOrder} (h : Text.uppered (Text.trimmed s) ∈ o.words) :
    Means (.value (.text s)) o

theorem OrderChoice.resolve_eq_ok_iff {c : OrderChoice} {column : String} {o : SortOrder} :
    c.resolve column = .ok o ↔ c.Means o := by
  constructor
  · intro h
    cases c with
    | order p =>
      cases h
      exact .order o
    | value v =>
      rw [resolve] at h
      split at h
      · next p hword =>
        cases h
        obtain ⟨s, rfl⟩ := SortOrder.exists_text_of_ofWord? hword
        exact .word (SortOrder.ofWord?_eq_some_iff.1 hword)
      · cases h
  · rintro (_ | hword)
    · rfl
    · rw [resolve, Value.display, SortOrder.ofWord?_eq_some_iff.2 hword]

namespace SortKey

/-- The sort key that a caller gives: the column trimmed and not blank, the direction as meant. -/
structure IsGiven (given : String × OrderChoice) (k : SortKey) : Prop where
  column : k.column = Text.trimmed given.1
  ne : k.column ≠ ""
  order : given.2.Means k.order

theorem ofChoice_eq_ok_iff {given : String × OrderChoice} {k : SortKey} :
    ofChoice given = .ok k ↔ IsGiven given k := by
  unfold ofChoice
  dsimp only
  constructor
  · intro h
    split at h
    · cases h
    · next hne =>
      cases horder : given.2.resolve (Text.trimmed given.1) with
      | error e =>
        rw [horder] at h
        cases h
      | ok o =>
        rw [horder] at h
        cases h
        exact ⟨rfl, hne, OrderChoice.resolve_eq_ok_iff.1 horder⟩
  · rintro ⟨hcolumn, hne, horder⟩
    rw [hcolumn] at hne
    rw [if_neg hne, OrderChoice.resolve_eq_ok_iff.2 horder, ← hcolumn]
    rfl

theorem ofChoices_eq_ok_iff {choices : List (String × OrderChoice)} {keys : List SortKey} :
    ofChoices choices = .ok keys ↔ List.Forall₂ IsGiven choices keys := by
  rw [ofChoices, mapM_eq_ok_iff]
  simp only [ofChoice_eq_ok_iff]

theorem exists_isGiven_iff {given : String × OrderChoice} :
    (∃ k, IsGiven given k) ↔ Text.trimmed given.1 ≠ "" ∧ ∃ o, given.2.Means o := by
  constructor
  · rintro ⟨k, hcolumn, hne, horder⟩
    exact ⟨hcolumn ▸ hne, k.order, horder⟩
  · rintro ⟨hne, o, horder⟩
    exact ⟨⟨Text.trimmed given.1, o⟩, rfl, hne, horder⟩

theorem exists_ofChoices_iff {choices : List (String × OrderChoice)} :
    (∃ keys, ofChoices choices = .ok keys) ↔
      ∀ given ∈ choices, Text.trimmed given.1 ≠ "" ∧ ∃ o, given.2.Means o := by
  simp only [ofChoices_eq_ok_iff, ← exists_isGiven_iff]
  constructor
  · rintro ⟨keys, hkeys⟩ given hmem
    obtain ⟨k, -, hk⟩ := exists_mem_right hkeys hmem
    exact ⟨k, hk⟩
  · exact exists_forall₂

end SortKey

end RunLedger
