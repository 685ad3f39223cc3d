import RunLedger.Text.Blank

/-!
# Trimmed texts

Trimming takes blanks from the ends of a text, and nothing where the text begins and ends with
characters that are not blank.  Blanks added at the ends do not matter.

    trim (blanks ++ cs) = trim cs, trim (cs ++ blanks) = trim cs
                                                            (trim_blank_append, trim_append_blank)
    trimRight (a ++ cs) = a ++ trimRight cs, if cs is not blank
                                                            (trimRight_append_of_hasInk)
-/

namespace RunLedger.Text

variable {a l r cs : List Char}

/-- A text with a character that is not blank. -/
def HasInk (cs : List Char) : Prop := ∃ c ∈ cs, isBlank c = false

theorem not_hasInk_iff : ¬ HasInk cs ↔ ∀ c ∈ cs, isBlank c = true := by
  simp [HasInk]

theorem HasInk.append_left (h : HasInk cs) (a : List Char) : HasInk (a ++ cs) := by
  obtain ⟨c, hc, hink⟩ := h
  exact ⟨c, List.mem_append_right a hc, hink⟩

theorem trim_ne_nil_iff : trim cs ≠ [] ↔ HasInk cs := by
  rw [ne_eq, trim_eq_nil_iff, ← not_hasInk_iff, Classical.not_not]

/-! ## The left end -/

theorem trimLeft_blank_append (h : ∀ c ∈ l, isBlank c = true) :
    trimLeft (l ++ cs) = trimLeft cs := List.dropWhile_append_of_pos h

theorem trimLeft_append_of_hasInk (h : HasInk cs) (r : List Char) :
    trimLeft (cs ++ r) = trimLeft cs ++ r := by
  have hleft : ¬ (cs.dropWhile isBlank).isEmpty = true := by
    rw [List.isEmpty_iff]
    intro hnil
    obtain ⟨c, hc, hink⟩ := h
    rw [dropWhile_eq_nil hnil c hc] at hink
    cases hink
  rw [trimLeft, List.dropWhile_append, if_neg hleft, trimLeft]

theorem exists_blank_append_trimLeft (cs : List Char) :
    ∃ l, (∀ c ∈ l, isBlank c = true) ∧ cs = l ++ trimLeft cs :=
  ⟨cs.takeWhile isBlank, List.all_eq_true.1 List.all_takeWhile,
    (List.takeWhile_append_dropWhile (p := isBlank)).symm⟩

theorem trimLeft_of_not_blank {c : Char} (hc : isBlank c = false) (cs : List Char) :
    trimLeft (c :: cs) = c :: cs := by
  rw [trimLeft, List.dropWhile_cons_of_neg (by rw [hc]; decide)]

/-! ## The right end -/

theorem trimRight_append_blank (h : ∀ c ∈ r, isBlank c = true) :
    trimRight (cs ++ r) = trimRight cs := by
  have hr : ∀ c ∈ r.reverse, isBlank c = true := fun c hc => h c (List.mem_reverse.1 hc)
  rw [trimRight, List.reverse_append, List.dropWhile_append_of_pos hr, trimRight]

theorem trimRight_append_of_hasInk (h : HasInk cs) (a : List Char) :
    trimRight (a ++ cs) = a ++ trimRight cs := by
  have hink : HasInk cs.reverse := by
    obtain ⟨c, hc, hink⟩ := h
    exact ⟨c, List.mem_reverse.2 hc, hink⟩
  have hleft := trimLeft_append_of_hasInk hink a.reverse
  rw [trimLeft, trimLeft] at hleft
  rw [trimRight, List.reverse_append, hleft, List.reverse_append, List.reverse_reverse, trimRight]

theorem length_trimRight_le (cs : List Char) : (trimRight cs).length ≤ cs.length := by
  rw [trimRight, List.length_reverse]
  exact Nat.le_trans (List.dropWhile_sublist _).length_le (Nat.le_of_eq List.length_reverse)

/-! ## Both ends -/

theorem trim_blank_append (h : ∀ c ∈ l, isBlank c = true) : trim (l ++ cs) = trim cs := by
  rw [trim, trimLeft_blank_append h, trim]

theorem trim_append_blank (h : ∀ c ∈ r, isBlank c = true) : trim (cs ++ r) = trim cs := by
  by_cases hink : HasInk cs
  · rw [trim, trimLeft_append_of_hasInk hink, trimRight_append_blank h, trim]
  · rw [not_hasInk_iff] at hink
    rw [trim_eq_nil_iff.2 hink, trim_eq_nil_iff]
    exact List.forall_mem_append.2 ⟨hink, h⟩

theorem exists_trimRight_append_blank (cs : List Char) :
    ∃ r, (∀ c ∈ r, isBlank c = true) ∧ cs = trimRight cs ++ r := by
  obtain ⟨l, hl, hcs⟩ := exists_blank_append_trimLeft cs.reverse
  refine ⟨l.reverse, fun c hc => hl c (List.mem_reverse.1 hc), ?_⟩
  rw [trimRight, ← List.reverse_append]
  rw [trimLeft] at hcs
  rw [← hcs, List.reverse_reverse]

theorem trim_trimRight (cs : List Char) : trim (trimRight cs) = trim cs := by
  obtain ⟨r, hr, hcs⟩ := exists_trimRight_append_blank cs
  have happend : trim (trimRight cs ++ r) = trim (trimRight cs) := trim_append_blank hr
  rw [← hcs] at happend
  exact happend.symm

theorem mem_trim_of_not_blank {c : Char} (h : c ∈ cs) (hc : isBlank c = false) : c ∈ trim cs := by
  have hkept {l : List Char} (hl : ∀ d ∈ l, isBlank d = true) : c ∉ l := by
    intro hmem
    rw [hl c hmem] at hc
    cases hc
  obtain ⟨l, hl, hcs⟩ := exists_blank_append_trimLeft cs
  obtain ⟨r, hr, hleft⟩ := exists_trimRight_append_blank (trimLeft cs)
  rw [hcs, hleft] at h
  have hright := (List.mem_append.1 h).resolve_left (hkept hl)
  exact (List.mem_append.1 hright).resolve_right (hkept hr)

/-- A text that begins with a character that is not blank is trimmed at its end only. -/
theorem trim_cons_of_not_blank {c : Char} (hc : isBlank c = false) (cs : List Char) :
    trim (c :: cs) = trimRight (c :: cs) := by
  rw [trim, trimLeft_of_not_blank hc]

theorem trim_append_of_not_blank {a : List Char} (hne : a ≠ []) (ha : ∀ c ∈ a, isBlank c = false)
    (h : HasInk cs) : trim (a ++ cs) = a ++ trimRight cs := by
  cases a with
  | nil => exact absurd rfl hne
  | cons c a =>
    rw [List.cons_append, trim_cons_of_not_blank (ha c List.mem_cons_self), ← List.cons_append,
      trimRight_append_of_hasInk h]

theorem length_trim_le (cs : List Char) : (trim cs).length ≤ cs.length :=
  Nat.le_trans (length_trimRight_le _) (List.dropWhile_sublist _).length_le

/-- What a trimmed text ends with is trimmed at its end, and not blank. -/
theorem of_trim_eq_append {a b : List Char} (h : trim cs = a ++ b) (hb : b ≠ []) :
    HasInk b ∧ trimRight b = b := by
  have hself : trimRight (a ++ b) = a ++ b := by
    rw [← h, trim, trimRight_trimRight]
  have hink : HasInk b := by
    apply Classical.byContradiction
    intro hnone
    rw [trimRight_append_blank (not_hasInk_iff.1 hnone)] at hself
    have hlength := congrArg List.length hself
    have hle := length_trimRight_le a
    have hpos := List.length_pos_iff.2 hb
    rw [List.length_append] at hlength
    omega
  rw [trimRight_append_of_hasInk hink] at hself
  exact ⟨hink, List.append_cancel_left hself⟩

/-- Only blanks at the left are trimmed from a text that is trimmed at its end. -/
theorem exists_blank_append_trim (h : trimRight cs = cs) :
    ∃ l, (∀ c ∈ l, isBlank c = true) ∧ cs = l ++ trim cs := by
  obtain ⟨l, hl, hcs⟩ := exists_blank_append_trimLeft cs
  by_cases hink : HasInk (trimLeft cs)
  · rw [hcs, trimRight_append_of_hasInk hink, ← hcs] at h
    refine ⟨l, hl, ?_⟩
    rw [trim]
    exact h.symm
  · have hblank : ∀ c ∈ cs, isBlank c = true := by
      rw [hcs]
      exact List.forall_mem_append.2 ⟨hl, not_hasInk_iff.1 hink⟩
    exact ⟨cs, hblank, by rw [trim_eq_nil_iff.2 hblank, List.append_nil]⟩

/-! ## Strings -/

theorem trimmed_eq_empty_iff {s : String} : trimmed s = "" ↔ isBlankText s = true := by
  rw [trimmed, String.ofList_eq_empty_iff, trim_eq_nil_iff, isBlankText, List.all_eq_true]

theorem trimmed_ne_empty_iff {s : String} : trimmed s ≠ "" ↔ HasInk s.toList := by
  rw [trimmed, ne_eq, String.ofList_eq_empty_iff, ← ne_eq, trim_ne_nil_iff]

theorem trimmed_trimmed (s : String) : trimmed (trimmed s) = trimmed s := by
  rw [trimmed, trimmed, String.toList_ofList, trim_trim]

end RunLedger.Text
