import RunLedger.Paging.Keyword
import RunLedger.Proofs.Text.Case
import RunLedger.Proofs.Text.Trim

/-!
# Clauses with and without their keywords

A clause that begins with its keyword, in any case, and a space is left with what follows; any other
clause is only trimmed.  Either way the end of the trimmed clause remains, and it is trimmed and not
blank unless the clause is.  A keyword that another blank follows stays.

    trim clause = kw ++ ' ' :: rest → dropKeyword keyword clause = trim rest
                                                                           (dropKeyword_of_begins)
    trimmed given ≠ "" → IsStripped keyword given (withoutKeyword keyword given)
                                                                       (isStripped_withoutKeyword)
    withoutKeyword keyword c.text = trimmed c.body ↔ c.IsSpaced       (withoutKeyword_eq_body_iff)
-/

namespace RunLedger

/-! ## Dropping a keyword -/

/-- The text begins with the keyword, in some case of its letters, and a space. -/
def BeginsWith (keyword text : List Char) : Prop :=
  ∃ kw rest, kw.map Char.toLower = keyword ∧ text = kw ++ ' ' :: rest

section
variable {keyword kw rest clause text : List Char}

theorem prefix_map_toLower_iff :
    keyword ++ [' '] <+: text.map Char.toLower ↔ BeginsWith keyword text := by
  have hspace (c : Char) : c.toLower = ' ' ↔ c = ' ' := Text.toLower_eq_iff (by decide) c
  constructor
  · rintro ⟨more, hmore⟩
    rw [List.append_assoc] at hmore
    obtain ⟨kw, tail, rfl, hkw, htail⟩ := List.map_eq_append_iff.1 hmore.symm
    obtain ⟨c, rest, rfl, hc, -⟩ := List.map_eq_cons_iff.1 htail
    exact ⟨kw, rest, hkw, by rw [(hspace c).1 hc]⟩
  · rintro ⟨kw, rest, hkw, rfl⟩
    refine ⟨rest.map Char.toLower, ?_⟩
    rw [List.map_append, List.map_cons, hkw, (hspace ' ').2 rfl, List.append_assoc,
      List.singleton_append]

/-- A trimmed text does not end with a space. -/
theorem ne_nil_of_trim_eq (h : Text.trim clause = kw ++ ' ' :: rest) : rest ≠ [] := by
  rintro rfl
  obtain ⟨⟨c, hc, hink⟩, -⟩ := Text.of_trim_eq_append h (List.cons_ne_nil _ _)
  cases List.mem_singleton.1 hc
  revert hink
  decide

theorem exists_gap_of_trim_eq (h : Text.trim clause = kw ++ ' ' :: rest) :
    Text.trim rest ≠ [] ∧
      ∃ gap, (∀ c ∈ gap, Text.isBlank c = true) ∧ rest = gap ++ Text.trim rest := by
  have hne := ne_nil_of_trim_eq h
  rw [List.append_cons] at h
  obtain ⟨hink, hright⟩ := Text.of_trim_eq_append h hne
  exact ⟨Text.trim_ne_nil_iff.2 hink, Text.exists_blank_append_trim hright⟩

variable (hk : ∀ d ∈ keyword, Text.IsLone d)
include hk

theorem isPrefixOf_lower_iff :
    (Text.lower keyword ++ [' ']).isPrefixOf (Text.lower text) = true ↔
      BeginsWith keyword text := by
  have hspace : ∀ d ∈ keyword ++ [' '], Text.IsLone d :=
    List.forall_mem_append.2 ⟨hk, fun d hd => .inl (List.mem_singleton.1 hd)⟩
  rw [List.isPrefixOf_iff_prefix, Text.lower, Text.lowerAfter_of_lone hk, Text.lower,
    Text.isPrefix_lowerAfter_iff hspace, prefix_map_toLower_iff]

theorem dropKeyword_of_begins (hkw : kw.map Char.toLower = keyword)
    (h : Text.trim clause = kw ++ ' ' :: rest) : dropKeyword keyword clause = Text.trim rest := by
  have hlength : (Text.lower keyword ++ [' ']).length = kw.length + 1 := by
    rw [Text.lower, Text.lowerAfter_of_lone hk, ← hkw, List.length_append, List.length_map,
      List.length_singleton]
  have hbegins := (isPrefixOf_lower_iff hk).2 ⟨kw, rest, hkw, h⟩
  have hpos := List.length_pos_iff.2 (ne_nil_of_trim_eq h)
  have hlonger : kw.length + 1 < (Text.trim clause).length := by
    rw [h, List.length_append, List.length_cons]
    omega
  unfold dropKeyword
  simp only [hbegins, hlength, hlonger, decide_true, Bool.and_true, if_true]
  rw [h, List.append_cons, List.drop_left' (by rw [List.length_append, List.length_singleton])]

theorem dropKeyword_of_not_begins (h : ¬ BeginsWith keyword (Text.trim clause)) :
    dropKeyword keyword clause = Text.trim clause := by
  unfold dropKeyword
  dsimp only
  rw [if_neg]
  intro hboth
  exact h ((isPrefixOf_lower_iff hk).1 (Bool.and_eq_true_iff.1 hboth).1)

theorem dropKeyword_eq_self_iff (h : Text.trim clause = clause) :
    dropKeyword keyword clause = clause ↔ ¬ BeginsWith keyword clause := by
  constructor
  · -- what is left after a keyword is shorter
    rintro hself ⟨kw, rest, hkw, hclause⟩
    have hdrop := dropKeyword_of_begins hk hkw (h.trans hclause)
    have hlength := congrArg List.length (hself.symm.trans hdrop)
    have hshorter := Text.length_trim_le rest
    rw [hclause, List.length_append, List.length_cons] at hlength
    omega
  · intro hnot
    rw [← h] at hnot
    rw [dropKeyword_of_not_begins hk hnot, h]

end

/-! ## Clauses -/

/-- The keywords that clauses may be given with. -/
def clauseKeywords : List String := ["select", "from", "where"]

/-- The text begins with the keyword, in some case of its letters, and a space. -/
def StartsWithKeyword (keyword text : String) : Prop :=
  ∃ word rest, Text.asciiLowered word = keyword ∧ text = word ++ " " ++ rest

/-- The text is the keyword, in some case of its letters, and blanks, a space first. -/
def IsKeywordAndBlanks (keyword text : String) : Prop :=
  ∃ word gap, Text.asciiLowered word = keyword ∧ Text.isBlankText gap = true ∧
    text = word ++ " " ++ gap

/-- What is left of a clause: the end of its trimmed text after one keyword with the blanks behind
it, or all of it if it does not begin so. -/
structure IsStripped (keyword given left : String) : Prop where
  ne : left ≠ ""
  trimmed : Text.trimmed left = left
  removed : ∃ removed, Text.trimmed given = removed ++ left ∧
    (removed = "" ∧ ¬ StartsWithKeyword keyword (Text.trimmed given) ∨
      IsKeywordAndBlanks keyword removed)

theorem IsStripped.ink {keyword given left : String} (h : IsStripped keyword given left) :
    Text.trimmed left ≠ "" := by
  rw [h.trimmed]
  exact h.ne

section
variable {keyword given text : String}

theorem asciiLowered_eq_iff {word : String} :
    Text.asciiLowered word = keyword ↔ word.toList.map Char.toLower = keyword.toList := by
  rw [Text.asciiLowered, ← String.toList_inj, String.toList_ofList]

theorem startsWithKeyword_iff :
    StartsWithKeyword keyword text ↔ BeginsWith keyword.toList text.toList := by
  constructor
  · rintro ⟨word, rest, hword, rfl⟩
    exact ⟨word.toList, rest.toList, asciiLowered_eq_iff.1 hword, by simp⟩
  · rintro ⟨kw, rest, hkw, htext⟩
    refine ⟨String.ofList kw, String.ofList rest, ?_, ?_⟩
    · rwa [asciiLowered_eq_iff, String.toList_ofList]
    · rw [← String.toList_inj, htext]
      simp

instance (keyword text : String) : Decidable (StartsWithKeyword keyword text) :=
  decidable_of_iff (keyword.toList ++ [' '] <+: text.toList.map Char.toLower)
    (prefix_map_toLower_iff.trans startsWithKeyword_iff.symm)

variable (hk : keyword ∈ clauseKeywords)
include hk

theorem isLone_of_mem_clauseKeywords : ∀ d ∈ keyword.toList, Text.IsLone d := by
  have hall : ∀ keyword ∈ clauseKeywords,
      (keyword.toList.all fun d => decide (Text.IsLone d)) = true := by
    decide
  exact fun d hd => of_decide_eq_true (List.all_eq_true.1 (hall keyword hk) d hd)

theorem withoutKeyword_eq_self_iff (h : Text.trimmed text = text) :
    withoutKeyword keyword text = text ↔ ¬ StartsWithKeyword keyword text := by
  have htrim : Text.trim text.toList = text.toList := by
    rw [← String.toList_inj, Text.trimmed, String.toList_ofList] at h
    exact h
  rw [startsWithKeyword_iff, ← dropKeyword_eq_self_iff (isLone_of_mem_clauseKeywords hk) htrim,
    withoutKeyword, ← String.toList_inj, String.toList_ofList]

theorem withoutKeyword_of_not_starts (h : ¬ StartsWithKeyword keyword (Text.trimmed given)) :
    withoutKeyword keyword given = Text.trimmed given := by
  rw [startsWithKeyword_iff, Text.trimmed, String.toList_ofList] at h
  rw [withoutKeyword, dropKeyword_of_not_begins (isLone_of_mem_clauseKeywords hk) h, Text.trimmed]

theorem isStripped_withoutKeyword (h : Text.trimmed given ≠ "") :
    IsStripped keyword given (withoutKeyword keyword given) := by
  by_cases hbegins : StartsWithKeyword keyword (Text.trimmed given)
  · rw [startsWithKeyword_iff, Text.trimmed, String.toList_ofList] at hbegins
    obtain ⟨kw, rest, hkw, htrim⟩ := hbegins
    obtain ⟨hne, gap, hgap, hrest⟩ := exists_gap_of_trim_eq htrim
    rw [withoutKeyword, dropKeyword_of_begins (isLone_of_mem_clauseKeywords hk) hkw htrim]
    refine ⟨by rwa [ne_eq, String.ofList_eq_empty_iff], ?_, ?_⟩
    · rw [Text.trimmed, String.toList_ofList, Text.trim_trim]
    · refine ⟨String.ofList kw ++ " " ++ String.ofList gap, ?_, .inr ⟨_, _, ?_, ?_, rfl⟩⟩
      · rw [Text.trimmed, htrim, ← String.toList_inj]
        simpa using hrest
      · rwa [asciiLowered_eq_iff, String.toList_ofList]
      · rwa [Text.isBlankText, String.toList_ofList, List.all_eq_true]
  · rw [withoutKeyword_of_not_starts hk hbegins]
    exact ⟨h, Text.trimmed_trimmed given, "", String.empty_append.symm, .inl ⟨rfl, hbegins⟩⟩

end

/-! ## Clauses given with their keyword -/

/-- A clause given with its keyword: the keyword in some case of its letters, blanks and a body. -/
structure Keyworded (keyword : String) where
  word : String
  gap : String
  body : String
  lower_word : Text.asciiLowered word = keyword
  gap_ne : gap ≠ ""
  gap_blank : Text.isBlankText gap = true
  body_ink : Text.trimmed body ≠ ""

namespace Keyworded

variable {keyword : String}

/-- The clause as it is given. -/
def text (c : Keyworded keyword) : String := c.word ++ c.gap ++ c.body

/-- Whether the keyword is followed by a space. -/
def IsSpaced (c : Keyworded keyword) : Prop := c.gap.toList.head? = some ' '

instance (c : Keyworded keyword) : Decidable c.IsSpaced := inferInstanceAs (Decidable (_ = _))

theorem hasInk_body (c : Keyworded keyword) : Text.HasInk c.body.toList :=
  Text.trimmed_ne_empty_iff.1 c.body_ink

theorem text_ink (c : Keyworded keyword) : Text.trimmed c.text ≠ "" := by
  rw [Text.trimmed_ne_empty_iff, text, String.toList_append]
  exact c.hasInk_body.append_left _

theorem trim_text (hk : keyword ∈ clauseKeywords) (c : Keyworded keyword) :
    Text.trim c.text.toList =
      c.word.toList ++ (c.gap.toList ++ Text.trimRight c.body.toList) := by
  have hkeyword : ∀ keyword ∈ clauseKeywords, keyword.toList ≠ [] ∧
      (keyword.toList.all fun d => !Text.isBlank d) = true := by
    decide
  obtain ⟨hne, hblank⟩ := hkeyword keyword hk
  rw [List.all_eq_true] at hblank
  have hword := asciiLowered_eq_iff.1 c.lower_word
  rw [← hword] at hne hblank
  rw [text, String.toList_append, String.toList_append, List.append_assoc,
    Text.trim_append_of_not_blank, Text.trimRight_append_of_hasInk c.hasInk_body]
  · exact fun hnil => hne (congrArg _ hnil)
  · intro d hd
    rw [← (Text.sameLetter_toLower d).blank, ← Bool.not_eq_true']
    exact hblank _ (List.mem_map_of_mem hd)
  · exact c.hasInk_body.append_left _

theorem withoutKeyword_of_spaced (hk : keyword ∈ clauseKeywords) {c : Keyworded keyword}
    (h : c.IsSpaced) : withoutKeyword keyword c.text = Text.trimmed c.body := by
  obtain ⟨gap, hgap⟩ := List.head?_eq_some_iff.1 h
  have hblank : ∀ d ∈ gap, Text.isBlank d = true := by
    have hall := List.all_eq_true.1 c.gap_blank
    rw [hgap] at hall
    exact (List.forall_mem_cons.1 hall).2
  have htrim := c.trim_text hk
  rw [hgap, List.cons_append] at htrim
  rw [withoutKeyword, dropKeyword_of_begins (isLone_of_mem_clauseKeywords hk)
    (asciiLowered_eq_iff.1 c.lower_word) htrim, Text.trim_blank_append hblank, Text.trim_trimRight,
    Text.trimmed]

theorem withoutKeyword_of_not_spaced (hk : keyword ∈ clauseKeywords) {c : Keyworded keyword}
    (h : ¬ c.IsSpaced) : withoutKeyword keyword c.text = Text.trimmed c.text := by
  have hnot : ¬ BeginsWith keyword.toList (Text.trim c.text.toList) := by
    -- all cases of the keyword are of one length: the space would be the first of the gap
    rintro ⟨kw, rest, hkw, htrim⟩
    have hlength : kw.length = c.word.toList.length := by
      rw [← asciiLowered_eq_iff.1 c.lower_word] at hkw
      simpa using congrArg List.length hkw
    have hgap := (List.append_inj (htrim.symm.trans (c.trim_text hk)) hlength).2
    cases hlist : c.gap.toList with
    | nil => exact c.gap_ne (String.toList_eq_nil_iff.1 hlist)
    | cons d gap =>
      rw [hlist] at hgap
      cases hgap
      exact h (by rw [IsSpaced, hlist]; rfl)
  rw [withoutKeyword, dropKeyword_of_not_begins (isLone_of_mem_clauseKeywords hk) hnot,
    Text.trimmed]

/-- Trimming the clause leaves more of it than its body. -/
theorem trimmed_text_ne (hk : keyword ∈ clauseKeywords) (c : Keyworded keyword) :
    Text.trimmed c.text ≠ Text.trimmed c.body := by
  intro heq
  have hpos : 0 < c.gap.toList.length := by
    rw [List.length_pos_iff, ne_eq, String.toList_eq_nil_iff]
    exact c.gap_ne
  have hle := Text.length_trim_le (Text.trimRight c.body.toList)
  have hlength := congrArg (fun s : String => s.toList.length) heq
  simp only [Text.trimmed, String.toList_ofList, c.trim_text hk, List.length_append] at hlength
  rw [Text.trim_trimRight] at hle
  omega

theorem withoutKeyword_eq_body_iff (hk : keyword ∈ clauseKeywords) (c : Keyworded keyword) :
    withoutKeyword keyword c.text = Text.trimmed c.body ↔ c.IsSpaced := by
  refine ⟨fun h => ?_, withoutKeyword_of_spaced hk⟩
  apply Classical.byContradiction
  intro hnot
  rw [withoutKeyword_of_not_spaced hk hnot] at h
  exact c.trimmed_text_ne hk h

end Keyworded

end RunLedger
