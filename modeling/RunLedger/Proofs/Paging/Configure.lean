import RunLedger.Proofs.Paging.Keyword
import RunLedger.Proofs.Paging.Pager
import RunLedger.Proofs.Paging.SortKeys

/-!
# Configuring page queries

A page query comes about just where select list and source are there, and every sort key, of which
there is one at least, names a column and a direction.  It keeps the clauses without their keywords
and the sort keys as given; configured once more from what it keeps, it is the same unless a clause
still begins with its keyword.  A keyword in front of a clause makes no difference where a space
follows it.

    (∃ q, configure columns source choices filter = .ok q) ↔ nothing is missing
                                                                            (exists_configure_iff)
    configure columns source choices filter = .ok q → q.Keeps columns source choices filter
                                                                               (keeps_of_configure)
    q.again = .ok q ↔ no clause of q begins with its keyword                         (again_eq_iff)
    clauses that differ by redundant keywords make the same query                 (configure_same)
-/

namespace RunLedger

namespace PageQuery

variable {columns columns' source source' filter filter' : Option String}
  {choices : Option (List (String × OrderChoice))} {q : PageQuery}

/-! ## What is refused -/

/-- The clause is missing or blank. -/
def IsAbsent (clause : Option String) : Prop := ∀ text ∈ clause, Text.trimmed text = ""

theorem isMissing_iff {clause : Option String} : isMissing clause = true ↔ IsAbsent clause := by
  cases clause with
  | none => simp [isMissing, IsAbsent]
  | some text => simp [isMissing, IsAbsent, Text.trimmed_eq_empty_iff]

theorem exists_of_not_isAbsent {clause : Option String} (h : ¬ IsAbsent clause) :
    ∃ text, clause = some text ∧ Text.trimmed text ≠ "" := by
  simpa [IsAbsent] using h

theorem configure_eq_ok_iff :
    configure columns source choices filter = .ok q ↔
      ¬ IsAbsent columns ∧ ¬ IsAbsent source ∧
        (SortKey.ofChoices (choices.getD []) = .ok q.sortKeys ∧ q.sortKeys ≠ []) ∧
        q.columns = withoutKeyword "select" (columns.getD "") ∧
        q.source = withoutKeyword "from" (source.getD "") ∧ q.filter = readFilter filter := by
  constructor
  · intro h
    -- in the order in which the clauses are looked at: each refusal contradicts the acceptance
    unfold configure at h
    rw [← isMissing_iff, ← isMissing_iff]
    by_cases hcolumns : isMissing columns = true
    · rw [if_pos hcolumns] at h
      cases h
    by_cases hsource : isMissing source = true
    · rw [if_neg hcolumns, if_pos hsource] at h
      cases h
    rw [if_neg hcolumns, if_neg hsource] at h
    cases choices with
    | none => cases h
    | some given =>
      dsimp only at h
      cases hkeys : SortKey.ofChoices given with
      | error e =>
        rw [hkeys] at h
        cases h
      | ok keys =>
        rw [hkeys] at h
        cases keys with
        | nil => cases h
        | cons k keys =>
          cases h
          exact ⟨hcolumns, hsource, ⟨hkeys, List.cons_ne_nil k keys⟩, rfl, rfl, rfl⟩
  · obtain ⟨select, table, keys, condition⟩ := q
    dsimp only
    rintro ⟨hcolumns, hsource, ⟨hkeys, hne⟩, rfl, rfl, rfl⟩
    obtain ⟨c, rfl, hc⟩ := exists_of_not_isAbsent hcolumns
    obtain ⟨s, rfl, hs⟩ := exists_of_not_isAbsent hsource
    rw [ne_eq, Text.trimmed_eq_empty_iff] at hc hs
    rw [ne_eq, ← List.isEmpty_iff] at hne
    cases choices with
    | none =>
      cases hkeys
      exact absurd rfl hne
    | some given => exact configure_ok hc hs hkeys hne

theorem exists_configure_iff :
    (∃ q, configure columns source choices filter = .ok q) ↔
      ¬ IsAbsent columns ∧ ¬ IsAbsent source ∧ choices.getD [] ≠ [] ∧
        ∀ given ∈ choices.getD [], Text.trimmed given.1 ≠ "" ∧ ∃ o, given.2.Means o := by
  rw [← SortKey.exists_ofChoices_iff]
  constructor
  · rintro ⟨q, hq⟩
    obtain ⟨hcolumns, hsource, ⟨hkeys, hne⟩, -⟩ := configure_eq_ok_iff.1 hq
    refine ⟨hcolumns, hsource, ?_, q.sortKeys, hkeys⟩
    intro hnone
    rw [hnone] at hkeys
    exact hne (Except.ok.inj hkeys).symm
  · rintro ⟨hcolumns, hsource, hne, keys, hkeys⟩
    refine ⟨⟨_, _, keys, _⟩, configure_eq_ok_iff.2 ⟨hcolumns, hsource, ⟨hkeys, ?_⟩, rfl, rfl, rfl⟩⟩
    rintro rfl
    have hpointwise := SortKey.ofChoices_eq_ok_iff.1 hkeys
    exact hne (List.forall₂_nil_right_iff.1 hpointwise)

theorem exists_error_iff :
    (∃ e, configure columns source choices filter = .error e) ↔
      IsAbsent columns ∨ IsAbsent source ∨ choices.getD [] = [] ∨
        ∃ given ∈ choices.getD [], Text.trimmed given.1 = "" ∨ ∀ o, ¬ given.2.Means o := by
  have hnot : (∃ e, configure columns source choices filter = .error e) ↔
      ¬ ∃ q, configure columns source choices filter = .ok q := by
    cases configure columns source choices filter <;> simp
  rw [hnot, exists_configure_iff]
  grind

/-! ## What is kept -/

/-- What a page query has of the clauses and sort keys that it is made from. -/
structure Keeps (columns source : Option String) (choices : Option (List (String × OrderChoice)))
    (filter : Option String) (q : PageQuery) : Prop where
  columns : ∃ given, columns = some given ∧ IsStripped "select" given q.columns
  source : ∃ given, source = some given ∧ IsStripped "from" given q.source
  filter_none : q.filter = none ↔ IsAbsent filter
  filter : ∀ left ∈ q.filter, ∃ given, filter = some given ∧ IsStripped "where" given left
  sortKeys : List.Forall₂ SortKey.IsGiven (choices.getD []) q.sortKeys

theorem exists_stripped {keyword : String} (hk : keyword ∈ clauseKeywords) {clause : Option String}
    (h : ¬ IsAbsent clause) : ∃ given, clause = some given ∧
      IsStripped keyword given (withoutKeyword keyword (clause.getD "")) := by
  obtain ⟨given, rfl, hne⟩ := exists_of_not_isAbsent h
  exact ⟨given, rfl, isStripped_withoutKeyword hk hne⟩

theorem readFilter_of_isAbsent (h : IsAbsent filter) : readFilter filter = none := by
  cases filter with
  | none => rfl
  | some given => exact if_pos (Text.trimmed_eq_empty_iff.1 (h given rfl))

theorem readFilter_of_ink {given : String} (h : Text.trimmed given ≠ "") :
    readFilter (some given) = some (withoutKeyword "where" given) :=
  if_neg (mt Text.trimmed_eq_empty_iff.2 h)

theorem keeps_of_configure (h : configure columns source choices filter = .ok q) :
    q.Keeps columns source choices filter := by
  obtain ⟨hcolumns, hsource, ⟨hkeys, -⟩, hselect, hfrom, hfilter⟩ := configure_eq_ok_iff.1 h
  refine ⟨?_, ?_, ?_, ?_, SortKey.ofChoices_eq_ok_iff.1 hkeys⟩
  · rw [hselect]
    exact exists_stripped (by decide) hcolumns
  · rw [hfrom]
    exact exists_stripped (by decide) hsource
  · rw [hfilter]
    refine ⟨fun hnone => ?_, readFilter_of_isAbsent⟩
    by_contra hgiven
    obtain ⟨given, rfl, hne⟩ := exists_of_not_isAbsent hgiven
    rw [readFilter_of_ink hne] at hnone
    cases hnone
  · rw [hfilter]
    intro left hleft
    by_cases habsent : IsAbsent filter
    · rw [readFilter_of_isAbsent habsent] at hleft
      cases hleft
    · obtain ⟨given, rfl, hne⟩ := exists_of_not_isAbsent habsent
      rw [readFilter_of_ink hne] at hleft
      cases hleft
      exact ⟨given, rfl, isStripped_withoutKeyword (by decide) hne⟩

/-! ## Configuring once more -/

/-- What the clauses and sort keys of the query itself are configured to. -/
def again (q : PageQuery) : Except Misconfiguration PageQuery :=
  configure (some q.columns) (some q.source)
    (some (q.sortKeys.map fun k => (k.column, .order k.order))) q.filter

theorem ofChoices_again {given : List (String × OrderChoice)} {keys : List SortKey}
    (h : List.Forall₂ SortKey.IsGiven given keys) :
    SortKey.ofChoices (keys.map fun k => (k.column, .order k.order)) = .ok keys := by
  rw [SortKey.ofChoices_eq_ok_iff, List.forall₂_map_left_iff, List.forall₂_same]
  intro k hk
  obtain ⟨choice, -, hgiven⟩ := exists_mem_left h hk
  exact ⟨by rw [hgiven.column, Text.trimmed_trimmed], hgiven.ne, .order k.order⟩

theorem not_isAbsent_of_ink {text : String} (h : Text.trimmed text ≠ "") : ¬ IsAbsent (some text) :=
  fun habsent => h (habsent text rfl)

theorem readFilter_eq_self_iff
    (h : ∀ left ∈ filter, ∃ given, filter' = some given ∧ IsStripped "where" given left) :
    readFilter filter = filter ↔ ∀ text ∈ filter, ¬ StartsWithKeyword "where" text := by
  cases filter with
  | none => exact iff_of_true rfl nofun
  | some left =>
    obtain ⟨given, -, hleft⟩ := h left rfl
    rw [readFilter_of_ink hleft.ink, Option.some_inj,
      withoutKeyword_eq_self_iff (by decide) hleft.trimmed]
    simp only [Option.mem_some_iff, forall_eq']

theorem again_eq_iff (h : configure columns source choices filter = .ok q) :
    q.again = .ok q ↔ ¬ StartsWithKeyword "select" q.columns ∧
      ¬ StartsWithKeyword "from" q.source ∧
      ∀ text ∈ q.filter, ¬ StartsWithKeyword "where" text := by
  obtain ⟨⟨_, -, hc⟩, ⟨_, -, hs⟩, -, hf, hgiven⟩ := keeps_of_configure h
  obtain ⟨-, -, ⟨-, hne⟩, -⟩ := configure_eq_ok_iff.1 h
  rw [again, configure_eq_ok_iff, ← withoutKeyword_eq_self_iff (by decide) hc.trimmed,
    ← withoutKeyword_eq_self_iff (by decide) hs.trimmed, ← readFilter_eq_self_iff hf]
  constructor
  · rintro ⟨-, -, -, hselect, hfrom, hwhere⟩
    exact ⟨hselect.symm, hfrom.symm, hwhere.symm⟩
  · rintro ⟨hselect, hfrom, hwhere⟩
    exact ⟨not_isAbsent_of_ink hc.ink, not_isAbsent_of_ink hs.ink, ⟨ofChoices_again hgiven, hne⟩,
      hselect.symm, hfrom.symm, hwhere.symm⟩

/-- A page query comes about just where nothing is missing or meaningless; it keeps what is given,
and is the same once more unless a clause still begins with its keyword. -/
theorem configure_complete (columns source filter : Option String)
    (choices : Option (List (String × OrderChoice))) :
    ((∃ e, configure columns source choices filter = .error e) ↔
      IsAbsent columns ∨ IsAbsent source ∨ choices.getD [] = [] ∨
        ∃ given ∈ choices.getD [], Text.trimmed given.1 = "" ∨ ∀ o, ¬ given.2.Means o) ∧
    ∀ q, configure columns source choices filter = .ok q →
      q.Keeps columns source choices filter ∧
      (q.again = .ok q ↔ ¬ StartsWithKeyword "select" q.columns ∧
        ¬ StartsWithKeyword "from" q.source ∧
        ∀ text ∈ q.filter, ¬ StartsWithKeyword "where" text) :=
  ⟨exists_error_iff, fun _ h => ⟨keeps_of_configure h, again_eq_iff h⟩⟩

theorem configure_complete_sample :
    (⟨"a", "t", [⟨"id", .descending⟩], none⟩ : PageQuery).Keeps (some " SELECT a ")
      (some "from  t") (some [(" id ", .value (.text " desc "))]) (some " ") :=
  ((configure_complete _ _ _ _).2 _ rfl).1

/-! ## Redundant keywords -/

/-- Two clauses of which the second is the first without a redundant keyword: the first has the
keyword, a space and perhaps more blanks in front, and the second does not begin with it again. -/
inductive SameButKeyword (keyword : String) : Option String → Option String → Prop where
  | same (clause : Option String) : SameButKeyword keyword clause clause
  | keyworded (c : Keyworded keyword) (hspaced : c.IsSpaced)
      (hbody : ¬ StartsWithKeyword keyword (Text.trimmed c.body)) :
    SameButKeyword keyword (some c.text) (some c.body)

namespace SameButKeyword

variable {keyword : String} {given bare : Option String}

theorem isMissing_eq (h : SameButKeyword keyword given bare) :
    isMissing given = isMissing bare := by
  cases h with
  | same => rfl
  | keyworded c hspaced hbody =>
    rw [Bool.eq_iff_iff, isMissing_iff, isMissing_iff]
    exact iff_of_false (not_isAbsent_of_ink c.text_ink) (not_isAbsent_of_ink c.body_ink)

theorem clause_eq (hk : keyword ∈ clauseKeywords) (h : SameButKeyword keyword given bare) :
    withoutKeyword keyword (given.getD "") = withoutKeyword keyword (bare.getD "") := by
  cases h with
  | same => rfl
  | keyworded c hspaced hbody =>
    exact (Keyworded.withoutKeyword_of_spaced hk hspaced).trans
      (withoutKeyword_of_not_starts hk hbody).symm

theorem readFilter_eq (h : SameButKeyword "where" given bare) :
    readFilter given = readFilter bare := by
  cases h with
  | same => rfl
  | keyworded c hspaced hbody =>
    have hclause := clause_eq (by decide) (.keyworded c hspaced hbody)
    rw [readFilter_of_ink c.text_ink, readFilter_of_ink c.body_ink]
    exact congrArg some hclause

end SameButKeyword

theorem configure_same (hcolumns : SameButKeyword "select" columns columns')
    (hsource : SameButKeyword "from" source source')
    (hfilter : SameButKeyword "where" filter filter')
    (choices : Option (List (String × OrderChoice))) :
    configure columns source choices filter = configure columns' source' choices filter' := by
  unfold configure
  rw [hcolumns.isMissing_eq, hsource.isMissing_eq, hcolumns.clause_eq (by decide),
    hsource.clause_eq (by decide), hfilter.readFilter_eq]

/-- Keywords with a space behind them make no other page query, in any of the clauses, and no other
pager for any dialect.  For a clause is left with its body just where a space follows its keyword;
where another blank does it is only trimmed. -/
theorem keyword_redundant (hcolumns : SameButKeyword "select" columns columns')
    (hsource : SameButKeyword "from" source source')
    (hfilter : SameButKeyword "where" filter filter')
    (choices : Option (List (String × OrderChoice))) :
    configure columns source choices filter = configure columns' source' choices filter' ∧
    (∀ declared connection, Pager.create declared connection columns source choices filter =
      Pager.create declared connection columns' source' choices filter') ∧
    ∀ keyword ∈ clauseKeywords, ∀ c : Keyworded keyword,
      (withoutKeyword keyword c.text = Text.trimmed c.body ↔ c.IsSpaced) ∧
      (¬ c.IsSpaced → withoutKeyword keyword c.text = Text.trimmed c.text) := by
  have hsame := configure_same hcolumns hsource hfilter choices
  refine ⟨hsame, fun declared connection => ?_, fun keyword hk c => ?_⟩
  · rw [Pager.create, Pager.create, hsame]
  · exact ⟨c.withoutKeyword_eq_body_iff hk, Keyworded.withoutKeyword_of_not_spaced hk⟩

theorem keyword_redundant_spaced :
    configure (some "SELECT \n id") (some "from  t") (some [("id", .order .ascending)])
        (some "Where x = 1") =
      configure (some "id") (some "t") (some [("id", .order .ascending)]) (some "x = 1") := by
  have hcolumns : SameButKeyword "select" (some "SELECT \n id") (some "id") :=
    .keyworded ⟨"SELECT", " \n ", "id", by decide, by decide, by decide, by decide⟩ (by decide)
      (by decide)
  have hsource : SameButKeyword "from" (some "from  t") (some "t") :=
    .keyworded ⟨"from", "  ", "t", by decide, by decide, by decide, by decide⟩ (by decide)
      (by decide)
  have hfilter : SameButKeyword "where" (some "Where x = 1") (some "x = 1") :=
    .keyworded ⟨"Where", " ", "x = 1", by decide, by decide, by decide, by decide⟩ (by decide)
      (by decide)
  exact (keyword_redundant hcolumns hsource hfilter _).1

/-- A keyword that a line break follows stays, and stands twice in the query. -/
theorem keyword_kept_newline :
    (¬ ∀ keyword ∈ clauseKeywords, ∀ c : Keyworded keyword,
      ¬ StartsWithKeyword keyword (Text.trimmed c.body) →
        withoutKeyword keyword c.text = Text.trimmed c.body) ∧
    (configure (some "SELECT\nid") (some "t") (some [("id", .order .ascending)]) none).toOption.map
      (·.baseSql) = some "SELECT SELECT\nid FROM t" := by
  refine ⟨fun h => ?_, by decide +kernel⟩
  have hid := h "select" (by decide)
    ⟨"SELECT", "\n", "id", by decide, by decide, by decide, by decide⟩ (by decide)
  revert hid
  decide +kernel

end PageQuery

end RunLedger
