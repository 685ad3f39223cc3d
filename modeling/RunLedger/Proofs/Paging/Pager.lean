import RunLedger.Paging.Form
import RunLedger.Reading

/-!
# Pagers without positional parameters

A page query of which no clause has a question mark has no positional parameters, so that it does
not mix styles and gets its pager.  The clauses of the ledger's filters are of this kind, and stand
in the query as they are written.

    positional ∈ placeholdersFrom m cs → '?' ∈ cs                            (mem_of_positional)
    pager dialect f = .ok ⟨dialect, f.query, parameters⟩ for some parameters      (exists_pager)
-/

namespace RunLedger

/-! ## Positional parameters -/

theorem mem_single_iff {c : Char} : .positional ∈ ScanMode.single c ↔ c = '?' := by
  rw [ScanMode.single]
  split <;> simp [*]

/-- Only a question mark is a positional placeholder. -/
theorem mem_of_positional {m : ScanMode} {cs : List Char}
    (h : .positional ∈ placeholdersFrom m cs) : '?' ∈ cs := by
  -- for every mode, as a name that was begun ends with the next character
  induction cs generalizing m with
  | nil => cases m <;> simp [placeholdersFrom, ScanMode.finish] at h
  | cons c cs ih =>
    rw [placeholdersFrom, List.mem_append] at h
    rcases h with h | h
    · have hc : .positional ∈ ScanMode.single c := by
        cases m with
        | plain => exact h
        | quoted quote => cases h
        | colon | ampersand =>
          rw [ScanMode.emit] at h
          split at h
          · cases h
          · exact h
        | name cs =>
          rw [ScanMode.emit] at h
          split at h
          · cases h
          · exact (List.mem_cons.1 h).resolve_left (by simp)
      rw [mem_single_iff.1 hc]
      exact List.mem_cons_self
    · exact List.mem_cons_of_mem c (ih h)

theorem Parameters.exists_ofSql {sql : String} (h : '?' ∉ sql.toList) :
    ∃ p, Parameters.ofSql sql = .ok p := by
  have hnone : (placeholders sql).contains .positional = false := by
    rw [Bool.eq_false_iff, ne_eq, List.contains_iff_mem]
    exact fun hmem => h (mem_of_positional hmem)
  unfold Parameters.ofSql
  dsimp only
  split
  · exact ⟨_, rfl⟩
  · rw [hnone]
    exact ⟨_, rfl⟩

/-! ## Pagers -/

section
variable {columns source : String} {choices : List (String × OrderChoice)} {keys : List SortKey}
  {filter : Option String}

theorem PageQuery.configure_ok (hcolumns : ¬ Text.isBlankText columns = true)
    (hsource : ¬ Text.isBlankText source = true) (hchoices : SortKey.ofChoices choices = .ok keys)
    (hkeys : ¬ keys.isEmpty = true) :
    configure (some columns) (some source) (some choices) filter =
      .ok ⟨withoutKeyword "select" columns, withoutKeyword "from" source, keys,
        readFilter filter⟩ := by
  unfold configure isMissing
  dsimp only
  rw [if_neg hcolumns, if_neg hsource, hchoices]
  show (if keys.isEmpty = true then _ else _) = _
  rw [if_neg hkeys]
  rfl

theorem PageQuery.not_mem_filterSql {q : PageQuery}
    (hq : ∀ text ∈ q.filter, '?' ∉ text.toList) : '?' ∉ q.filterSql.toList := by
  rw [filterSql]
  cases hfilter : q.filter with
  | none => exact List.not_mem_nil
  | some text =>
    rw [String.toList_append, List.mem_append, not_or]
    exact ⟨by decide, hq text hfilter⟩

/-- A query without question marks gets its pager. -/
theorem Pager.exists_create {dialect : Dialect} {q : PageQuery}
    (hq : PageQuery.configure (some columns) (some source) (some choices) filter = .ok q)
    (hmark : '?' ∉ q.baseSql.toList) :
    ∃ parameters, create (some (.dialect dialect)) none (some columns) (some source)
      (some choices) filter = .ok ⟨dialect, q, parameters⟩ := by
  obtain ⟨parameters, hp⟩ := Parameters.exists_ofSql hmark
  have hsettle : Dialect.settle (some (.dialect dialect)) none = .ok dialect := rfl
  refine ⟨parameters, ?_⟩
  rw [create, hsettle, hq]
  dsimp only [bind, Except.bind]
  rw [ofQuery, hp]
  rfl

end

namespace Reading

theorem ofChoices_pageOrder :
    SortKey.ofChoices (pageOrder.map fun k => (k.column, .order k.order)) = .ok pageOrder := by
  have hkey : ∀ k ∈ pageOrder, SortKey.ofChoice (k.column, .order k.order) = .ok k := by
    intro k hk
    have htrim : ∀ k ∈ pageOrder, Text.trimmed k.column = k.column ∧ k.column ≠ "" := by
      decide +kernel
    obtain ⟨htrimmed, hname⟩ := htrim k hk
    unfold SortKey.ofChoice
    dsimp only
    rw [htrimmed, if_neg hname]
    rfl
  rw [SortKey.ofChoices, pageOrder, List.map_cons, List.map_cons, List.map_nil, List.mapM_cons,
    List.mapM_cons, List.mapM_nil]
  rw [hkey _ List.mem_cons_self, hkey _ (List.mem_cons_of_mem _ List.mem_cons_self)]
  rfl

/-- The page query of a filter. -/
def Filter.query (f : Filter) : PageQuery := ⟨pageColumns, pageSource, pageOrder, f.clause⟩

theorem not_mem_pageColumns : '?' ∉ pageColumns.toList ∧ '%' ∉ pageColumns.toList := by
  decide +kernel

theorem Filter.not_mem_clause (f : Filter) :
    ∀ text ∈ f.clause, '?' ∉ text.toList ∧ '%' ∉ text.toList := by
  intro text htext
  cases f with
  | all => cases htext
  | named taskName =>
    cases htext
    decide +kernel
  | runningNamed taskName =>
    cases htext
    decide +kernel

/-- The clauses of a filter's query are taken as they are. -/
theorem Filter.configure_query (f : Filter) :
    PageQuery.configure (some pageColumns) (some pageSource)
      (some (pageOrder.map fun k => (k.column, .order k.order))) f.clause = .ok f.query := by
  have hblank : ¬ Text.isBlankText pageColumns = true ∧ ¬ Text.isBlankText pageSource = true := by
    decide +kernel
  have hkeyword : withoutKeyword "select" pageColumns = pageColumns ∧
      withoutKeyword "from" pageSource = pageSource := by decide +kernel
  have hfilter : PageQuery.readFilter f.clause = f.clause := by
    cases f with
    | all => rfl
    | named taskName | runningNamed taskName => rfl
  rw [PageQuery.configure_ok hblank.1 hblank.2 ofChoices_pageOrder (by decide), hkeyword.1,
    hkeyword.2, hfilter, query]

/-- Every filter has its pager. -/
theorem exists_pager (dialect : Dialect) (f : Filter) :
    ∃ parameters, pager dialect f = .ok ⟨dialect, f.query, parameters⟩ := by
  have hsource : '?' ∉ pageSource.toList := by decide
  refine Pager.exists_create f.configure_query ?_
  simp only [PageQuery.baseSql, String.toList_append, List.mem_append, not_or]
  exact ⟨⟨⟨⟨by decide, not_mem_pageColumns.1⟩, by decide⟩, hsource⟩,
    PageQuery.not_mem_filterSql fun text htext => (f.not_mem_clause text htext).1⟩

end Reading

end RunLedger
