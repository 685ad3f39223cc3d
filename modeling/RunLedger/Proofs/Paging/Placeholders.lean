import RunLedger.Proofs.Paging.Layout

/-!
# The parameters of a page

A pager tells the parameters of its query once, from the query for all rows.  They are those of
every page: a scan that leaves each clause outside quotes begins anew behind it, the words of a form
hold no placeholders, and a form that writes the columns several times only repeats what it has
named before.  Only positional parameters among the columns would be counted once for each time.

    endsUnquoted t → isBreak c →
      placeholdersFrom .plain (t ++ c :: rest) =
        placeholdersFrom .plain t ++ placeholdersFrom .plain (c :: rest)   (placeholdersFrom_clause)
    p.pageSql offset limit = .ok sql → Parameters.ofSql sql = .ok p.parameters
                                                                          (parameters_pageSql)
-/

namespace RunLedger

/-! ## Scanning clauses -/

/-- Whether a scan is inside quotes. -/
def ScanMode.isQuoted : ScanMode → Bool
  | quoted _ => true
  | _ => false

/-- Whether a scan that enters a text outside quotes leaves it outside quotes. -/
def endsUnquoted (t : List Char) : Bool := !(modeAfter .plain t).isQuoted

section
variable {t rest : List Char} {c : Char}

theorem modeAfter_append (m : ScanMode) (t rest : List Char) :
    modeAfter m (t ++ rest) = modeAfter (modeAfter m t) rest := List.foldl_append

theorem ScanMode.fresh_of_not_isSign (h : isSign c = false) :
    ScanMode.fresh c = .plain ∧ ScanMode.single c = [] := by
  have hne : ∀ d ∈ "'\"?:&".toList, c ≠ d := by
    intro d hd hcd
    rw [isSign, hcd, List.contains_iff_mem.2 hd] at h
    cases h
  have hquote : ¬ (decide (c = '\'') || decide (c = '"')) = true := by
    simp [hne '\'' (by decide), hne '"' (by decide)]
  refine ⟨?_, if_neg (hne '?' (by decide))⟩
  rw [fresh, if_neg hquote, if_neg (hne ':' (by decide)), if_neg (hne '&' (by decide))]

theorem not_isSign_of_all (h : t.all (fun c => !isSign c) = true) : ∀ c ∈ t, isSign c = false := by
  simpa using h

/-- A scan takes no notice of a text without signs. -/
theorem scan_of_not_isSign (h : ∀ c ∈ t, isSign c = false) :
    emitted .plain t = [] ∧ modeAfter .plain t = .plain := by
  induction t with
  | nil => exact ⟨rfl, rfl⟩
  | cons c t ih =>
    obtain ⟨hc, ht⟩ := List.forall_mem_cons.1 h
    obtain ⟨hfresh, hsingle⟩ := ScanMode.fresh_of_not_isSign hc
    have hnext : ScanMode.next .plain c = .plain := hfresh
    have hemit : ScanMode.emit .plain c = [] := hsingle
    rw [emitted, modeAfter, List.foldl_cons, hnext, hemit]
    exact ih ht

theorem placeholdersFrom_of_not_isSign (h : ∀ c ∈ t, isSign c = false) (rest : List Char) :
    placeholdersFrom .plain (t ++ rest) = placeholdersFrom .plain rest := by
  obtain ⟨hemitted, hmode⟩ := scan_of_not_isSign h
  rw [placeholdersFrom_append, hemitted, hmode, List.nil_append]

/-- At a character that no name can hold, other than a colon, a scan outside quotes ends the
placeholder that it is in and begins anew. -/
theorem placeholdersFrom_anew {m : ScanMode} (hm : m.isQuoted = false)
    (hname : isNameChar c = false) (hcolon : c ≠ ':') (rest : List Char) :
    placeholdersFrom m (c :: rest) = m.finish ++ placeholdersFrom .plain (c :: rest) := by
  cases m with
  | quoted quote => cases hm
  | plain | colon | ampersand | name cs =>
    simp [placeholdersFrom, ScanMode.emit, ScanMode.next, ScanMode.finish, hname, hcolon]

/-- Behind a text that it leaves outside quotes a scan begins anew at such a character. -/
theorem placeholdersFrom_append_anew (ht : endsUnquoted t = true) (hname : isNameChar c = false)
    (hcolon : c ≠ ':') (rest : List Char) :
    placeholdersFrom .plain (t ++ c :: rest) =
      placeholdersFrom .plain t ++ placeholdersFrom .plain (c :: rest) := by
  have hunquoted : (modeAfter .plain t).isQuoted = false := by simpa [endsUnquoted] using ht
  rw [placeholdersFrom_append, placeholdersFrom_anew hunquoted hname hcolon,
    placeholdersFrom_eq_emitted .plain t, List.append_assoc]

/-- Behind a text that it leaves outside quotes a scan begins anew at a break. -/
theorem placeholdersFrom_clause (ht : endsUnquoted t = true) (hc : isBreak c = true)
    (rest : List Char) :
    placeholdersFrom .plain (t ++ c :: rest) =
      placeholdersFrom .plain t ++ placeholdersFrom .plain (c :: rest) := by
  have hbreak : c = ' ' ∨ c = ',' ∨ c = ')' := by simpa [isBreak, or_assoc] using hc
  have hname : isNameChar c = false := by
    rcases hbreak with rfl | rfl | rfl <;> decide
  have hcolon : c ≠ ':' := by
    rcases hbreak with rfl | rfl | rfl <;> decide
  exact placeholdersFrom_append_anew ht hname hcolon rest

end

theorem isSign_of_isUnmarked {s : String} (h : isUnmarked s = true) :
    ∀ c ∈ s.toList, isSign c = false := by
  intro c hc
  have hmark := List.all_eq_true.1 h c hc
  cases hsign : isSign c with
  | false => rfl
  | true => simp [isMark, hsign] at hmark

theorem isPiecewise_placeholders :
    IsPiecewise (endsUnquoted · = true) (placeholdersFrom .plain) where
  nil := rfl
  words h rest := by
    have hwords := placeholdersFrom_of_not_isSign (isSign_of_isUnmarked h)
    have hnone := hwords []
    rw [List.append_nil] at hnone
    rw [hwords, hnone]
    rfl
  clause ht _ hc rest := placeholdersFrom_clause ht hc rest

/-! ## Repeated placeholders -/

/-- What only repeats does not count among distinct members. -/
theorem eraseDups_append_of_subset {α : Type} [BEq α] [LawfulBEq α] {as cs : List α}
    (h : ∀ c ∈ cs, c ∈ as) (bs : List α) : (as ++ (cs ++ bs)).eraseDups = (as ++ bs).eraseDups := by
  have hcs : cs.filter (fun c => !as.elem c) = [] :=
    List.filter_eq_nil_iff.2 fun c hc => by simp [h c hc]
  have hgone : (cs ++ bs).removeAll as = bs.removeAll as := by
    rw [List.removeAll, List.filter_append, hcs, List.nil_append, List.removeAll]
  rw [List.eraseDups_append, List.eraseDups_append, hgone]

theorem placeholderNames_append_of_subset {ps rs : List Placeholder} (h : ∀ r ∈ rs, r ∈ ps)
    (later : List Placeholder) :
    placeholderNames (ps ++ (rs ++ later)) = placeholderNames (ps ++ later) := by
  simp only [placeholderNames, List.filterMap_append]
  refine eraseDups_append_of_subset (fun name hname => ?_) _
  obtain ⟨r, hr, hrname⟩ := List.mem_filterMap.1 hname
  exact List.mem_filterMap.2 ⟨r, h r hr, hrname⟩

/-- Two queries with the same names and as many positional parameters have the same parameters. -/
theorem Parameters.ofSql_congr {sql sql' : String} {ps : Parameters}
    (hnames : placeholderNames (placeholders sql') = placeholderNames (placeholders sql))
    (hcount : (placeholders sql').count .positional = (placeholders sql).count .positional)
    (h : ofSql sql = .ok ps) : ofSql sql' = .ok ps := by
  have hmixed : (placeholders sql').contains .positional =
      (placeholders sql).contains .positional := by
    rw [Bool.eq_iff_iff, List.contains_iff_mem, List.contains_iff_mem, ← List.count_pos_iff,
      ← List.count_pos_iff, hcount]
  unfold ofSql parameterCount at h ⊢
  dsimp only at h ⊢
  rw [hnames, hcount, hmixed]
  split at h
  · next hempty =>
    rw [if_pos hempty]
    exact h
  · next hempty =>
    rw [if_neg hempty]
    split at h
    · cases h
    · next hnone =>
      rw [if_neg hnone]
      exact h

/-- Named parameters stand alone. -/
theorem Parameters.not_mem_of_named {sql : String} {ps : Parameters} (h : ofSql sql = .ok ps)
    (hnamed : ps.style = .named) : .positional ∉ placeholders sql := by
  unfold ofSql at h
  dsimp only at h
  split at h
  · cases h
    cases hnamed
  · split at h
    · cases h
    · next hnone => rwa [List.contains_iff_mem] at hnone

/-! ## Pages -/

namespace PageQuery

variable {q : PageQuery}

/-- The clauses that may hold placeholders leave a scan outside quotes, and no column that the rows
are ordered by has a sign in it. -/
structure IsScannable (q : PageQuery) : Prop where
  columns : endsUnquoted q.columns.toList = true
  source : endsUnquoted q.source.toList = true
  filter : ∀ text ∈ q.filter, endsUnquoted text.toList = true
  sortKeys : ∀ k ∈ q.sortKeys, ∀ c ∈ k.column.toList, isSign c = false

theorem isSign_orderingSql {keys : List SortKey}
    (h : ∀ k ∈ keys, ∀ c ∈ k.column.toList, isSign c = false) :
    ∀ c ∈ (SortKey.orderingSql keys).toList, isSign c = false := by
  have hkey {k : SortKey} (hk : k ∈ keys) : ∀ c ∈ k.toSql.toList, isSign c = false := by
    have horder : ∀ c ∈ (" " ++ k.order.keyword).toList, isSign c = false :=
      not_isSign_of_all (by cases k.order <;> decide)
    intro c hc
    rw [SortKey.toSql, String.append_assoc, String.toList_append, List.mem_append] at hc
    exact hc.elim (h k hk c) (horder c)
  induction keys with
  | nil => exact fun c hc => by cases hc
  | cons k keys ih =>
    cases keys with
    | nil => exact hkey List.mem_cons_self
    | cons j keys =>
      have hcomma : ∀ c ∈ ", ".toList, isSign c = false := not_isSign_of_all (by decide)
      have hlater := ih (fun k' hk' => h k' (List.mem_cons_of_mem _ hk'))
        (fun hk' => hkey (List.mem_cons_of_mem _ hk'))
      intro c hc
      rw [SortKey.orderingSql_cons_cons, String.toList_append, String.toList_append,
        List.mem_append, List.mem_append] at hc
      exact hc.elim (fun hc => hc.elim (hkey List.mem_cons_self c) (hcomma c)) (hlater c)

namespace IsScannable

theorem endsUnquoted_filterSql (hq : q.IsScannable) :
    endsUnquoted q.filterSql.toList = true := by
  rw [filterSql]
  cases hfilter : q.filter with
  | none => rfl
  | some text =>
    have hwords := (scan_of_not_isSign (not_isSign_of_all (t := " WHERE ".toList) (by decide))).2
    rw [endsUnquoted, String.toList_append, modeAfter_append, hwords]
    exact hq.filter text hfilter

theorem endsUnquoted_clauses (hq : q.IsScannable) :
    ∀ text ∈ q.clauses, endsUnquoted text.toList = true := by
  have hordering : endsUnquoted q.orderingSql.toList = true := by
    rw [endsUnquoted, orderingSql, (scan_of_not_isSign (isSign_orderingSql hq.sortKeys)).2]
    rfl
  intro text htext
  simp only [clauses, List.mem_cons, List.not_mem_nil, or_false] at htext
  rcases htext with rfl | rfl | rfl | rfl
  · exact hq.columns
  · exact hq.source
  · exact hq.endsUnquoted_filterSql
  · exact hordering

end IsScannable

end PageQuery

/-- Whether a piece of a query may hold placeholders. -/
def QueryPiece.mayHold : QueryPiece → Bool
  | columns | source | filter => true
  | words _ | ordering => false

/-- Every form writes the columns, some of them several times, and then the source and the filter
once. -/
theorem PageForm.filter_layout (form : PageForm) (w : Window) :
    ∃ n, (form.layout w).filter QueryPiece.mayHold =
      .columns :: (List.replicate n .columns ++ [.source, .filter]) := by
  cases form with
  | hsql | h2 | mysql | postgres | sqlite => exact ⟨0, rfl⟩
  | sqlserver => exact ⟨1, rfl⟩
  | oracle | db2 => exact ⟨2, rfl⟩

namespace PageQuery.IsScannable

variable {q : PageQuery}

theorem placeholders_layoutSql (hq : q.IsScannable) {pieces : List QueryPiece}
    (h : QueryPiece.areSpaced pieces = true) :
    placeholders (layoutSql q pieces) =
      (pieces.filter QueryPiece.mayHold).flatMap fun piece => placeholders (piece.toSql q) := by
  have hnone {t : List Char} (ht : ∀ c ∈ t, isSign c = false) : placeholdersFrom .plain t = [] := by
    have hscan := placeholdersFrom_of_not_isSign ht []
    rwa [List.append_nil] at hscan
  rw [placeholders, isPiecewise_placeholders.layoutSql hq.endsUnquoted_clauses h]
  -- fixed words and the ordering have no signs in them: only clauses can hold placeholders
  induction pieces with
  | nil => rfl
  | cons piece rest ih =>
    rw [List.flatMap_cons]
    cases piece with
    | words s =>
      obtain ⟨hs, hrest⟩ := Bool.and_eq_true_iff.1 h
      have hwords : placeholdersFrom .plain (QueryPiece.toSql q (.words s)).toList = [] :=
        hnone (isSign_of_isUnmarked hs)
      rw [hwords, List.nil_append, ih hrest]
      rfl
    | ordering =>
      have hordering : placeholdersFrom .plain (QueryPiece.toSql q .ordering).toList = [] :=
        hnone (isSign_orderingSql hq.sortKeys)
      rw [hordering, List.nil_append, ih (Bool.and_eq_true_iff.1 h).2]
      rfl
    | columns | source | filter =>
      rw [ih (Bool.and_eq_true_iff.1 h).2]
      rfl

theorem placeholders_baseSql (hq : q.IsScannable) :
    placeholders q.baseSql = placeholders q.columns ++
      (placeholders q.source ++ placeholders q.filterSql) := by
  rw [q.baseSql_eq_layoutSql, hq.placeholders_layoutSql (by decide)]
  simp only [List.filter_cons, List.filter_nil, QueryPiece.mayHold, if_true, Bool.false_eq_true,
    if_false, List.flatMap_cons, List.flatMap_nil, List.append_nil]
  rfl

/-- A page has the placeholders of the query for all rows, and some of them again. -/
theorem placeholders_pageSql (hq : q.IsScannable) (form : PageForm) (w : Window) :
    ∃ repeated, (∀ r ∈ repeated, r ∈ placeholders q.columns) ∧
      placeholders (form.pageSql q w) = placeholders q.columns ++
        (repeated ++ (placeholders q.source ++ placeholders q.filterSql)) := by
  obtain ⟨n, hn⟩ := form.filter_layout w
  refine ⟨(List.replicate n QueryPiece.columns).flatMap fun piece => placeholders (piece.toSql q),
    fun r hr => ?_, ?_⟩
  · obtain ⟨piece, hpiece, hmem⟩ := List.mem_flatMap.1 hr
    rwa [List.eq_of_mem_replicate hpiece] at hmem
  · rw [PageForm.pageSql, hq.placeholders_layoutSql (form.areSpaced_layout w), hn]
    simp only [List.flatMap_cons, List.flatMap_append, List.flatMap_nil, List.append_nil]
    rfl

theorem placeholderNames_pageSql (hq : q.IsScannable) (form : PageForm) (w : Window) :
    placeholderNames (placeholders (form.pageSql q w)) =
      placeholderNames (placeholders q.baseSql) := by
  obtain ⟨repeated, hrepeated, hpage⟩ := hq.placeholders_pageSql form w
  rw [hpage, hq.placeholders_baseSql, placeholderNames_append_of_subset hrepeated]

theorem count_positional_pageSql (hq : q.IsScannable) (hnone : .positional ∉ placeholders q.columns)
    (form : PageForm) (w : Window) :
    (placeholders (form.pageSql q w)).count .positional =
      (placeholders q.baseSql).count .positional := by
  obtain ⟨repeated, hrepeated, hpage⟩ := hq.placeholders_pageSql form w
  have hzero : repeated.count .positional = 0 :=
    List.count_eq_zero.2 fun hmem => hnone (hrepeated _ hmem)
  rw [hpage, hq.placeholders_baseSql]
  simp only [List.count_append, hzero, Nat.zero_add]

end PageQuery.IsScannable

namespace Pager

/-- The parameters that a pager tells of its query are those of every page: as many, given in the
same style, with the same names in the same order.  The clauses have to leave a scan outside quotes,
the columns of the ordering to be free of signs; and where parameters are positional, none may stand
among the columns, as some forms write these several times. -/
theorem parameters_pageSql {dialect : Dialect} {q : PageQuery} {p : Pager}
    (hp : ofQuery dialect q = .ok p) (hq : q.IsScannable)
    (hcolumns : p.parameters.style = .named ∨ .positional ∉ placeholders q.columns)
    {offset limit : Int} (hoffset : 0 ≤ offset) (hlimit : 1 ≤ limit) :
    ∃ sql, p.pageSql offset limit = .ok sql ∧
      Parameters.ofSql sql = .ok p.parameters ∧
      placeholderNames (placeholders sql) = placeholderNames (placeholders q.baseSql) := by
  obtain ⟨parameters, hparameters, rfl⟩ := ofQuery_eq_ok_iff.1 hp
  have hnone : .positional ∉ placeholders q.columns := by
    refine hcolumns.elim (fun hnamed hmem => ?_) id
    refine Parameters.not_mem_of_named hparameters hnamed ?_
    rw [hq.placeholders_baseSql]
    exact List.mem_append_left _ hmem
  obtain ⟨w, -, hpage⟩ := pageSql_ok hoffset hlimit
  refine ⟨_, hpage _, ?_, hq.placeholderNames_pageSql _ w⟩
  exact Parameters.ofSql_congr (hq.placeholderNames_pageSql _ w)
    (hq.count_positional_pageSql hnone _ w) hparameters

/-- Columns with a placeholder at their end, a cast and a quoted question mark, which a form writes
three times, and a filter with the same placeholder again. -/
theorem parameters_pageSql_repeated :
    let q : PageQuery := ⟨"id::text, 'why?', :a", "%PREFIX%execution", [⟨"id", .descending⟩],
      some "x = :b AND y = :a"⟩
    ∃ sql, (⟨.oracle, q, ⟨2, .named⟩⟩ : Pager).pageSql 20 10 = .ok sql ∧
      Parameters.ofSql sql = .ok ⟨2, .named⟩ ∧
      placeholderNames (placeholders sql) = ["a", "b"] := by
  intro q
  have hscannable : q.IsScannable :=
    ⟨by decide, by decide, fun text htext => by cases htext; decide,
      fun k hk => by cases List.mem_singleton.1 hk; exact not_isSign_of_all (by decide)⟩
  have hbase : placeholders q.baseSql = [.named "a", .named "b", .named "a"] := by decide +kernel
  have hnames : placeholderNames (placeholders q.baseSql) = ["a", "b"] := by
    rw [hbase]
    decide
  have hp : ofQuery .oracle q = .ok ⟨.oracle, q, ⟨2, .named⟩⟩ := by
    rw [ofQuery, Parameters.ofSql, parameterCount, hnames, hbase]
    rfl
  have hoffset : (0 : Int) ≤ 20 := by decide
  have hlimit : (1 : Int) ≤ 10 := by decide
  obtain ⟨sql, hpage, hsql, hsame⟩ :=
    parameters_pageSql hp hscannable (.inl rfl) hoffset hlimit
  exact ⟨sql, hpage, hsql, hsame.trans hnames⟩

end Pager

end RunLedger
