import RunLedger.Proofs.Paging.Layout
import RunLedger.Session.Operations

/-!
# Resolving prefixes in pages

The mark of a prefix stands anywhere in the clauses of a page query, and is resolved once the query
is put together.  No mark can arise or be lost where a clause meets the words around it: resolving
the whole is resolving each clause by itself, and putting the same page together from that.

    c ∉ word → replaceAll word new (t ++ c :: rest) =
      replaceAll word new t ++ replaceAll word new (c :: rest)             (replaceAll_append)
    resolvePrefix p (form.pageSql q w) = form.pageSql (q.resolved p) w     (resolvePrefix_pageSql)
-/

namespace RunLedger

/-! ## Replacing in parts of a text -/

namespace Text

variable {word new t rest : List Char}

theorem replaceAll_nil : replaceAll word new [] = [] := by rw [replaceAll]

theorem replaceAll_of_some {after : List Char} (hword : word ≠ [])
    (h : afterPrefix? word t = some after) :
    replaceAll word new t = new ++ replaceAll word new after := by
  have hempty : ¬ word.isEmpty = true := by rwa [List.isEmpty_iff]
  cases t with
  | nil =>
    have hnil := afterPrefix?_eq_some_iff.1 h
    exact absurd (List.append_eq_nil_iff.1 hnil.symm).1 hword
  | cons c t =>
    rw [replaceAll, if_neg hempty]
    split
    · next after' h' => rw [h] at h'; cases h'; rfl
    · next h' => rw [h] at h'; cases h'

theorem replaceAll_of_none {c : Char} (h : afterPrefix? word (c :: t) = none) :
    replaceAll word new (c :: t) = c :: replaceAll word new t := by
  have hempty : ¬ word.isEmpty = true := by
    rw [List.isEmpty_iff]
    rintro rfl
    cases h
  rw [replaceAll, if_neg hempty]
  split
  · next after h' => rw [h] at h'; cases h'
  · rfl

/-- Text without the first character of a word is passed over. -/
theorem replaceAll_of_not_mem {d : Char} (h : d ∉ t) (rest : List Char) :
    replaceAll (d :: word) new (t ++ rest) = t ++ replaceAll (d :: word) new rest := by
  induction t with
  | nil => rfl
  | cons c t ih =>
    have hc : d ≠ c := fun hc => h (hc ▸ List.mem_cons_self)
    have ht : d ∉ t := fun ht => h (List.mem_cons_of_mem c ht)
    have hnone : afterPrefix? (d :: word) (c :: (t ++ rest)) = none := by
      rw [afterPrefix?, if_neg hc]
    rw [List.cons_append, replaceAll_of_none hnone, ih ht, List.cons_append]

theorem replaceAll_self {d : Char} (h : d ∉ t) : replaceAll (d :: word) new t = t := by
  have hself : replaceAll (d :: word) new (t ++ []) = t ++ replaceAll (d :: word) new [] :=
    replaceAll_of_not_mem h []
  rwa [replaceAll_nil, List.append_nil] at hself

/-- At a character that a word does not have the text falls into two. -/
theorem replaceAll_append {c : Char} (hword : word ≠ []) (hc : c ∉ word) (t rest : List Char) :
    replaceAll word new (t ++ c :: rest) =
      replaceAll word new t ++ replaceAll word new (c :: rest) := by
  -- by the length of the text before, as an occurrence takes away more than one character
  induction hlength : t.length using Nat.strongRecOn generalizing t with
  | ind n ih =>
    cases hfound : afterPrefix? word t with
    | some after =>
      have ht := afterPrefix?_eq_some_iff.1 hfound
      have hfound' : afterPrefix? word (t ++ c :: rest) = some (after ++ c :: rest) :=
        afterPrefix?_eq_some_iff.2 (by rw [ht, List.append_assoc])
      have hshorter : after.length < n := by
        rw [← hlength, ht, List.length_append]
        have := List.length_pos_iff.2 hword
        omega
      rw [replaceAll_of_some hword hfound', replaceAll_of_some hword hfound,
        ih _ hshorter after rfl, List.append_assoc]
    | none =>
      cases t with
      | nil => simp [replaceAll]
      | cons x t =>
        have hnone : afterPrefix? word (x :: (t ++ c :: rest)) = none := by
          cases hfound' : afterPrefix? word (x :: (t ++ c :: rest)) with
          | none => rfl
          | some after =>
            have hwhole : (x :: t) ++ c :: rest = word ++ after :=
              afterPrefix?_eq_some_iff.1 hfound'
            -- the word would stand in the text before, or have the character in it
            have hstands : ∃ s, x :: t = word ++ s := by
              rcases List.append_eq_append_iff.1 hwhole with ⟨s, hs, hrest⟩ | ⟨s, hs, -⟩
              · cases s with
                | nil => exact ⟨[], by rw [hs, List.append_nil, List.append_nil]⟩
                | cons y s =>
                  cases hrest
                  exact absurd (by rw [hs]; simp) hc
              · exact ⟨s, hs⟩
            obtain ⟨s, hs⟩ := hstands
            rw [afterPrefix?_eq_some_iff.2 hs] at hfound
            cases hfound
        rw [List.cons_append, replaceAll_of_none hnone, replaceAll_of_none hfound, List.cons_append,
          ih t.length (by rw [← hlength, List.length_cons]; omega) t rfl]

end Text

/-! ## Resolving clauses -/

/-- The mark begins with a character that fixed words do not have. -/
theorem percent_not_mem {s : String} (h : isUnmarked s = true) : '%' ∉ s.toList := by
  intro hmem
  have hmark := List.all_eq_true.1 h _ hmem
  cases hmark

/-- No character of the mark breaks a text off. -/
theorem not_mem_of_isBreak {c : Char} (h : isBreak c = true) : c ∉ "%PREFIX%".toList := by
  have hnone : "%PREFIX%".toList.all (fun d => !isBreak d) = true := by decide
  intro hmem
  have hother := List.all_eq_true.1 hnone c hmem
  rw [h] at hother
  cases hother

theorem isPiecewise_replaceAll (new : List Char) :
    IsPiecewise (fun _ => True) (Text.replaceAll "%PREFIX%".toList new) where
  nil := Text.replaceAll_nil
  words {s} h rest := by
    have hself : Text.replaceAll "%PREFIX%".toList new s.toList = s.toList :=
      Text.replaceAll_self (percent_not_mem h)
    rw [hself]
    exact Text.replaceAll_of_not_mem (percent_not_mem h) rest
  clause _ _ hc rest := Text.replaceAll_append (by decide) (not_mem_of_isBreak hc) _ rest

namespace Session

variable {tablePrefix : String}

theorem toList_resolvePrefix (tablePrefix s : String) :
    (resolvePrefix tablePrefix s).toList =
      Text.replaceAll "%PREFIX%".toList tablePrefix.toList s.toList := String.toList_ofList

theorem resolvePrefix_of_isUnmarked {s : String} (h : isUnmarked s = true) :
    resolvePrefix tablePrefix s = s := by
  rw [← String.toList_inj, toList_resolvePrefix]
  exact Text.replaceAll_self (percent_not_mem h)

theorem resolvePrefix_append_of_isUnmarked {s : String} (h : isUnmarked s = true) (t : String) :
    resolvePrefix tablePrefix (s ++ t) = s ++ resolvePrefix tablePrefix t := by
  rw [← String.toList_inj, toList_resolvePrefix, String.toList_append, String.toList_append,
    toList_resolvePrefix]
  exact Text.replaceAll_of_not_mem (percent_not_mem h) _

theorem resolvePrefix_append {t : String} (h : breaks t = true) (s : String) :
    resolvePrefix tablePrefix (s ++ t) =
      resolvePrefix tablePrefix s ++ resolvePrefix tablePrefix t := by
  rw [← String.toList_inj, String.toList_append, toList_resolvePrefix, toList_resolvePrefix,
    toList_resolvePrefix, String.toList_append]
  rw [breaks] at h
  cases ht : t.toList with
  | nil => rw [ht] at h; cases h
  | cons c rest =>
    rw [ht] at h
    exact Text.replaceAll_append (by decide) (not_mem_of_isBreak h) _ _

end Session

open Session

/-! ## Resolving queries -/

/-- The query with the prefix resolved in each of its clauses. -/
def PageQuery.resolved (tablePrefix : String) (q : PageQuery) : PageQuery where
  columns := resolvePrefix tablePrefix q.columns
  source := resolvePrefix tablePrefix q.source
  sortKeys := q.sortKeys.map fun k => { k with column := resolvePrefix tablePrefix k.column }
  filter := q.filter.map (resolvePrefix tablePrefix)

namespace PageQuery

theorem filterSql_resolved (tablePrefix : String) (q : PageQuery) :
    (q.resolved tablePrefix).filterSql = resolvePrefix tablePrefix q.filterSql := by
  have hnone : resolvePrefix tablePrefix "" = "" := resolvePrefix_of_isUnmarked rfl
  have hwords : isUnmarked " WHERE " = true := by decide
  rw [filterSql, filterSql, resolved]
  cases q.filter with
  | none => exact hnone.symm
  | some text => exact (resolvePrefix_append_of_isUnmarked hwords text).symm

theorem toSql_resolved (tablePrefix : String) (k : SortKey) :
    SortKey.toSql { k with column := resolvePrefix tablePrefix k.column } =
      resolvePrefix tablePrefix k.toSql := by
  have horder : isUnmarked (" " ++ k.order.keyword) = true := by cases k.order <;> decide
  rw [SortKey.toSql, SortKey.toSql, String.append_assoc, String.append_assoc,
    resolvePrefix_append (breaks_append rfl _), resolvePrefix_of_isUnmarked horder]

theorem orderingSql_resolved (tablePrefix : String) (q : PageQuery) :
    (q.resolved tablePrefix).orderingSql = resolvePrefix tablePrefix q.orderingSql := by
  have hnone : resolvePrefix tablePrefix "" = "" := resolvePrefix_of_isUnmarked rfl
  rw [orderingSql, orderingSql, resolved]
  induction q.sortKeys with
  | nil => exact hnone.symm
  | cons k keys ih =>
    cases keys with
    | nil => exact toSql_resolved tablePrefix k
    | cons j keys =>
      have hcomma : breaks (", " ++ SortKey.orderingSql (j :: keys)) = true := breaks_append rfl _
      rw [List.map_cons] at ih
      rw [List.map_cons, List.map_cons, SortKey.orderingSql_cons_cons,
        SortKey.orderingSql_cons_cons, toSql_resolved, ih, String.append_assoc, String.append_assoc,
        resolvePrefix_append hcomma, resolvePrefix_append_of_isUnmarked (by decide)]

end PageQuery

/-- Pieces that are laid out as in a page are resolved one by one. -/
theorem resolvePrefix_layoutSql (tablePrefix : String) (q : PageQuery) {pieces : List QueryPiece}
    (h : QueryPiece.areSpaced pieces = true) :
    resolvePrefix tablePrefix (layoutSql q pieces) = layoutSql (q.resolved tablePrefix) pieces := by
  have hpiece : ∀ piece ∈ pieces, resolvePrefix tablePrefix (piece.toSql q) =
      piece.toSql (q.resolved tablePrefix) := by
    intro piece hpiece
    cases piece with
    | words s => exact resolvePrefix_of_isUnmarked (QueryPiece.isUnmarked_of_mem h hpiece)
    | columns | source => rfl
    | filter => exact (q.filterSql_resolved tablePrefix).symm
    | ordering => exact (q.orderingSql_resolved tablePrefix).symm
  have hlists : (pieces.map fun piece => (resolvePrefix tablePrefix (piece.toSql q)).toList) =
      pieces.map fun piece => (piece.toSql (q.resolved tablePrefix)).toList :=
    List.map_congr_left fun piece hmem => by rw [hpiece piece hmem]
  simp only [toList_resolvePrefix] at hlists
  rw [← String.toList_inj, toList_resolvePrefix,
    (isPiecewise_replaceAll _).layoutSql (fun _ _ => trivial) h, layoutSql, String.toList_join,
    List.flatMap_map, List.flatMap_def, List.flatMap_def]
  exact congrArg List.flatten hlists

namespace PageQuery

/-- The query for all rows is resolved clause by clause. -/
theorem baseSql_resolved (tablePrefix : String) (q : PageQuery) :
    (q.resolved tablePrefix).baseSql = resolvePrefix tablePrefix q.baseSql := by
  rw [baseSql_eq_layoutSql, baseSql_eq_layoutSql, resolvePrefix_layoutSql _ _ (by decide)]

end PageQuery

/-- Resolving a page query is resolving each of its clauses, in every form. -/
theorem PageForm.resolvePrefix_pageSql (form : PageForm) (tablePrefix : String) (q : PageQuery)
    (w : Window) :
    resolvePrefix tablePrefix (form.pageSql q w) = form.pageSql (q.resolved tablePrefix) w :=
  resolvePrefix_layoutSql tablePrefix q (form.areSpaced_layout w)

namespace Pager

/-- A page of which the prefix is resolved is the page of the query with the prefix resolved in each
of its clauses.  That query has its pager in the same dialect, unless the prefix brings placeholders
of another style into it. -/
theorem pageSql_resolved {dialect : Dialect} {q : PageQuery} {p : Pager}
    (hp : ofQuery dialect q = .ok p) (tablePrefix : String) {offset limit : Int}
    (hoffset : 0 ≤ offset) (hlimit : 1 ≤ limit) :
    ∃ w sql, Window.of? offset limit = .ok w ∧ p.pageSql offset limit = .ok sql ∧
      dialect.pageForm.pageSql (q.resolved tablePrefix) w = resolvePrefix tablePrefix sql ∧
      ∀ parameters, Parameters.ofSql (resolvePrefix tablePrefix q.baseSql) = .ok parameters →
        ∃ p', ofQuery dialect (q.resolved tablePrefix) = .ok p' ∧ p'.parameters = parameters ∧
          p'.pageSql offset limit = .ok (resolvePrefix tablePrefix sql) := by
  obtain ⟨parameters, -, rfl⟩ := ofQuery_eq_ok_iff.1 hp
  obtain ⟨w, hw, hpage⟩ := pageSql_ok hoffset hlimit
  have hresolved := dialect.pageForm.resolvePrefix_pageSql tablePrefix q w
  refine ⟨w, _, hw, hpage _, hresolved.symm, fun parameters hparameters => ?_⟩
  rw [← q.baseSql_resolved] at hparameters
  refine ⟨⟨dialect, q.resolved tablePrefix, parameters⟩,
    ofQuery_eq_ok_iff.2 ⟨parameters, hparameters, rfl⟩, rfl, ?_⟩
  rw [hpage]
  exact congrArg Except.ok hresolved.symm

/-- Marks side by side and half marks around them, under a prefix that is a mark with more behind
it. -/
theorem pageSql_resolved_overlapping :
    let q : PageQuery := ⟨"%PREFIX%PREFIX%PREFIX%", "%%PREFIX%%PREFIX%a",
      [⟨"PREFIX%", .descending⟩], some "%PREFIX"⟩
    ∃ sql p', (⟨.db2, q, ⟨0, .positional⟩⟩ : Pager).pageSql 4 2 = .ok sql ∧
      ofQuery .db2 (q.resolved "%PREFIX%_") = .ok p' ∧
      p'.pageSql 4 2 = .ok (resolvePrefix "%PREFIX%_" sql) ∧
      q.resolved "%PREFIX%_" = ⟨"%PREFIX%_PREFIX%PREFIX%_", "%%PREFIX%_%PREFIX%_a",
        [⟨"PREFIX%", .descending⟩], some "%PREFIX"⟩ := by
  intro q
  have hnone : placeholders q.baseSql = [] := by decide +kernel
  have hnone' : placeholders (resolvePrefix "%PREFIX%_" q.baseSql) = [] := by decide +kernel
  have hp : ofQuery .db2 q = .ok ⟨.db2, q, ⟨0, .positional⟩⟩ := by
    rw [ofQuery, Parameters.ofSql, hnone]
    rfl
  have hparameters : Parameters.ofSql (resolvePrefix "%PREFIX%_" q.baseSql) =
      .ok ⟨0, .positional⟩ := by
    rw [Parameters.ofSql, hnone']
    rfl
  have hoffset : (0 : Int) ≤ 4 := by decide
  have hlimit : (1 : Int) ≤ 2 := by decide
  obtain ⟨-, sql, -, hsql, -, hresolved⟩ := pageSql_resolved hp "%PREFIX%_" hoffset hlimit
  obtain ⟨p', hp', -, hpage⟩ := hresolved _ hparameters
  exact ⟨sql, p', hsql, hp', hpage, by decide +kernel⟩

/-- A prefix that begins like a named placeholder: beside a positional one, the query that it is
resolved in has no pager. -/
theorem resolved_refused_mixed :
    let q : PageQuery := ⟨"?", "%PREFIX%t", [⟨"id", .ascending⟩], none⟩
    (∃ p, ofQuery .sqlite q = .ok p ∧
      p.pageSql 0 1 = .ok "SELECT ? FROM %PREFIX%t ORDER BY id ASC LIMIT 1 OFFSET 0") ∧
    resolvePrefix ":p" "SELECT ? FROM %PREFIX%t ORDER BY id ASC LIMIT 1 OFFSET 0" =
      "SELECT ? FROM :pt ORDER BY id ASC LIMIT 1 OFFSET 0" ∧
    ofQuery .sqlite (q.resolved ":p") = .error (.placeholdersMixed "SELECT ? FROM :pt") := by
  intro q
  have hmarks : placeholders q.baseSql = [.positional] := by decide +kernel
  have hmixed : placeholders (q.resolved ":p").baseSql = [.positional, .named "pt"] := by
    decide +kernel
  have hbase : (q.resolved ":p").baseSql = "SELECT ? FROM :pt" := by decide +kernel
  have hp : ofQuery .sqlite q = .ok ⟨.sqlite, q, ⟨1, .positional⟩⟩ := by
    rw [ofQuery, Parameters.ofSql, hmarks]
    rfl
  refine ⟨⟨_, hp, congrArg Except.ok (by decide +kernel)⟩, by decide +kernel, ?_⟩
  rw [ofQuery, Parameters.ofSql, hmixed, hbase]
  rfl

end Pager

end RunLedger
