import RunLedger.Paging.Form

/-!
# Page queries piece by piece

A page query is laid out in fixed words with the clauses between them.  The words have no quotes
and no marks in them, and behind each clause the text breaks off: it ends, or goes on with a blank,
a comma or a closing bracket.  What takes no notice of fixed words and begins anew at a break
therefore goes through a page query piece by piece, whatever its form.

    AreSpaced (form.layout w)                                              (areSpaced_layout)
    IsPiecewise ends f → (∀ text ∈ q.clauses, ends text.toList) →
      f (form.pageSql q w).toList =
        (form.layout w).flatMap fun piece => f (piece.toSql q).toList      (IsPiecewise.pageSql)
-/

namespace RunLedger

/-- Whether a text breaks off with a character. -/
def isBreak (c : Char) : Bool := c = ' ' || c = ',' || c = ')'

/-- Whether a string begins with a break. -/
def breaks (s : String) : Bool := s.toList.head?.any isBreak

/-- Whether a character is a quote or begins a placeholder. -/
def isSign (c : Char) : Bool := "'\"?:&".toList.contains c

/-- Whether a character is one of these, or begins the mark of a prefix. -/
def isMark (c : Char) : Bool := isSign c || c = '%'

/-- Whether a string has no marks in it. -/
def isUnmarked (s : String) : Bool := s.toList.all fun c => !isMark c

theorem breaks_append {s : String} (h : breaks s = true) (t : String) : breaks (s ++ t) = true := by
  rw [breaks, String.toList_append, List.head?_append]
  rw [breaks] at h
  cases hs : s.toList.head? with
  | none => rw [hs] at h; cases h
  | some c => rw [hs] at h; exact h

@[simp] theorem isUnmarked_append (s t : String) :
    isUnmarked (s ++ t) = (isUnmarked s && isUnmarked t) := by
  rw [isUnmarked, String.toList_append, List.all_append]
  rfl

@[simp] theorem isUnmarked_toString (n : Nat) : isUnmarked (toString n) = true := by
  rw [isUnmarked, List.all_eq_true, Nat.toString_eq_repr, Nat.toList_repr]
  intro c hc
  have hdigit : c.isDigit = true := Nat.isDigit_of_mem_toDigits (by decide) (by decide) hc
  have hnone : "'\"?:&%".toList.all (fun d => !d.isDigit) = true := by decide
  cases hmark : isMark c with
  | false => rfl
  | true =>
    have hmem : c ∈ "'\"?:&%".toList := by
      simpa [isMark, isSign, or_assoc] using hmark
    have hother := List.all_eq_true.1 hnone c hmem
    rw [hdigit] at hother
    cases hother

theorem SortKey.orderingSql_cons_cons (k j : SortKey) (keys : List SortKey) :
    orderingSql (k :: j :: keys) = k.toSql ++ ", " ++ orderingSql (j :: keys) :=
  String.intercalate_cons_cons

/-! ## Layouts -/

/-- The clauses of a query as they are written in its pages. -/
def PageQuery.clauses (q : PageQuery) : List String :=
  [q.columns, q.source, q.filterSql, q.orderingSql]

namespace QueryPiece

/-- Whether the text breaks off before some pieces: there are none, or they begin with words that
begin with a break.  A filter, where there is one, does so too. -/
def breakOff : List QueryPiece → Bool
  | [] => true
  | words s :: _ => breaks s
  | filter :: rest => breakOff rest
  | _ => false

/-- Whether the words have no marks in them, and the text breaks off behind the clauses. -/
def areSpaced : List QueryPiece → Bool
  | [] => true
  | words s :: rest => isUnmarked s && areSpaced rest
  | _ :: rest => breakOff rest && areSpaced rest

theorem isUnmarked_of_mem {pieces : List QueryPiece} (h : areSpaced pieces = true) {s : String}
    (hs : words s ∈ pieces) : isUnmarked s = true := by
  induction pieces with
  | nil => cases hs
  | cons piece rest ih =>
    have hrest : areSpaced rest = true := by
      cases piece <;> exact (Bool.and_eq_true_iff.1 h).2
    rcases List.mem_cons.1 hs with rfl | hs
    · exact (Bool.and_eq_true_iff.1 h).1
    · exact ih hrest hs

end QueryPiece

namespace PageForm

open QueryPiece

@[simp] theorem isUnmarked_numberRange (w : Window) : isUnmarked (numberRange w) = true := by
  have hfirst : isUnmarked "TMP_ROW_NUM >= " = true := by decide
  have hnext : isUnmarked " AND TMP_ROW_NUM < " = true := by decide
  delta numberRange
  simp only [isUnmarked_append, isUnmarked_toString, hfirst, hnext, Bool.and_self]

theorem areSpaced_limited {clause : String} (h : isUnmarked clause = true) :
    areSpaced (limited clause) = true := by
  have hclause : breaks (" " ++ clause) = true := breaks_append rfl clause
  simp only [limited, areSpaced, breakOff, isUnmarked_append, hclause, h]
  decide

theorem areSpaced_numberedAround {numbering range : String}
    (hnumbering : isUnmarked numbering = true) (hrange : isUnmarked range = true) :
    areSpaced (numberedAround numbering range) = true := by
  have hcolumns : breaks (", " ++ numbering ++ " as TMP_ROW_NUM FROM (SELECT ") = true :=
    breaks_append (breaks_append rfl _) _
  have hordering : breaks (")) WHERE " ++ range) = true := breaks_append rfl _
  simp only [numberedAround, areSpaced, breakOff, isUnmarked_append, hcolumns, hordering,
    hnumbering, hrange]
  decide

/-- Every form lays its pages out so. -/
theorem areSpaced_layout (form : PageForm) (w : Window) : areSpaced (form.layout w) = true := by
  cases form with
  | hsql =>
    simp only [layout, areSpaced, breakOff, isUnmarked_append, isUnmarked_toString]
    decide
  | h2 | mysql | postgres | sqlite =>
    refine areSpaced_limited ?_
    simp only [isUnmarked_append, isUnmarked_toString]
    decide
  | oracle | db2 => exact areSpaced_numberedAround (by decide) (isUnmarked_numberRange w)
  | sqlserver =>
    have hsource : breaks (") TASK_EXECUTION_PAGE  WHERE " ++ numberRange w ++ " ORDER BY ") =
        true := breaks_append (breaks_append rfl _) _
    simp only [layout, areSpaced, breakOff, isUnmarked_append, isUnmarked_numberRange, hsource]
    decide

end PageForm

/-! ## Going through a query -/

/-- What takes no notice of words without marks, and begins anew at a break behind a text that ends
well. -/
structure IsPiecewise {β : Type} (ends : List Char → Prop) (f : List Char → List β) : Prop where
  nil : f [] = []
  words : ∀ {s}, isUnmarked s = true → ∀ rest, f (s.toList ++ rest) = f s.toList ++ f rest
  clause : ∀ {t}, ends t → ∀ {c}, isBreak c = true →
    ∀ rest, f (t ++ c :: rest) = f t ++ f (c :: rest)

theorem toList_layoutSql_cons (q : PageQuery) (piece : QueryPiece) (rest : List QueryPiece) :
    (layoutSql q (piece :: rest)).toList = (piece.toSql q).toList ++ (layoutSql q rest).toList := by
  rw [layoutSql, List.map_cons, String.join_cons, String.toList_append, layoutSql]

theorem PageQuery.baseSql_eq_layoutSql (q : PageQuery) :
    q.baseSql = layoutSql q [.words "SELECT ", .columns, .words " FROM ", .source, .filter] := by
  simp only [baseSql, layoutSql, List.map_cons, List.map_nil, String.join_cons, String.join_nil,
    String.append_empty, String.append_assoc]
  rfl

namespace IsPiecewise

open QueryPiece

variable {β : Type} {ends : List Char → Prop} {f : List Char → List β} {q : PageQuery}
  {pieces : List QueryPiece}

theorem break_of_breakOff (h : breakOff pieces = true) :
    (RunLedger.layoutSql q pieces).toList = [] ∨
      ∃ c rest, (RunLedger.layoutSql q pieces).toList = c :: rest ∧ isBreak c = true := by
  induction pieces with
  | nil => exact .inl rfl
  | cons piece rest ih =>
    rw [toList_layoutSql_cons]
    cases piece with
    | words s =>
      rw [breakOff, breaks] at h
      rw [toSql]
      cases hs : s.toList with
      | nil => rw [hs] at h; cases h
      | cons c cs => rw [hs] at h; exact .inr ⟨c, _, rfl, h⟩
    | filter =>
      rw [toSql, PageQuery.filterSql]
      cases q.filter with
      | none => exact ih h
      | some text => exact .inr ⟨' ', _, by rw [String.toList_append]; rfl, rfl⟩
    | columns | source | ordering => cases h

/-- It goes through pieces one by one. -/
theorem layoutSql (hf : IsPiecewise ends f) (hq : ∀ text ∈ q.clauses, ends text.toList)
    (h : areSpaced pieces = true) :
    f (RunLedger.layoutSql q pieces).toList =
      pieces.flatMap fun piece => f (piece.toSql q).toList := by
  induction pieces with
  | nil => exact hf.nil
  | cons piece rest ih =>
    -- behind a clause the text ends, or goes on with a character that breaks the clause off
    have hclause {t : List Char} (ht : ends t) (hbreak : breakOff rest = true) :
        f (t ++ (RunLedger.layoutSql q rest).toList) =
          f t ++ f (RunLedger.layoutSql q rest).toList := by
      rcases break_of_breakOff (q := q) hbreak with hnil | ⟨c, cs, hcons, hc⟩
      · rw [hnil, hf.nil, List.append_nil, List.append_nil]
      · rw [hcons, hf.clause ht hc]
    rw [toList_layoutSql_cons, List.flatMap_cons]
    cases piece with
    | words s =>
      obtain ⟨hs, hrest⟩ := Bool.and_eq_true_iff.1 h
      rw [toSql, hf.words hs, ih hrest]
    | columns | source | filter | ordering =>
      obtain ⟨hbreak, hrest⟩ := Bool.and_eq_true_iff.1 h
      rw [hclause (hq _ (by simp [PageQuery.clauses, toSql])) hbreak, ih hrest]

/-- It goes through a page query piece by piece. -/
theorem pageSql (hf : IsPiecewise ends f) (hq : ∀ text ∈ q.clauses, ends text.toList)
    (form : PageForm) (w : Window) :
    f (form.pageSql q w).toList = (form.layout w).flatMap fun piece => f (piece.toSql q).toList :=
  hf.layoutSql hq (form.areSpaced_layout w)

end IsPiecewise

/-! ## Pagers -/

namespace Pager

theorem ofQuery_eq_ok_iff {dialect : Dialect} {q : PageQuery} {p : Pager} :
    ofQuery dialect q = .ok p ↔
      ∃ parameters, Parameters.ofSql q.baseSql = .ok parameters ∧ p = ⟨dialect, q, parameters⟩ := by
  rw [ofQuery]
  cases Parameters.ofSql q.baseSql with
  | error e => exact ⟨nofun, nofun⟩
  | ok parameters =>
    constructor
    · intro h
      exact ⟨parameters, rfl, (Except.ok.inj h).symm⟩
    · rintro ⟨_, h, rfl⟩
      cases h
      rfl

/-- A pager gives the query of every page. -/
theorem pageSql_ok {offset limit : Int} (hoffset : 0 ≤ offset) (hlimit : 1 ≤ limit) :
    ∃ w, Window.of? offset limit = .ok w ∧
      ∀ p : Pager, p.pageSql offset limit = .ok (p.form.pageSql p.query w) := by
  have hw : Window.of? offset limit = .ok ⟨offset.toNat, limit.toNat, by omega⟩ := by
    rw [Window.of?, if_neg (by omega), dif_neg (by omega)]
  exact ⟨_, hw, fun p => by rw [pageSql, hw]; rfl⟩

end Pager

end RunLedger
