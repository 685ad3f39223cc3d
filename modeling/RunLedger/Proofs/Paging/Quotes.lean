import RunLedger.Proofs.Paging.Tokens

/-!
# Quoted text in queries

A quoted section begins at a quote that is reached outside quotes and goes through the next quote of
its kind, or through the end of the text.  For the placeholders of a query such a section is worth a
space: it ends the placeholder before it and holds none.  What stands in quotes thus has no
influence on the parameters.

    unquoted (quote :: cs) = ' ' :: unquoted (afterQuote quote cs)
    m.isQuoted = false → placeholdersFrom m (unquoted cs) = placeholdersFrom m cs
                                                                        (placeholdersFrom_unquoted)
    SameOutsideQuotes a b → unquoted a = unquoted b                                   (unquoted_eq)
-/

namespace RunLedger

/-- Whether a character begins a quoted section. -/
def isQuote (c : Char) : Bool := c = '\'' || c = '"'

/-- What stands behind a quoted section: the text behind the next quote of its kind, if any. -/
def afterQuote (quote : Char) (cs : List Char) : List Char := (cs.dropWhile (· ≠ quote)).drop 1

theorem length_afterQuote_le (quote : Char) (cs : List Char) :
    (afterQuote quote cs).length ≤ cs.length := by
  have hdrop := (List.dropWhile_sublist (l := cs) (· ≠ quote)).length_le
  rw [afterQuote, List.length_drop]
  omega

/-- The text with a space in the place of each quoted section. -/
def unquoted : List Char → List Char
  | [] => []
  | c :: cs => if isQuote c then ' ' :: unquoted (afterQuote c cs) else c :: unquoted cs
termination_by cs => cs.length
decreasing_by
  · exact Nat.lt_succ_of_le (length_afterQuote_le c cs)
  · exact Nat.lt_succ_self _

/-- Texts that differ in their quoted sections alone.  A section that is not closed is the last
one. -/
inductive SameOutsideQuotes : List Char → List Char → Prop where
  | nil : SameOutsideQuotes [] []
  | char {c : Char} {a b : List Char} (hc : isQuote c = false) (h : SameOutsideQuotes a b) :
      SameOutsideQuotes (c :: a) (c :: b)
  | closed {q r : QuoteMark} {s t a b : List Char} (hs : q.char ∉ s) (ht : r.char ∉ t)
      (h : SameOutsideQuotes a b) :
      SameOutsideQuotes (q.char :: (s ++ q.char :: a)) (r.char :: (t ++ r.char :: b))
  | unclosed {q r : QuoteMark} {s t : List Char} (hs : q.char ∉ s) (ht : r.char ∉ t) :
      SameOutsideQuotes (q.char :: s) (r.char :: t)

/-! ## Where sections end -/

section
variable {quote : Char} {s : List Char}

theorem dropWhile_ne_append (h : quote ∉ s) (rest : List Char) :
    (s ++ rest).dropWhile (· ≠ quote) = rest.dropWhile (· ≠ quote) := by
  refine List.dropWhile_append_of_pos fun c hc => ?_
  rw [decide_eq_true_eq]
  rintro rfl
  exact h hc

theorem afterQuote_closed (h : quote ∉ s) (rest : List Char) :
    afterQuote quote (s ++ quote :: rest) = rest := by
  rw [afterQuote, dropWhile_ne_append h, List.dropWhile_cons_of_neg (by simp), List.drop_one,
    List.tail_cons]

theorem afterQuote_unclosed (h : quote ∉ s) : afterQuote quote s = [] := by
  have hdrop := dropWhile_ne_append h []
  rw [List.append_nil, List.dropWhile_nil] at hdrop
  rw [afterQuote, hdrop, List.drop_nil]

end

theorem isQuote_char (q : QuoteMark) : isQuote q.char = true := by cases q <;> rfl

theorem unquoted_cons_of_quote {c : Char} (hc : isQuote c = true) (cs : List Char) :
    unquoted (c :: cs) = ' ' :: unquoted (afterQuote c cs) := by rw [unquoted, if_pos hc]

theorem unquoted_cons_of_not_quote {c : Char} (hc : isQuote c = false) (cs : List Char) :
    unquoted (c :: cs) = c :: unquoted cs := by
  rw [unquoted, hc]
  rfl

/-- What differs in quoted sections alone is the same once these are spaces. -/
theorem SameOutsideQuotes.unquoted_eq {a b : List Char} (h : SameOutsideQuotes a b) :
    unquoted a = unquoted b := by
  induction h with
  | nil => rfl
  | char hc _ ih => rw [unquoted_cons_of_not_quote hc, unquoted_cons_of_not_quote hc, ih]
  | closed hs ht _ ih =>
    rw [unquoted_cons_of_quote (isQuote_char _), unquoted_cons_of_quote (isQuote_char _),
      afterQuote_closed hs, afterQuote_closed ht, ih]
  | unclosed hs ht =>
    rw [unquoted_cons_of_quote (isQuote_char _), unquoted_cons_of_quote (isQuote_char _),
      afterQuote_unclosed hs, afterQuote_unclosed ht]

/-! ## Scanning past a section -/

/-- A scan inside quotes goes on behind the section, where there is something behind it. -/
theorem placeholdersFrom_quoted (quote : Char) (cs : List Char) :
    placeholdersFrom (.quoted quote) cs = placeholdersFrom .plain (afterQuote quote cs) := by
  -- nothing is found inside: the scan waits for the quote that closes the section
  induction cs with
  | nil => rfl
  | cons c cs ih =>
    by_cases hc : c = quote
    · subst hc
      have hnext : ScanMode.next (.quoted c) c = .plain := if_pos rfl
      have hafter : afterQuote c (c :: cs) = cs := afterQuote_closed (s := []) (List.not_mem_nil) cs
      rw [placeholdersFrom, hnext, hafter]
      rfl
    · have hnext : ScanMode.next (.quoted quote) c = .quoted quote := if_neg hc
      have hafter : afterQuote quote (c :: cs) = afterQuote quote cs := by
        rw [afterQuote, List.dropWhile_cons_of_pos (by simpa using hc), afterQuote]
      rw [placeholdersFrom, hnext, hafter, ← ih]
      rfl

theorem ScanMode.isQuoted_fresh {c : Char} (hc : isQuote c = false) :
    (fresh c).isQuoted = false := by
  unfold fresh
  rw [isQuote] at hc
  rw [hc]
  split
  · contradiction
  · split
    · rfl
    · split <;> rfl

/-- Outside quotes a character that is no quote leaves a scan outside quotes. -/
theorem ScanMode.isQuoted_next {m : ScanMode} {c : Char} (hm : m.isQuoted = false)
    (hc : isQuote c = false) : (m.next c).isQuoted = false := by
  have hfresh := isQuoted_fresh hc
  cases m with
  | plain => exact hfresh
  | quoted quote => cases hm
  | colon =>
    rw [next]
    split
    · rfl
    · split
      · rfl
      · exact hfresh
  | ampersand | name cs =>
    rw [next]
    split
    · rfl
    · exact hfresh

/-- A quote ends the placeholder before it, as a space does, and opens a section. -/
theorem placeholdersFrom_quote {m : ScanMode} (hm : m.isQuoted = false) {c : Char}
    (hc : isQuote c = true) (cs : List Char) :
    placeholdersFrom m (c :: cs) = m.finish ++ placeholdersFrom (.quoted c) cs := by
  have hquote : c = '\'' ∨ c = '"' := by simpa [isQuote] using hc
  have hname : isNameChar c = false := by rcases hquote with rfl | rfl <;> decide
  have hcolon : c ≠ ':' := by rcases hquote with rfl | rfl <;> decide
  have hopened : ScanMode.emit .plain c = [] ∧ ScanMode.next .plain c = .quoted c := by
    rcases hquote with rfl | rfl <;> decide
  rw [placeholdersFrom_anew hm hname hcolon, placeholdersFrom, hopened.1, hopened.2,
    List.nil_append]

/-- A scan outside quotes takes each quoted section for a space. -/
theorem placeholdersFrom_unquoted {m : ScanMode} (hm : m.isQuoted = false) (cs : List Char) :
    placeholdersFrom m (unquoted cs) = placeholdersFrom m cs := by
  -- the scan is outside quotes at each step, in whatever mode it is there
  fun_induction unquoted cs generalizing m with
  | case1 => rfl
  | case2 c cs hc ih =>
    have hspace : placeholdersFrom .plain (' ' :: unquoted (afterQuote c cs)) =
        placeholdersFrom .plain (unquoted (afterQuote c cs)) := rfl
    rw [placeholdersFrom_anew hm (by decide) (by decide), hspace, ih rfl,
      placeholdersFrom_quote hm hc, placeholdersFrom_quoted]
  | case3 c cs hc ih =>
    have hplain : isQuote c = false := by simpa using hc
    rw [placeholdersFrom, placeholdersFrom, ih (ScanMode.isQuoted_next hm hplain)]

/-! ## Queries -/

/-- The query with a space in the place of each quoted section. -/
def unquotedSql (sql : String) : String := String.ofList (unquoted sql.toList)

theorem placeholders_unquotedSql (sql : String) :
    placeholders (unquotedSql sql) = placeholders sql := by
  rw [placeholders, unquotedSql, String.toList_ofList, placeholdersFrom_unquoted rfl, placeholders]

theorem SameOutsideQuotes.placeholders_eq {sql other : String}
    (h : SameOutsideQuotes sql.toList other.toList) : placeholders other = placeholders sql := by
  rw [← placeholders_unquotedSql other, unquotedSql, ← h.unquoted_eq, ← unquotedSql,
    placeholders_unquotedSql]

/-- Queries with the same placeholders are accepted with the same parameters or both refused. -/
theorem Parameters.ofSql_of_placeholders {sql other : String}
    (h : placeholders other = placeholders sql) :
    ofSql other = (ofSql sql).mapError fun _ => .placeholdersMixed other := by
  unfold ofSql
  dsimp only
  rw [h]
  split
  · rfl
  · split <;> rfl

/-- Quoted text counts for nothing among the parameters of a query: with a space in the place of
each quoted section it has the same names in the same order, as many parameters and the same style,
or is refused likewise; and so has every query that differs from it in quoted sections alone. -/
theorem parameters_unquoted (sql : String) :
    (placeholderNames (placeholders (unquotedSql sql)) = placeholderNames (placeholders sql) ∧
      parameterCount (placeholders (unquotedSql sql)) = parameterCount (placeholders sql) ∧
      Parameters.ofSql (unquotedSql sql) =
        (Parameters.ofSql sql).mapError fun _ => .placeholdersMixed (unquotedSql sql)) ∧
    ∀ other : String, SameOutsideQuotes sql.toList other.toList →
      placeholderNames (placeholders other) = placeholderNames (placeholders sql) ∧
      parameterCount (placeholders other) = parameterCount (placeholders sql) ∧
      Parameters.ofSql other =
        (Parameters.ofSql sql).mapError fun _ => .placeholdersMixed other := by
  have hspaces := placeholders_unquotedSql sql
  refine ⟨⟨?_, ?_, Parameters.ofSql_of_placeholders hspaces⟩, fun other h => ?_⟩
  · rw [hspaces]
  · rw [hspaces]
  · have hsame := h.placeholders_eq
    exact ⟨by rw [hsame], by rw [hsame], Parameters.ofSql_of_placeholders hsame⟩

/-- Names that touch a section, a cast before one, and a section that is not closed and holds the
other kind of quote. -/
theorem parameters_unquoted_adjacent :
    let sql := ":a'?':b::'?'c \"it's"
    let other := ":a\":d\":b::''c '&\""
    SameOutsideQuotes sql.toList other.toList ∧
      placeholderNames (placeholders other) = placeholderNames (placeholders sql) ∧
      parameterCount (placeholders other) = parameterCount (placeholders sql) ∧
      placeholderNames (placeholders sql) = ["a", "b"] ∧ parameterCount (placeholders sql) = 2 := by
  intro sql other
  have hsame : SameOutsideQuotes sql.toList other.toList := by
    have hend : SameOutsideQuotes ('"' :: "it's".toList) ('\'' :: "&\"".toList) :=
      .unclosed (q := .double) (r := .single) (by decide) (by decide)
    have hcast : SameOutsideQuotes ('\'' :: ("?".toList ++ '\'' :: "c \"it's".toList))
        ('\'' :: ("".toList ++ '\'' :: "c '&\"".toList)) :=
      .closed (q := .single) (r := .single) (by decide) (by decide) (.char rfl (.char rfl hend))
    have hnames : SameOutsideQuotes ('\'' :: ("?".toList ++ '\'' :: ":b::'?'c \"it's".toList))
        ('"' :: (":d".toList ++ '"' :: ":b::''c '&\"".toList)) :=
      .closed (q := .single) (r := .double) (by decide) (by decide)
        (.char rfl (.char rfl (.char rfl (.char rfl hcast))))
    simp only [sql, other]
    exact .char rfl (.char rfl hnames)
  obtain ⟨-, hother⟩ := parameters_unquoted sql
  obtain ⟨hnames, hcount, -⟩ := hother other hsame
  exact ⟨hsame, hnames, hcount, by decide +kernel, by decide +kernel⟩

end RunLedger
