import RunLedger.Proofs.Paging.Placeholders

/-!
# Queries written token by token

A query is written as question marks, named placeholders, quoted texts and words with spaces between
them.  A scan finds just the placeholders that were written, in their order: a token leaves it
outside quotes, and at the space behind the token it begins anew.

    placeholders (querySql ts) = ts.filterMap QueryToken.placeholder?       (placeholders_querySql)
-/

namespace RunLedger

/-! ## Tokens -/

/-- The mark before a placeholder's name. -/
inductive NameMark where
  | colon
  | ampersand
deriving Repr, DecidableEq

def NameMark.char : NameMark → Char
  | colon => ':'
  | ampersand => '&'

/-- The kinds of quotes. -/
inductive QuoteMark where
  | single
  | double
deriving Repr, DecidableEq

def QuoteMark.char : QuoteMark → Char
  | single => '\''
  | double => '"'

/-- Whether a character can stand in a word. -/
def isWordChar (c : Char) : Bool := !Text.isBlank c && !isSign c

/-- A stretch of a query without spaces around it.  A word may hold casts, between any two of its
pieces. -/
inductive QueryToken where
  | question
  | named (mark : NameMark) (name : List Char) (nonempty : name ≠ [])
      (plain : name.all isNameChar = true)
  | quoted (mark : QuoteMark) (content : List Char) (inside : mark.char ∉ content)
  | word (pieces : List (List Char)) (plain : pieces.all (·.all isWordChar) = true)

namespace QueryToken

/-- The token as it is written. -/
def chars : QueryToken → List Char
  | question => ['?']
  | named mark name _ _ => mark.char :: name
  | quoted mark content _ => mark.char :: content ++ [mark.char]
  | word pieces _ => [':', ':'].intercalate pieces

/-- The name of a named placeholder. -/
def name? : QueryToken → Option String
  | named _ name _ _ => some (String.ofList name)
  | _ => none

def isQuestion : QueryToken → Bool
  | question => true
  | _ => false

def placeholder? : QueryToken → Option Placeholder
  | question => some .positional
  | named _ name _ _ => some (.named (String.ofList name))
  | _ => none

end QueryToken

/-- The query with the tokens, a space between any two of them. -/
def querySql (ts : List QueryToken) : String :=
  String.ofList ([' '].intercalate (ts.map QueryToken.chars))

/-- The names of the placeholders, each once and in the order in which they first appear. -/
def tokenNames (ts : List QueryToken) : List String := (ts.filterMap QueryToken.name?).eraseDups

/-- How many parameters the tokens take: one for each question mark and one for each name. -/
def tokenParameters (ts : List QueryToken) : Nat :=
  ts.countP QueryToken.isQuestion + (tokenNames ts).length

/-! ## Scanning a token -/

/-- A scan from one mode to another over a text, with the placeholders completed on the way. -/
structure Scans (m : ScanMode) (t : List Char) (ps : List Placeholder) (n : ScanMode) : Prop where
  emitted : RunLedger.emitted m t = ps
  mode : modeAfter m t = n

namespace Scans

variable {m n k : ScanMode} {a b : List Char} {ps qs : List Placeholder}

theorem nil (m : ScanMode) : Scans m [] [] m := ⟨rfl, rfl⟩

theorem cons {c : Char} (hemit : m.emit c = ps) (hnext : m.next c = n) (h : Scans n a qs k) :
    Scans m (c :: a) (ps ++ qs) k := by
  subst hemit hnext
  exact ⟨by rw [RunLedger.emitted, h.emitted], h.mode⟩

theorem append (h : Scans m a ps n) (h' : Scans n b qs k) : Scans m (a ++ b) (ps ++ qs) k := by
  induction a generalizing m ps with
  | nil =>
    obtain ⟨rfl, rfl⟩ := h
    exact h'
  | cons c a ih =>
    obtain ⟨rfl, hmode⟩ := h
    rw [RunLedger.emitted, List.append_assoc]
    exact cons rfl rfl (ih ⟨rfl, hmode⟩)

theorem placeholdersFrom_eq (h : Scans m a ps n) : placeholdersFrom m a = ps ++ n.finish := by
  rw [placeholdersFrom_eq_emitted, h.emitted, h.mode]

theorem of_not_isSign (h : ∀ c ∈ a, isSign c = false) : Scans .plain a [] .plain :=
  ⟨(scan_of_not_isSign h).1, (scan_of_not_isSign h).2⟩

/-- A cast is passed over. -/
theorem cast : Scans .plain [':', ':'] [] .plain := ⟨rfl, rfl⟩

theorem name (h : ∀ c ∈ a, isNameChar c = true) (before : List Char) :
    Scans (.name before) a [] (.name (a.reverse ++ before)) := by
  induction a generalizing before with
  | nil => exact nil _
  | cons c a ih =>
    obtain ⟨hc, ha⟩ := List.forall_mem_cons.1 h
    have hemit : ScanMode.emit (.name before) c = [] := if_pos hc
    have hnext : ScanMode.next (.name before) c = .name (c :: before) := if_pos hc
    rw [List.reverse_cons, List.append_assoc]
    exact cons hemit hnext (ih ha (c :: before))

theorem quoted {quote : Char} (h : quote ∉ a) : Scans (.quoted quote) a [] (.quoted quote) := by
  induction a with
  | nil => exact nil _
  | cons c a ih =>
    have hc : ¬ c = quote := fun hc => h (hc ▸ List.mem_cons_self)
    have hnext : ScanMode.next (.quoted quote) c = .quoted quote := if_neg hc
    exact cons rfl hnext (ih fun ha => h (List.mem_cons_of_mem c ha))

theorem word {pieces : List (List Char)} (h : ∀ piece ∈ pieces, ∀ c ∈ piece, isSign c = false) :
    Scans .plain ([':', ':'].intercalate pieces) [] .plain := by
  induction pieces with
  | nil => exact nil _
  | cons piece pieces ih =>
    obtain ⟨hpiece, hpieces⟩ := List.forall_mem_cons.1 h
    cases pieces with
    | nil =>
      rw [List.intercalate_singleton]
      exact of_not_isSign hpiece
    | cons next pieces =>
      rw [List.intercalate_cons_cons]
      exact ((of_not_isSign hpiece).append cast).append (ih hpieces)

end Scans

namespace QueryToken

/-- A scan over a token, with its placeholder complete at the end of the text or on the way. -/
theorem scans (t : QueryToken) : ∃ ps m, Scans .plain t.chars ps m ∧ m.isQuoted = false ∧
    ps ++ m.finish = t.placeholder?.toList := by
  cases t with
  | question => exact ⟨_, _, ⟨rfl, rfl⟩, rfl, rfl⟩
  | named mark name nonempty plain =>
    cases name with
    | nil => exact absurd rfl nonempty
    | cons c name =>
      obtain ⟨hc, hname⟩ := List.forall_mem_cons.1 (List.all_eq_true.1 plain)
      have hcolon : ¬ c = ':' := by
        rintro rfl
        exact absurd hc (by decide)
      have hscan := Scans.name hname [c]
      -- the name is not complete yet: it is still in the mode that the scan ends in
      refine ⟨[], .name (name.reverse ++ [c]), ?_, rfl, ?_⟩
      · cases mark with
        | colon =>
          have hemit : ScanMode.emit .colon c = [] := if_pos (by rw [hc, Bool.or_true])
          have hnext : ScanMode.next .colon c = .name [c] := by
            rw [ScanMode.next, if_neg hcolon, if_pos hc]
          exact .cons rfl rfl (.cons hemit hnext hscan)
        | ampersand =>
          have hemit : ScanMode.emit .ampersand c = [] := if_pos hc
          have hnext : ScanMode.next .ampersand c = .name [c] := if_pos hc
          exact .cons rfl rfl (.cons hemit hnext hscan)
      · rw [← List.reverse_cons, ScanMode.finish, List.reverse_reverse]
        rfl
  | quoted mark content inside =>
    have hclosed : Scans (.quoted mark.char) [mark.char] [] .plain :=
      .cons rfl (if_pos rfl) (.nil _)
    have hopened : ScanMode.emit .plain mark.char = [] ∧
        ScanMode.next .plain mark.char = .quoted mark.char := by cases mark <;> decide
    exact ⟨[], .plain, .cons hopened.1 hopened.2 ((Scans.quoted inside).append hclosed), rfl, rfl⟩
  | word pieces plain =>
    refine ⟨[], .plain, .word fun piece hpiece c hc => ?_, rfl, rfl⟩
    have hword := List.all_eq_true.1 (List.all_eq_true.1 plain piece hpiece) c hc
    rw [isWordChar, Bool.and_eq_true, Bool.not_eq_true', Bool.not_eq_true'] at hword
    exact hword.2

theorem placeholdersFrom_chars (t : QueryToken) :
    placeholdersFrom .plain t.chars = t.placeholder?.toList := by
  obtain ⟨ps, m, hscan, -, hps⟩ := t.scans
  rw [hscan.placeholdersFrom_eq, hps]

theorem endsUnquoted_chars (t : QueryToken) : endsUnquoted t.chars = true := by
  obtain ⟨ps, m, hscan, hm, -⟩ := t.scans
  rw [endsUnquoted, hscan.mode, hm]
  rfl

end QueryToken

/-! ## Scanning a query -/

/-- A scan finds just the placeholders among the tokens. -/
theorem placeholders_querySql (ts : List QueryToken) :
    placeholders (querySql ts) = ts.filterMap QueryToken.placeholder? := by
  rw [placeholders, querySql, String.toList_ofList]
  induction ts with
  | nil => rfl
  | cons t ts ih =>
    cases ts with
    | nil =>
      rw [List.map_singleton, List.intercalate_singleton, t.placeholdersFrom_chars,
        List.filterMap_cons]
      cases t.placeholder? <;> rfl
    | cons u ts =>
      -- the space between two tokens breaks the first one off and is passed over
      have hspace : placeholdersFrom .plain
          (' ' :: [' '].intercalate ((u :: ts).map QueryToken.chars)) =
          placeholdersFrom .plain ([' '].intercalate ((u :: ts).map QueryToken.chars)) := rfl
      rw [List.map_cons, List.map_cons, List.intercalate_cons_cons, List.append_assoc,
        List.singleton_append, placeholdersFrom_clause t.endsUnquoted_chars (by decide),
        t.placeholdersFrom_chars, ← List.map_cons, hspace, ih, List.filterMap_cons (a := t)]
      cases t.placeholder? <;> rfl

section
variable (ts : List QueryToken)

theorem count_positional_tokens :
    (ts.filterMap QueryToken.placeholder?).count .positional = ts.countP QueryToken.isQuestion := by
  induction ts with
  | nil => rfl
  | cons t ts ih =>
    rw [List.filterMap_cons, List.countP_cons, ← ih]
    cases t <;> simp [QueryToken.placeholder?, QueryToken.isQuestion]

theorem placeholderNames_tokens :
    placeholderNames (ts.filterMap QueryToken.placeholder?) = tokenNames ts := by
  rw [placeholderNames, List.filterMap_filterMap, tokenNames]
  congr 2
  funext t
  cases t <;> rfl

theorem contains_positional_tokens :
    (ts.filterMap QueryToken.placeholder?).contains .positional = ts.any QueryToken.isQuestion := by
  rw [Bool.eq_iff_iff, List.contains_iff_mem, ← List.count_pos_iff, count_positional_tokens,
    List.countP_pos_iff, List.any_eq_true]

theorem isEmpty_tokenNames : (tokenNames ts).isEmpty = !ts.any (·.name?.isSome) := by
  rw [tokenNames, Bool.eq_iff_iff, List.isEmpty_iff, List.eq_nil_iff_forall_not_mem,
    Bool.not_eq_true', List.any_eq_false]
  simp only [List.mem_eraseDups, List.mem_filterMap, not_exists, not_and]
  constructor
  · intro h t ht hsome
    obtain ⟨name, hname⟩ := Option.isSome_iff_exists.1 hsome
    exact h name t ht hname
  · intro h name t ht hname
    exact h t ht (by rw [hname]; rfl)

/-- The parameters of a query are told by its tokens: one for each question mark and one for each
distinct name, the names in the order in which they first appear, whatever marks stand before them.
A query is refused if it has a question mark as well as a name, and only then. -/
theorem parameters_querySql :
    placeholderNames (placeholders (querySql ts)) = tokenNames ts ∧
    parameterCount (placeholders (querySql ts)) = tokenParameters ts ∧
    Parameters.ofSql (querySql ts) =
      if ts.any QueryToken.isQuestion && ts.any (·.name?.isSome) then
        .error (.placeholdersMixed (querySql ts))
      else .ok ⟨tokenParameters ts, if ts.any (·.name?.isSome) then .named else .positional⟩ := by
  have hnames : placeholderNames (placeholders (querySql ts)) = tokenNames ts := by
    rw [placeholders_querySql, placeholderNames_tokens]
  have hcount : parameterCount (placeholders (querySql ts)) = tokenParameters ts := by
    rw [parameterCount, hnames, placeholders_querySql, count_positional_tokens, tokenParameters]
  refine ⟨hnames, hcount, ?_⟩
  unfold Parameters.ofSql
  dsimp only
  rw [hnames, hcount, isEmpty_tokenNames, placeholders_querySql, contains_positional_tokens]
  cases ts.any (·.name?.isSome) <;> cases ts.any QueryToken.isQuestion <;> rfl

/-- A cast and a quoted question mark beside one name under two marks. -/
example :
    let sql := querySql [.word ["at".toList, "date".toList] (by decide),
      .named .colon "day".toList (by decide) (by decide), .quoted .single "why?".toList (by decide),
      .named .ampersand "day".toList (by decide) (by decide)]
    sql = "at::date :day 'why?' &day" ∧ (Parameters.ofSql sql).toOption = some ⟨1, .named⟩ := by
  decide +kernel

end

end RunLedger
