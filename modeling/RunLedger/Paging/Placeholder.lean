import RunLedger.Misconfiguration

/-!
# Placeholders in queries

Placeholders stand outside quotes: a question mark is positional, a colon or ampersand followed by
a name is named, and a doubled colon is a cast.  The text is read one character at a time; what has
been read is summed up in a `ScanMode`.

    placeholdersFrom m (a ++ b) = emitted m a ++ placeholdersFrom (modeAfter m a) b
                                                            (placeholdersFrom_append)
-/

namespace RunLedger

/-- A place in a query that takes a parameter. -/
inductive Placeholder where
  | positional
  | named (name : String)
deriving Repr, DecidableEq

namespace Placeholder

/-- The name of a named placeholder. -/
def name? : Placeholder → Option String
  | positional => none
  | named n => some n

end Placeholder

/-- The characters that end a placeholder's name, blanks apart. -/
def nameSeparators : List Char := "\"':&,;()|=+-*%/\\<>^".toList

/-- Whether the character can stand in a placeholder's name. -/
def isNameChar (c : Char) : Bool := !Text.isBlank c && !nameSeparators.contains c

/-- What a scan of a query remembers of the text before. -/
inductive ScanMode where
  | plain
  | quoted (quote : Char)
  | colon
  | ampersand
  | name (reversed : List Char)
deriving Repr, DecidableEq

namespace ScanMode

/-- The mode after a character that continues nothing. -/
def fresh (c : Char) : ScanMode :=
  if c = '\'' || c = '"' then quoted c
  else if c = ':' then colon
  else if c = '&' then ampersand
  else plain

/-- The placeholder that a character by itself is. -/
def single (c : Char) : List Placeholder := if c = '?' then [.positional] else []

/-- The mode after the next character. -/
def next : ScanMode → Char → ScanMode
  | plain, c => fresh c
  | quoted quote, c => if c = quote then plain else quoted quote
  | colon, c => if c = ':' then plain else if isNameChar c then name [c] else fresh c
  | ampersand, c => if isNameChar c then name [c] else fresh c
  | name cs, c => if isNameChar c then name (c :: cs) else fresh c

/-- The placeholders that are complete once the next character is seen. -/
def emit : ScanMode → Char → List Placeholder
  | plain, c => single c
  | quoted _, _ => []
  | colon, c => if c = ':' || isNameChar c then [] else single c
  | ampersand, c => if isNameChar c then [] else single c
  | name cs, c => if isNameChar c then [] else .named (String.ofList cs.reverse) :: single c

/-- The placeholders that are complete once the text ends. -/
def finish : ScanMode → List Placeholder
  | name cs => [.named (String.ofList cs.reverse)]
  | _ => []

end ScanMode

/-- The placeholders in a text that is read on from a mode. -/
def placeholdersFrom : ScanMode → List Char → List Placeholder
  | m, [] => m.finish
  | m, c :: cs => m.emit c ++ placeholdersFrom (m.next c) cs

/-- The mode in which a text leaves the scan. -/
def modeAfter (m : ScanMode) (cs : List Char) : ScanMode := cs.foldl ScanMode.next m

/-- The placeholders that a text completes on the way, without an end. -/
def emitted : ScanMode → List Char → List Placeholder
  | _, [] => []
  | m, c :: cs => m.emit c ++ emitted (m.next c) cs

/-- The placeholders of a query, in order of appearance. -/
def placeholders (sql : String) : List Placeholder := placeholdersFrom .plain sql.toList

/-- The distinct names of placeholders, in order of first appearance. -/
def placeholderNames (ps : List Placeholder) : List String := (ps.filterMap (·.name?)).eraseDups

/-- How many parameters the placeholders take: one for each positional one, one for each name. -/
def parameterCount (ps : List Placeholder) : Nat :=
  ps.count .positional + (placeholderNames ps).length

/-- How a query's parameters are given. -/
inductive ParameterStyle where
  | named
  | positional
deriving Repr, DecidableEq, Inhabited

/-- The word for a parameter style. -/
def ParameterStyle.word : ParameterStyle → String
  | named => "named"
  | positional => "positional"

/-- The parameters of a query: how many, and how they are given. -/
structure Parameters where
  count : Nat
  style : ParameterStyle
deriving Repr, DecidableEq, Inhabited

/-- The parameters of a query, which may not mix the two styles. -/
def Parameters.ofSql (sql : String) : Except Misconfiguration Parameters :=
  let ps := placeholders sql
  if (placeholderNames ps).isEmpty then .ok ⟨parameterCount ps, .positional⟩
  else if ps.contains .positional then .error (.placeholdersMixed sql)
  else .ok ⟨parameterCount ps, .named⟩

/-! ## Lemmas -/

theorem placeholdersFrom_append (m : ScanMode) (a b : List Char) :
    placeholdersFrom m (a ++ b) = emitted m a ++ placeholdersFrom (modeAfter m a) b := by
  induction a generalizing m with
  | nil => rfl
  | cons c a ih => simp [placeholdersFrom, emitted, modeAfter, ih, List.append_assoc]

theorem placeholdersFrom_eq_emitted (m : ScanMode) (cs : List Char) :
    placeholdersFrom m cs = emitted m cs ++ (modeAfter m cs).finish := by
  have happend := placeholdersFrom_append m cs []
  rwa [List.append_nil] at happend

end RunLedger
