import RunLedger.Text.Hex
import RunLedger.Text.Replace

/-!
# Quoted texts in TOML

A text stands between double quotes, where a backslash begins an escape, or between single quotes,
where nothing does.  Between three quotes it may go over several lines; a line break directly
behind the opening quotes does not count, and neither do a backslash at the end of a line and the
blank space that follows it.  Up to two quotes directly before three closing ones belong to the
text.
-/

namespace RunLedger.Toml

/-- Whether a character is a control character that stands nowhere in a line. -/
def isControl (c : Char) : Bool := (c.toNat < 0x20 && c ≠ '\t') || c.toNat = 0x7F

/-- Whether a character is blank space within a line. -/
def isSpace (c : Char) : Bool := c = ' ' || c = '\t'

/-- The text from its first character that is no blank space. -/
def skipSpace (cs : List Char) : List Char := cs.dropWhile isSpace

def isQuotable (multiline : Bool) (c : Char) : Bool := !isControl c || (multiline && c = '\n')

def quotes (multiline : Bool) (quote : Char) : List Char :=
  List.replicate (if multiline then 3 else 1) quote

/-! ## Escapes -/

/-- The characters that escapes of one letter stand for. -/
def letterEscapes : List (Char × Char) :=
  [('b', '\x08'), ('t', '\t'), ('n', '\n'), ('f', '\x0c'), ('r', '\r'), ('"', '"'), ('\\', '\\')]

/-- How many hexadecimal digits follow the letter of an escape. -/
def escapeWidth (c : Char) : Nat := if c = 'u' then 4 else if c = 'U' then 8 else 0

/-- The character of the escape that a text, from behind the backslash on, begins with, and the
text after it. -/
def readEscape? : List Char → Option (Char × List Char)
  | [] => none
  | c :: rest =>
    if escapeWidth c = 0 then (letterEscapes.lookup c).map fun x => (x, rest)
    else if rest.length < escapeWidth c then none
    else (Text.readCode? (rest.take (escapeWidth c))).map fun x => (x, rest.drop (escapeWidth c))

/-- The text behind a backslash that ends its line, given the text behind the backslash. -/
def afterLineEnd? (cs : List Char) : Option (List Char) :=
  match skipSpace cs with
  | '\n' :: rest => some (rest.dropWhile fun c => isSpace c || c = '\n')
  | _ => none

theorem readEscape?_length {cs rest : List Char} {x : Char} (h : readEscape? cs = some (x, rest)) :
    rest.length < cs.length := by
  cases cs with
  | nil => simp [readEscape?] at h
  | cons c tail =>
    rw [readEscape?] at h
    by_cases hw : escapeWidth c = 0
    · rw [if_pos hw] at h
      obtain ⟨y, -, hy⟩ := Option.map_eq_some_iff.1 h
      cases hy
      simp
    · rw [if_neg hw] at h
      by_cases hl : tail.length < escapeWidth c
      · rw [if_pos hl] at h
        cases h
      · rw [if_neg hl] at h
        obtain ⟨y, -, hy⟩ := Option.map_eq_some_iff.1 h
        cases hy
        simp only [List.length_drop, List.length_cons]
        omega

theorem afterLineEnd?_length {cs rest : List Char} (h : afterLineEnd? cs = some rest) :
    rest.length < cs.length := by
  have hs : (skipSpace cs).length ≤ cs.length := (List.dropWhile_sublist _).length_le
  unfold afterLineEnd? at h
  split at h
  · next tail hd =>
    cases h
    have ht := (List.dropWhile_sublist (l := tail) fun c => isSpace c || c = '\n').length_le
    rw [hd] at hs
    simp only [List.length_cons] at hs
    omega
  · cases h

/-! ## Texts -/

/-- The inside of a text between double quotes, and what follows it. -/
def readBasic? (multiline : Bool) (cs : List Char) : Option (List Char × List Char) :=
  match Text.afterPrefix? (quotes multiline '"') cs, cs with
  | some after, _ => some ([], after)
  | none, [] => none
  | none, '\\' :: rest =>
    match _hl : if multiline then afterLineEnd? rest else none with
    | some after => readBasic? multiline after
    | none =>
      match _he : readEscape? rest with
      | some (x, after) => (readBasic? multiline after).map fun r => (x :: r.1, r.2)
      | none => none
  | none, c :: rest =>
    if isQuotable multiline c then (readBasic? multiline rest).map fun r => (c :: r.1, r.2)
    else none
termination_by cs.length
decreasing_by
  · split at _hl
    · have := afterLineEnd?_length _hl
      simp only [List.length_cons]
      omega
    · cases _hl
  · have := readEscape?_length _he
    simp only [List.length_cons]
    omega
  · simp

/-- The inside of a text between single quotes, and what follows it. -/
def readLiteral? (multiline : Bool) (cs : List Char) : Option (List Char × List Char) :=
  match Text.afterPrefix? (quotes multiline '\'') cs, cs with
  | some after, _ => some ([], after)
  | none, [] => none
  | none, c :: rest =>
    if isQuotable multiline c then (readLiteral? multiline rest).map fun r => (c :: r.1, r.2)
    else none

/-- A text of several lines with the quotes that stand directly behind its closing ones. -/
def withMoreQuotes (quote : Char) (r : List Char × List Char) : List Char × List Char :=
  let more := (r.2.take 2).takeWhile (· = quote)
  (r.1 ++ more, r.2.drop more.length)

/-- The text without a line break at its beginning. -/
def afterBreak : List Char → List Char
  | '\n' :: rest => rest
  | cs => cs

/-- The inside of a text in one line, and what follows it. -/
def readLine? : List Char → Option (List Char × List Char)
  | '"' :: rest => readBasic? false rest
  | '\'' :: rest => readLiteral? false rest
  | _ => none

def readText? (cs : List Char) : Option (List Char × List Char) :=
  match Text.afterPrefix? (quotes true '"') cs, Text.afterPrefix? (quotes true '\'') cs with
  | some rest, _ => (readBasic? true (afterBreak rest)).map (withMoreQuotes '"')
  | _, some rest => (readLiteral? true (afterBreak rest)).map (withMoreQuotes '\'')
  | _, _ => readLine? cs

end RunLedger.Toml
