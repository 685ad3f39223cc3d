import RunLedger.Number.Numeral
import RunLedger.Text.Hex
import RunLedger.Text.Replace
import RunLedger.Value.Basic

/-!
# Reading values from JSON text

The reader keeps the order of an object's keys, tells whole numbers from floating-point ones, and
knows the words for infinities and undefined numbers.  Of a key that stands twice the last value
counts.  Each nested value takes one unit of fuel; a text cannot nest deeper than it is long.
-/

namespace RunLedger.Value

/-- Whether a character may stand between the parts of a JSON text. -/
def isJsonBlank (c : Char) : Bool := c = ' ' || c = '\t' || c = '\n' || c = '\r'

/-- The text from its first part on. -/
def skipBlanks (cs : List Char) : List Char := cs.dropWhile isJsonBlank

/-! ## Strings -/

/-- The character of an escape of one letter. -/
def escapedChar? (c : Char) : Option Char :=
  [('"', '"'), ('\\', '\\'), ('/', '/'), ('b', '\x08'), ('f', '\x0c'), ('n', '\n'), ('r', '\r'),
    ('t', '\t')].lookup c

/-- The character that a surrogate pair of UTF-16 units encodes. -/
def ofSurrogates? (high low : Nat) : Option Char :=
  if 0xD800 ≤ high && high < 0xDC00 && 0xDC00 ≤ low && low < 0xE000 then
    some (Char.ofNat (0x10000 + (high - 0xD800) * 0x400 + (low - 0xDC00)))
  else none

/-- A character put before the text of a string that was read. -/
def consChar (c : Char) (r : List Char × List Char) : List Char × List Char := (c :: r.1, r.2)

/-- The inside of a string up to its closing quote, and the text after it. -/
def readString? : List Char → Option (List Char × List Char)
  | [] => none
  | '"' :: rest => some ([], rest)
  | '\\' :: 'u' :: a :: b :: c :: d :: '\\' :: 'u' :: e :: f :: g :: h :: rest =>
    match Text.readCode? [a, b, c, d] with
    | some x => (readString? ('\\' :: 'u' :: e :: f :: g :: h :: rest)).map (consChar x)
    | none =>
      match Text.readHex? 0 [a, b, c, d], Text.readHex? 0 [e, f, g, h] with
      | some high, some low =>
        match ofSurrogates? high low with
        | some x => (readString? rest).map (consChar x)
        | none => none
      | _, _ => none
  | '\\' :: 'u' :: a :: b :: c :: d :: rest =>
    match Text.readCode? [a, b, c, d] with
    | some x => (readString? rest).map (consChar x)
    | none => none
  | '\\' :: c :: rest =>
    match escapedChar? c with
    | some x => (readString? rest).map (consChar x)
    | none => none
  | c :: rest => if c.toNat < 0x20 then none else (readString? rest).map (consChar c)
termination_by cs => cs.length

/-! ## Numbers and words -/

/-- How JSON writes numbers. -/
def numeralStyle : Numeral.Style := ⟨['-'], false⟩

def ofNumeral (n : Numeral) : Value := if n.isWhole then .int n.toInt else .real n.toBinary64

/-- The words that stand for a value. -/
def jsonWords : List (String × Value) :=
  [("true", .bool true), ("false", .bool false), ("null", .null), ("NaN", .real .undefined),
    ("Infinity", .real (.infinite false)), ("-Infinity", .real (.infinite true))]

/-- The word that a text begins with, as a value, and the text after it. -/
def readWord? (cs : List Char) : Option (Value × List Char) :=
  jsonWords.findSome? fun w => (Text.afterPrefix? w.1.toList cs).map fun rest => (w.2, rest)

/-- The word or number that a text begins with, as a value, and the text after it. -/
def readScalar? (cs : List Char) : Option (Value × List Char) :=
  match readWord? cs with
  | some r => some r
  | none => (Numeral.read? numeralStyle cs).map fun r => (ofNumeral r.1, r.2)

/-! ## Values -/

mutual

/-- The value that a text begins with, and the text after it. -/
def readJson? : (fuel : Nat) → List Char → Option (Value × List Char)
  | 0, _ => none
  | fuel + 1, cs =>
    match skipBlanks cs with
    | '"' :: rest => (readString? rest).map fun r => (.text (String.ofList r.1), r.2)
    | '[' :: rest =>
      match skipBlanks rest with
      | ']' :: after => some (.list [], after)
      | _ => (readItems? fuel rest).map fun r => (.list r.1, r.2)
    | '\x7b' :: rest =>
      match skipBlanks rest with
      | '\x7d' :: after => some (.map [], after)
      | _ => (readEntries? fuel rest).map fun r => (.map (ofEntries r.1), r.2)
    | scalar => readScalar? scalar

/-- The items of a list up to its closing bracket, and the text after it. -/
def readItems? : (fuel : Nat) → List Char → Option (List Value × List Char)
  | 0, _ => none
  | fuel + 1, cs =>
    match readJson? fuel cs with
    | none => none
    | some (v, rest) =>
      match skipBlanks rest with
      | ']' :: after => some ([v], after)
      | ',' :: more => (readItems? fuel more).map fun r => (v :: r.1, r.2)
      | _ => none

/-- The entries of an object up to its closing brace, and the text after it. -/
def readEntries? : (fuel : Nat) → List Char → Option (List (String × Value) × List Char)
  | 0, _ => none
  | fuel + 1, cs =>
    match skipBlanks cs with
    | '"' :: rest =>
      match readString? rest with
      | none => none
      | some (key, rest) =>
        match skipBlanks rest with
        | ':' :: rest =>
          match readJson? fuel rest with
          | none => none
          | some (v, rest) =>
            let entry := (String.ofList key, v)
            match skipBlanks rest with
            | '\x7d' :: after => some ([entry], after)
            | ',' :: more => (readEntries? fuel more).map fun r => (entry :: r.1, r.2)
            | _ => none
        | _ => none
    | _ => none

end

def ofJsonText? (s : String) : Option Value :=
  let cs := s.toList
  match readJson? (cs.length + 1) cs with
  | some (v, rest) => if (skipBlanks rest).isEmpty then some v else none
  | none => none

end RunLedger.Value
