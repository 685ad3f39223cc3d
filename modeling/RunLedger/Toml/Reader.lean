import RunLedger.Text.Breaks
import RunLedger.Toml.Scalar
import RunLedger.Toml.Table

/-!
# Reading TOML

A document is a sequence of statements on lines of their own: a key with its value, or the heading
of a table.  Each nested value and each line takes one unit of fuel; a text has no more of either
than it is long.
-/

namespace RunLedger.Toml

/-! ## Space and comments -/

/-- The text after a comment, if there is one; a comment holds no control characters. -/
def afterComment? : List Char → Option (List Char)
  | '#' :: rest =>
    if (rest.takeWhile (· ≠ '\n')).any isControl then none else some (rest.dropWhile (· ≠ '\n'))
  | cs => some cs

/-- The text from its first character that is neither blank space, nor a line break, nor in a
comment. -/
def skipLines? : (inComment : Bool) → List Char → Option (List Char)
  | _, [] => some []
  | true, c :: rest =>
    if c = '\n' then skipLines? false rest
    else if isControl c then none
    else skipLines? true rest
  | false, c :: rest =>
    if isSpace c || c = '\n' then skipLines? false rest
    else if c = '#' then skipLines? true rest
    else some (c :: rest)

/-! ## Keys -/

/-- Whether a character may stand in a key without quotes. -/
def isBare (c : Char) : Bool := c.isAlphanum || c = '-' || c = '_'

/-- One part of a key, and the text after it and the blank space behind it. -/
def readKeyPart? (cs : List Char) : Option (String × List Char) :=
  let bare := cs.takeWhile isBare
  let read := if bare.isEmpty then readLine? cs else some (bare, cs.dropWhile isBare)
  read.map fun r => (String.ofList r.1, skipSpace r.2)

/-- A key, and the text after it and the blank space behind it. -/
def readKey? : (fuel : Nat) → List Char → Option (Key × List Char)
  | 0, _ => none
  | fuel + 1, cs =>
    match readKeyPart? cs with
    | none => none
    | some (part, '.' :: rest) =>
      (readKey? fuel (skipSpace rest)).map fun r => (part :: r.1, r.2)
    | some (part, rest) => some ([part], rest)

/-- A key and the equals sign behind it, and the text from its value on. -/
def readName? (cs : List Char) : Option (Key × List Char) :=
  match readKey? (cs.length + 1) cs with
  | some (key, '=' :: rest) => some (key, skipSpace rest)
  | _ => none

/-! ## Values -/

mutual

/-- The value that a text begins with, and the text after it. -/
def readValue? : (fuel : Nat) → List Char → Option (Value × List Char)
  | 0, _ => none
  | fuel + 1, cs =>
    match cs with
    | '[' :: rest => (readItems? fuel rest).map fun r => (.list r.1, r.2)
    | '\x7b' :: rest =>
      match skipSpace rest with
      | '\x7d' :: after => some (.map [], after)
      | rest => (readInline? fuel [] [] rest).map fun r => (.map r.1, r.2)
    | cs => readScalar? cs

/-- The items of a list up to its closing bracket, and the text after it.  A comma may follow the
last one. -/
def readItems? : (fuel : Nat) → List Char → Option (List Value × List Char)
  | 0, _ => none
  | fuel + 1, cs =>
    match skipLines? false cs with
    | none => none
    | some (']' :: after) => some ([], after)
    | some cs =>
      match readValue? fuel cs with
      | none => none
      | some (v, rest) =>
        match skipLines? false rest with
        | some (']' :: after) => some ([v], after)
        | some (',' :: rest) => (readItems? fuel rest).map fun r => (v :: r.1, r.2)
        | _ => none

/-- The entries of a table in one line up to its closing brace, put into those before them, and the
text after it. -/
def readInline? : (fuel : Nat) → List Key → Table → List Char → Option (Table × List Char)
  | 0, _, _, _ => none
  | fuel + 1, frozen, t, cs =>
    match readName? cs with
    | none => none
    | some (key, rest) =>
      match readValue? fuel rest with
      | none => none
      | some (v, rest) =>
        match insertInline frozen key v t with
        | none => none
        | some t =>
          match skipSpace rest with
          | '\x7d' :: after => some (t, after)
          | ',' :: rest =>
            readInline? fuel (if isNested v then key :: frozen else frozen) t (skipSpace rest)
          | _ => none

end

/-! ## Documents -/

/-- A heading up to its closing brackets, and the text after them. -/
def readHeading? (closing : List Char) (cs : List Char) : Option (Key × List Char) :=
  match readKey? (cs.length + 1) (skipSpace cs) with
  | none => none
  | some (key, rest) => (Text.afterPrefix? closing rest).map fun after => (key, after)

/-- The document with the statement that a text begins with, and the text after it. -/
def readStatement? (d : Document) (cs : List Char) : Option (Document × List Char) :=
  match cs with
  | '#' :: _ => some (d, cs)
  | '[' :: '[' :: rest => do
    let (key, after) ← readHeading? [']', ']'] rest
    pure (← d.openItem key, after)
  | '[' :: rest => do
    let (key, after) ← readHeading? [']'] rest
    pure (← d.openTable key, after)
  | cs => do
    let (key, rest) ← readName? cs
    let (v, after) ← readValue? (rest.length + 1) rest
    pure (← d.insert key v, after)

/-- The document with the statements of a text. -/
def readStatements? : (fuel : Nat) → Document → List Char → Option Document
  | 0, _, _ => none
  | fuel + 1, d, cs =>
    match skipSpace cs with
    | [] => some d
    | '\n' :: rest => readStatements? fuel d rest
    | cs =>
      match readStatement? d cs with
      | none => none
      | some (d, rest) =>
        match afterComment? (skipSpace rest) with
        | some [] => some d
        | some ('\n' :: rest) => readStatements? fuel d rest
        | _ => none

def ofText? (s : String) : Option Table :=
  let cs := Text.singleBreaks s.toList
  (readStatements? (cs.length + 1) .empty cs).map (·.entries)

end RunLedger.Toml
