import RunLedger.Number.Numeral
import RunLedger.Time.Timestamp
import RunLedger.Toml.Quoted
import RunLedger.Value.Basic

/-!
# Single values in TOML

Texts, truth values, dates and times, and numbers.  Numbers may have underscores between their
digits; whole numbers without a sign are also written to the bases sixteen, eight and two.
-/

namespace RunLedger.Toml

/-! ## Dates and times -/

/-- A number of two digits between two bounds, and the text after it. -/
def readPair? (least most : Nat) (cs : List Char) : Option (Nat × List Char) :=
  match Timestamp.readDigits? 2 0 cs with
  | some (n, rest) => if least ≤ n && n ≤ most then some (n, rest) else none
  | none => none

/-- The text after a fraction of a second, if there is one. -/
def afterFraction : List Char → List Char
  | '.' :: d :: rest => if d.isDigit then rest.dropWhile Char.isDigit else '.' :: d :: rest
  | cs => cs

/-- The text after a time of day to the second, with or without a fraction. -/
def afterTime? (cs : List Char) : Option (List Char) := do
  let (_, cs) ← readPair? 0 23 cs
  let cs ← Timestamp.readMark? ':' cs
  let (_, cs) ← readPair? 0 59 cs
  let cs ← Timestamp.readMark? ':' cs
  let (_, cs) ← readPair? 0 59 cs
  pure (afterFraction cs)

/-- The text after hours and minutes. -/
def afterClock? (cs : List Char) : Option (List Char) := do
  let (_, cs) ← readPair? 0 23 cs
  let cs ← Timestamp.readMark? ':' cs
  let (_, cs) ← readPair? 0 59 cs
  pure cs

/-- The text after a distance from UTC, if there is one. -/
def afterOffset (cs : List Char) : List Char :=
  match cs with
  | c :: rest =>
    if c = 'Z' || c = 'z' then rest
    else if c = '+' || c = '-' then (afterClock? rest).getD cs
    else cs
  | [] => []

/-- The text after a date of the calendar. -/
def afterDate? (cs : List Char) : Option (List Char) := do
  let (year, cs) ← Timestamp.readDigits? 4 0 cs
  let cs ← Timestamp.readMark? '-' cs
  let (month, cs) ← readPair? 1 12 cs
  let cs ← Timestamp.readMark? '-' cs
  let (day, cs) ← readPair? 1 31 cs
  if (Date.mk year month day).isValid then some cs else none

/-- The text after a date, with the time of day if one follows it. -/
def afterDateTime? (cs : List Char) : Option (List Char) := do
  let rest ← afterDate? cs
  match rest with
  | c :: time =>
    if c = 'T' || c = 't' || c = ' ' then
      match afterTime? time with
      | some rest => some (afterOffset rest)
      | none => some rest
    else some rest
  | [] => some []

/-- The date, the time of day or both that a text begins with, and the text after it. -/
def readMoment? (cs : List Char) : Option (Value × List Char) := do
  let rest ← afterDateTime? cs <|> afterTime? cs
  let moment ← Moment.of? (String.ofList (cs.take (cs.length - rest.length)))
  pure (.moment moment, rest)

/-! ## Numbers -/

/-- How decimal numbers are written. -/
def numeralStyle : Numeral.Style := ⟨['+', '-'], true⟩

/-- The whole number that digits to a base write, and the text after them. -/
def readBase? (base : Nat) (cs : List Char) : Option (Value × List Char) :=
  let value (c : Char) : Nat := (Text.hexValue? c).getD base
  (Numeral.readDigits? (fun c => value c < base) true cs).map fun r =>
    (.int (r.1.foldl (fun n c => base * n + value c) 0 : Nat), r.2)

/-- The whole number to another base that a text begins with, and the text after it. -/
def readBased? : List Char → Option (Value × List Char)
  | '0' :: 'x' :: rest => readBase? 16 rest
  | '0' :: 'o' :: rest => readBase? 8 rest
  | '0' :: 'b' :: rest => readBase? 2 rest
  | _ => none

/-- The decimal number that a text begins with, and the text after it. -/
def readDecimal? (cs : List Char) : Option (Value × List Char) :=
  (Numeral.read? numeralStyle cs).map fun r =>
    (if r.1.isWhole then .int r.1.toInt else .real r.1.toBinary64, r.2)

/-! ## Words -/

/-- The words for truth values. -/
def truthWords : List (String × Value) := [("true", .bool true), ("false", .bool false)]

/-- The words for numbers that are not finite. -/
def numberWords : List (String × Value) :=
  [("inf", .real (.infinite false)), ("+inf", .real (.infinite false)),
    ("-inf", .real (.infinite true)), ("nan", .real .undefined), ("+nan", .real .undefined),
    ("-nan", .real .undefined)]

/-- The word of a list that a text begins with, as a value, and the text after it. -/
def readWord? (words : List (String × Value)) (cs : List Char) : Option (Value × List Char) :=
  words.findSome? fun w => (Text.afterPrefix? w.1.toList cs).map fun rest => (w.2, rest)

/-- The single value that a text begins with, and the text after it. -/
def readScalar? (cs : List Char) : Option (Value × List Char) :=
  match cs with
  | '"' :: _ | '\'' :: _ => (readText? cs).map fun r => (.text (String.ofList r.1), r.2)
  | cs =>
    readWord? truthWords cs <|> readMoment? cs <|> readBased? cs <|> readDecimal? cs <|>
      readWord? numberWords cs

end RunLedger.Toml
