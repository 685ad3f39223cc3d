import RunLedger.Number.Binary64

/-!
# Decimal numerals

A numeral is a sign, digits without zeros in front, and perhaps a fraction and an exponent; some
formats allow an underscore between two digits.  Without fraction and exponent it is a whole number,
with either of them a binary floating-point one.
-/

namespace RunLedger

/-- A numeral: its digits as a whole number, the power of ten of the last one, and whether it has
neither a fraction nor an exponent. -/
structure Numeral where
  negative : Bool
  digits : Nat
  exponent : Int
  isWhole : Bool
deriving Repr, DecidableEq

namespace Numeral

/-- The number that a numeral without fraction and exponent writes. -/
def toInt (n : Numeral) : Int := if n.negative then -(n.digits : Int) else n.digits

def toBinary64 (n : Numeral) : Binary64 := .ofDecimal n.negative n.digits n.exponent

/-! ## Reading -/

/-- How numerals are written: the signs that may stand before them, and whether an underscore may
stand between two digits. -/
structure Style where
  signs : List Char
  underscores : Bool
deriving Repr, DecidableEq

/-- The digits that a text goes on with, and the text after them. -/
def moreDigits (isDigit : Char → Bool) (underscores : Bool) :
    List Char → List Char × List Char
  | '_' :: c :: rest =>
    if underscores && isDigit c then
      let (digits, after) := moreDigits isDigit underscores rest
      (c :: digits, after)
    else ([], '_' :: c :: rest)
  | c :: rest =>
    if isDigit c then
      let (digits, after) := moreDigits isDigit underscores rest
      (c :: digits, after)
    else ([], c :: rest)
  | [] => ([], [])

/-- The digits, at least one, that a text begins with, and the text after them. -/
def readDigits? (isDigit : Char → Bool) (underscores : Bool) :
    List Char → Option (List Char × List Char)
  | c :: rest =>
    if isDigit c then
      let (digits, after) := moreDigits isDigit underscores rest
      some (c :: digits, after)
    else none
  | [] => none

/-- The digits before the point: a zero, or digits that begin with another one. -/
def readWhole? (underscores : Bool) : List Char → Option (List Char × List Char)
  | '0' :: rest => some (['0'], rest)
  | cs => readDigits? Char.isDigit underscores cs

/-- The digits behind a point, and the text after them; none where no digit follows a point. -/
def readFraction (underscores : Bool) (cs : List Char) : List Char × List Char :=
  match cs with
  | '.' :: rest => (readDigits? Char.isDigit underscores rest).getD ([], cs)
  | _ => ([], cs)

/-- The number of decimal digits. -/
def ofDigits (digits : List Char) : Nat :=
  digits.foldl (fun n c => 10 * n + (c.toNat - 48)) 0

/-- An exponent with its sign, and the text after it; none where no digit follows the mark. -/
def readExponent (underscores : Bool) (cs : List Char) : Option Int × List Char :=
  let read (negative : Bool) (rest : List Char) :=
    match readDigits? Char.isDigit underscores rest with
    | some (digits, after) =>
      (some (if negative then -(ofDigits digits : Int) else ofDigits digits), after)
    | none => (none, cs)
  match cs with
  | e :: rest =>
    if e = 'e' || e = 'E' then
      match rest with
      | '-' :: rest => read true rest
      | '+' :: rest => read false rest
      | rest => read false rest
    else (none, cs)
  | [] => (none, cs)

/-- The numeral that a text begins with, and the text after it. -/
def read? (style : Style) (cs : List Char) : Option (Numeral × List Char) :=
  let sign := cs.head?.filter style.signs.contains
  match readWhole? style.underscores (if sign.isSome then cs.drop 1 else cs) with
  | none => none
  | some (whole, rest) =>
    let (fraction, rest) := readFraction style.underscores rest
    let (exponent, rest) := readExponent style.underscores rest
    let numeral : Numeral :=
      { negative := sign = some '-'
        digits := ofDigits (whole ++ fraction)
        exponent := exponent.getD 0 - fraction.length
        isWhole := fraction.isEmpty && exponent.isNone }
    some (numeral, rest)

end Numeral

end RunLedger
