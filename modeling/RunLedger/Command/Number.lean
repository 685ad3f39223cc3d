import RunLedger.Number.Numeral
import RunLedger.Text.Blank

/-!
# Whole numbers among arguments

A number is a sign and ASCII digits.  Blanks around it count for nothing, nor do zeros before a
positive number, single underscores between digits, and zeros behind a point.  A number of more
than `digitLimit` digits is refused.
-/

namespace RunLedger.Command

/-- Whether a character around a number counts for nothing: the blanks but the information
separators. -/
def isMargin (c : Char) : Bool := Text.isBlank c && !(0x1C ≤ c.toNat && c.toNat ≤ 0x1F)

/-- A text without what counts for nothing around it. -/
def withoutMargins (cs : List Char) : List Char :=
  ((cs.dropWhile isMargin).reverse.dropWhile isMargin).reverse

/-- The text without a plus sign; a minus sign may not follow one. -/
def withoutPlus? : List Char → Option (List Char)
  | '+' :: '-' :: _ => none
  | '+' :: rest => some rest
  | cs => some cs

/-- The text behind a run of zeros and underscores, of which the last one is kept unless a digit
follows. -/
def skipZeros? (last : Char) : List Char → Option (List Char)
  | [] => some [last]
  | c :: rest =>
    if c = '0' || c = '_' then skipZeros? c rest
    else if c = '.' then some (last :: c :: rest)
    else if c.isDigit then some (c :: rest)
    else none

/-- The text without the zeros that it begins with.  Behind a minus sign they stay. -/
def withoutZeros? : List Char → Option (List Char)
  | '0' :: rest => skipZeros? '0' rest
  | c :: rest => if c = '-' || c.isDigit then some (c :: rest) else none
  | [] => none

/-- The text without a point and the zeros behind it, of which there has to be one. -/
def withoutFraction? (cs : List Char) : Option (List Char) :=
  match cs.dropWhile (· ≠ '.') with
  | [] => some cs
  | _ :: zeros =>
    if !zeros.isEmpty && zeros.all (· = '0') then some (cs.takeWhile (· ≠ '.')) else none

/-- The text without underscores, each of which stands between two other characters. -/
def withoutUnderscores? : List Char → Option (List Char)
  | [] => some []
  | ['_'] => none
  | '_' :: _ => none
  | [c] => some [c]
  | c :: '_' :: rest => (withoutUnderscores? rest).bind fun cs => if cs.isEmpty then none else c :: cs
  | c :: rest => (withoutUnderscores? rest).map (c :: ·)

/-- The most digits that a number may have. -/
def digitLimit : Nat := 4300

/-- The number of digits without zeros before them. -/
def readDigits? (digits : List Char) : Option Nat :=
  match digits with
  | [] => none
  | ['0'] => some 0
  | '0' :: _ => none
  | digits =>
    if digits.all Char.isDigit && digits.length ≤ digitLimit then some (Numeral.ofDigits digits)
    else none

/-- The whole number that an argument writes. -/
def readInt? (argument : String) : Option Int := do
  let cs ← withoutPlus? (withoutMargins argument.toList)
  let cs ← withoutUnderscores? (← withoutFraction? (← withoutZeros? cs))
  match cs with
  | '-' :: digits => (readDigits? digits).map fun n => -(n : Int)
  | digits => (readDigits? digits).map Int.ofNat

end RunLedger.Command
