import RunLedger.Text.Blank

/-!
# Reading whole numbers

A numeral is an optional sign and decimal digits of any script, with single underscores allowed
between digits and blanks around the whole.  One of more than `digitLimit` digits is refused.
-/

namespace RunLedger.Text

/-- The zeros of the decimal digit rows of the Unicode character database. -/
def digitZeros : List Nat := [
  0x30, 0x660, 0x6F0, 0x7C0, 0x966, 0x9E6, 0xA66, 0xAE6, 0xB66, 0xBE6, 0xC66, 0xCE6, 0xD66,
  0xDE6, 0xE50, 0xED0, 0xF20, 0x1040, 0x1090, 0x17E0, 0x1810, 0x1946, 0x19D0, 0x1A80, 0x1A90,
  0x1B50, 0x1BB0, 0x1C40, 0x1C50, 0xA620, 0xA8D0, 0xA900, 0xA9D0, 0xA9F0, 0xAA50, 0xABF0, 0xFF10,
  0x104A0, 0x10D30, 0x11066, 0x110F0, 0x11136, 0x111D0, 0x112F0, 0x11450, 0x114D0, 0x11650,
  0x116C0, 0x11730, 0x118E0, 0x11950, 0x11C50, 0x11D50, 0x11DA0, 0x16A60, 0x16AC0, 0x16B50,
  0x1D7CE, 0x1D7D8, 0x1D7E2, 0x1D7EC, 0x1D7F6, 0x1E140, 0x1E2F0, 0x1E950, 0x1FBF0]

/-- The value of a decimal digit of any script. -/
def digitValue? (c : Char) : Option Nat :=
  let n := c.toNat
  (digitZeros.find? fun z => z ≤ n && n ≤ z + 9).map (n - ·)

/-- The most digits that a numeral may have. -/
def digitLimit : Nat := 4300

/-- The digits of a numeral body: digits, with single underscores between them. -/
def numeralDigits? : List Char → Option (List Nat)
  | [] => none
  | [c] => (digitValue? c).map ([·])
  | c :: '_' :: rest => do
    let d ← digitValue? c
    let ds ← numeralDigits? rest
    pure (d :: ds)
  | c :: rest => do
    let d ← digitValue? c
    let ds ← numeralDigits? rest
    pure (d :: ds)

/-- The number with the given decimal digits, most significant first. -/
def ofDigits (ds : List Nat) : Nat := ds.foldl (fun n d => 10 * n + d) 0

/-- The number of a numeral body, unless it has too many digits. -/
def readNat? (cs : List Char) : Option Nat := do
  let ds ← numeralDigits? cs
  if ds.length ≤ digitLimit then some (ofDigits ds) else none

/-- The number that a text writes, with blanks around it ignored. -/
def readInt? (cs : List Char) : Option Int :=
  match trim cs with
  | '-' :: body => (readNat? body).map fun n => -(n : Int)
  | '+' :: body => (readNat? body).map Int.ofNat
  | body => (readNat? body).map Int.ofNat

end RunLedger.Text
