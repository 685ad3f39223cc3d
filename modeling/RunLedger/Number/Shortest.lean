import RunLedger.Number.Binary64

/-!
# Shortest decimal text of a number

A finite number is written with the fewest digits that are nearer to it than to any other number of
64 bits; of two such writings the nearer one is taken, and of two equally near ones that with the
even last digit.  The digits are found by trying grids of
1, 2, … 17 digits: on each, only the two points around the number can do.

Numbers from 1e-4 to below 1e16 are written with a point among their digits and at least one digit
on each side of it, the others with an exponent of a sign and at least two digits.
-/

namespace RunLedger.Binary64

/-! ## Digits -/

/-- The point of the grid of step `10 ^ k` that reads back as `m · 2 ^ e`, if there is one.  All
is counted in quarters of the last binary place: half a place lies on both sides, but a quarter
below a power of two. -/
def gridPoint? (m : Nat) (e k : Int) : Option Nat :=
  let unit := Nat.pow 2 (e - 2).toNat * Nat.pow 10 (-k).toNat
  let step := Nat.pow 2 (2 - e).toNat * Nat.pow 10 k.toNat
  let value := 4 * m * unit
  let least := (4 * m - (if m = Nat.pow 2 mantissaBits && leastExponent < e then 1 else 2)) * unit
  let greatest := (4 * m + 2) * unit
  let readsBack (c : Nat) : Bool :=
    if m % 2 = 0 then least ≤ c * step && c * step ≤ greatest
    else least < c * step && c * step < greatest
  let below := value / step
  match readsBack below, readsBack (below + 1) with
  | true, true => some (roundDiv value step)
  | true, false => some below
  | false, true => some (below + 1)
  | false, false => none

/-- The decimal places before the point of a positive number `m · 2 ^ e`. -/
def placesOf (m : Nat) (e : Int) : Int :=
  let shift := decimalReach
  let (n, d) := scaled (m * Nat.pow 10 shift) 1 (-e)
  ((Nat.toDigits 10 (n / d)).length : Int) - shift

/-- A grid point without the zeros at its end, and the power of ten of its last digit. -/
def withoutZeros : (fuel c : Nat) → (k : Int) → Nat × Int
  | 0, c, k => (c, k)
  | fuel + 1, c, k => if c % 10 = 0 then withoutZeros fuel (c / 10) (k + 1) else (c, k)

/-- The numbers of digits that are tried, least first. -/
def digitCounts : List Nat := List.range' 1 17

/-- The shortest digits of a positive number `m · 2 ^ e` as a whole number, and the power of ten of
the last one. -/
def shortest (m : Nat) (e : Int) : Nat × Int :=
  let places := placesOf m e
  let found := digitCounts.findSome? fun (n : Nat) =>
    (gridPoint? m e (places - n)).map fun c => (c, places - (n : Int))
  match found with
  | some (c, k) => withoutZeros digitCounts.length c k
  | none => (m, 0)

/-! ## Text -/

/-- The exponent of a number, with its sign and at least two digits. -/
def exponentText (n : Int) : String :=
  let digits := toString n.natAbs
  (if n < 0 then "e-" else "e+") ++ (if digits.length < 2 then "0" ++ digits else digits)

/-- Digits with a point after the given number of places, which may lie outside of them. -/
def positional (digits : List Char) (places : Int) : List Char :=
  let whole := digits.take places.toNat ++ List.replicate (places.toNat - digits.length) '0'
  let fraction := List.replicate (-places).toNat '0' ++ digits.drop places.toNat
  let orZero (cs : List Char) := if cs.isEmpty then ['0'] else cs
  orZero whole ++ '.' :: orZero fraction

/-- Digits with a point after the first one, if there are more. -/
def pointed : List Char → List Char
  | [] => []
  | [d] => [d]
  | d :: ds => d :: '.' :: ds

/-- The text of digits of which `places` stand before the point. -/
def decimalText (digits : List Char) (places : Int) : String :=
  if -4 < places && places ≤ 16 then String.ofList (positional digits places)
  else String.ofList (pointed digits) ++ exponentText (places - 1)

/-- The text of a number, with the words for an infinity and for an undefined number. -/
def textWith (infinity undefinedWord : String) : Binary64 → String
  | finite negative m e =>
    let (digits, k) := if m = 0 then (0, 0) else shortest m e
    let shown := Nat.toDigits 10 digits
    (if negative then "-" else "") ++ decimalText shown (k + shown.length)
  | infinite negative => (if negative then "-" else "") ++ infinity
  | undefined => undefinedWord

def text (x : Binary64) : String := x.textWith "inf" "nan"

def jsonText (x : Binary64) : String := x.textWith "Infinity" "NaN"

end RunLedger.Binary64
