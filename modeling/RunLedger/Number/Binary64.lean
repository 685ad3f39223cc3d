/-!
# Binary floating-point numbers

A number of 64 bits is a sign, a whole number of at most 53 bits and a power of two; or an infinity;
or undefined.  Decimal numbers are rounded to the nearest such number, and of two equally near ones
to that with the even whole number; beyond the greatest one stands the infinity.

    roundDiv (q * den) den = q                          (roundDiv_mul)
-/

namespace RunLedger

/-- A binary floating-point number of 64 bits; the finite ones are `± mantissa · 2 ^ exponent`. -/
inductive Binary64 where
  | finite (negative : Bool) (mantissa : Nat) (exponent : Int)
  | infinite (negative : Bool)
  | undefined
deriving Repr, DecidableEq, Inhabited

namespace Binary64

/-- The power of two of the smallest numbers. -/
def leastExponent : Int := -1074

/-- The power of two of the greatest numbers. -/
def greatestExponent : Int := 971

/-- The mantissas of all but the smallest numbers have this many bits after the first. -/
def mantissaBits : Nat := 52

/-- Zero, with a sign. -/
def zero (negative : Bool) : Binary64 := .finite negative 0 leastExponent

/-! ## Rounding -/

/-- The quotient as a whole number, the nearest one, and of two the even one. -/
def roundDiv (num den : Nat) : Nat :=
  let below := num / den
  let twice := 2 * (num % den)
  if twice < den || (twice = den && below % 2 = 0) then below else below + 1

/-- The fraction `num / den` divided by a power of two. -/
def scaled (num den : Nat) (e : Int) : Nat × Nat :=
  (num * Nat.pow 2 (-e).toNat, den * Nat.pow 2 e.toNat)

/-- The power of two by which a fraction is divided to give a mantissa of the right size. -/
def exponentOf (num den : Nat) : Int :=
  let guess : Int := (num.log2 : Int) - den.log2 - mantissaBits
  let (n, d) := scaled num den guess
  max leastExponent (if n < Nat.pow 2 mantissaBits * d then guess - 1 else guess)

/-- The number nearest to a fraction. -/
def ofFraction (negative : Bool) (num den : Nat) : Binary64 :=
  if num = 0 then zero negative
  else
    let e := exponentOf num den
    let (n, d) := scaled num den e
    let m := roundDiv n d
    let (m, e) :=
      if m = Nat.pow 2 (mantissaBits + 1) then (Nat.pow 2 mantissaBits, e + 1) else (m, e)
    if greatestExponent < e then .infinite negative else .finite negative m e

/-- Decimal numbers of so many digits before the point, or zeros behind it, lie beyond the greatest
number or within half of the smallest. -/
def decimalReach : Nat := 400

/-- The number nearest to `digits · 10 ^ exponent`. -/
def ofDecimal (negative : Bool) (digits : Nat) (exponent : Int) : Binary64 :=
  let places := exponent + (Nat.toDigits 10 digits).length
  if digits = 0 || places < -decimalReach then zero negative
  else if decimalReach < places then .infinite negative
  else ofFraction negative (digits * Nat.pow 10 exponent.toNat) (Nat.pow 10 (-exponent).toNat)

/-- The whole number that is left when what is behind the point is cut off. -/
def truncated? : Binary64 → Option Int
  | finite negative m e =>
    let (n, d) := scaled m 1 (-e)
    some (if negative then -((n / d : Nat) : Int) else (n / d : Nat))
  | _ => none

/-- The whole number that the number is, if it is one. -/
def whole? : Binary64 → Option Int
  | finite negative m e =>
    let (n, d) := scaled m 1 (-e)
    if n % d = 0 then some (if negative then -((n / d : Nat) : Int) else (n / d : Nat)) else none
  | _ => none

/-! ## Lemmas -/

theorem roundDiv_mul (q : Nat) {den : Nat} (h : 0 < den) : roundDiv (q * den) den = q := by
  simp [roundDiv, Nat.mul_div_cancel q h, h]

theorem ofFraction_zero (negative : Bool) (den : Nat) : ofFraction negative 0 den = zero negative :=
  rfl

end Binary64

end RunLedger
