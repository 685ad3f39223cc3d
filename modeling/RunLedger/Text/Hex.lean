/-!
# Hexadecimal digits

Numbers to base sixteen are written with small letters and read with letters of either case.

    hexValue? (hexDigit n) = some (n % 16)              (hexValue?_hexDigit)
-/

namespace RunLedger.Text

def hexDigit (n : Nat) : Char := "0123456789abcdef".toList.getD (n % 16) '0'

/-- The last `width` digits of a number to base sixteen. -/
def hexDigits : (width n : Nat) → List Char
  | 0, _ => []
  | width + 1, n => hexDigits width (n / 16) ++ [hexDigit n]

/-- The value of a digit to base sixteen, or of one to a smaller base. -/
def hexValue? (c : Char) : Option Nat :=
  if c.isDigit then some (c.toNat - 48)
  else if 'a' ≤ c && c ≤ 'f' then some (c.toNat - 87)
  else if 'A' ≤ c && c ≤ 'F' then some (c.toNat - 55)
  else none

/-- The number that digits to base sixteen write after those of `acc`. -/
def readHex? (acc : Nat) : List Char → Option Nat
  | [] => some acc
  | c :: cs =>
    match hexValue? c with
    | some d => readHex? (16 * acc + d) cs
    | none => none

/-- The character whose code digits to base sixteen write. -/
def readCode? (cs : List Char) : Option Char :=
  match readHex? 0 cs with
  | some n => if n.isValidChar then some (Char.ofNat n) else none
  | none => none

/-! ## Lemmas -/

theorem hexValue?_hexDigit (n : Nat) : hexValue? (hexDigit n) = some (n % 16) := by
  have h : ∀ i : Fin 16, hexValue? (hexDigit i.val) = some i.val := by decide
  have := h ⟨n % 16, Nat.mod_lt _ (by decide)⟩
  simpa [hexDigit, Nat.mod_mod] using this

end RunLedger.Text
