/-!
# Whole numbers of 64 bits

The whole numbers that 64 bits hold with a sign.

    holds n = true ↔ least ≤ n ∧ n ≤ greatest           (holds_iff)
    n ≤ greatest → holds n = true                       (holds_of_nonneg)
-/

namespace RunLedger.Signed64

def greatest : Int := 0x7FFFFFFFFFFFFFFF

def least : Int := -0x8000000000000000

def holds (n : Int) : Bool := least ≤ n && n ≤ greatest

theorem holds_iff {n : Int} : holds n = true ↔ least ≤ n ∧ n ≤ greatest := by
  simp [holds]

theorem holds_of_nonneg {n : Int} (h : 0 ≤ n) (hn : n ≤ greatest) : holds n = true :=
  holds_iff.2 ⟨Int.le_trans (by decide) h, hn⟩

/-- A number counted up from nothing is held as long as it is not beyond the greatest. -/
theorem holds_natCast {n : Nat} (h : (n : Int) ≤ greatest) : holds n = true :=
  holds_of_nonneg (Int.natCast_nonneg n) h

end RunLedger.Signed64
