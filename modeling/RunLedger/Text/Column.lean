/-!
# Columns of fixed width

Text is padded with spaces, numbers with zeros; what is too long stays whole.
-/

namespace RunLedger.Text

/-- The string filled up on the right to the given number of characters. -/
def padRight (width : Nat) (s : String) : String :=
  s ++ String.ofList (List.replicate (width - s.length) ' ')

/-- The string filled up on the left to the given number of characters. -/
def padLeft (width : Nat) (s : String) : String :=
  String.ofList (List.replicate (width - s.length) ' ') ++ s

/-- A number in decimal with zeros in front up to the given number of digits. -/
def zeroPadded (width n : Nat) : String :=
  let digits := toString n
  String.ofList (List.replicate (width - digits.length) '0') ++ digits

end RunLedger.Text
