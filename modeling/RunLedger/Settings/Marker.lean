import RunLedger.Number.Numeral
import RunLedger.Text.Case
import RunLedger.Text.Numeral
import RunLedger.Value.Reader

/-!
# Marked texts

A text may begin with a marker, a word that says as what the text behind it is to be read.  A text
that cannot be read so stays as it is, as does one without a marker.

    marked? s = none → castMarked (.text s) = .text s       (castMarked_of_unmarked)
-/

namespace RunLedger.Settings

/-- What a marked text is read as. -/
inductive Marker where
  | text
  | integer
  | real
  | truth
  | json
  | nothing
deriving Repr, DecidableEq

/-- The markers and their words. -/
def markers : List (String × Marker) :=
  [("@str", .text), ("@int", .integer), ("@float", .real), ("@bool", .truth), ("@json", .json),
    ("@none", .nothing), ("@null", .nothing), ("@note", .nothing), ("@comment", .nothing)]

/-- The words that a marked truth value is true for; it is false for all others. -/
def truthWords : List String := ["t", "true", "enabled", "1", "on", "yes"]

/-- How a marked floating-point number is written. -/
def realStyle : Numeral.Style := ⟨['+', '-'], true⟩

namespace Marker

/-- The value of the text behind a marker. -/
def read? (m : Marker) (s : String) : Option Value :=
  match m with
  | text => some (.text s)
  | integer => (Text.readInt? s.toList).map .int
  | real =>
    match Numeral.read? realStyle (Text.trim s.toList) with
    | some (n, []) => some (.real n.toBinary64)
    | _ => none
  | truth => some (.bool (truthWords.contains (Text.lowered s)))
  | json => Value.ofJsonText? s
  | nothing => some .null

end Marker

/-- The value of a text that begins with a marker. -/
def marked? (s : String) : Option Value :=
  let word := s.toList.takeWhile (· ≠ ' ')
  (markers.lookup (String.ofList word)).bind fun m =>
    m.read? (String.ofList (s.toList.drop (word.length + 1)))

mutual

/-- A value with its marked texts read, all the way down. -/
def castMarked : Value → Value
  | .text s => (marked? s).getD (.text s)
  | .list items => .list (castItems items)
  | .map entries => .map (castEntries entries)
  | v => v

def castItems : List Value → List Value
  | [] => []
  | v :: vs => castMarked v :: castItems vs

def castEntries : List (String × Value) → List (String × Value)
  | [] => []
  | (k, v) :: rest => (k, castMarked v) :: castEntries rest

end

theorem castMarked_of_unmarked {s : String} (h : marked? s = none) :
    castMarked (.text s) = .text s := by
  simp [castMarked, h]

end RunLedger.Settings
