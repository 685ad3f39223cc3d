import RunLedger.Number.Shortest
import RunLedger.Text.Quoted
import RunLedger.Value.Entries

/-!
# Values given from outside

Settings files, launch arguments and log fields hold values of any shape.  A value has two texts:
its display, where a text stands for itself, and its literal, where texts are quoted.
-/

namespace RunLedger

/-- A date, a time of day or both, as it is written: a digit comes first. -/
structure Moment where
  written : String
  digit_first : written.toList.head?.any Char.isDigit = true
deriving Repr, DecidableEq

/-- The moment that a text writes, if a digit comes first. -/
def Moment.of? (written : String) : Option Moment :=
  if h : written.toList.head?.any Char.isDigit = true then some ⟨written, h⟩ else none

/-- A value of any shape; the entries of a `map` keep their order. -/
inductive Value where
  | null
  | bool (b : Bool)
  | int (n : Int)
  | real (x : Binary64)
  | moment (m : Moment)
  | text (s : String)
  | list (items : List Value)
  | map (entries : List (String × Value))
deriving Repr, Inhabited

namespace Value

def boolLiteral (b : Bool) : String := if b then "True" else "False"

mutual

/-- The value written out, with texts quoted. -/
def literal : Value → String
  | .null => "None"
  | .bool b => boolLiteral b
  | .int n => toString n
  | .real x => x.text
  | .moment m => m.written
  | .text s => Text.quoted s
  | .list items => "[" ++ String.intercalate ", " (literals items) ++ "]"
  | .map entries => "\x7b" ++ String.intercalate ", " (entryLiterals entries) ++ "\x7d"

def literals : List Value → List String
  | [] => []
  | v :: vs => literal v :: literals vs

def entryLiterals : List (String × Value) → List String
  | [] => []
  | (k, v) :: rest => (Text.quoted k ++ ": " ++ literal v) :: entryLiterals rest

end

/-- The value as shown to a reader: a text stands for itself. -/
def display : Value → String
  | .text s => s
  | v => literal v

/-- Several values between parentheses; a single one is followed by a comma. -/
def tupleLiteral : List Value → String
  | [v] => "(" ++ literal v ++ ",)"
  | vs => "(" ++ String.intercalate ", " (literals vs) ++ ")"

/-- Whether the value counts as true: zero and what is empty do not. -/
def isTruthy : Value → Bool
  | .null => false
  | .bool b => b
  | .int n => n ≠ 0
  | .real (.finite _ mantissa _) => mantissa ≠ 0
  | .real _ => true
  | .moment _ => true
  | .text s => s ≠ ""
  | .list items => !items.isEmpty
  | .map entries => !entries.isEmpty

def ofText? : Option String → Value
  | none => .null
  | some s => .text s

def ofInt? : Option Int → Value
  | none => .null
  | some n => .int n

end Value

end RunLedger
