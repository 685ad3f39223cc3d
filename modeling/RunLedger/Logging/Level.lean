/-!
# Log levels

Levels are ordered by a number; the four that a threshold can be set to have a name.

    ofName? s = some l ↔ l ∈ thresholds ∧ l.name = s              (ofName?_eq_some_iff)
-/

namespace RunLedger

/-- How much an event matters. -/
inductive LogLevel where
  | debug
  | info
  | warning
  | error
  | critical
deriving Repr, DecidableEq, Inhabited

namespace LogLevel

/-- The number that levels are compared by. -/
def rank : LogLevel → Nat
  | debug => 10
  | info => 20
  | warning => 30
  | error => 40
  | critical => 50

def word : LogLevel → String
  | debug => "debug"
  | info => "info"
  | warning => "warning"
  | error => "error"
  | critical => "critical"

def ofWord? (s : String) : Option LogLevel :=
  [debug, info, warning, error, critical].find? fun l => l.word == s

/-- The levels that a threshold can be set to. -/
def thresholds : List LogLevel := [debug, info, warning, error]

def name : LogLevel → String
  | debug => "DEBUG"
  | info => "INFO"
  | warning => "WARNING"
  | error => "ERROR"
  | critical => "CRITICAL"

/-- The threshold of the given name, exactly as written. -/
def ofName? (s : String) : Option LogLevel := thresholds.find? fun l => l.name == s

/-- The greater of two levels. -/
def atLeast (a b : LogLevel) : LogLevel := if a.rank < b.rank then b else a

/-! ## Lemmas -/

theorem ofName?_eq_some_iff {s : String} {l : LogLevel} :
    ofName? s = some l ↔ l ∈ thresholds ∧ l.name = s := by
  constructor
  · intro h
    exact ⟨List.mem_of_find?_eq_some h, by simpa using List.find?_some h⟩
  · rintro ⟨hl, rfl⟩
    revert l
    decide

end LogLevel

end RunLedger
