/-!
# Field errors

What can be wrong with one field of the settings.
-/

namespace RunLedger

/-- Why a field's value is refused. -/
inductive FieldFault where
  | notText
  | notBoolean
  | booleanUnclear
  | notObject
  | tooShort (least : Nat)
  | tooLong (most : Nat)
  | notListed (choices : List String)
  | refused (reason : String)
  | frozen
deriving Repr, DecidableEq

/-- A refused field: where it stands, and why. -/
structure FieldError where
  path : List String
  fault : FieldFault
deriving Repr, DecidableEq

namespace FieldFault

/-- A count of characters in words. -/
def characters (n : Nat) : String := toString n ++ (if n = 1 then " character" else " characters")

/-- Words in quotes, the last two joined by `or`. -/
def choiceText : List String → String
  | [] => ""
  | [a] => "'" ++ a ++ "'"
  | [a, b] => "'" ++ a ++ "' or '" ++ b ++ "'"
  | a :: rest => "'" ++ a ++ "', " ++ choiceText rest

def code : FieldFault → String
  | notText => "string_type"
  | notBoolean => "bool_type"
  | booleanUnclear => "bool_parsing"
  | notObject => "model_type"
  | tooShort _ => "string_too_short"
  | tooLong _ => "string_too_long"
  | notListed _ => "literal_error"
  | refused _ => "value_error"
  | frozen => "frozen_instance"

def message : FieldFault → String
  | notText => "Input should be a valid string"
  | notBoolean => "Input should be a valid boolean"
  | booleanUnclear => "Input should be a valid boolean, unable to interpret input"
  | notObject => "Input should be a valid dictionary or instance of LoggingSettings"
  | tooShort n => "String should have at least " ++ characters n
  | tooLong n => "String should have at most " ++ characters n
  | notListed choices => "Input should be " ++ choiceText choices
  | refused reason => "Value error, " ++ reason
  | frozen => "Instance is frozen"

end FieldFault

end RunLedger
