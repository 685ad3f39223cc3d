import RunLedger.Text.Blank
import RunLedger.Text.Case

/-!
# Redundant leading keywords

A clause may be given with or without its keyword in front.  One leading keyword is taken off, in
any case, if a space and more text follow it.
-/

namespace RunLedger

/-- The clause, trimmed, without one leading occurrence of the keyword. -/
def dropKeyword (keyword clause : List Char) : List Char :=
  let text := Text.trim clause
  let start := Text.lower keyword ++ [' ']
  if start.isPrefixOf (Text.lower text) && start.length < text.length then
    Text.trim (text.drop start.length)
  else text

/-- The string, trimmed, without one leading occurrence of the keyword. -/
def withoutKeyword (keyword clause : String) : String :=
  String.ofList (dropKeyword keyword.toList clause.toList)

end RunLedger
