import RunLedger.Logging.Event
import RunLedger.Logging.Loggers
import RunLedger.Text.Column
import RunLedger.Value.Json

/-!
# Log lines

In JSON an event is one object: its fields in their order, and then its name, level and time.  On a
console it is a line of columns — time, level, name, the logger if a field names it — and of the
other fields sorted by key; texts on a stack or an exception follow on lines of their own.  A stack
that is asked for, and an error that the event is logged with, take the place of fields of those
names.  The time and the stack are not part of what is modelled: marks stand for them.
-/

namespace RunLedger

/-- The mark that stands for the time of an event. -/
def timeMark : String := "<TS>"

/-- The mark that stands for the text of a stack. -/
def stackMark : String := "<STACK>"

namespace LogEvent

/-! ## Names and fields -/

/-- A value as a whole number in decimal: truth values count as 1 and 0, and what is behind the
point is cut off. -/
def wholeText : Value → String
  | .bool b => if b then "1" else "0"
  | .real x => match x.truncated? with
    | some n => toString n
    | none => x.text
  | v => v.display

/-- The text with each `%s` and `%d` replaced by the next of the arguments, and `%%` by `%`. -/
def fillIn : List Value → List Char → List Char
  | args, '%' :: '%' :: rest => '%' :: fillIn args rest
  | a :: args, '%' :: 's' :: rest => a.display.toList ++ fillIn args rest
  | a :: args, '%' :: 'd' :: rest => (wholeText a).toList ++ fillIn args rest
  | args, c :: rest => c :: fillIn args rest
  | _, [] => []

/-- The event whose name is filled with arguments; without arguments a percent sign stands for
itself. -/
def withArguments (args : List Value) (e : LogEvent) : LogEvent :=
  if args.isEmpty then e else { e with name := String.ofList (fillIn args e.name.toList) }

/-- The event with the fields of its context put before its own. -/
def within (context : List (String × Value)) (hcontext : argumentsKey ∉ context.map Prod.fst)
    (e : LogEvent) : LogEvent :=
  { e with
    fields := putFields e.fields context
    filled := fun hmem => (mem_keys_putFields.1 hmem).elim e.filled hcontext }

/-- The key of the field that asks for the stack. -/
def stackInfoKey : String := "stack_info"

/-- The keys of fields that ask for details of an error or of the stack, or bring the event on its
way, and are never shown. -/
def hiddenKeys : List String := ["exc_info", stackInfoKey, "_record", "_from_structlog"]

def shownFields (e : LogEvent) : List (String × Value) :=
  e.fields.filter fun f => !hiddenKeys.contains f.1

/-- The key of a stack's text. -/
def stackKey : String := "stack"

/-- The key of an exception's text. -/
def exceptionKey : String := "exception"

/-- Whether a field asks for the stack. -/
def asksForStack (e : LogEvent) : Bool := (e.fields.lookup stackInfoKey).any Value.isTruthy

/-- Fields with the texts of the stack and of the error put in, where the event has these. -/
def putTexts (e : LogEvent) (m : List (String × Value)) : List (String × Value) :=
  let m := if e.asksForStack then putEntry stackKey (.text stackMark) m else m
  match e.error with
  | some s => putEntry exceptionKey (.text s) m
  | none => m

/-! ## JSON -/

/-- The event as a JSON object. -/
def toJsonValue (e : LogEvent) : Value :=
  .map (e.putTexts (putEntry "timestamp" (.text timeMark) (putEntry "level" (.text e.level.word)
    (putEntry "event" (.text e.name) e.shownFields))))

/-! ## Console -/

/-- Whether a text has to be quoted among fields. -/
def needsQuotes (s : String) : Bool := s.toList.any fun c => " \t\r\n='\"".toList.contains c

/-- A field's value on a console. -/
def consoleValue : Value → String
  | .text s => if needsQuotes s then Text.quoted s else s
  | v => v.literal

/-- A field put among fields sorted by key. -/
def insertField (f : String × Value) : List (String × Value) → List (String × Value)
  | [] => [f]
  | g :: rest => if f.1 < g.1 then f :: g :: rest else g :: insertField f rest

def sortedFields (fields : List (String × Value)) : List (String × Value) :=
  fields.foldl (fun sorted f => insertField f sorted) []

/-- The keys that the event's own time, level and name take up. -/
def ownKeys : List String := ["timestamp", "level", "event"]

/-- The keys of fields that name the logger. -/
def loggerKeys : List String := ["logger", "logger_name"]

/-- The columns of the event, from its time on. -/
def columns (e : LogEvent) : List String :=
  let loggers := loggerKeys.filterMap fun k =>
    (e.shownFields.lookup k).map fun v => "[" ++ v.display ++ "]"
  [timeMark, "[" ++ Text.padRight 9 e.level.word ++ "]", Text.padRight 30 e.name] ++ loggers

/-- The fields that stand as pairs behind the columns. -/
def pairFields (e : LogEvent) : List (String × Value) :=
  let others := ownKeys ++ loggerKeys ++ [stackKey, exceptionKey]
  sortedFields (e.shownFields.filter fun f => !others.contains f.1)

/-- The line of columns and pairs, without spaces at its end. -/
def consoleLine (e : LogEvent) : String :=
  let pairs := e.pairFields.map fun f => f.1 ++ "=" ++ consoleValue f.2
  let line := String.intercalate " " (e.columns ++ pairs)
  String.ofList (line.toList.reverse.dropWhile (· = ' ')).reverse

/-- What stands between a stack and an exception. -/
def blockRule : String := "\n\n" ++ String.ofList (List.replicate 79 '=') ++ "\n"

/-- The text of a field that stands on lines of its own, if there is one.  `none` if the field holds
something else. -/
def block? (e : LogEvent) (key : String) : Option (Option String) :=
  match (e.putTexts e.shownFields).lookup key with
  | none => some none
  | some .null => some none
  | some (.text s) => some (some s)
  | some _ => none

/-- The event as text for a console; an event whose stack or exception is no text is not
printed. -/
def consoleText? (e : LogEvent) : Option String := do
  let stack ← e.block? stackKey
  let error ← e.block? exceptionKey
  let stackText := match stack with
    | some s => "\n" ++ s ++ (if error.isSome then blockRule else "")
    | none => ""
  let errorText := match error with
    | some s => "\n" ++ s
    | none => ""
  pure (e.consoleLine ++ stackText ++ errorText)

end LogEvent

/-! ## Outputs -/

/-- What an output prints of an event, without the line break at its end. -/
def LogOutput.text? (o : LogOutput) (e : LogEvent) : Option String :=
  match o with
  | .json => some e.toJsonValue.toJsonText
  | .console => e.consoleText?

/-- What the loggers print of an event, output by output. -/
def Loggers.texts (ls : Loggers) (logger : String) (e : LogEvent) : List String :=
  if ls.prints logger e.level then ls.outputs.filterMap fun o => o.text? e else []

/-- What the loggers print of events that come one after another, event by event. -/
def Loggers.printed : Loggers → List (String × LogEvent) → List (List String)
  | _, [] => []
  | ls, (logger, e) :: rest => ls.texts logger e :: (ls.ask logger).printed rest

end RunLedger
