import RunLedger.Dialect.Detection
import RunLedger.Logging.Level
import RunLedger.Number.Signed64
import RunLedger.Settings.FieldError

/-!
# Settings

Where the ledger is, how its tables are named, and how launches and logs behave.  Settings are read
from an ordered mapping of values; every field is checked, and all faults are reported together, in
the order of the fields.
-/

namespace RunLedger

/-- How log lines are written. -/
structure LoggingSettings where
  jsonOutput : Bool
  level : LogLevel
deriving Repr, DecidableEq, Inhabited

/-- The settings of a ledger. -/
structure Settings where
  url : String
  tablePrefix : String
  dialectName : Option String
  singleInstance : Bool
  lockRegion : String
  logging : LoggingSettings
deriving Repr, DecidableEq, Inhabited

def defaultTablePrefix : String := "task_"

def defaultLockRegion : String := "DEFAULT"

def defaultUrl : String := "sqlite:///./taskledger.db"

namespace LoggingSettings

/-- Console lines from level INFO on. -/
def default : LoggingSettings := ⟨false, .info⟩

end LoggingSettings

/-- A field's value, or its faults. -/
abbrev Checked (α : Type) := Except (List FieldError) α

namespace Checked

def errors {α : Type} : Checked α → List FieldError
  | .ok _ => []
  | .error es => es

def fail {α : Type} (path : List String) (fault : FieldFault) : Checked α := .error [⟨path, fault⟩]

end Checked

namespace Settings

/-! ## Fields -/

def readText (path : List String) : Value → Checked String
  | .text s => .ok s
  | _ => Checked.fail path .notText

/-- Whether a text can stand at the start of a table's name unquoted: nothing, or an ASCII letter
or underscore and then letters, digits and underscores. -/
def isNameFragment (s : String) : Bool :=
  match s.toList with
  | [] => true
  | c :: cs => (c.isAlpha || c = '_') && cs.all fun d => d.isAlphanum || d = '_'

def readTablePrefix (v : Value) : Checked String := do
  let path := ["table_prefix"]
  let s ← readText path v
  let reason := "table_prefix must be a SQL identifier fragment, got " ++ Text.quoted s
  if isNameFragment s then pure s else Checked.fail path (.refused reason)

/-- The name of a dialect, or nothing. -/
def readDialectName (v : Value) : Checked (Option String) :=
  match v with
  | .null => .ok none
  | v => do
    let s ← readText ["database_type"] v
    match Dialect.resolve (some s) with
    | .ok _ => pure (some s)
    | .error cause => Checked.fail ["database_type"] (.refused cause.message)

def yesWords : List String := ["true", "t", "yes", "y", "on", "1"]

def noWords : List String := ["false", "f", "no", "n", "off", "0"]

/-- The truth value that a number stands for: 1 or 0. -/
def readBit (path : List String) (n : Int) : Checked Bool :=
  if n = 1 then .ok true else if n = 0 then .ok false else Checked.fail path .booleanUnclear

/-- A truth value: itself, a word for it in any case of the ASCII letters, or 1 or 0.  Of numbers,
those of 64 bits are looked at, and floating-point ones only if they are whole and lie between the
bounds. -/
def readBool (path : List String) : Value → Checked Bool
  | .bool b => .ok b
  | .text s =>
    let word := Text.asciiLowered s
    if yesWords.contains word then .ok true
    else if noWords.contains word then .ok false
    else Checked.fail path .booleanUnclear
  | .int n => if Signed64.holds n then readBit path n else Checked.fail path .notBoolean
  | .real x =>
    match x.whole? with
    | some n =>
      if Signed64.least < n && Signed64.holds n then readBit path n
      else Checked.fail path .notBoolean
    | none => Checked.fail path .notBoolean
  | _ => Checked.fail path .notBoolean

/-- A region of locks: 1 to 100 characters. -/
def readLockRegion (v : Value) : Checked String := do
  let s ← readText ["lock_region"] v
  if s.length < 1 then Checked.fail ["lock_region"] (.tooShort 1)
  else if 100 < s.length then Checked.fail ["lock_region"] (.tooLong 100)
  else pure s

/-- A threshold for log events, by its name in any case. -/
def readLevel : Value → Checked LogLevel
  | .text s =>
    match LogLevel.ofName? (Text.uppered s) with
    | some l => .ok l
    | none => Checked.fail ["logging", "level"] (.notListed (LogLevel.thresholds.map LogLevel.name))
  | _ => Checked.fail ["logging", "level"] (.notListed (LogLevel.thresholds.map LogLevel.name))

/-- A field's value, read if it is given. -/
def field {α : Type} (values : List (String × Value)) (name : String) (absent : α)
    (read : Value → Checked α) : Checked α :=
  match values.lookup name with
  | none => .ok absent
  | some v => read v

/-! ## Whole settings -/

/-- How log lines are written, from a mapping. -/
def readLogging : Value → Checked LoggingSettings
  | .map values =>
    let json := field values "json_output" LoggingSettings.default.jsonOutput
      (readBool ["logging", "json_output"])
    let level := field values "level" LoggingSettings.default.level readLevel
    match json, level with
    | .ok json, .ok level => .ok ⟨json, level⟩
    | json, level => .error (json.errors ++ level.errors)
  | _ => Checked.fail ["logging"] .notObject

/-- The settings that a mapping gives; fields that it does not give take their defaults, and keys
that are no fields are passed over. -/
def check (values : List (String × Value)) : Checked Settings :=
  let url := field values "url" defaultUrl (readText ["url"])
  let tablePrefix := field values "table_prefix" defaultTablePrefix readTablePrefix
  let dialectName := field values "database_type" none readDialectName
  let singleInstance := field values "single_instance_enabled" false
    (readBool ["single_instance_enabled"])
  let lockRegion := field values "lock_region" defaultLockRegion readLockRegion
  let logging := field values "logging" LoggingSettings.default readLogging
  match url, tablePrefix, dialectName, singleInstance, lockRegion, logging with
  | .ok url, .ok tablePrefix, .ok dialectName, .ok singleInstance, .ok lockRegion, .ok logging =>
    .ok ⟨url, tablePrefix, dialectName, singleInstance, lockRegion, logging⟩
  | url, tablePrefix, dialectName, singleInstance, lockRegion, logging =>
    .error (url.errors ++ tablePrefix.errors ++ dialectName.errors ++ singleInstance.errors ++
      lockRegion.errors ++ logging.errors)

/-- The settings that hold where nothing is given. -/
def default : Settings :=
  ⟨defaultUrl, defaultTablePrefix, none, false, defaultLockRegion, LoggingSettings.default⟩

/-- Settings never change: giving a field of settings another value is a fault of that field. -/
def reassign (field : String) (_ : Settings) : Checked Settings := Checked.fail [field] .frozen

end Settings

end RunLedger
