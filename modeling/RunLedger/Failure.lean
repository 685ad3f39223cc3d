import RunLedger.Misconfiguration
import RunLedger.Settings.FieldError
import RunLedger.Time.Timestamp

/-!
# Failures

Why a call of the ledger fails.  A failure is a cause; its kind and its message are read off it.
-/

namespace RunLedger

/-- An argument that a call refuses whatever the ledger holds. -/
inductive BadArgument where
  | offsetNegative (offset : Int)
  | limitNotPositive (limit : Int)
  | pageIndexNegative (index : Int)
  | pageSizeNotPositive (size : Int)
  | startNameMissing
  | lockNameMissing
  | exitCodeMissing
  | endWithoutExitCode (executionId : Option Int)
  | numeralUnreadable (text : String)
  | logLevelUnknown (level : String)
deriving Repr, DecidableEq

/-- A step of an execution's life that its present state does not allow. -/
inductive StateConflict where
  | alreadyStarted (executionId : Int) (startTime : Instant)
  | alreadyCompleted (executionId : Int) (endTime : Instant)
  | endsBeforeStart (executionId : Int) (endTime startTime : Instant)
deriving Repr, DecidableEq

/-- What a database lacks of a ledger's tables. -/
structure SchemaGap where
  tables : List String
  columns : List (String × String)
deriving Repr, DecidableEq

/-- The causes of failure. -/
inductive Failure where
  | configuration (cause : Misconfiguration)
  | badArgument (cause : BadArgument)
  | executionNotFound (executionId : Int)
  | stateConflict (cause : StateConflict)
  | alreadyHeld (taskName lockKey : String)
  | schemaOutdated (gap : SchemaGap) (url : String)
  | timeOutOfRange
  | statementUnbuilt
  | integerTooLarge
  | idsNotComparable (left right : Option Int)
  | idNotPadded
  | constraintViolated
  | statementRefused
  | tooManyVariables
  | urlUnreadable
  | driverMissing
  | notADatabase
  | databaseClosed
  | rolledBack
  | parametersNotTuple (given : String)
  | settingsFileMissing (path : String)
  | settingsInvalid (errors : List FieldError)
deriving Repr, Inhabited

namespace BadArgument

def message : BadArgument → String
  | offsetNegative n => "offset must be >= 0, got " ++ toString n
  | limitNotPositive n => "limit must be > 0, got " ++ toString n
  | pageIndexNegative n => "page_index must be >= 0, got " ++ toString n
  | pageSizeNotPositive n => "page_size must be > 0, got " ++ toString n
  | startNameMissing => "task_name is required to start an execution"
  | lockNameMissing => "task_name is required to acquire a lock"
  | exitCodeMissing => "exit_code is required to complete an execution"
  | endWithoutExitCode id =>
    "TaskExecution " ++ (Value.ofInt? id).display ++ " has an end_time but no exit_code"
  | numeralUnreadable text => "invalid literal for int() with base 10: " ++ Text.quoted text
  | logLevelUnknown level =>
    "Unknown log level " ++ Text.quoted level ++ "; expected one of DEBUG, INFO, WARNING, ERROR"

end BadArgument

namespace StateConflict

def message : StateConflict → String
  | alreadyStarted id start =>
    "TaskExecution " ++ toString id ++ " was already started at " ++ start.toText ++
      "; parameters are immutable after start"
  | alreadyCompleted id endTime =>
    "TaskExecution " ++ toString id ++ " was already completed at " ++ endTime.toText ++
      "; it cannot be started"
  | endsBeforeStart id endTime start =>
    "TaskExecution " ++ toString id ++ " cannot end at " ++ endTime.toText ++
      ", before its start at " ++ start.toText

end StateConflict

namespace SchemaGap

def isEmpty (g : SchemaGap) : Bool := g.tables.isEmpty && g.columns.isEmpty

def message (g : SchemaGap) (url : String) : String :=
  let tables := if g.tables.isEmpty then [] else
    ["Missing tables: " ++ String.intercalate ", " g.tables]
  let columns := if g.columns.isEmpty then [] else
    ["Missing columns: " ++ String.intercalate ", " (g.columns.map fun c => c.1 ++ "." ++ c.2)]
  "Task ledger database schema is outdated.\n\n" ++ String.intercalate "\n" (tables ++ columns) ++
    "\n\nDelete the database file and let taskledger recreate it.\n\nDatabase: " ++ url

end SchemaGap

/-- The kinds that failures fall into. -/
inductive FailureKind where
  | ledger
  | configuration
  | executionNotFound
  | invalidState
  | alreadyHeld
  | schemaMismatch
  | badValue
  | badType
  | overflow
  | runtime
  | integrity
  | operational
  | statement
  | notADatabase
  | badUrl
  | noDriver
  | fileMissing
  | validation
deriving Repr, DecidableEq, Inhabited

namespace FailureKind

def name : FailureKind → String
  | ledger => "LedgerError"
  | configuration => "ConfigurationError"
  | executionNotFound => "ExecutionNotFoundError"
  | invalidState => "InvalidExecutionStateError"
  | alreadyHeld => "AlreadyHeldError"
  | schemaMismatch => "SchemaCompatibilityError"
  | badValue => "ValueError"
  | badType => "TypeError"
  | overflow => "OverflowError"
  | runtime => "RuntimeError"
  | integrity => "IntegrityError"
  | operational => "OperationalError"
  | statement => "StatementError"
  | notADatabase => "DatabaseError"
  | badUrl => "ArgumentError"
  | noDriver => "NoSuchModuleError"
  | fileMissing => "FileNotFoundError"
  | validation => "ValidationError"

/-- The kinds that belong to the ledger itself. -/
def ledgerKinds : List FailureKind :=
  [ledger, configuration, executionNotFound, invalidState, alreadyHeld, schemaMismatch]

/-- Whether the kind belongs to the ledger itself. -/
def isLedger (k : FailureKind) : Bool := ledgerKinds.contains k

/-- Whether the kind belongs to the database library, whose own words are not shown. -/
def isDatabase (k : FailureKind) : Bool :=
  [integrity, operational, statement, notADatabase, badUrl, noDriver].contains k

/-- The kind's name with the place where it is declared, as reports of a failed task write it. -/
def qualifiedName (k : FailureKind) : String :=
  if k.isLedger then "taskledger.contracts.errors." ++ k.name
  else if k.isDatabase then "sqlalchemy.exc." ++ k.name
  else k.name

/-- The wider families that the ledger's own kinds belong to, their own included. -/
def families : FailureKind → List String
  | configuration => ["LedgerError", "ConfigurationError", "ValueError", "Exception"]
  | executionNotFound => ["LedgerError", "LookupError", "Exception"]
  | ledger | invalidState | alreadyHeld | schemaMismatch => ["LedgerError", "Exception"]
  | badValue => ["ValueError", "Exception"]
  | _ => ["Exception"]

/-- The ledger's own kind of the given name. -/
def ofLedgerName? (s : String) : Option FailureKind := ledgerKinds.find? fun k => k.name == s

end FailureKind

def notFoundMessage (shownId : String) : String :=
  "Invalid TaskExecution, ID " ++ shownId ++ " not found."

/-- That a task's lock is held, in words. -/
def heldMessage (shownName : String) : String :=
  "Task with name \"" ++ shownName ++ "\" is already running."

/-- How reports call the type of a number that may be missing. -/
def idTypeName : Option Int → String
  | none => "NoneType"
  | some _ => "int"

namespace Failure

def kind : Failure → FailureKind
  | configuration _ => .configuration
  | badArgument _ => .badValue
  | executionNotFound _ => .executionNotFound
  | stateConflict _ => .invalidState
  | alreadyHeld _ _ => .alreadyHeld
  | schemaOutdated _ _ => .schemaMismatch
  | timeOutOfRange | integerTooLarge => .overflow
  | statementUnbuilt => .statement
  | idsNotComparable _ _ | idNotPadded => .badType
  | constraintViolated => .integrity
  | statementRefused | tooManyVariables => .operational
  | urlUnreadable => .badUrl
  | notADatabase => .notADatabase
  | driverMissing => .noDriver
  | databaseClosed | rolledBack => .runtime
  | parametersNotTuple _ => .badType
  | settingsFileMissing _ => .fileMissing
  | settingsInvalid _ => .validation

/-- The failure in words; the words of the database engine itself are left out. -/
def message : Failure → String
  | configuration cause => cause.message
  | badArgument cause => cause.message
  | executionNotFound id => notFoundMessage (toString id)
  | stateConflict cause => cause.message
  | alreadyHeld taskName _ => heldMessage taskName
  | schemaOutdated gap url => gap.message url
  | timeOutOfRange => "date value out of range"
  | integerTooLarge => "Python int too large to convert to SQLite INTEGER"
  | idsNotComparable left right =>
    "'<' not supported between instances of '" ++ idTypeName left ++ "' and '" ++
      idTypeName right ++ "'"
  | idNotPadded => "unsupported format string passed to NoneType.__format__"
  | statementUnbuilt | constraintViolated | statementRefused | tooManyVariables | urlUnreadable
  | driverMissing | notADatabase => ""
  | databaseClosed => "Database not initialized"
  | rolledBack => "rolled back"
  | parametersNotTuple given => "parameters must be tuple, got " ++ given
  | settingsFileMissing path => "Config file not found: " ++ path
  | settingsInvalid _ => ""

/-- Whether the failure is one of the ledger's own kinds. -/
def isLedger (f : Failure) : Bool := f.kind.isLedger

def ofTimeFault : TimeFault → Failure
  | .outOfRange => timeOutOfRange

end Failure

end RunLedger
