import RunLedger.Execution

/-!
# Rows

What the ledger's tables hold.  Times are instants; a table made elsewhere may hold rows that no
call of the ledger would write.
-/

namespace RunLedger

/-- A row of the executions table.  Without a number are only rows of a table made elsewhere. -/
structure ExecutionRow where
  id : Option Int
  taskName : Option String
  startTime : Option Instant
  endTime : Option Instant
  exitCode : Option Int
  exitMessage : Option String
  errorMessage : Option String
  externalId : Option String
  parentId : Option Int
  lastUpdated : Option Instant
deriving Repr, DecidableEq

/-- A row of the parameters table: the parameter of an execution at a position. -/
structure ParameterRow where
  executionId : Int
  index : Nat
  text : String
deriving Repr, DecidableEq

/-- A row of the links table: an execution and a job that it ran. -/
structure LinkRow where
  executionId : Int
  jobId : Int
deriving Repr, DecidableEq

/-- A row of the locks table: who holds a key in a region, and since when. -/
structure LockRow where
  key : String
  region : String
  clientId : String
  createdAt : Instant
deriving Repr, DecidableEq

namespace ExecutionRow

def isRunning (r : ExecutionRow) : Bool := r.endTime.isNone

def isNamed (name : String) (r : ExecutionRow) : Bool := r.taskName == some name

/-- Whether one time comes before another; a missing time comes before all others. -/
def timeBefore : Option Instant → Option Instant → Bool
  | none, some _ => true
  | some a, some b => a < b
  | _, none => false

/-- Whether one number is at most another; a missing number is below all others. -/
def idAtMost : Option Int → Option Int → Bool
  | none, _ => true
  | some _, none => false
  | some a, some b => a ≤ b

/-- Whether one row is listed before another or is the same: later starts first, rows without a
start last, and of equal starts the greater number first. -/
def newerFirst (a b : ExecutionRow) : Bool :=
  timeBefore b.startTime a.startTime || (a.startTime == b.startTime && idAtMost b.id a.id)

/-- The execution that a row and its parameters make. -/
def toExecution (r : ExecutionRow) (parameters : List String) : Except Failure Execution :=
  ExecutionFields.toExecution {
    id := r.id
    taskName := r.taskName
    startTime := r.startTime.map Instant.toUtc
    endTime := r.endTime.map Instant.toUtc
    exitCode := r.exitCode
    exitMessage := r.exitMessage
    errorMessage := r.errorMessage
    externalId := r.externalId
    parentId := r.parentId
    parameters := parameters
    lastUpdated := r.lastUpdated.map Instant.toUtc }

end ExecutionRow

def newestFirst (rows : List ExecutionRow) : List ExecutionRow :=
  rows.mergeSort ExecutionRow.newerFirst

end RunLedger
