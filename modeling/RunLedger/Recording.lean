import RunLedger.Store.Transaction

/-!
# Recording executions

The life of an execution: it is created, started once, and completed any number of times, of which
the last one counts.  Its name, start and parameters never change once it is started; an execution
that was completed without being started cannot be started any more.
-/

namespace RunLedger.Recording

open Transaction

def createdColumns : List String :=
  ["task_name", "last_updated", "external_execution_id", "parent_execution_id"]

/-- The row of an execution that has only been created. -/
def createdRow (now : Option Instant) (taskName : Option String) (parentId : Option Int)
    (externalId : Option String) : ExecutionRow where
  id := none
  taskName := taskName
  startTime := none
  endTime := none
  exitCode := none
  exitMessage := none
  errorMessage := none
  externalId := externalId
  parentId := parentId
  lastUpdated := now

/-- Creates an execution under the next number, and gives the number with it. -/
def create (now : Timestamp) (taskName : Option String) (parentId : Option Int)
    (externalId : Option String) : Transaction (Int × Execution) := do
  let stamp ← storedTime now
  let id ← insertExecution createdColumns (createdRow (some stamp) taskName parentId externalId)
  let e ← loadExecution id
  pure (id, e)

/-! ## Starting -/

/-- What is said about an execution when it starts. -/
structure Start where
  id : Int
  taskName : String
  parameters : List String
  externalId : Option String
  parentId : Option Int
deriving Repr, DecidableEq

/-- The instant of a start, once its name and time are found good. -/
def checkStart (taskName : String) (time : Timestamp) : Except Failure Instant :=
  if taskName = "" then .error (.badArgument .startNameMissing)
  else time.toInstant.mapError .ofTimeFault

/-- Refuses to start what has been started or completed. -/
def ensureFresh (id : Int) (row : ExecutionRow) : Except Failure Unit :=
  match row.startTime, row.endTime with
  | some start, _ => .error (.stateConflict (.alreadyStarted id start))
  | none, some endTime => .error (.stateConflict (.alreadyCompleted id endTime))
  | none, none => .ok ()

/-- The row of an execution once it is started; what the start leaves open stays as created. -/
def startedRow (now start : Instant) (s : Start) (row : ExecutionRow) : ExecutionRow :=
  { row with
    taskName := some s.taskName
    startTime := some start
    lastUpdated := some now
    externalId := s.externalId <|> row.externalId
    parentId := s.parentId <|> row.parentId }

def start (now : Timestamp) (startTime : Instant) (s : Start) : Transaction Execution := do
  let row ← fetchExecution s.id
  ensureFresh s.id row
  let stamp ← storedTime now
  checkNumber? s.parentId
  let _ ← updateExecutions executionColumns s.id (startedRow stamp startTime s)
  if !s.parameters.isEmpty then
    insertParameters (Transaction.parameterRows s.id 0 s.parameters)
  loadExecution s.id

/-! ## Completing -/

/-- How an execution ended. -/
structure Outcome where
  id : Int
  exitCode : Int
  exitMessage : Option String
  errorMessage : Option String
deriving Repr, DecidableEq

/-- The exit code and instant of a completion, once both are found good. -/
def checkCompletion (exitCode : Option Int) (time : Timestamp) : Except Failure (Int × Instant) :=
  match exitCode with
  | none => .error (.badArgument .exitCodeMissing)
  | some code => (time.toInstant.mapError .ofTimeFault).map fun i => (code, i)

/-- Refuses an end before the start. -/
def ensureNotBeforeStart (id : Int) (endTime : Instant) (row : ExecutionRow) : Except Failure Unit :=
  match row.startTime with
  | some start =>
    if endTime < start then .error (.stateConflict (.endsBeforeStart id endTime start))
    else .ok ()
  | none => .ok ()

/-- The row of an execution once it is completed. -/
def completedRow (now endTime : Instant) (o : Outcome) (row : ExecutionRow) : ExecutionRow :=
  { row with
    exitCode := some o.exitCode
    endTime := some endTime
    exitMessage := o.exitMessage
    errorMessage := o.errorMessage
    lastUpdated := some now }

/-- Completes an execution, whatever was said about its end before. -/
def complete (now : Timestamp) (endTime : Instant) (o : Outcome) : Transaction Execution := do
  let row ← fetchExecution o.id
  ensureNotBeforeStart o.id endTime row
  let stamp ← storedTime now
  checkNumber o.exitCode
  let _ ← updateExecutions executionColumns o.id (completedRow stamp endTime o)
  loadExecution o.id

/-! ## External numbers -/

/-- The columns that a change of the external number touches. -/
def externalColumns : List String := ["external_execution_id", "last_updated", "task_execution_id"]

/-- Gives the executions of a number another external number, or takes it away, and says how many
there are. -/
def setExternalId (now : Timestamp) (id : Int) (externalId : Option String) :
    Transaction Nat := do
  let stamp ← storedTime now
  updateExecutions externalColumns id fun row =>
    { row with externalId := externalId, lastUpdated := some stamp }

/-! ## Rows put in by hand -/

/-- A row of executions as someone might put it in by hand, and the columns that it names. -/
structure RawRow where
  columns : List String
  id : Option Int
  taskName : Option String
  startTime : Option Timestamp
  endTime : Option Timestamp
  exitCode : Option Int
  exitMessage : Option String
  errorMessage : Option String
  externalId : Option String
  parentId : Option Int
  lastUpdated : Option Timestamp
deriving DecidableEq

/-- Puts in a row under its own number, or the next one; a number is not given twice.  A table made
elsewhere gives no number, and takes one twice. -/
def insertRow (r : RawRow) : Transaction Unit := do
  let startTime ← r.startTime.mapM storedTime
  let endTime ← r.endTime.mapM storedTime
  let lastUpdated ← r.lastUpdated.mapM storedTime
  let row : ExecutionRow :=
    { id := r.id, taskName := r.taskName, startTime := startTime, endTime := endTime,
      exitCode := r.exitCode, exitMessage := r.exitMessage, errorMessage := r.errorMessage,
      externalId := r.externalId, parentId := r.parentId, lastUpdated := lastUpdated }
  match r.id with
  | none => do
    let _ ← require (← get).executions r.columns
    checkNumber? r.exitCode
    let _ ← insertExecution r.columns row
  | some id => do
    let t ← require (← get).executions r.columns
    checkNumber id
    checkNumber? r.exitCode
    checkNumber? r.parentId
    if t.keyed && t.rows.any fun e => e.id = some id then throw .constraintViolated
    -- numbers are given from behind the greatest one that was put in
    modify fun l => { l with
      executions := some (t.withRows (t.rows ++ [row]))
      lastId := if t.keyed && l.lastId < id then id else l.lastId }

/-- Creates an execution and then gives up, so that nothing of it remains. -/
def createAndGiveUp (taskName : Option String) : Transaction Unit := do
  let _ ← insertExecution ["task_name"] (createdRow none taskName none none)
  throw .rolledBack

end RunLedger.Recording
