import RunLedger.Failure

/-!
# Executions

An execution is one run of a task, from its creation to its end.  It is started once it has a start
time, and running as long as it has no end time.  What has ended has an exit code.
-/

namespace RunLedger

/-- One run of a task, as far as it has got.  Its number is missing only where the table that it is
kept in was made elsewhere. -/
structure Execution where
  id : Option Int
  taskName : Option String
  startTime : Option Timestamp
  endTime : Option Timestamp
  exitCode : Option Int
  exitMessage : Option String
  errorMessage : Option String
  externalId : Option String
  parentId : Option Int
  parameters : List String
  lastUpdated : Option Timestamp
  exitCode_of_endTime : endTime.isSome → exitCode.isSome
deriving DecidableEq

namespace Execution

def isRunning (e : Execution) : Bool := e.endTime.isNone

def isStarted (e : Execution) : Bool := e.startTime.isSome

end Execution

/-- The columns of an execution, before it is known that they fit together. -/
structure ExecutionFields where
  id : Option Int
  taskName : Option String
  startTime : Option Timestamp
  endTime : Option Timestamp
  exitCode : Option Int
  exitMessage : Option String
  errorMessage : Option String
  externalId : Option String
  parentId : Option Int
  parameters : List String
  lastUpdated : Option Timestamp
deriving DecidableEq

/-- The execution with the given columns; one that has ended needs an exit code. -/
def ExecutionFields.toExecution (f : ExecutionFields) : Except Failure Execution :=
  if h : f.endTime.isSome → f.exitCode.isSome then
    .ok ⟨f.id, f.taskName, f.startTime, f.endTime, f.exitCode, f.exitMessage, f.errorMessage,
      f.externalId, f.parentId, f.parameters, f.lastUpdated, h⟩
  else .error (.badArgument (.endWithoutExitCode f.id))

/-- The execution whose parameters were given as a sequence of the named type; only a tuple will
do. -/
def ExecutionFields.toExecutionGiven (f : ExecutionFields) (sequence : String) :
    Except Failure Execution := do
  let e ← f.toExecution
  if sequence = "tuple" then pure e else throw (.parametersNotTuple sequence)

end RunLedger
