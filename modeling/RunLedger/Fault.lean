import RunLedger.Failure

/-!
# Faults of a task

What ends a task before its time: a failure of a ledger call, or an error that the task's own work
raises.  A fault decides the exit status of the execution and is kept as a report without the
places that the error went through.
-/

namespace RunLedger

/-- The kinds of error that a task raises by itself. -/
inductive RaisedKind where
  /-- A request to exit, which carries its own status. -/
  | exit
  /-- A look-up of a key that is not there; the message shows the key as a literal. -/
  | missingKey
  /-- A kind of the ledger's own. -/
  | ledger (kind : FailureKind)
  /-- Any other kind, by its name. -/
  | other (name : String)
deriving Repr, DecidableEq, Inhabited

/-- An error that a task raises by itself. -/
structure Raised where
  kind : RaisedKind
  arguments : List Value
deriving Repr, Inhabited

/-- The status that a process leaves: a number, or a truth value that counts as 1 or 0. -/
inductive ExitStatus where
  | code (n : Int)
  | flag (b : Bool)
deriving Repr, DecidableEq, Inhabited

namespace ExitStatus

def toInt : ExitStatus → Int
  | code n => n
  | flag b => if b then 1 else 0

/-- The status as it is logged. -/
def toValue : ExitStatus → Value
  | code n => .int n
  | flag b => .bool b

end ExitStatus

namespace RaisedKind

/-- The kind's name. -/
def name : RaisedKind → String
  | exit => "SystemExit"
  | missingKey => "KeyError"
  | ledger k => k.name
  | other n => n

/-- The kind's name with the place where it is declared. -/
def qualifiedName : RaisedKind → String
  | ledger k => k.qualifiedName
  | k => k.name

def ofName (s : String) : RaisedKind :=
  if s = "SystemExit" then exit
  else if s = "KeyError" then missingKey
  else match FailureKind.ofLedgerName? s with
    | some k => ledger k
    | none => other s

end RaisedKind

/-- The message of an error made from the given arguments. -/
def argumentsMessage : List Value → String
  | [] => ""
  | [v] => v.display
  | vs => Value.tupleLiteral vs

namespace Raised

/-- The error's message. -/
def message (r : Raised) : String :=
  match r.kind, r.arguments with
  | .missingKey, [v] => v.literal
  | .ledger .executionNotFound, [v] => notFoundMessage v.display
  | .ledger .alreadyHeld, [v, _] => heldMessage v.display
  | _, vs => argumentsMessage vs

/-- The key of the lock that the error is about. -/
def lockKey? (r : Raised) : Option Value :=
  match r.kind, r.arguments with
  | .ledger .alreadyHeld, [_, key] => some key
  | _, _ => none

/-- The status that a process leaves when the error escapes it. -/
def exitStatus (r : Raised) : ExitStatus :=
  match r.kind, r.arguments with
  | .exit, [] => .code 0
  | .exit, [.null] => .code 0
  | .exit, [.int n] => .code n
  | .exit, [.bool b] => .flag b
  | _, _ => .code 1

end Raised

/-- What ends a task before its time. -/
inductive Fault where
  | failure (f : Failure)
  | raised (r : Raised)
deriving Repr, Inhabited

namespace Fault

/-- The name of the fault's kind. -/
def name : Fault → String
  | failure f => f.kind.name
  | raised r => r.kind.name

/-- The name of the fault's kind with the place where it is declared. -/
def qualifiedName : Fault → String
  | failure f => f.kind.qualifiedName
  | raised r => r.kind.qualifiedName

/-- The fault in words. -/
def message : Fault → String
  | failure f => f.message
  | raised r => r.message

/-- The status that a process leaves when the fault escapes it. -/
def exitStatus : Fault → ExitStatus
  | failure _ => .code 1
  | raised r => r.exitStatus

/-- The fault as it is kept with an execution. -/
def report (f : Fault) : String :=
  "<traceback>" ++ f.qualifiedName ++ (if f.message = "" then "" else ": " ++ f.message) ++ "\n"

end Fault

end RunLedger
