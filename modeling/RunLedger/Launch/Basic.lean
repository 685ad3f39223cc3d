import RunLedger.Session.Operations

/-!
# Launches

A launch is an execution around a body: the execution is created, the task's lock is taken if the
launch asks for it, the execution is started, the body runs, and the execution is completed with
the way in which the body ended.  A lock that was taken is given back on every way out.

The body is any function of the session, so what holds of a launch holds whatever the body does.
-/

namespace RunLedger

/-- What a launch asks for.  Where it does not say whether it takes the lock, the session's set-up
of launches says so. -/
structure LaunchRequest where
  taskName : String
  parameters : List String
  singleInstance : Option Bool
  externalId : Option String
  parentId : Option Int
deriving Repr, DecidableEq

/-- A launch that is under way: the opening of the ledger that it belongs to, its execution's number
and the execution as started, the store of its links, and the message that its completion will
carry. -/
structure Running where
  epoch : Nat
  id : Int
  execution : Execution
  links : Option LinkStore
  exitMessage : Option String

/-- How a body ended: the launch as the body leaves it, what the body reports, and what ended it
before its time. -/
structure BodyOutcome (ρ : Type) where
  running : Running
  report : ρ
  fault : Option Fault

/-- What came of a launch: the execution and the body's report if the body was reached, and the
fault that the launch passes on. -/
structure LaunchOutcome (ρ : Type) where
  entered : Option (Int × ρ)
  fault : Option Fault

namespace LaunchOutcome

/-- A launch whose body was not reached. -/
def refused {ρ : Type} (f : Failure) : LaunchOutcome ρ := ⟨none, some (.failure f)⟩

/-- The outcome with a later failure in place of the fault. -/
def failingWith {ρ : Type} (o : LaunchOutcome ρ) (f : Failure) : LaunchOutcome ρ :=
  { o with fault := some (.failure f) }

end LaunchOutcome

namespace Launch

open Session SessionM

/-- The client whose lock a launch takes, if it takes one. -/
def lockClient? (l : Lifecycle) (r : LaunchRequest) : Except Failure (Option LockClient) :=
  if r.singleInstance.getD l.singleInstance then
    match l.lock with
    | some client => .ok (some client)
    | none => .error (.configuration .lockMissing)
  else .ok none

/-- The fields of the event of a launch that finds the lock held. -/
def blockedEvent (id : Int) (taskName : String) : LogEvent :=
  .of "launch_blocked" .warning [("execution_id", .int id), ("task_name", .text taskName)]

/-- Takes the lock of a launch's task.  If it is held, the launch's execution is completed as
failed. -/
def takeLock (epoch : Nat) (client : LockClient) (id : Int) (taskName : String) :
    SessionM Unit := do
  try
    acquire epoch client taskName none
  catch
    | .alreadyHeld name key => do
      let held : Failure := .alreadyHeld name key
      emit (blockedEvent id taskName)
      let now := (← get).clock
      let _ ← complete epoch id (some (.code 1)) now (some held.message) (some held.message)
      throw held
    | f => throw f

/-- A launch that has its execution, and its lock if it takes one. -/
structure Prepared where
  epoch : Nat
  id : Int
  lock : Option LockClient
  links : Option LinkStore

/-- Creates the execution of a launch and takes the lock. -/
def prepare (r : LaunchRequest) : SessionM Prepared := do
  let s ← get
  let lock ← (lockClient? s.lifecycle r : Except Failure (Option LockClient))
  -- before the lock, so that a launch which the lock refuses is on record
  let (id, _) ← create s.epoch (some r.taskName) r.parentId r.externalId
  match lock with
  | some client => takeLock s.epoch client id r.taskName
  | none => pure ()
  pure ⟨s.epoch, id, lock, s.lifecycle.links⟩

def startTask (p : Prepared) (r : LaunchRequest) : SessionM Running := do
  let now := (← get).clock
  let e ← start p.epoch now ⟨p.id, r.taskName, r.parameters, r.externalId, r.parentId⟩
  pure ⟨p.epoch, p.id, e, p.links, none⟩

def exitStatus (fault : Option Fault) : ExitStatus := (fault.map Fault.exitStatus).getD (.code 0)

/-- The report that is kept with the execution: none if the status is that of success. -/
def errorReport (fault : Option Fault) : Option String :=
  if (exitStatus fault).toInt = 0 then none else fault.map Fault.report

/-- Completes the execution of a launch with the way in which its body ended. -/
def completeTask (p : Prepared) (exitMessage : Option String) (fault : Option Fault) :
    SessionM Unit := do
  let now := (← get).clock
  let _ ← complete p.epoch p.id (some (exitStatus fault)) now exitMessage (errorReport fault)

/-- Runs a body in the execution of a prepared launch. -/
def enter {ρ : Type} (p : Prepared) (r : LaunchRequest)
    (body : Running → Session → BodyOutcome ρ × Session) (s : Session) :
    LaunchOutcome ρ × Session :=
  match s.perform (startTask p r) with
  | (.error f, s) => (.refused f, s)
  | (.ok running, s) =>
    let (b, s) := body running s
    let outcome : LaunchOutcome ρ := ⟨some (p.id, b.report), b.fault⟩
    match s.perform (completeTask p b.running.exitMessage b.fault) with
    | (.ok _, s) => (outcome, s)
    | (.error f, s) => (outcome.failingWith f, s)

/-- Gives back the lock of a launch, if it took one. -/
def giveBack (p : Prepared) (taskName : String) : SessionM Unit := do
  match p.lock with
  | some client =>
    let _ ← release p.epoch client taskName
  | none => pure ()

end Launch

/-- Launches a task around a body. -/
def launch {ρ : Type} (r : LaunchRequest) (body : Running → Session → BodyOutcome ρ × Session)
    (s : Session) : LaunchOutcome ρ × Session :=
  match s.perform (Launch.prepare r) with
  | (.error f, s) => (.refused f, s)
  | (.ok p, s) =>
    let (outcome, s) := Launch.enter p r body s
    match s.perform (Launch.giveBack p r.taskName) with
    | (.ok _, s) => (outcome, s)
    | (.error f, s) => (outcome.failingWith f, s)

end RunLedger
