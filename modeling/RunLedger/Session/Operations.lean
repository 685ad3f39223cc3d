import RunLedger.Fault
import RunLedger.Lock.Holding
import RunLedger.Reading
import RunLedger.Recording
import RunLedger.Session.Opening

/-!
# Operations on an open ledger

What a caller does with an open ledger.  Arguments are checked first, then the handle; a call that
went through leaves an event in the log.
-/

namespace RunLedger.Session

open SessionM

/-! ## Recording -/

/-- Creates an execution, and gives its number with it. -/
def create (epoch : Nat) (taskName : Option String) (parentId : Option Int)
    (externalId : Option String) : SessionM (Int × Execution) := do
  let now := (← get).clock
  let (id, e) ← transact epoch (Recording.create now taskName parentId externalId)
  emit (.of "execution_created" .info
    [("execution_id", .int id), ("task_name", .ofText? taskName)])
  pure (id, e)

def start (epoch : Nat) (time : Timestamp) (r : Recording.Start) : SessionM Execution := do
  let now := (← get).clock
  let startTime ← (Recording.checkStart r.taskName time : Except Failure Instant)
  let e ← transact epoch (Recording.start now startTime r)
  emit (.of "execution_started" .info [("execution_id", .int r.id), ("task_name", .text r.taskName),
    ("parameter_count", .int r.parameters.length)])
  pure e

def complete (epoch : Nat) (id : Int) (status : Option ExitStatus) (time : Timestamp)
    (exitMessage errorMessage : Option String) : SessionM Execution := do
  let now := (← get).clock
  let (code, endTime) ←
    (Recording.checkCompletion (status.map ExitStatus.toInt) time : Except Failure (Int × Instant))
  let e ← transact epoch (Recording.complete now endTime ⟨id, code, exitMessage, errorMessage⟩)
  emit (.of "execution_completed" .info [("execution_id", .int id),
    ("exit_code", (status.map ExitStatus.toValue).getD .null)])
  pure e

/-- Gives an execution another external number.  That there is none of the number shows once the
transaction is over. -/
def setExternalId (epoch : Nat) (id : Int) (externalId : Option String) : SessionM Unit := do
  let now := (← get).clock
  let matched ← transact epoch (Recording.setExternalId now id externalId)
  if matched = 0 then throw (.executionNotFound id)
  emit (.of "external_execution_id_updated" .debug [("execution_id", .int id)])

/-! ## Pages -/

/-- Makes the pager of a filter ready, which is logged the first time. -/
def announcePager (f : Reading.Filter) : SessionM Unit := do
  let s ← get
  if !s.pagers.contains f.clause then
    let p ← ((Reading.pager s.handle.dialect f).mapError .configuration : Except Failure Pager)
    set { s with pagers := s.pagers ++ [f.clause] }
    emit (.of "paging_provider_selected" .debug [("database_type", .text p.dialect.name),
      ("provider", .text p.form.providerName),
      ("parameter_style", .text p.parameters.style.word)])

/-- A page of the executions that a filter keeps, newest first. -/
def page (epoch : Nat) (f : Reading.Filter) (index size : Int) : SessionM (Page Execution) := do
  let total ← transact epoch (Reading.count f)
  let _ ← (Reading.checkPage index size : Except Failure Unit)
  announcePager f
  let w ← (Reading.pageWindow index size : Except Failure Window)
  let h := (← get).handle
  let items ← transact epoch (Reading.window h.dialect.pageForm h.tablePrefix f w)
  emit (.of "execution_page_loaded" .debug [("where", .ofText? f.clause), ("page_index", .int index),
    ("page_size", .int size), ("rows", .int items.length)])
  pure ⟨items, total, index, size⟩

/-! ## Links -/

def recordLink (epoch : Nat) (store : LinkStore) (executionId jobId : Int) :
    SessionM LinkRow := do
  match store with
  | .ledger => do
    let link ← transact epoch (Link.record executionId jobId)
    emit (.of "job_correlation_recorded" .debug
      [("execution_id", .int executionId), ("job_execution_id", .int jobId)])
    pure link
  | .memory => do
    let s ← get
    if s.epoch = epoch then
      set { s with notebook := s.notebook.record executionId jobId }
    pure ⟨executionId, jobId⟩

def jobsOf (executionId : Int) : SessionM (List Int) := do
  let s ← get
  match s.plan.links with
  | .ledger => transact s.epoch (Link.jobsOf executionId)
  | .memory => pure (s.notebook.jobsOf executionId)

def executionOf (jobId : Int) : SessionM (Option Int) := do
  let s ← get
  match s.plan.links with
  | .ledger => transact s.epoch (Link.executionOf jobId)
  | .memory => pure (s.notebook.executionOf jobId)

/-! ## Locks -/

/-- The fields of an event about a lock. -/
def lockFields (region taskName : String) : List (String × Value) :=
  [("task_name", .text taskName), ("lock_key", .text (lockKey taskName)), ("region", .text region)]

/-- An event about a lock of which the fields name no more than the lock. -/
def lockEvent (name : String) (level : LogLevel) (region taskName : String) : LogEvent :=
  .of name level (lockFields region taskName) (by simp [lockFields, argumentsKey])

/-- The event of taking a lock for a client. -/
def acquiredEvent (region taskName owner : String) : LogEvent :=
  .of "lock_acquired" .info (lockFields region taskName ++ [("client_id", .text owner)])
    (by simp [lockFields, argumentsKey])

/-- Takes the lock of a task, for the client or for another one that is named. -/
def acquire (epoch : Nat) (client : LockClient) (taskName : String) (other : Option String) :
    SessionM Unit := do
  if taskName = "" then throw (.badArgument .lockNameMissing)
  -- an empty name is none
  let owner := match other with
    | some name => if name = "" then client.clientId else name
    | none => client.clientId
  let now := (← get).clock
  try
    transact epoch (Lock.acquire now client.region taskName owner)
  catch
    | .alreadyHeld name key => do
      emit (lockEvent "lock_contended" .info client.region taskName)
      throw (.alreadyHeld name key)
    | f => throw f
  emit (acquiredEvent client.region taskName owner)

/-- Gives back the lock of a task, whoever holds it, and says whether it was held. -/
def release (epoch : Nat) (client : LockClient) (taskName : String) : SessionM Bool := do
  let held ← transact epoch (Lock.release client.region taskName)
  emit (if held then lockEvent "lock_released" .info client.region taskName
    else lockEvent "lock_release_noop" .debug client.region taskName)
  pure held

/-! ## The database itself -/

def tables : SessionM (List (String × List String)) := do
  let s ← get
  ensureOpen s.epoch
  pure (s.disk.get s.handle.place).shapes

/-- How the connection is set up: the journal, whether references are checked, and for how many
milliseconds it waits for a busy database. -/
structure ConnectionSetup where
  journal : String
  foreignKeys : Nat
  busyTimeout : Nat
deriving Repr, DecidableEq

/-- The set-up of the handle's connection; only a file has a journal of its own. -/
def connectionSetup : SessionM ConnectionSetup := do
  let s ← get
  ensureOpen s.epoch
  pure ⟨if s.handle.place = .memory then "memory" else "wal", 1, 5000⟩

def dropTable (name : String) : SessionM Unit := do
  let s ← get
  ensureOpen s.epoch
  let db ← ((s.disk.get s.handle.place).dropTable name : Except Failure Database)
  set (s.setDatabase db)

def rowCounts : Transaction (List Nat) := do
  let l ← get
  let executions ← Transaction.require l.executions []
  let parameters ← Transaction.require l.parameters []
  let links ← Transaction.require l.links []
  let locks ← Transaction.require l.locks []
  pure [executions.rows.length, parameters.rows.length, links.rows.length, locks.rows.length]

/-- A query with the prefix of the ledger's tables put in place of its mark. -/
def resolvePrefix (tablePrefix sql : String) : String := Text.replaced "%PREFIX%" tablePrefix sql

end RunLedger.Session
