import RunLedger.Link
import RunLedger.Logging.Event
import RunLedger.Settings.Basic
import RunLedger.Settings.Expansion
import RunLedger.Store.Disk

/-!
# Sessions

A session is a run of calls against one open ledger: a clock, the databases, the handle through
which the ledger is used, the locks' clients, and the log.  A handle belongs to one opening; once
the ledger is opened anew, what still uses the former handle finds it closed.
-/

namespace RunLedger

/-- The handle of an open ledger. -/
structure Handle where
  place : Location
  url : String
  tablePrefix : String
  dialect : Dialect
  isOpen : Bool
deriving Repr, DecidableEq

/-- Who takes locks, and in which region. -/
structure LockClient where
  region : String
  clientId : String
deriving Repr, DecidableEq, Inhabited

/-- Where links to jobs are kept. -/
inductive LinkStore where
  | ledger
  | memory
deriving Repr, DecidableEq, Inhabited

/-- What launches work with: the client of their locks, the store of their links, and whether they
take the lock where the launch does not say. -/
structure Lifecycle where
  lock : Option LockClient
  links : Option LinkStore
  singleInstance : Bool
deriving Repr, DecidableEq

/-- A client of locks as it is asked for. -/
structure LockPlan where
  region : String
  clientId : Option String
deriving Repr, DecidableEq

/-- How launches are to be set up: from parts, or from settings. -/
inductive LifecyclePlan where
  | parts (lock links singleInstance : Bool)
  | settings (s : Settings)
deriving Repr, DecidableEq

/-- What a session is made of each time the ledger is opened, and the environment that commands
find in it. -/
structure Plan where
  url : String
  locks : List LockPlan
  links : LinkStore
  lifecycle : LifecyclePlan
  environment : Environment
deriving Repr, DecidableEq

/-- How a ledger is to be opened. -/
structure Opening where
  tablePrefix : String
  dialect : Option DialectChoice
  createTables : Bool
deriving Repr, DecidableEq

/-- The opening where nothing is said. -/
def Opening.default : Opening := ⟨defaultTablePrefix, none, true⟩

/-- How settings want the ledger opened. -/
def Settings.opening (s : Settings) : Opening :=
  ⟨s.tablePrefix, s.dialectName.map fun name => .named (some name), true⟩

/-- A run of calls against one open ledger. -/
structure Session where
  plan : Plan
  clock : Timestamp
  disk : Disk
  handle : Handle
  epoch : Nat
  locks : List LockClient
  lifecycle : Lifecycle
  notebook : LinkNotebook
  pagers : List (Option String)
  nextClient : Nat
  log : List LogEvent

/-- A call in a session: a value or a failure, and the session as the call leaves it. -/
abbrev SessionM (α : Type) := ExceptT Failure (StateM Session) α

namespace Session

/-- The ledger that the session's handle leads to. -/
def ledger (s : Session) : Ledger := (s.disk.get s.handle.place).ledger s.handle.tablePrefix

/-- The session with another database at the place of its handle. -/
def setDatabase (s : Session) (db : Database) : Session :=
  { s with disk := s.disk.put s.handle.place db }

def setLedger (s : Session) (l : Ledger) : Session :=
  s.setDatabase ((s.disk.get s.handle.place).setLedger s.handle.tablePrefix l)

/-- The session with its clock a second later. -/
def tick (s : Session) : Session := { s with clock := s.clock.nextSecond }

/-- Runs a call. -/
def perform {α : Type} (call : SessionM α) (s : Session) : Except Failure α × Session :=
  (ExceptT.run call).run s

end Session

namespace SessionM

/-- Logs an event. -/
def emit (e : LogEvent) : SessionM Unit := modify fun s => { s with log := s.log ++ [e] }

/-- Fails where the handle of an opening is closed. -/
def ensureOpen (epoch : Nat) : SessionM Unit := do
  let s ← get
  if s.epoch = epoch && s.handle.isOpen then pure () else throw .databaseClosed

/-- Runs a transaction on the ledger, through the handle of an opening. -/
def transact {α : Type} (epoch : Nat) (t : Transaction α) : SessionM α := do
  ensureOpen epoch
  let s ← get
  let (outcome, after) := t.commit s.ledger
  set (s.setLedger after)
  match outcome with
  | .ok a => pure a
  | .error f => throw f

end SessionM

end RunLedger
