import RunLedger.Dialect.Url
import RunLedger.Session.Basic

/-!
# Opening a ledger

A handle is opened on the database that a URL names; a database in memory starts empty.  With the
handle come the clients of locks, numbered through the session where they bring no name of their
own, and the set-up of launches.
-/

namespace RunLedger.Session

/-- The name of a client that brings none: its number in an identifier. -/
def clientName (n : Nat) : String := "00000000-0000-4000-8000-" ++ Text.zeroPadded 12 n

/-- The client of a plan, and the number that the next unnamed client gets. -/
def makeClient (next : Nat) (p : LockPlan) : LockClient × Nat :=
  let unnamed := (⟨p.region, clientName next⟩, next + 1)
  match p.clientId with
  | some name => if name = "" then unnamed else (⟨p.region, name⟩, next)
  | none => unnamed

/-- The clients of several plans, and the number that the next unnamed client gets. -/
def makeClients : (next : Nat) → List LockPlan → List LockClient × Nat
  | next, [] => ([], next)
  | next, p :: ps =>
    let (client, next) := makeClient next p
    let (clients, next) := makeClients next ps
    (client :: clients, next)

/-- The clients and the set-up of launches that a plan asks for. -/
def makeObjects (plan : Plan) (next : Nat) : List LockClient × Lifecycle × Nat :=
  let (clients, next) := makeClients next plan.locks
  match plan.lifecycle with
  | .parts lock links single =>
    let lifecycle : Lifecycle :=
      ⟨if lock then clients.head? else none, if links then some plan.links else none, single⟩
    (clients, lifecycle, next)
  | .settings s =>
    let (client, next) := makeClient next ⟨s.lockRegion, none⟩
    (clients, ⟨some client, some .ledger, s.singleInstance⟩, next)

/-- The warning that goes with links kept in memory. -/
def notebookEvent : LogEvent :=
  .of "in_memory_job_correlation_store" .warning [("detail", .text
    "No ledger database configured; job correlations will not survive this process")]

/-- The events of making the objects of a plan. -/
def objectEvents (plan : Plan) : List LogEvent :=
  match plan.links with
  | .ledger => []
  | .memory => [notebookEvent]

/-- The dialect of a ledger: the declared one, else that of the connection. -/
def settleDialect (url : String) (declared : Option DialectChoice) :
    Except Misconfiguration Dialect :=
  Dialect.settle declared (some (Dialect.Connection.ofUrl url))

/-- The products whose databases are kept by servers, which cannot be reached. -/
def serverProducts : List String := ["postgresql", "mysql", "mariadb", "oracle", "mssql"]

def embeddedDrivers : List String := ["sqlite", "sqlite+pysqlite", "sqlite+base"]

/-- Where the database of a URL is. -/
def locate (disk : Disk) (url : String) : Except Failure Location := do
  match DatabaseUrl.ofText? url with
  | none => throw .urlUnreadable
  | some u => do
    let port ← u.portNumber
    if embeddedDrivers.contains u.driver then
      if u.namesServer || port.isSome then throw .urlUnreadable
      let place := Location.ofPath u.path
      if !place.isReachable then throw .statementRefused
      if disk.keepsSettings place then throw .notADatabase
      pure place
    else if serverProducts.contains u.product then throw .statementRefused
    else throw .driverMissing

/-- Where the database of a URL is, and the dialect of its ledger. -/
def target (disk : Disk) (url : String) (declared : Option DialectChoice) :
    Except Failure (Location × Dialect) := do
  let _ ← (declared.mapM DialectChoice.resolve).mapError .configuration
  let place ← locate disk url
  let dialect ← (settleDialect url declared).mapError .configuration
  pure (place, dialect)

/-- Opens a handle, and leaves the disk with what the opening made, even where it failed. -/
def openHandle (disk : Disk) (url : String) (o : Opening) : Except Failure Handle × Disk :=
  match target disk url o.dialect with
  | .error f => (.error f, disk)
  | .ok (place, dialect) =>
    let start := if place = .memory then Database.empty else disk.get place
    let (made, db) := start.openLedger url o.tablePrefix o.createTables
    (made.map fun _ => ⟨place, url, o.tablePrefix, dialect, true⟩, disk.put place db)

/-- The session that begins with an open handle. -/
def ofHandle (plan : Plan) (clock : Timestamp) (disk : Disk) (handle : Handle) : Session :=
  let (locks, lifecycle, nextClient) := makeObjects plan 1
  {
    plan := plan
    clock := clock
    disk := disk
    handle := handle
    epoch := 0
    locks := locks
    lifecycle := lifecycle
    notebook := []
    pagers := []
    nextClient := nextClient
    log := objectEvents plan }

/-- A session that begins with opening the ledger, and the disk as the opening left it. -/
def fresh (plan : Plan) (clock : Timestamp) (disk : Disk) (o : Opening) :
    Except Failure Session × Disk :=
  let (opened, disk) := openHandle disk plan.url o
  (opened.map (ofHandle plan clock disk), disk)

/-- Closes the handle; it stays closed until the ledger is opened anew. -/
def close : SessionM Unit := modify fun s => { s with handle := { s.handle with isOpen := false } }

/-- Closes the handle and opens the ledger anew, with everything that goes with it.  If that fails,
the closed handle stays. -/
def reopen (o : Opening) : SessionM Unit := do
  close
  let s ← get
  let (opened, disk) := openHandle s.disk s.plan.url o
  -- what the opening has made stays, even where it fails
  set { s with disk := disk }
  let handle ← (opened : Except Failure Handle)
  let (locks, lifecycle, nextClient) := makeObjects s.plan s.nextClient
  set { s with
    disk := disk
    handle := handle
    epoch := s.epoch + 1
    locks := locks
    lifecycle := lifecycle
    notebook := []
    pagers := []
    nextClient := nextClient
    log := s.log ++ objectEvents s.plan }

end RunLedger.Session
