import RunLedger.Command.Run

/-!
# Calls as data

Everything that can be done with a session in one call, and what such a call answers.  A run of
calls is a list of these; each call is carried out on the session as the one before it left it.
-/

namespace RunLedger

/-- The calls of a session.  Locks are named by their place among the session's clients. -/
inductive Call where
  | create (taskName : Option String) (parentId : Option Int) (externalId : Option String)
  | start (time : Timestamp) (s : Recording.Start)
  | complete (id : Int) (status : Option ExitStatus) (time : Timestamp)
      (exitMessage errorMessage : Option String)
  | setExternalId (id : Int) (externalId : Option String)
  | find (id : Int)
  | running (taskName : String)
  | latest (names : List String)
  | count (f : Reading.Filter)
  | countRunning
  | taskNames
  | page (f : Reading.Filter) (index size : Int)
  | recordLink (executionId jobId : Int)
  | jobsOf (executionId : Int)
  | executionOf (jobId : Int)
  | acquire (lock : Nat) (taskName : String) (other : Option String)
  | release (lock : Nat) (taskName : String)
  | holder (lock : Nat) (taskName : String)
  | client (lock : Nat)
  | setClock (time : Timestamp)
  | close
  | describeHandle
  | reopen (o : Opening)
  | resolvePrefix (sql : String)
  | tables
  | connectionSetup
  | dropTable (name : String)
  | rowCounts
  | insertRow (row : Recording.RawRow)
  | createAndGiveUp (taskName : Option String)
  | command (settings : Option (List (String × Value))) (arguments : List String)

/-- What calls answer. -/
inductive Answer where
  | done
  | flag (b : Bool)
  | number (n : Option Int)
  | numbers (ns : List Int)
  | text (s : String)
  | names (ss : List String)
  | execution (e : Option Execution)
  | executions (es : List Execution)
  | page (p : Page Execution)
  | link (l : LinkRow)
  | lock (l : Option LockRow)
  | client (c : LockClient)
  | handle (h : Handle)
  | tables (ts : List (String × List String))
  | connection (c : Session.ConnectionSetup)
  | command (o : Command.Outcome)

namespace Session

open SessionM

def lockClient (lock : Nat) : SessionM LockClient := do
  match (← get).locks[lock]? with
  | some client => pure client
  | none => throw (.configuration .lockMissing)

def setClock (time : Timestamp) : SessionM Unit := modify fun s => { s with clock := time }

/-- The name of the settings file that is given with a command. -/
def settingsPath : String := "settings.json"

/-- The disk and the arguments of a command.  Settings that are given with it are put into a file,
which the arguments then begin with. -/
def commandOn (disk : Disk) (settings : Option (List (String × Value)))
    (arguments : List String) : Disk × List String :=
  match settings with
  | none => (disk, arguments)
  | some entries => (disk.putFile settingsPath entries, "--settings" :: settingsPath :: arguments)

/-- Runs the command line in the working directory, with a settings file if one is given. -/
def command (settings : Option (List (String × Value))) (arguments : List String) :
    SessionM Command.Outcome := do
  let s ← get
  let (disk, arguments) := commandOn s.disk settings arguments
  let (outcome, disk) := Command.run s.plan.environment s.clock arguments disk
  set { s with disk := disk }
  pure outcome

end Session

namespace Call

open Session SessionM

def run (call : Call) : SessionM Answer := do
  let epoch := (← get).epoch
  match call with
  | create taskName parentId externalId =>
    return .execution (some (← Session.create epoch taskName parentId externalId).2)
  | start time s => return .execution (some (← Session.start epoch time s))
  | complete id status time exitMessage errorMessage =>
    return .execution (some (← Session.complete epoch id status time exitMessage errorMessage))
  | setExternalId id externalId => do
    Session.setExternalId epoch id externalId
    return .done
  | find id => return .execution (← transact epoch (Reading.find? id))
  | running taskName => return .executions (← transact epoch (Reading.running taskName))
  | latest names => return .executions (← transact epoch (Reading.latest names))
  | count f => return .number (some (← transact epoch (Reading.count f)))
  | countRunning => return .number (some (← transact epoch Reading.countRunning))
  | taskNames => return .names (← transact epoch Reading.taskNames)
  | page f index size => return .page (← Session.page epoch f index size)
  | recordLink executionId jobId =>
    return .link (← Session.recordLink epoch (← get).plan.links executionId jobId)
  | jobsOf executionId => return .numbers (← Session.jobsOf executionId)
  | executionOf jobId => return .number (← Session.executionOf jobId)
  | acquire lock taskName other => do
    Session.acquire epoch (← lockClient lock) taskName other
    return .flag true
  | release lock taskName => return .flag (← Session.release epoch (← lockClient lock) taskName)
  | holder lock taskName => do
    let client ← lockClient lock
    return .lock (← transact epoch (Lock.holder client.region taskName))
  | client lock => return .client (← lockClient lock)
  | setClock time => do
    Session.setClock time
    return .done
  | close => do
    Session.close
    return .done
  | describeHandle => return .handle (← get).handle
  | reopen o => do
    Session.reopen o
    return .handle (← get).handle
  | resolvePrefix sql => return .text (Session.resolvePrefix (← get).handle.tablePrefix sql)
  | tables => return .tables (← Session.tables)
  | connectionSetup => return .connection (← Session.connectionSetup)
  | dropTable name => do
    Session.dropTable name
    return .done
  | rowCounts => return .numbers ((← transact epoch Session.rowCounts).map Int.ofNat)
  | insertRow row => do
    transact epoch (Recording.insertRow row)
    return .done
  | createAndGiveUp taskName => do
    transact epoch (Recording.createAndGiveUp taskName)
    return .done
  | command settings arguments => return .command (← Session.command settings arguments)

end Call

end RunLedger
