import RunLedger.Command.Report
import RunLedger.Command.Request
import RunLedger.Logging.Line
import RunLedger.Session.Operations
import RunLedger.Settings.Source
import RunLedger.Text.Breaks

/-!
# Running a command

A command reads its settings, opens the ledger that they name, carries out one operation and prints
a report.  Failures of the ledger's own kinds are reported as errors; any other one is passed on.
-/

namespace RunLedger.Command

/-- How a command ended: its exit status, what it printed where, and the failure that it passed
on. -/
structure Outcome where
  status : Nat
  out : String
  err : String
  failure : Option Failure
deriving Repr

namespace Outcome

/-- A command that ends without a report of its own. -/
def silent (status : Nat) : Outcome := ⟨status, "", "", none⟩

/-- Text as it leaves the command. -/
def leaving (cs : List Char) : String := String.ofList (Text.singleBreaks cs)

/-- A command that reports what it found, after the log lines; a failure that ends the report is
passed on. -/
def reported (logged : List Char) (p : Printout) : Outcome :=
  ⟨if p.failure.isSome then 1 else 0, leaving (logged ++ printed p.lines), "", p.failure⟩

/-- A command that reports errors, after the log lines. -/
def refused (logged : List Char) (lines : List String) : Outcome :=
  ⟨1, leaving logged, leaving (printed lines), none⟩

/-- A command that passes on a failure, after the log lines. -/
def broken (logged : List Char) (f : Failure) : Outcome := ⟨1, leaving logged, "", some f⟩

/-- A command that a failure ends. -/
def failed (logged : List Char) (f : Failure) : Outcome :=
  if f.isLedger then refused logged ["Error: " ++ f.message] else broken logged f

end Outcome

/-- The name and version of the program. -/
def versionLine : String := "taskledger version 0.1.0"

/-- The log setup that the options ask for. -/
def optionSetup (i : Invocation) : LogSetup := ⟨i.jsonLogs, if i.verbose then .debug else .warning⟩

/-- The log setup once settings are read; the options win over them. -/
def settingsSetup (i : Invocation) (s : Settings) : LogSetup :=
  ⟨i.jsonLogs || s.logging.jsonOutput, if i.verbose then .debug else s.logging.level⟩

/-- The settings of an invocation, and the loggers as configured by the options and then by the
settings; a URL among the options wins. -/
def resolve (env : Environment) (disk : Disk) (i : Invocation) :
    Except Failure (Settings × Loggers) := do
  let loggers := Loggers.initial.configure (optionSetup i)
  let (s, loggers) ← match i.settingsPath with
    | none => pure (Settings.default, loggers)
    | some path => do
      let s ← Settings.load (Text.plainPath path) (disk.settings? path) env
      pure (s, loggers.configure (settingsSetup i s))
  pure (match i.url with
    | some url => { s with url := url }
    | none => s, loggers)

/-- The report of an operation on an open ledger. -/
def carryOut (region : String) : Operation → SessionM Printout
  | .list taskName index size json => do
    let f := match taskName with
      | some name => Reading.Filter.named name
      | none => .all
    let p ← Session.page 0 f index size
    pure (if json then .ofLines [(pageValue p).toJsonText] else pageLines p)
  | .detail id json => do
    match ← SessionM.transact 0 (Reading.find? id) with
    | none => throw (.executionNotFound id)
    | some e => do
      let jobs ← Session.jobsOf id
      pure (.ofLines (if json then [(Value.map (detailFields e jobs)).toJsonText]
        else detailLines e jobs))
  | .running taskName => do
    let es ← SessionM.transact 0 (Reading.running taskName)
    pure (runningLines taskName es)
  | .lockStatus taskName => do
    let held ← SessionM.transact 0 (Lock.holder region taskName)
    pure (.ofLines [lockLine taskName held])
  | .lockRelease taskName => do
    let held ← Session.release 0 ⟨region, ""⟩ taskName
    pure (.ofLines [releaseLine taskName held])

/-- The plan of a session for one operation. -/
def plan (s : Settings) : Plan := ⟨s.url, [], .ledger, .parts false false false, []⟩

/-- The logger that a session's events go through. -/
def sessionLogger : String := "taskledger.core.ledger"

/-- What is printed of events. -/
def logged (loggers : Loggers) (events : List LogEvent) : List Char :=
  (events.flatMap (loggers.texts sessionLogger)).flatMap fun text => text.toList ++ ['\n']

/-- A disk with the memory of another one; what a command keeps in memory is gone with it. -/
def withMemoryOf (before after : Disk) : Disk := after.put .memory (before.get .memory)

/-- Opens the ledger of the settings and carries out an operation. -/
def operate (s : Settings) (loggers : Loggers) (operation : Operation) (clock : Timestamp)
    (disk : Disk) : Outcome × Disk :=
  match Session.fresh (plan s) clock disk s.opening with
  | (.error f, after) => (.failed [] f, withMemoryOf disk after)
  | (.ok session, _) =>
    let (outcome, after) := session.perform (carryOut s.lockRegion operation)
    let lines := logged loggers after.log
    match outcome with
    | .ok report => (.reported lines report, withMemoryOf disk after.disk)
    | .error f => (.failed lines f, withMemoryOf disk after.disk)

def invoke (env : Environment) (clock : Timestamp) (i : Invocation) (disk : Disk) :
    Outcome × Disk :=
  match resolve env disk i with
  | .ok (s, loggers) => operate s loggers i.operation clock disk
  | .error (.settingsInvalid errors) => (.refused [] (settingsErrorLines errors), disk)
  | .error f => (.refused [] ["Error: " ++ f.message], disk)

/-- Runs the command line in an environment. -/
def run (env : Environment) (clock : Timestamp) (args : List String) (disk : Disk) :
    Outcome × Disk :=
  match Request.ofArguments args with
  | .help => (.silent 0, disk)
  | .version => (.reported [] (.ofLines [versionLine]), disk)
  | .misuse => (.silent 2, disk)
  | .invoke i => invoke env clock i disk

end RunLedger.Command
