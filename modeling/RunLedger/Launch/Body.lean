import RunLedger.Launch.Basic
import RunLedger.Session.Call

/-!
# Bodies of launches

What a task does while it runs: calls of the session, links to the jobs that it runs, a message for
its completion, errors that it raises, and further launches.  A failing step is reported and the
body goes on, unless the step passes its failure on; a raised error always ends the body.

The clock goes on by a second before each step and stands still in it.
-/

namespace RunLedger

/-- What a task does in one step. -/
inductive Action where
  | call (c : Call)
  | linkJob (jobId : Int)
  | exitMessage (text : Option String)
  | snapshot
  | raise (e : Raised)

/-- The steps of a body.  A step that passes on ends the body when it fails. -/
inductive Body where
  | done
  | act (a : Action) (passesOn : Bool) (rest : Body)
  | launch (r : LaunchRequest) (passesOn : Bool) (body rest : Body)

/-- What is reported of a step. -/
inductive Report where
  | answered (a : Answer)
  | failed (f : Fault)
  | launched (entered : Option (Int × List Report)) (fault : Option Fault)

namespace Report

/-- The fault that a step ended with. -/
def fault? : Report → Option Fault
  | answered _ => none
  | failed f => some f
  | launched _ fault => fault

def ofLaunch (o : LaunchOutcome (List Report)) : Report := .launched o.entered o.fault

def ofCall : Except Failure Answer → Report
  | .ok a => .answered a
  | .error f => .failed (.failure f)

end Report

namespace Running

def linkJob (running : Running) (jobId : Int) : SessionM Answer := do
  match running.links with
  | some store =>
    return .link (← Session.recordLink running.epoch store running.id jobId)
  | none => throw (.configuration .linkStoreMissing)

end Running

namespace Action

/-- Whether an action ends the body, however the step is marked. -/
def isRaise : Action → Bool
  | raise _ => true
  | _ => false

/-- Carries out an action in a launch that is under way. -/
def run (a : Action) (running : Running) (s : Session) : Report × Running × Session :=
  match a with
  | call c =>
    let (outcome, s) := s.perform c.run
    (.ofCall outcome, running, s)
  | linkJob jobId =>
    let (outcome, s) := s.perform (running.linkJob jobId)
    (.ofCall outcome, running, s)
  | exitMessage text => (.answered .done, { running with exitMessage := text }, s)
  | snapshot => (.answered (.execution (some running.execution)), running, s)
  | raise e => (.failed (.raised e), running, s)

end Action

namespace Body

/-- Goes on with a body after a step. -/
def after (report : Report) (ends : Bool) (running : Running) (s : Session)
    (rest : Running → Session → BodyOutcome (List Report) × Session) :
    BodyOutcome (List Report) × Session :=
  match report.fault?, ends with
  | some f, true => (⟨running, [report], some f⟩, s)
  | _, _ =>
    let (o, s) := rest running s
    ({ o with report := report :: o.report }, s)

/-- Runs a body in a launch that is under way. -/
def run : Body → Running → Session → BodyOutcome (List Report) × Session
  | done, running, s => (⟨running, [], none⟩, s)
  | act a passesOn rest, running, s =>
    let (report, running, s) := a.run running s.tick
    after report (passesOn || a.isRaise) running s rest.run
  | launch r passesOn body rest, running, s =>
    let (o, s) := RunLedger.launch r body.run s.tick
    after (.ofLaunch o) passesOn running s rest.run

end Body

/-- A step of a session: a call, or a launch with its body. -/
inductive Step where
  | call (c : Call)
  | launch (r : LaunchRequest) (body : Body)

namespace Step

/-- Carries out a step, a second after the one before it. -/
def run (step : Step) (s : Session) : Report × Session :=
  match step with
  | call c =>
    let (outcome, s) := s.tick.perform c.run
    (.ofCall outcome, s)
  | launch r body =>
    let (o, s) := RunLedger.launch r body.run s.tick
    (.ofLaunch o, s)

/-- Carries out steps one after the other. -/
def runAll : List Step → Session → List Report × Session
  | [], s => ([], s)
  | step :: steps, s =>
    let (report, s) := step.run s
    let (reports, s) := runAll steps s
    (report :: reports, s)

end Step

end RunLedger
