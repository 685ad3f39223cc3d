import RunLedger.Proofs.Command.Release
import RunLedger.Proofs.Session.Masking

/-!
# Commands without the texts of parameters

A command may print parameters, but it logs none: on a masked disk it logs the same events and
leaves the masked form of what it would have left.

    events env clock args d.masked = events env clock args d                   (events_masked)
    (run env clock args d.masked).2 = (run env clock args d).2.masked          (run_masked)
-/

namespace RunLedger

theorem Session.fresh_masked (plan : Plan) (clock : Timestamp) (d : Disk) (o : Opening) :
    fresh plan clock d.masked o =
      ((fresh plan clock d o).1.map Session.masked, (fresh plan clock d o).2.masked) := by
  rw [fresh, fresh, openHandle_masked]
  rcases openHandle d plan.url o with ⟨f | handle, after⟩ <;> rfl

namespace Command

open Session SessionM

/-! ## What a command logs -/

/-- The events that an operation logs on the ledger that it opens. -/
def operationEvents (s : Settings) (operation : Operation) (clock : Timestamp) (disk : Disk) :
    List LogEvent :=
  match Session.fresh (plan s) clock disk s.opening with
  | (.error _, _) => []
  | (.ok session, _) => (session.perform (carryOut s.lockRegion operation)).2.log

/-- The events that a command logs. -/
def events (env : Environment) (clock : Timestamp) (args : List String) (disk : Disk) :
    List LogEvent :=
  match Request.ofArguments args with
  | .invoke i =>
    match resolve env disk i with
    | .ok (s, _) => operationEvents s i.operation clock disk
    | .error _ => []
  | _ => []

/-- These are the events that a command prints before its report. -/
theorem operate_fst {s : Settings} {clock : Timestamp} {disk d : Disk} {session : Session}
    (hopen : Session.fresh (plan s) clock disk s.opening = (.ok session, d)) (loggers : Loggers)
    (operation : Operation) :
    (operate s loggers operation clock disk).1 =
      let lines := logged loggers (operationEvents s operation clock disk)
      match (session.perform (carryOut s.lockRegion operation)).1 with
      | .ok report => .reported lines report
      | .error f => .failed lines f := by
  rw [operate, operationEvents, hopen]
  dsimp only
  rcases session.perform (carryOut s.lockRegion operation) with ⟨f | report, t⟩ <;> rfl

/-! ## Commands on masked disks -/

theorem resolve_masked (env : Environment) (d : Disk) (i : Invocation) :
    resolve env d.masked i = resolve env d i := by
  rw [resolve, resolve, funext d.settings?_masked]

theorem carryOut_endsAlike (region : String) (operation : Operation) :
    EndsAlike (carryOut region operation) (carryOut region operation) := by
  cases operation with
  | list taskName index size json => exact .map (masks_page _ _ _ _) _ _
  | detail number json =>
    refine .bind (.transact _ (Reading.masks_find? number)) fun found => ?_
    cases found with
    | none => exact .of_masks (.throw id _)
    | some e => exact .map (masks_jobsOf number) _ _
  | running taskName => exact .map (.transact _ (Reading.masks_running taskName)) _ _
  | lockStatus taskName => exact .map (.transact _ (Lock.masks_holder _ _)) _ _
  | lockRelease taskName => exact .map (masks_release _ _ taskName) _ _

theorem operationEvents_masked (s : Settings) (operation : Operation) (clock : Timestamp)
    (d : Disk) :
    operationEvents s operation clock d.masked = operationEvents s operation clock d := by
  rw [operationEvents, operationEvents, fresh_masked]
  rcases Session.fresh (plan s) clock d s.opening with ⟨f | session, after⟩
  · rfl
  · have hlog := congrArg Session.log (carryOut_endsAlike s.lockRegion operation session).2
    exact hlog

theorem operated_masked (s : Settings) (operation : Operation) (clock : Timestamp) (d : Disk) :
    operated s operation clock d.masked = (operated s operation clock d).masked := by
  rw [operated, operated, fresh_masked]
  rcases Session.fresh (plan s) clock d s.opening with ⟨f | session, after⟩
  · rfl
  · exact congrArg Session.disk (carryOut_endsAlike s.lockRegion operation session).2

theorem operate_masked (s : Settings) (loggers : Loggers) (operation : Operation)
    (clock : Timestamp) (d : Disk) :
    (operate s loggers operation clock d.masked).2 =
      (operate s loggers operation clock d).2.masked := by
  rw [operate_snd, operate_snd, operated_masked, withMemoryOf, Disk.get_masked, Disk.put_masked]
  rfl

theorem events_masked (env : Environment) (clock : Timestamp) (args : List String) (d : Disk) :
    events env clock args d.masked = events env clock args d := by
  rw [events, events]
  cases Request.ofArguments args with
  | invoke i =>
    dsimp only
    rw [resolve_masked]
    cases resolve env d i with
    | error f => rfl
    | ok found => exact operationEvents_masked found.1 i.operation clock d
  | _ => rfl

theorem run_masked (env : Environment) (clock : Timestamp) (args : List String) (d : Disk) :
    (run env clock args d.masked).2 = (run env clock args d).2.masked := by
  rw [run, run]
  cases Request.ofArguments args with
  | invoke i =>
    dsimp only
    rw [invoke, invoke, resolve_masked]
    rcases resolve env d i with f | ⟨s, loggers⟩
    · cases f <;> rfl
    · exact operate_masked s loggers i.operation clock d
  | _ => rfl

end Command

end RunLedger
