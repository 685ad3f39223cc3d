import RunLedger.Proofs.Command.Masking
import RunLedger.Proofs.Run.Move
import RunLedger.Proofs.Session.Start

/-!
# Logs without the texts of parameters

Steps are masked when the parameters in them are blank.  Masked steps make, on a masked session, the
same run: the same moves, masked, with the same faults, and after each of them the same log.  So the
texts of parameters never reach a log: two runs that differ in them alone log the same.

    (launch r.masked body' s.masked).2 = (launch r body s).2.masked           (launch_masked)
    movesOfAll (steps.map Step.masked) s.masked =
      (movesOfAll steps s).map Move.masked                                     (movesOfAll_masked)
    a.map Step.masked = b.map Step.masked →
      Move.logsAlong (movesOfAll a s) s = Move.logsAlong (movesOfAll b s) s    (logsAlong_congr)
-/

namespace RunLedger

open Session SessionM

/-! ## Masked steps -/

def LaunchRequest.masked (r : LaunchRequest) : LaunchRequest :=
  { r with parameters := blanks r.parameters }

/-- The call with blank parameters. -/
def Call.masked : Call → Call
  | start time r => start time r.masked
  | c => c

/-- The writing call with blank parameters. -/
def Write.masked : Write → Write
  | start time r => start time r.masked
  | w => w

def Action.masked : Action → Action
  | call c => call c.masked
  | a => a

def Body.masked : Body → Body
  | done => done
  | act a passesOn rest => act a.masked passesOn rest.masked
  | launch r passesOn body rest => launch r.masked passesOn body.masked rest.masked

def Step.masked : Step → Step
  | call c => call c.masked
  | launch r body => launch r.masked body.masked

def Move.masked : Move → Move
  | attempt r body => attempt r.masked body.masked
  | call c => call c.masked
  | write epoch w => write epoch w.masked
  | m => m

/-- The launch under way with blank parameters in its execution. -/
def Running.masked (running : Running) : Running :=
  { running with execution := running.execution.masked }

/-! ## Calls -/

namespace Session

variable (settings : Option (List (String × Value))) (arguments : List String)

theorem commandOn_masked (d : Disk) :
    commandOn d.masked settings arguments =
      ((commandOn d settings arguments).1.masked, (commandOn d settings arguments).2) := by
  cases settings <;> rfl

theorem perform_command (s : Session) :
    s.perform (command settings arguments) =
      let on := commandOn s.disk settings arguments
      let ran := Command.run s.plan.environment s.clock on.2 on.1
      (.ok ran.1, { s with disk := ran.2 }) := rfl

theorem command_endsAlike :
    EndsAlike (command settings arguments) (command settings arguments) := by
  intro s
  have hon : commandOn s.masked.disk settings arguments =
      ((commandOn s.disk settings arguments).1.masked, (commandOn s.disk settings arguments).2) :=
    commandOn_masked settings arguments s.disk
  have hran := Command.run_masked s.plan.environment s.clock
    (commandOn s.disk settings arguments).2 (commandOn s.disk settings arguments).1
  rw [perform_command, perform_command, hon]
  exact ⟨rfl, congrArg (fun d => { s with disk := d }) hran⟩

end Session

theorem Call.run_endsAlike (c : Call) : EndsAlike c.run c.masked.run := by
  refine .bind .get fun s => ?_
  cases c with
  | create taskName parentId externalId => exact .map (masks_create _ _ _ _) _ _
  | start time r => exact .map (Session.masks_start _ _ _) _ _
  | complete id status time exitMessage errorMessage =>
    exact .map (Session.masks_complete _ _ _ _ _ _) _ _
  | setExternalId id externalId => exact .map (Session.masks_setExternalId _ _ _) _ _
  | find id => exact .map (.transact _ (Reading.masks_find? id)) _ _
  | running taskName => exact .map (.transact _ (Reading.masks_running taskName)) _ _
  | latest names => exact .map (.transact _ (Reading.masks_latest names)) _ _
  | count f => exact .map (.transact _ (Reading.masks_count f)) _ _
  | countRunning => exact .map (.transact _ Reading.masks_countRunning) _ _
  | taskNames => exact .map (.transact _ Reading.masks_taskNames) _ _
  | page f index size => exact .map (masks_page _ _ _ _) _ _
  | recordLink executionId jobId =>
    exact .bind .get fun _ => .map (masks_recordLink _ _ _ _) _ _
  | jobsOf executionId => exact .map (masks_jobsOf _) _ _
  | executionOf jobId => exact .map (masks_executionOf _) _ _
  | acquire lock taskName other =>
    exact .bind (masks_lockClient lock) fun _ => .map (Session.masks_acquire _ _ _ _) _ _
  | release lock taskName =>
    exact .bind (masks_lockClient lock) fun _ => .map (Session.masks_release _ _ _) _ _
  | holder lock taskName =>
    exact .bind (masks_lockClient lock) fun _ => .map (.transact _ (Lock.masks_holder _ _)) _ _
  | client lock => exact .map (masks_lockClient lock) _ _
  | setClock time =>
    have hset : Masks id (Session.setClock time) (Session.setClock time) := fun _ => rfl
    exact .map hset _ _
  | close =>
    have hclose : Masks id Session.close Session.close := fun _ => rfl
    exact .map hclose _ _
  | describeHandle => exact .map .get _ _
  | reopen o => exact .bind (masks_reopen o) fun _ => .map .get _ _
  | resolvePrefix sql => exact .map .get _ _
  | tables => exact .map masks_tables _ _
  | connectionSetup => exact .map masks_connectionSetup _ _
  | dropTable name => exact .map (masks_dropTable name) _ _
  | rowCounts => exact .map (.transact _ masks_rowCounts) _ _
  | insertRow row => exact .map (.transact _ (Recording.masks_insertRow row)) _ _
  | createAndGiveUp taskName =>
    exact .map (.transact _ (Recording.masks_createAndGiveUp taskName)) _ _
  | command settings arguments => exact (command_endsAlike settings arguments).answer _ _

theorem Write.run_endsAlike (epoch : Nat) (w : Write) :
    EndsAlike (w.run epoch) (w.masked.run epoch) := by
  cases w with
  | create taskName parentId externalId => exact .map (masks_create _ _ _ _) _ _
  | start time r => exact .map (Session.masks_start _ _ _) _ _
  | complete id status time exitMessage errorMessage =>
    exact .map (Session.masks_complete _ _ _ _ _ _) _ _
  | setExternalId id externalId => exact .map (Session.masks_setExternalId _ _ _) _ _
  | link store executionId jobId => exact .map (masks_recordLink _ _ _ _) _ _
  | acquire client taskName other => exact .map (Session.masks_acquire _ _ _ _) _ _
  | release client taskName => exact .map (Session.masks_release _ _ _) _ _

/-! ## Launches -/

namespace Launch

variable {ρ σ : Type}

theorem masks_takeLock (epoch : Nat) (client : LockClient) (number : Int) (taskName : String) :
    Masks id (takeLock epoch client number taskName) (takeLock epoch client number taskName) := by
  refine .tryCatch (Session.masks_acquire _ _ _ _) fun e => ?_
  split
  · exact (Masks.emit _).bind fun _ => Masks.get.bind fun _ =>
      (Session.masks_complete _ _ _ _ _ _).bind fun _ => .throw id _
  · exact .throw id _

theorem masks_prepare (r : LaunchRequest) : Masks id (prepare r) (prepare r.masked) := by
  refine Masks.get.bind fun s => (Masks.check (lockClient? s.lifecycle r)).bind fun lock =>
    (masks_create s.epoch (some r.taskName) r.parentId r.externalId).bind fun ⟨number, _⟩ => ?_
  cases lock with
  | none => exact .pure id _
  | some client => exact (masks_takeLock _ client number _).bind fun _ => .pure id _

theorem masks_startTask (p : Prepared) (r : LaunchRequest) :
    Masks Running.masked (startTask p r) (startTask p r.masked) :=
  Masks.get.bind fun s => (Session.masks_start p.epoch s.clock
    ⟨p.id, r.taskName, r.parameters, r.externalId, r.parentId⟩).bind fun _ => .pure _ _

theorem masks_completeTask (p : Prepared) (exitMessage : Option String) (fault : Option Fault) :
    Masks id (completeTask p exitMessage fault) (completeTask p exitMessage fault) :=
  Masks.get.bind fun _ => (Session.masks_complete _ _ _ _ _ _).bind fun _ => .pure id _

theorem masks_giveBack (p : Prepared) (taskName : String) :
    Masks id (giveBack p taskName) (giveBack p taskName) := by
  unfold giveBack
  split
  · exact (Session.masks_release _ _ _).bind fun _ => .pure id _
  · exact .pure id _

/-- Two bodies of which the second does in masked launches what the first does in launches as they
are, whatever they report. -/
def MasksBody (body : Running → Session → BodyOutcome ρ × Session)
    (masked : Running → Session → BodyOutcome σ × Session) : Prop :=
  ∀ running s, (masked running.masked s.masked).1.running = (body running s).1.running.masked ∧
    (masked running.masked s.masked).1.fault = (body running s).1.fault ∧
    (masked running.masked s.masked).2 = (body running s).2.masked

variable {body : Running → Session → BodyOutcome ρ × Session}
  {masked : Running → Session → BodyOutcome σ × Session}

theorem enter_masked (p : Prepared) (r : LaunchRequest) (hbody : MasksBody body masked)
    (s : Session) :
    (enter p r.masked masked s.masked).1.fault = (enter p r body s).1.fault ∧
      (enter p r.masked masked s.masked).2 = (enter p r body s).2.masked := by
  rw [enter, enter, masks_startTask p r s]
  rcases s.perform (startTask p r) with ⟨f | running, t⟩
  · exact ⟨rfl, rfl⟩
  · obtain ⟨hrunning, hfault, hstate⟩ := hbody running t
    have hmessage : (masked running.masked t.masked).1.running.exitMessage =
        (body running t).1.running.exitMessage := by
      rw [hrunning]
      rfl
    dsimp only [Except.map]
    rw [hmessage, hfault, hstate, masks_completeTask]
    rcases (body running t).2.perform (completeTask p (body running t).1.running.exitMessage
      (body running t).1.fault) with ⟨f | v, u⟩ <;> exact ⟨rfl, rfl⟩

/-- A masked launch ends with the same fault. -/
theorem launch_masked (r : LaunchRequest) (hbody : MasksBody body masked)
    (s : Session) :
    (launch r.masked masked s.masked).1.fault = (launch r body s).1.fault ∧
      (launch r.masked masked s.masked).2 = (launch r body s).2.masked := by
  have hname : r.masked.taskName = r.taskName := rfl
  rw [launch, launch, masks_prepare r s, hname]
  rcases s.perform (prepare r) with ⟨f | p, t⟩
  · exact ⟨rfl, rfl⟩
  · obtain ⟨hfault, hstate⟩ := enter_masked p r hbody t
    dsimp only [Except.map, id]
    rw [hstate, masks_giveBack]
    rcases (enter p r body t).2.perform (giveBack p r.taskName) with ⟨f | v, u⟩
    · exact ⟨rfl, rfl⟩
    · exact ⟨hfault, rfl⟩

end Launch

/-! ## Bodies -/

theorem Report.fault?_ofCall {r r' : Except Failure Answer}
    (h : r'.map (fun _ => ()) = r.map fun _ => ()) : (ofCall r').fault? = (ofCall r).fault? := by
  cases r with
  | error f =>
    cases r' with
    | error g =>
      cases h
      rfl
    | ok a => cases h
  | ok a =>
    cases r' with
    | error g => cases h
    | ok b => rfl

theorem Running.linkJob_endsAlike (running : Running) (jobId : Int) :
    EndsAlike (running.linkJob jobId) (running.masked.linkJob jobId) := by
  have hlinks : running.masked.links = running.links := rfl
  unfold linkJob
  rw [hlinks]
  split
  · exact .map (masks_recordLink _ _ _ _) _ _
  · exact fun _ => ⟨rfl, rfl⟩

/-- A masked action ends with the same fault. -/
theorem Action.run_masked (a : Action) (running : Running) (s : Session) :
    (a.masked.run running.masked s.masked).1.fault? = (a.run running s).1.fault? ∧
      (a.masked.run running.masked s.masked).2.1 = (a.run running s).2.1.masked ∧
      (a.masked.run running.masked s.masked).2.2 = (a.run running s).2.2.masked := by
  cases a with
  | call c =>
    obtain ⟨houtcome, hstate⟩ := c.run_endsAlike s
    exact ⟨Report.fault?_ofCall houtcome, rfl, hstate⟩
  | linkJob jobId =>
    obtain ⟨houtcome, hstate⟩ := running.linkJob_endsAlike jobId s
    exact ⟨Report.fault?_ofCall houtcome, rfl, hstate⟩
  | exitMessage text => exact ⟨rfl, rfl, rfl⟩
  | snapshot => exact ⟨rfl, rfl, rfl⟩
  | raise e => exact ⟨rfl, rfl, rfl⟩

namespace Body

open Launch

theorem after_masked {report report' : Report} (hreport : report'.fault? = report.fault?)
    (ends : Bool) (running : Running) (s : Session)
    {rest rest' : Running → Session → BodyOutcome (List Report) × Session}
    (hrest : MasksBody rest rest') :
    (after report' ends running.masked s.masked rest').1.running =
        (after report ends running s rest).1.running.masked ∧
      (after report' ends running.masked s.masked rest').1.fault =
        (after report ends running s rest).1.fault ∧
      (after report' ends running.masked s.masked rest').2 =
        (after report ends running s rest).2.masked := by
  unfold after
  rw [hreport]
  split
  · exact ⟨rfl, rfl, rfl⟩
  · exact hrest running s

/-- A masked body takes the same course. -/
theorem run_masked (body : Body) : MasksBody body.run body.masked.run := by
  -- the masked step ends with the same fault, so that both bodies break off at the same place
  induction body with
  | done => exact fun _ _ => ⟨rfl, rfl, rfl⟩
  | act a passesOn rest ih =>
    intro running s
    obtain ⟨hfault, hrunning, hstate⟩ := a.run_masked running s.tick
    have hraise : a.masked.isRaise = a.isRaise := by cases a <;> rfl
    rw [masked, run, run, s.tick_masked, hraise]
    dsimp only
    rw [hrunning, hstate]
    exact after_masked hfault _ _ _ ih
  | launch r passesOn body rest ihBody ih =>
    intro running s
    obtain ⟨hfault, hstate⟩ := launch_masked r ihBody s.tick
    have hreport : (Report.ofLaunch (RunLedger.launch r.masked body.masked.run
        s.tick.masked).1).fault? =
          (Report.ofLaunch (RunLedger.launch r body.run s.tick).1).fault? := hfault
    rw [masked, run, run, s.tick_masked]
    dsimp only
    rw [hstate]
    exact after_masked hreport _ _ _ ih

end Body

namespace Step

/-- A masked step leaves the masked session. -/
theorem run_masked (step : Step) (s : Session) :
    (step.masked.run s.masked).2 = (step.run s).2.masked := by
  cases step with
  | call c =>
    rw [masked, run, run, s.tick_masked]
    exact (c.run_endsAlike s.tick).2
  | launch r body =>
    rw [masked, run, run, s.tick_masked]
    exact (Launch.launch_masked r body.run_masked s.tick).2

theorem runAll_masked (steps : List Step) (s : Session) :
    (runAll (steps.map masked) s.masked).2 = (runAll steps s).2.masked := by
  induction steps generalizing s with
  | nil => rfl
  | cons step steps ih =>
    have hstep := step.run_masked s
    rw [List.map_cons, runAll, runAll]
    dsimp only
    rw [hstep]
    exact ih _

end Step

/-! ## Moves -/

/-- A masked move leaves the masked session. -/
theorem Move.run_masked (m : Move) (s : Session) : m.masked.run s.masked = (m.run s).masked := by
  cases m with
  | tick => exact s.tick_masked
  | attempt r body => rfl
  | call c => exact (c.run_endsAlike s).2
  | write epoch w => exact (w.run_endsAlike epoch s).2
  | remark e => rfl

namespace Launch

variable {ρ σ : Type}

theorem lockMoves_masked (epoch : Nat) (client : LockClient) (number : Int) (taskName : String)
    (s : Session) :
    lockMoves epoch client number taskName s.masked =
      (lockMoves epoch client number taskName s).map Move.masked := by
  rw [lockMoves, lockMoves, Session.masks_acquire epoch client taskName none s]
  rcases s.perform (acquire epoch client taskName none) with ⟨f | v, t⟩
  · cases f <;> rfl
  · rfl

theorem prepareMoves_masked (r : LaunchRequest) (s : Session) :
    prepareMoves r.masked s.masked = (prepareMoves r s).map Move.masked := by
  have hlock : lockClient? s.masked.lifecycle r.masked = lockClient? s.lifecycle r := rfl
  have hcreate : s.masked.perform (create s.masked.epoch (some r.masked.taskName)
      r.masked.parentId r.masked.externalId) = _ :=
    masks_create s.epoch (some r.taskName) r.parentId r.externalId s
  rw [prepareMoves, prepareMoves, hlock, hcreate]
  cases lockClient? s.lifecycle r with
  | error f => rfl
  | ok lock =>
    rcases s.perform (create s.epoch (some r.taskName) r.parentId r.externalId) with
      ⟨f | ⟨number, e⟩, t⟩
    · rfl
    · cases lock with
      | none => rfl
      | some client =>
        exact congrArg (List.cons _) (lockMoves_masked s.epoch client number r.taskName t)

/-- Two ways to tell the moves of a body, of which the second tells the masked moves in masked
launches. -/
def MasksMoves (bodyMoves masked : Running → Session → List Move) : Prop :=
  ∀ running s, masked running.masked s.masked = (bodyMoves running s).map Move.masked

variable {body : Running → Session → BodyOutcome ρ × Session}
  {masked : Running → Session → BodyOutcome σ × Session}
  {bodyMoves maskedMoves : Running → Session → List Move}

theorem enterMoves_masked (p : Prepared) (r : LaunchRequest) (hbody : MasksBody body masked)
    (hmoves : MasksMoves bodyMoves maskedMoves) (s : Session) :
    enterMoves p r.masked masked maskedMoves s.masked =
      (enterMoves p r body bodyMoves s).map Move.masked := by
  rw [enterMoves, enterMoves, masks_startTask p r s]
  refine congrArg (List.cons _) ?_
  rcases s.perform (startTask p r) with ⟨f | running, t⟩
  · rfl
  · obtain ⟨hrunning, hfault, hstate⟩ := hbody running t
    have hcomplete : completeMove p (masked running.masked t.masked).1
        (masked running.masked t.masked).2 =
          (completeMove p (body running t).1 (body running t).2).masked := by
      rw [completeMove, hrunning, hfault, hstate]
      rfl
    dsimp only [Except.map]
    rw [hcomplete, hmoves, List.map_append]
    rfl

theorem moves_masked (r : LaunchRequest) (hbody : MasksBody body masked)
    (hmoves : MasksMoves bodyMoves maskedMoves) (s : Session) :
    moves r.masked masked maskedMoves s.masked = (moves r body bodyMoves s).map Move.masked := by
  rw [moves, moves, prepareMoves_masked, masks_prepare r s, List.map_append]
  refine congrArg ((prepareMoves r s).map Move.masked ++ ·) ?_
  rcases s.perform (prepare r) with ⟨f | p, t⟩
  · rfl
  · have hback : (giveBackMoves p r.taskName).map Move.masked = giveBackMoves p r.taskName := by
      rw [giveBackMoves]
      cases p.lock <;> rfl
    dsimp only [Except.map, id]
    rw [enterMoves_masked p r hbody hmoves, List.map_append, hback]
    rfl

end Launch

theorem Action.moves_masked (a : Action) (running : Running) :
    a.masked.moves running.masked = (a.moves running).map Move.masked := by
  cases a with
  | linkJob jobId =>
    have hlinks : running.masked.links = running.links := rfl
    unfold masked moves
    dsimp only
    rw [hlinks]
    cases running.links <;> rfl
  | _ => rfl

theorem Report.endsBody_congr {report report' : Report} (h : report'.fault? = report.fault?)
    (ends : Bool) : report'.endsBody ends = report.endsBody ends := by
  rw [endsBody, endsBody, h]

/-- A masked body makes the masked moves. -/
theorem Body.moves_masked (body : Body) : Launch.MasksMoves body.moves body.masked.moves := by
  induction body with
  | done => exact fun _ _ => rfl
  | act a passesOn rest ih =>
    intro running s
    obtain ⟨hfault, hrunning, hstate⟩ := a.run_masked running s.tick
    have hraise : a.masked.isRaise = a.isRaise := by cases a <;> rfl
    rw [masked, moves, moves, s.tick_masked, hraise, Report.endsBody_congr hfault, hrunning, hstate,
      ih, a.moves_masked, List.map_cons, List.map_append, apply_ite (List.map Move.masked)]
    rfl
  | launch r passesOn body rest ihBody ih =>
    intro running s
    obtain ⟨hfault, hstate⟩ := Launch.launch_masked r body.run_masked s.tick
    have hreport : (Report.ofLaunch (RunLedger.launch r.masked body.masked.run
        s.tick.masked).1).fault? =
          (Report.ofLaunch (RunLedger.launch r body.run s.tick).1).fault? := hfault
    rw [masked, moves, moves, s.tick_masked, Report.endsBody_congr hreport, hstate, ih,
      Launch.moves_masked r body.run_masked ihBody, List.map_cons, List.map_cons, List.map_append,
      apply_ite (List.map Move.masked)]
    rfl

namespace Step

theorem moves_masked (step : Step) (s : Session) :
    step.masked.moves s.masked = (step.moves s).map Move.masked := by
  cases step with
  | call c => rfl
  | launch r body =>
    rw [masked, moves, moves, s.tick_masked,
      Launch.moves_masked r body.run_masked body.moves_masked, List.map_cons, List.map_cons]
    rfl

/-- Masked steps make the masked moves. -/
theorem movesOfAll_masked (steps : List Step) (s : Session) :
    movesOfAll (steps.map masked) s.masked = (movesOfAll steps s).map Move.masked := by
  induction steps generalizing s with
  | nil => rfl
  | cons step steps ih =>
    rw [List.map_cons, movesOfAll, movesOfAll, moves_masked, run_masked, ih, List.map_append]

end Step

/-! ## Logs along a run -/

namespace Move

/-- What a move logs beside the session: the events of a command, which has a log of its own. -/
def commandEvents (s : Session) : Move → List LogEvent
  | call (.command settings arguments) =>
    let on := commandOn s.disk settings arguments
    Command.events s.plan.environment s.clock on.2 on.1
  | _ => []

/-- The log of the session after each of some moves, and what the move logged beside it. -/
def logsAlong : List Move → Session → List (List LogEvent × List LogEvent)
  | [], _ => []
  | m :: ms, s => ((m.run s).log, m.commandEvents s) :: logsAlong ms (m.run s)

theorem commandEvents_masked (m : Move) (s : Session) :
    m.masked.commandEvents s.masked = m.commandEvents s := by
  cases m with
  | call c =>
    cases c with
    | command settings arguments =>
      have hon : commandOn s.masked.disk settings arguments =
          ((commandOn s.disk settings arguments).1.masked,
            (commandOn s.disk settings arguments).2) := commandOn_masked settings arguments s.disk
      rw [masked, Call.masked, commandEvents, commandEvents, hon]
      · exact Command.events_masked _ _ _ _
      · exact nofun
    | _ => rfl
  | _ => rfl

/-- Masked moves leave the same logs. -/
theorem logsAlong_masked (ms : List Move) (s : Session) :
    logsAlong (ms.map masked) s.masked = logsAlong ms s := by
  induction ms generalizing s with
  | nil => rfl
  | cons m ms ih =>
    have hlog : (m.masked.run s.masked).log = (m.run s).log := by
      rw [m.run_masked]
      rfl
    rw [List.map_cons, logsAlong, logsAlong, hlog, commandEvents_masked, m.run_masked, ih]

end Move

namespace Step

/-- Parameters never reach a log.  Two runs of steps that differ in the texts of parameters alone,
as the calls and launches in them and in their bodies give them, log the same events: after each
move the session's log is the same, and so is what a command logs on its own account. -/
theorem logsAlong_congr {a b : List Step} {s t : Session} (hsession : s.masked = t.masked)
    (hsteps : a.map masked = b.map masked) :
    Move.logsAlong (movesOfAll a s) s = Move.logsAlong (movesOfAll b t) t ∧
      (runAll a s).2.log = (runAll b t).2.log := by
  have hlogs (steps : List Step) (s : Session) : Move.logsAlong (movesOfAll steps s) s =
      Move.logsAlong (movesOfAll (steps.map masked) s.masked) s.masked := by
    rw [movesOfAll_masked, Move.logsAlong_masked]
  have hlog (steps : List Step) (s : Session) : (runAll steps s).2.log =
      (runAll (steps.map masked) s.masked).2.log := by
    rw [runAll_masked]
    rfl
  rw [hlogs a, hlogs b, hlog a, hlog b, hsession, hsteps]
  exact ⟨rfl, rfl⟩

/-- A launch with a start that comes too late in its body, and a launch of the same task, which
finds the lock held; then a page, and a listing on the command line. -/
theorem logsAlong_congr_nested :
    let steps (p q : String) : List Step :=
      [.launch ⟨"t", [p, q], some true, none, none⟩
        (.act (.call (.start Instant.first.toUtc ⟨1, "t", [q], none, none⟩)) false
          (.launch ⟨"t", [q ++ p], some true, none, none⟩ false .done .done)),
        .call (.page .all 0 10), .call (.command none ["list", "--json"])]
    let s := Session.inMemory [⟨"region", none⟩] (.parts true false false)
    steps "user" "password" ≠ steps "" "none" ∧
      (steps "user" "password").map masked = (steps "" "none").map masked ∧
      Move.logsAlong (movesOfAll (steps "user" "password") s) s =
        Move.logsAlong (movesOfAll (steps "" "none") s) s ∧
      (runAll (steps "user" "password") s).2.log = (runAll (steps "" "none") s).2.log := by
  intro steps s
  have hsteps : (steps "user" "password").map masked = (steps "" "none").map masked := rfl
  exact ⟨by simp [steps], hsteps, logsAlong_congr rfl hsteps⟩

end Step

end RunLedger
