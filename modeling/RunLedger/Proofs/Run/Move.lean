import RunLedger.Launch.Body
import RunLedger.Proofs.Run.Call

/-!
# Runs as moves

A run of steps, with all its launches and their bodies, is a row of moves: the clock goes on, a
call is made, a launch makes a writing call of its own or remarks on something in the log.  Every
state that a run passes through lies between two of its moves.

    (launch r body s).2 = runAll (Launch.moves r body bodyMoves s) s        (Launch.runAll_moves)
    (body.run running s).2 = runAll (body.moves running s) s                (Body.runAll_moves)
    (Step.runAll steps s).2 = runAll (Step.movesOfAll steps s) s            (Step.runAll_movesOfAll)
-/

namespace RunLedger

open Session SessionM

/-- One move of a session.  That a launch begins is a move that changes nothing. -/
inductive Move where
  | tick
  | attempt (r : LaunchRequest) (body : Body)
  | call (c : Call)
  | write (epoch : Nat) (w : Write)
  | remark (e : LogEvent)

namespace Move

/-- Makes a move. -/
def run : Move → Session → Session
  | tick, s => s.tick
  | attempt _ _, s => s
  | call c, s => (s.perform c.run).2
  | write epoch w, s => (s.perform (w.run epoch)).2
  | remark e, s => s.logging e

/-- Makes moves one after the other. -/
def runAll : List Move → Session → Session
  | [], s => s
  | m :: ms, s => runAll ms (m.run s)

@[simp] theorem runAll_nil (s : Session) : runAll [] s = s := rfl

@[simp] theorem runAll_cons (m : Move) (ms : List Move) (s : Session) :
    runAll (m :: ms) s = runAll ms (m.run s) := rfl

@[simp] theorem runAll_append (ms ns : List Move) (s : Session) :
    runAll (ms ++ ns) s = runAll ns (runAll ms s) := by
  induction ms generalizing s with
  | nil => rfl
  | cons m ms ih => exact ih (m.run s)

/-- What each of some moves keeps in every session, all of them together keep. -/
theorem runAll_induction {P : Session → Prop} {ms : List Move}
    (step : ∀ m ∈ ms, ∀ s, P s → P (m.run s)) {s : Session} (h : P s) : P (runAll ms s) := by
  induction ms generalizing s with
  | nil => exact h
  | cons m ms ih =>
    obtain ⟨hm, hms⟩ := List.forall_mem_cons.1 step
    exact ih hms (hm s h)

end Move

/-! ## The moves of a launch -/

namespace Launch

/-- The moves of taking the lock: where it is held, the launch completes its execution. -/
def lockMoves (epoch : Nat) (client : LockClient) (id : Int) (taskName : String) (s : Session) :
    List Move :=
  .write epoch (.acquire client taskName none) ::
    match s.perform (acquire epoch client taskName none) with
    | (.error (.alreadyHeld name key), t) =>
      let message := (Failure.alreadyHeld name key).message
      [.remark (blockedEvent id taskName),
        .write epoch (.complete id (some (.code 1)) t.clock (some message) (some message))]
    | _ => []

def createMove (r : LaunchRequest) (s : Session) : Move :=
  .write s.epoch (.create (some r.taskName) r.parentId r.externalId)

def prepareMoves (r : LaunchRequest) (s : Session) : List Move :=
  match lockClient? s.lifecycle r with
  | .error _ => []
  | .ok lock =>
    createMove r s ::
      match s.perform (create s.epoch (some r.taskName) r.parentId r.externalId), lock with
      | (.ok (id, _), t), some client => lockMoves s.epoch client id r.taskName t
      | _, _ => []

def startMove (p : Prepared) (r : LaunchRequest) (s : Session) : Move :=
  .write p.epoch (.start s.clock ⟨p.id, r.taskName, r.parameters, r.externalId, r.parentId⟩)

def completeMove {ρ : Type} (p : Prepared) (b : BodyOutcome ρ) (s : Session) : Move :=
  .write p.epoch (.complete p.id (some (exitStatus b.fault)) s.clock b.running.exitMessage
    (errorReport b.fault))

/-- The moves from the start to the completion. -/
def enterMoves {ρ : Type} (p : Prepared) (r : LaunchRequest)
    (body : Running → Session → BodyOutcome ρ × Session)
    (bodyMoves : Running → Session → List Move) (s : Session) : List Move :=
  startMove p r s ::
    match s.perform (startTask p r) with
    | (.error _, _) => []
    | (.ok running, t) =>
      bodyMoves running t ++ [completeMove p (body running t).1 (body running t).2]

def giveBackMoves (p : Prepared) (taskName : String) : List Move :=
  match p.lock with
  | some client => [.write p.epoch (.release client taskName)]
  | none => []

/-- The moves of a launch around a body of which the moves are known. -/
def moves {ρ : Type} (r : LaunchRequest) (body : Running → Session → BodyOutcome ρ × Session)
    (bodyMoves : Running → Session → List Move) (s : Session) : List Move :=
  prepareMoves r s ++
    match s.perform (prepare r) with
    | (.error _, _) => []
    | (.ok p, t) => enterMoves p r body bodyMoves t ++ giveBackMoves p r.taskName

end Launch

/-! ## The moves of a body and of steps -/

def Action.moves : Action → Running → List Move
  | call c, _ => [.call c]
  | linkJob jobId, running =>
    match running.links with
    | some store => [.write running.epoch (.link store running.id jobId)]
    | none => []
  | _, _ => []

/-- Whether a body ends with a step. -/
def Report.endsBody (report : Report) (ends : Bool) : Bool := ends && report.fault?.isSome

/-- The moves of a body. -/
def Body.moves : Body → Running → Session → List Move
  | done, _, _ => []
  | act a passesOn rest, running, s =>
    let after := a.run running s.tick
    .tick :: (a.moves running ++
      if after.1.endsBody (passesOn || a.isRaise) then [] else rest.moves after.2.1 after.2.2)
  | launch r passesOn body rest, running, s =>
    let after := RunLedger.launch r body.run s.tick
    .tick :: .attempt r body :: (Launch.moves r body.run body.moves s.tick ++
      if (Report.ofLaunch after.1).endsBody passesOn then [] else rest.moves running after.2)

namespace Step

def moves : Step → Session → List Move
  | call c, _ => [.tick, .call c]
  | launch r body, s => .tick :: .attempt r body :: Launch.moves r body.run body.moves s.tick

/-- The moves of steps one after the other. -/
def movesOfAll : List Step → Session → List Move
  | [], _ => []
  | step :: steps, s => step.moves s ++ movesOfAll steps (step.run s).2

end Step

/-! ## Moves make the same run -/

namespace Launch

variable {ρ : Type}

theorem perform_takeLock (epoch : Nat) (client : LockClient) (id : Int) (taskName : String)
    (s : Session) :
    s.perform (takeLock epoch client id taskName) =
      match s.perform (acquire epoch client taskName none) with
      | (.error (.alreadyHeld name key), t) =>
        let held := Failure.alreadyHeld name key
        match (t.logging (blockedEvent id taskName)).perform (complete epoch id (some (.code 1))
            t.clock (some held.message) (some held.message)) with
        | (.ok _, u) => (.error held, u)
        | (.error f, u) => (.error f, u)
      | other => other := by
  unfold takeLock
  rw [perform_tryCatch]
  rcases s.perform (acquire epoch client taskName none) with ⟨f | v, t⟩
  · cases f with
    | alreadyHeld name key =>
      have hclock : (t.logging (blockedEvent id taskName)).clock = t.clock := rfl
      dsimp only
      rw [perform_bind_of_ok (perform_emit _ t), perform_get_bind, perform_bind, hclock]
      rcases (t.logging (blockedEvent id taskName)).perform (complete epoch id (some (.code 1))
        t.clock (some (Failure.alreadyHeld name key).message)
        (some (Failure.alreadyHeld name key).message)) with ⟨g | e, u⟩ <;> rfl
    | _ => rfl
  · rfl

theorem runAll_lockMoves (epoch : Nat) (client : LockClient) (id : Int) (taskName : String)
    (s : Session) :
    Move.runAll (lockMoves epoch client id taskName s) s =
      (s.perform (takeLock epoch client id taskName)).2 := by
  have hwrite : (Move.write epoch (.acquire client taskName none)).run s =
      (s.perform (acquire epoch client taskName none)).2 := perform_map_snd _ _ s
  rw [perform_takeLock, lockMoves, Move.runAll_cons, hwrite]
  -- what the moves are depends on how taking the lock ends
  rcases s.perform (acquire epoch client taskName none) with ⟨f | v, t⟩
  · cases f with
    | alreadyHeld name key =>
      have hcomplete : (Move.write epoch (.complete id (some (.code 1)) t.clock
          (some (Failure.alreadyHeld name key).message)
          (some (Failure.alreadyHeld name key).message))).run
            (t.logging (blockedEvent id taskName)) = _ := perform_map_snd _ _ _
      dsimp only
      have hremark : (Move.remark (blockedEvent id taskName)).run t =
          t.logging (blockedEvent id taskName) := rfl
      rw [Move.runAll_cons, Move.runAll_cons, hremark, hcomplete]
      rcases (t.logging (blockedEvent id taskName)).perform (complete epoch id (some (.code 1))
        t.clock (some (Failure.alreadyHeld name key).message)
        (some (Failure.alreadyHeld name key).message)) with ⟨g | e, u⟩ <;> rfl
    | _ => rfl
  · rfl

theorem perform_prepare (r : LaunchRequest) (s : Session) :
    s.perform (prepare r) = match lockClient? s.lifecycle r with
      | .error f => (.error f, s)
      | .ok lock =>
        match s.perform (create s.epoch (some r.taskName) r.parentId r.externalId), lock with
        | (.error f, t), _ => (.error f, t)
        | (.ok (id, _), t), none => (.ok ⟨s.epoch, id, none, s.lifecycle.links⟩, t)
        | (.ok (id, _), t), some client =>
          match t.perform (takeLock s.epoch client id r.taskName) with
          | (.ok _, u) => (.ok ⟨s.epoch, id, some client, s.lifecycle.links⟩, u)
          | (.error f, u) => (.error f, u) := by
  rw [prepare, perform_get_bind]
  cases lockClient? s.lifecycle r with
  | error f => rfl
  | ok lock =>
    rw [perform_bind_of_ok (perform_liftM _ s), perform_bind]
    rcases s.perform (create s.epoch (some r.taskName) r.parentId r.externalId) with
      ⟨f | ⟨id, e⟩, t⟩
    · rfl
    · cases lock with
      | none => rfl
      | some client =>
        dsimp only
        rw [perform_bind]
        rcases t.perform (takeLock s.epoch client id r.taskName) with ⟨f | v, u⟩ <;> rfl

theorem run_createMove (r : LaunchRequest) (s : Session) :
    (createMove r s).run s =
      (s.perform (create s.epoch (some r.taskName) r.parentId r.externalId)).2 :=
  perform_map_snd _ _ s

theorem runAll_prepareMoves (r : LaunchRequest) (s : Session) :
    Move.runAll (prepareMoves r s) s = (s.perform (prepare r)).2 := by
  rw [perform_prepare, prepareMoves]
  cases lockClient? s.lifecycle r with
  | error f => rfl
  | ok lock =>
    dsimp only
    rw [Move.runAll_cons, run_createMove]
    rcases s.perform (create s.epoch (some r.taskName) r.parentId r.externalId) with
      ⟨f | ⟨id, e⟩, t⟩
    · rfl
    · cases lock with
      | none => rfl
      | some client =>
        dsimp only
        rw [runAll_lockMoves]
        rcases t.perform (takeLock s.epoch client id r.taskName) with ⟨f | v, u⟩ <;> rfl

section
variable {body : Running → Session → BodyOutcome ρ × Session}
  {bodyMoves : Running → Session → List Move}

theorem run_startMove (p : Prepared) (r : LaunchRequest) (s : Session) :
    (startMove p r s).run s = (s.perform (startTask p r)).2 := by
  rw [startTask, perform_get_bind, perform_map_snd]
  exact perform_map_snd _ _ s

theorem run_completeMove (p : Prepared) (b : BodyOutcome ρ) (s : Session) :
    (completeMove p b s).run s =
      (s.perform (completeTask p b.running.exitMessage b.fault)).2 := by
  rw [completeTask, perform_get_bind, perform_map_snd]
  exact perform_map_snd _ _ s

theorem runAll_enterMoves (p : Prepared) (r : LaunchRequest)
    (hbody : ∀ running t, Move.runAll (bodyMoves running t) t = (body running t).2) (s : Session) :
    Move.runAll (enterMoves p r body bodyMoves s) s = (enter p r body s).2 := by
  rw [enterMoves, enter, Move.runAll_cons, run_startMove]
  rcases s.perform (startTask p r) with ⟨f | running, t⟩
  · rfl
  · dsimp only
    rw [Move.runAll_append, hbody]
    rcases body running t with ⟨b, u⟩
    dsimp only
    rw [Move.runAll_cons, run_completeMove]
    rcases u.perform (completeTask p b.running.exitMessage b.fault) with ⟨f | v, w⟩ <;> rfl

theorem runAll_giveBackMoves (p : Prepared) (taskName : String) (s : Session) :
    Move.runAll (giveBackMoves p taskName) s = (s.perform (giveBack p taskName)).2 := by
  rw [giveBackMoves, giveBack]
  cases p.lock with
  | none => rfl
  | some client =>
    dsimp only
    rw [perform_map_snd]
    exact perform_map_snd _ _ s

theorem runAll_moves (r : LaunchRequest)
    (hbody : ∀ running t, Move.runAll (bodyMoves running t) t = (body running t).2) (s : Session) :
    Move.runAll (moves r body bodyMoves s) s = (launch r body s).2 := by
  rw [moves, launch, Move.runAll_append, runAll_prepareMoves]
  rcases s.perform (prepare r) with ⟨f | p, t⟩
  · rfl
  · dsimp only
    rw [Move.runAll_append, runAll_enterMoves p r hbody, runAll_giveBackMoves]
    rcases enter p r body t with ⟨o, u⟩
    dsimp only
    rcases u.perform (giveBack p r.taskName) with ⟨f | v, w⟩ <;> rfl

end

end Launch

theorem Action.runAll_moves (a : Action) (running : Running) (s : Session) :
    Move.runAll (a.moves running) s = (a.run running s).2.2 := by
  cases a with
  | linkJob jobId =>
    rw [Action.moves, Action.run, Running.linkJob]
    cases running.links with
    | none => rfl
    | some store => rfl
  | _ => rfl

namespace Body

theorem after_snd (report : Report) (ends : Bool) (running : Running) (s : Session)
    (rest : Running → Session → BodyOutcome (List Report) × Session) :
    (after report ends running s rest).2 =
      if report.endsBody ends then s else (rest running s).2 := by
  unfold after Report.endsBody
  cases report.fault? <;> cases ends <;> rfl

/-- A body makes its moves. -/
theorem runAll_moves (body : Body) (running : Running) (s : Session) :
    Move.runAll (body.moves running s) s = (body.run running s).2 := by
  -- for all states, as each step of the body hands on another one
  induction body generalizing running s with
  | done => rfl
  | act a passesOn rest ih =>
    rw [moves, run, after_snd, Move.runAll_cons, Move.runAll_append]
    rw [Move.run, Action.runAll_moves]
    split
    · rfl
    · exact ih _ _
  | launch r passesOn body rest ihBody ih =>
    rw [moves, run, after_snd, Move.runAll_cons, Move.runAll_cons, Move.runAll_append]
    rw [Move.run, Move.run, Launch.runAll_moves r ihBody]
    split
    · rfl
    · exact ih _ _

end Body

namespace Step

theorem runAll_moves (step : Step) (s : Session) :
    Move.runAll (step.moves s) s = (step.run s).2 := by
  cases step with
  | call c =>
    rw [moves, run, Move.runAll_cons, Move.run]
    generalize s.tick = t
    rfl
  | launch r body =>
    rw [moves, run, Move.runAll_cons, Move.runAll_cons, Move.run, Move.run]
    exact Launch.runAll_moves r (Body.runAll_moves body) s.tick

/-- Steps make their moves. -/
theorem runAll_movesOfAll (steps : List Step) (s : Session) :
    Move.runAll (movesOfAll steps s) s = (Step.runAll steps s).2 := by
  induction steps generalizing s with
  | nil => rfl
  | cons step steps ih =>
    rw [movesOfAll, Move.runAll_append, runAll_moves, ih]
    rfl

theorem movesOfAll_append (first later : List Step) (s : Session) :
    movesOfAll (first ++ later) s =
      movesOfAll first s ++ movesOfAll later (Step.runAll first s).2 := by
  induction first generalizing s with
  | nil => rfl
  | cons step first ih =>
    rw [List.cons_append, movesOfAll, movesOfAll, ih, List.append_assoc]
    rfl

end Step

end RunLedger
