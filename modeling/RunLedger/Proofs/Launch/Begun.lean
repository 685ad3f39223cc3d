import RunLedger.Proofs.History.Life
import RunLedger.Proofs.Launch.SingleInstance

/-!
# Where the body of a launch begins

Before its body begins a launch has put one execution behind those that were there, has taken its
lock if it takes one, and has started the execution with the name and the parameters that it was
asked for.  With a name, a start of what was just created does not fail.

    Registered r s p now t → startTask p r leads from t to u → Begun r s running now u
                                                                      (begun_of_startTask)
    Registered r s p now t → r has a name → startTask p r succeeds    (exists_startTask)
-/

namespace RunLedger

theorem Session.StartsEmpty.isOrderly {s : Session} (h : s.StartsEmpty) : s.ledger.IsOrderly := by
  rw [h.ledger]
  exact (Ledger.IsSound.made _).isOrderly

namespace Launch

open Session SessionM

variable {s t u : Session} {r : LaunchRequest} {p : Prepared} {now : Instant} {running : Running}

/-- The lock row that a launch takes, if it takes one. -/
def ownLock (r : LaunchRequest) (p : Prepared) (now : Instant) : Option LockRow :=
  p.lock.map fun client => Lock.heldRow now client.region r.taskName client.clientId

/-- The session once a launch is prepared. -/
structure Registered (r : LaunchRequest) (s : Session) (p : Prepared) (now : Instant)
    (t : Session) : Prop where
  epoch : p.epoch = s.epoch
  clock : s.clock.toInstant = .ok now
  lock : lockClient? s.lifecycle r = .ok p.lock
  framed : Framed s t
  isAt : t.isAt p.epoch = true
  isKept : t.ledger.IsKept
  holds : Signed64.holds p.id = true
  parent : ∀ i ∈ r.parentId, Signed64.holds i = true
  next : p.id = s.ledger.lastId + 1
  lastId : t.ledger.lastId = p.id
  rows : t.ledger.executionRows = s.ledger.executionRows ++ [createdAs r p.id now]
  parameterRows : t.ledger.parameterRows = s.ledger.parameterRows
  linkRows : t.ledger.linkRows = s.ledger.linkRows
  lockRows : t.ledger.lockRows = s.ledger.lockRows ++ (ownLock r p now).toList
  free : ∀ client ∈ p.lock, s.ledger.isHeld (lockKey r.taskName) client.region = false

theorem registered_of_ok (hk : s.ledger.IsKept) (hp : s.perform (prepare r) = (.ok p, t)) :
    ∃ now, Registered r s p now t := by
  obtain ⟨hlock, hepoch, e, u, hc, htaken⟩ := prepare_ok hp
  have hcreated := created_of_ok hk hc
  obtain ⟨now, hnow, hledger⟩ := hcreated.row
  have hrows : u.ledger.executionRows = s.ledger.executionRows ++ [createdAs r p.id now] := by
    rw [hledger, Ledger.executionRows_withLastId, hk.isMade.executionRows_mapExecutions]
  -- with a lock one call more has been made, which adds its row and leaves all else
  cases hl : p.lock with
  | none =>
    rw [hl] at htaken
    obtain rfl : t = u := htaken
    exact ⟨now, {
      epoch := hepoch, clock := hnow, lock := hlock, framed := hcreated.framed
      isAt := by rw [hepoch, hcreated.isAt]
      isKept := hcreated.isKept, holds := hcreated.holds, parent := hcreated.parent
      next := hcreated.next
      lastId := by rw [hledger]; rfl
      rows := hrows
      parameterRows := by rw [hledger]; rfl
      linkRows := by rw [hledger]; rfl
      lockRows := by rw [hcreated.lockRows, ownLock, hl]; exact (List.append_nil _).symm
      free := fun client hclient => by rw [hl] at hclient; cases hclient }⟩
  | some client =>
    rw [hl] at htaken
    have hacquire : u.perform (acquire s.epoch client r.taskName none) = (.ok (), t) := htaken
    obtain ⟨taken, htime, hfits, hdone⟩ := Write.acquire_ok hcreated.isKept.isMade hacquire
    rw [hcreated.framed.clock] at htime
    cases hnow.symm.trans htime
    have hframed : Framed u t := by
      have hcall : Framed u (u.perform (acquire s.epoch client r.taskName none)).2 :=
        Write.acquire_isFramed client r.taskName none u
      rwa [hacquire] at hcall
    have hfree : u.ledger.isHeld (lockKey r.taskName) client.region = false := hfits
    exact ⟨now, {
      epoch := hepoch, clock := hnow, lock := hlock, framed := hcreated.framed.trans hframed
      isAt := by rw [hepoch, hframed.isAt, hcreated.isAt]
      isKept := hdone ▸ hcreated.isKept.apply hfits
      holds := hcreated.holds, parent := hcreated.parent, next := hcreated.next
      lastId := by rw [hdone, hledger]; rfl
      rows := by rw [hdone]; exact hrows
      parameterRows := by rw [hdone, hledger]; rfl
      linkRows := by rw [hdone, hledger]; rfl
      lockRows := by
        rw [hdone, Deed.apply, hcreated.isKept.isMade.lockRows_mapLocks, hcreated.lockRows,
          ownLock, hl]
        rfl
      free := fun other hother => by
        rw [hl] at hother
        cases hother
        rw [Ledger.isHeld, hcreated.lockRows] at hfree
        exact hfree }⟩

theorem Registered.rowsOf_before (h : Registered r s p now t) (hk : s.ledger.IsKept) :
    s.ledger.executionRows.filter (fun q => q.id = some p.id) = [] := by
  rw [h.next]
  exact rowsOf_next hk

/-- The new execution is the only one of its number. -/
theorem Registered.rowsOf (h : Registered r s p now t) (hk : s.ledger.IsKept) :
    t.ledger.rowsOf p.id = [createdAs r p.id now] := by
  rw [Ledger.rowsOf, h.rows, List.filter_append, h.rowsOf_before hk]
  simp [createdAs]

/-! ## The start -/

/-- What a launch says about its execution when it starts. -/
def startOf (r : LaunchRequest) (id : Int) : Recording.Start :=
  ⟨id, r.taskName, r.parameters, r.externalId, r.parentId⟩

/-- The row of a launch's execution as it is started. -/
def begunAs (r : LaunchRequest) (id : Int) (now : Instant) : ExecutionRow :=
  Recording.startedRow now now (startOf r id) (createdAs r id now)

/-- The session in which the body of a launch begins. -/
structure Begun (r : LaunchRequest) (s : Session) (running : Running) (now : Instant)
    (t : Session) : Prop where
  message : running.exitMessage = none
  framed : Framed s t
  isAt : t.isAt s.epoch = true
  isKept : t.ledger.IsKept
  holds : Signed64.holds running.id = true
  rows : t.ledger.executionRows = s.ledger.executionRows ++ [begunAs r running.id now]
  row : t.ledger.rowsOf running.id = [begunAs r running.id now]
  parameterRows : t.ledger.parameterRows =
    s.ledger.parameterRows ++ Transaction.parameterRows running.id 0 r.parameters
  named : r.taskName ≠ ""

theorem startTask_ok (h : t.perform (startTask p r) = (.ok running, u)) :
    running.epoch = p.epoch ∧ running.id = p.id ∧ running.exitMessage = none ∧
      ∃ e, t.perform (start p.epoch t.clock (startOf r p.id)) = (.ok e, u) := by
  rw [startTask, perform_get_bind] at h
  obtain ⟨e, v, hstart, hrest⟩ := perform_bind_ok_iff.1 h
  cases hrest
  exact ⟨rfl, rfl, rfl, e, hstart⟩

theorem changeAt_append_of_new {id : Int} {change : ExecutionRow → ExecutionRow}
    {rows : List ExecutionRow} {row : ExecutionRow} (hid : row.id = some id)
    (hnew : rows.filter (fun q => q.id = some id) = []) :
    changeAt id change (rows ++ [row]) = rows ++ [change row] := by
  rw [changeAt, List.map_append, List.map_singleton, if_pos hid]
  refine congrArg (· ++ _) ((List.map_congr_left fun q hq => ?_).trans (List.map_id _))
  have hother := List.filter_eq_nil_iff.1 hnew q hq
  exact if_neg (by simpa using hother)

theorem begun_of_startTask (hk : s.ledger.IsKept) (hreg : Registered r s p now t)
    (h : t.perform (startTask p r) = (.ok running, u)) : Begun r s running now u := by
  obtain ⟨-, hid, hmessage, e, hstart⟩ := startTask_ok h
  obtain ⟨stamp, startTime, hstamp, htime, hfits, hledger⟩ := Write.start_ok hstart
  rw [hreg.framed.clock] at hstamp htime
  -- the clock stands still from the creation to the start, so that all stamps are one instant
  cases hreg.clock.symm.trans hstamp
  cases hreg.clock.symm.trans htime
  have hframed : Framed t u := by
    have hcall : Framed t (t.perform (start p.epoch t.clock (startOf r p.id))).2 :=
      Write.start_isFramed t.clock (startOf r p.id) t
    rwa [hstart] at hcall
  have hmade := hreg.isKept.isMade
  refine ⟨hmessage, hreg.framed.trans hframed, ?_, hledger ▸ hreg.isKept.apply hfits,
    hid ▸ hreg.holds, ?_, ?_, ?_, hfits.1⟩
  · rw [← hreg.epoch, hframed.isAt, hreg.isAt]
  · rw [hledger, hid, Deed.apply, Ledger.executionRows_mapParameters,
      hmade.executionRows_mapExecutions, hreg.rows]
    exact changeAt_append_of_new rfl (hreg.rowsOf_before hk)
  · rw [hledger, hid, Deed.rowsOf_apply hreg.isKept hfits (hreg.rowsOf hk), Deed.rewrite]
    exact congrArg (fun row => [row]) (if_pos rfl)
  · rw [hledger, hid, ← hreg.parameterRows]
    exact (hmade.mapExecutions _).parameterRows_mapParameters _

theorem bodyStart?_eq_some (h : bodyStart? r s = some (running, u)) :
    ∃ p t, s.perform (prepare r) = (.ok p, t) ∧ t.perform (startTask p r) = (.ok running, u) := by
  rw [bodyStart?] at h
  rcases hp : s.perform (prepare r) with ⟨f | p, t⟩
  · rw [hp] at h
    cases h
  · rw [hp] at h
    dsimp only at h
    rcases hs : t.perform (startTask p r) with ⟨f | begun, v⟩
    · rw [hs] at h
      cases h
    · rw [hs] at h
      cases h
      exact ⟨p, t, rfl, hs⟩

/-- A launch with a name starts what it has created. -/
theorem exists_startTask (ho : s.ledger.IsOrderly) (hreg : Registered r s p now t)
    (hname : r.taskName ≠ "") :
    ∃ running u, t.perform (startTask p r) = (.ok running, u) := by
  have hnow : t.clock.toInstant = .ok now := hreg.framed.clock.symm ▸ hreg.clock
  have hfree : ∀ q ∈ t.ledger.parameterRows, q.executionId ≠ p.id := by
    intro q hq
    have hle := ho.owner_le q (hreg.parameterRows ▸ hq)
    have hnext := hreg.next
    omega
  obtain ⟨e, event, hstart⟩ := perform_start (r := startOf r p.id) hreg.isAt hreg.isKept.isMade
    hname hnow hnow hreg.holds (Deed.rowOf_of_rowsOf (hreg.rowsOf ho.isKept)) rfl rfl hreg.parent
    hfree
  rw [startTask, perform_get_bind]
  exact ⟨_, _, perform_bind_of_ok hstart⟩

end Launch

end RunLedger
