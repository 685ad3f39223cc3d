import RunLedger.Proofs.Run.Move
import RunLedger.Proofs.Session.Success

/-!
# Preparing a launch

Between the creation of its execution and the start a launch may take its task's lock.  Where the
lock is held the launch completes its own execution as failed and goes no further; where it is free
the launch holds it from then on.

    prepare succeeds → the execution was created and the lock, if any, was taken   (prepare_ok)
    the lock is held → prepare fails and no lock row changes                       (prepare_of_held)
    the lock is free → one row is put behind the others                            (prepare_of_free)
-/

namespace RunLedger.Launch

open Session SessionM

variable {s t u : Session} {r : LaunchRequest} {client : LockClient} {id : Int}

/-- The name and the numbers of a launch's execution as it is created. -/
def creation (r : LaunchRequest) (s : Session) : SessionM (Int × Execution) :=
  create s.epoch (some r.taskName) r.parentId r.externalId

theorem takeLock_ok {epoch : Nat} {id : Int} {taskName : String} {v : Unit}
    (h : s.perform (takeLock epoch client id taskName) = (.ok v, u)) :
    s.perform (acquire epoch client taskName none) = (.ok (), u) := by
  rw [perform_takeLock] at h
  split at h
  · dsimp only at h
    split at h
    · cases h
    · cases h
  · exact h

theorem prepare_ok {p : Prepared} (h : s.perform (prepare r) = (.ok p, t)) :
    lockClient? s.lifecycle r = .ok p.lock ∧ p.epoch = s.epoch ∧
      ∃ e u, s.perform (creation r s) = (.ok (p.id, e), u) ∧
        match p.lock with
        | none => t = u
        | some client => u.perform (acquire s.epoch client r.taskName none) = (.ok (), t) := by
  rw [perform_prepare] at h
  unfold creation
  cases hlock : lockClient? s.lifecycle r with
  | error f =>
    rw [hlock] at h
    cases h
  | ok lock =>
    rw [hlock] at h
    dsimp only at h
    rcases hc : s.perform (create s.epoch (some r.taskName) r.parentId r.externalId) with
      ⟨f | ⟨id, e⟩, u⟩
    · rw [hc] at h
      cases h
    · rw [hc] at h
      cases lock with
      | none =>
        cases h
        exact ⟨rfl, rfl, e, _, rfl, rfl⟩
      | some client =>
        dsimp only at h
        rcases ht : u.perform (takeLock s.epoch client id r.taskName) with ⟨f | v, w⟩
        · rw [ht] at h
          cases h
        · rw [ht] at h
          cases h
          exact ⟨rfl, rfl, e, u, rfl, takeLock_ok ht⟩

/-! ## After the creation -/

/-- The row of a launch's execution as it is created. -/
def createdAs (r : LaunchRequest) (id : Int) (now : Instant) : ExecutionRow :=
  { Recording.createdRow (some now) (some r.taskName) r.parentId r.externalId with id := some id }

/-- The session once the execution of a launch is created. -/
structure Created (r : LaunchRequest) (s : Session) (id : Int) (u : Session) : Prop where
  framed : Framed s u
  isAt : u.isAt s.epoch = true
  isKept : u.ledger.IsKept
  lockRows : u.ledger.lockRows = s.ledger.lockRows
  holds : Signed64.holds id = true
  parent : ∀ i ∈ r.parentId, Signed64.holds i = true
  next : id = s.ledger.lastId + 1
  row : ∃ now, s.clock.toInstant = .ok now ∧
    u.ledger = (s.ledger.mapExecutions (· ++ [createdAs r id now])).withLastId id

theorem rowsOf_next {l : Ledger} (hk : l.IsKept) : l.rowsOf (l.lastId + 1) = [] := by
  rw [Ledger.rowsOf, List.filter_eq_nil_iff]
  intro r hr he
  have hle := hk.id_le r hr (l.lastId + 1) (by simpa using he)
  omega

/-- The new execution is the only one of its number. -/
theorem Created.rowsOf (h : Created r s id u) (hk : s.ledger.IsKept) :
    ∃ now, s.clock.toInstant = .ok now ∧ u.ledger.rowsOf id = [createdAs r id now] := by
  obtain ⟨now, hnow, hledger⟩ := h.row
  refine ⟨now, hnow, ?_⟩
  rw [hledger]
  refine (hk.isMade.rowsOf_append _).trans ?_
  rw [h.next, rowsOf_next hk]
  exact if_pos rfl

theorem isAt_of_created {made : Int × Execution}
    (h : s.perform (creation r s) = (.ok made, u)) : s.isAt s.epoch = true := by
  rw [creation, create, perform_get_bind] at h
  obtain ⟨made', t, ht, -⟩ := perform_bind_ok_iff.1 h
  exact (perform_transact_ok ht).1

theorem created_of_ok (hk : s.ledger.IsKept) {e : Execution}
    (h : s.perform (creation r s) = (.ok (id, e), u)) : Created r s id u := by
  obtain ⟨now, hnow, -, hholds, hfits, hledger⟩ := Write.create_ok hk.isMade h
  have hframed : Framed s u := by
    have hcall : Framed s (s.perform (creation r s)).2 := Write.create_isFramed _ _ _ s
    rwa [h] at hcall
  exact {
    framed := hframed
    isAt := by rw [hframed.isAt, isAt_of_created h]
    isKept := hledger ▸ hk.apply hfits
    lockRows := by
      rw [hledger]
      exact Deed.lockRows_apply _ rfl _
    holds := hholds
    parent := Write.create_parent hk.isMade h
    next := hfits.1
    row := ⟨now, hnow, hledger⟩ }

/-- What is said in both messages of an execution that a held lock keeps from starting. -/
def heldText (taskName : String) : String :=
  (Failure.alreadyHeld taskName (lockKey taskName)).message

/-- Where the lock is held the launch completes what it created. -/
theorem perform_takeLock_of_held {epoch : Nat} {taskName : String} (hk : s.ledger.IsKept)
    (hc : Created r s id u) (hat : u.isAt epoch = true) (hname : taskName ≠ "")
    (hheld : u.ledger.isHeld (lockKey taskName) client.region = true) :
    ∃ now v, u.perform (takeLock epoch client id taskName) =
        (.error (.alreadyHeld taskName (lockKey taskName)), v) ∧
      v.ledger = (Deed.complete now now
        ⟨id, 1, some (heldText taskName), some (heldText taskName)⟩).apply u.ledger ∧
      SameSetup u v := by
  obtain ⟨now, hclock, hrow⟩ := hc.rowsOf hk
  have hnow : u.clock.toInstant = .ok now := hc.framed.clock.symm ▸ hclock
  rw [perform_takeLock, Write.perform_acquire none hname, perform_transact hat,
    Lock.commit_acquire hc.isKept.isMade hnow, if_pos hheld]
  obtain ⟨t, ht⟩ : ∃ t, t = (u.setLedger u.ledger).logging
    (lockEvent "lock_contended" .info client.region taskName) := ⟨_, rfl⟩
  have hledger : (t.logging (blockedEvent id taskName)).ledger = u.ledger := by
    rw [ht]
    exact ledger_setLedger u u.ledger
  have hframed : Framed u (t.logging (blockedEvent id taskName)) := by
    rw [ht]
    exact ((Framed.setLedger u u.ledger).trans (Framed.logging _ _)).trans (Framed.logging _ _)
  have hend : ∀ start ∈ (createdAs r id now).startTime, start ≤ now := by
    intro start hstart
    cases hstart
  obtain ⟨e, event, hcomplete⟩ := perform_complete (.code 1) (some (heldText taskName))
    (some (heldText taskName)) ((hframed.isAt epoch).trans hat) (hledger.symm ▸ hc.isKept.isMade)
    (hframed.clock.symm ▸ hnow) hc.holds
    (hledger.symm ▸ Deed.rowOf_of_rowsOf hrow) hend
    (show Signed64.holds (ExitStatus.code 1).toInt = true by decide)
  have hsame : (t.logging (blockedEvent id taskName)).clock = t.clock := rfl
  rw [hsame] at hcomplete
  refine ⟨now, _, ?_, (ledger_doing _ _ _).trans (congrArg _ hledger),
    hframed.toSameSetup.trans (framed_doing _ event _).toSameSetup⟩
  dsimp only
  rw [← ht]
  dsimp only [heldText] at hcomplete
  rw [hcomplete]
  rfl

theorem perform_prepare_of_noLock (hlock : lockClient? s.lifecycle r = .ok none) {e : Execution}
    (hc : s.perform (creation r s) = (.ok (id, e), u)) :
    s.perform (prepare r) = (.ok ⟨s.epoch, id, none, s.lifecycle.links⟩, u) := by
  unfold creation at hc
  rw [perform_prepare, hlock]
  dsimp only
  rw [hc]

theorem perform_prepare_of_lock (hlock : lockClient? s.lifecycle r = .ok (some client))
    {e : Execution} (hc : s.perform (creation r s) = (.ok (id, e), u)) :
    s.perform (prepare r) = match u.perform (takeLock s.epoch client id r.taskName) with
      | (.ok _, v) => (.ok ⟨s.epoch, id, some client, s.lifecycle.links⟩, v)
      | (.error f, v) => (.error f, v) := by
  unfold creation at hc
  have hprepare := perform_prepare r s
  rw [hlock] at hprepare
  dsimp only at hprepare
  rw [hc] at hprepare
  exact hprepare

/-! ## Where the lock is held -/

theorem perform_takeLock_of_free (id : Int) {epoch : Nat} {taskName : String}
    (hm : u.ledger.IsMade) (hat : u.isAt epoch = true) {now : Instant}
    (hnow : u.clock.toInstant = .ok now) (hname : taskName ≠ "")
    (hfree : u.ledger.isHeld (lockKey taskName) client.region = false) :
    ∃ v, u.perform (takeLock epoch client id taskName) = (.ok (), v) ∧
      v.ledger = (Deed.acquire
        (Lock.heldRow now client.region taskName client.clientId)).apply u.ledger := by
  rw [perform_takeLock, Write.perform_acquire none hname, perform_transact hat,
    Lock.commit_acquire hm hnow, if_neg (by rw [hfree]; decide)]
  exact ⟨_, rfl, ledger_setLedger u _⟩

/-- Where the lock is free the launch takes it. -/
theorem prepare_of_free (hk : s.ledger.IsKept)
    (hlock : lockClient? s.lifecycle r = .ok (some client)) {e : Execution}
    (hc : s.perform (creation r s) = (.ok (id, e), u)) (hname : r.taskName ≠ "")
    (hfree : s.ledger.isHeld (lockKey r.taskName) client.region = false) :
    ∃ now t, s.clock.toInstant = .ok now ∧
      s.perform (prepare r) = (.ok ⟨s.epoch, id, some client, s.lifecycle.links⟩, t) ∧
      t.ledger.lockRows = s.ledger.lockRows ++
        [Lock.heldRow now client.region r.taskName client.clientId] := by
  have hcreated := created_of_ok hk hc
  obtain ⟨now, hclock, -⟩ := hcreated.row
  have hnow : u.clock.toInstant = .ok now := hcreated.framed.clock.symm ▸ hclock
  have hfree' : u.ledger.isHeld (lockKey r.taskName) client.region = false := by
    rw [Ledger.isHeld, hcreated.lockRows]
    exact hfree
  obtain ⟨t, htake, hledger⟩ :=
    perform_takeLock_of_free id hcreated.isKept.isMade hcreated.isAt hnow hname hfree'
  refine ⟨now, t, hclock, ?_, ?_⟩
  · rw [perform_prepare_of_lock hlock hc, htake]
  · rw [hledger, Deed.apply, hcreated.isKept.isMade.lockRows_mapLocks, hcreated.lockRows]

theorem perform_giveBack_of_noLock {p : Prepared} (hp : p.lock = none) (taskName : String)
    (s : Session) : s.perform (giveBack p taskName) = (.ok (), s) := by
  rw [giveBack, hp]
  rfl

theorem perform_giveBack_of_lock {p : Prepared} (hat : s.isAt p.epoch = true)
    (hm : s.ledger.IsMade) (hp : p.lock = some client) (taskName : String) :
    ∃ event, s.perform (giveBack p taskName) =
      (.ok (), s.doing (.release (lockKey taskName) client.region) event) := by
  obtain ⟨event, hrelease⟩ := perform_release client hat hm taskName
  refine ⟨event, ?_⟩
  rw [giveBack, hp]
  exact perform_bind_of_ok hrelease

end RunLedger.Launch
