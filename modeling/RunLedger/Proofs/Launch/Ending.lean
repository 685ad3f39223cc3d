import RunLedger.Proofs.Launch.Record

/-!
# What the end of a launch gives back

A launch gives back a lock only if it has taken it, and then the one of its own task in its own
region: all other lock rows are those at the end of its body.  What it deletes is the row that it
put in, unless the lock was given back in the body; then it is whatever row was put in since.

    the lock rows after launch r body s                                       (launch_releases)
    the lock is given back and taken anew in the body → the launch deletes the new row
                                                                    (launch_releases_another)
-/

namespace RunLedger.Launch

open Session SessionM

variable {s t u v : Session} {r : LaunchRequest} {p : Prepared} {client : LockClient}
  {running : Running}

/-! ## A launch that is refused -/

theorem lockRows_complete (hm : s.ledger.IsMade) (epoch : Nat) (id : Int)
    (status : Option ExitStatus) (time : Timestamp) (exitMessage errorMessage : Option String) :
    (s.perform (complete epoch id status time exitMessage errorMessage)).2.ledger.lockRows =
      s.ledger.lockRows := by
  have hrun : (Move.write epoch (.complete id status time exitMessage errorMessage)).run s =
      (s.perform (complete epoch id status time exitMessage errorMessage)).2 :=
    perform_map_snd _ _ s
  rw [← hrun]
  exact Write.lockRows_run hm rfl

theorem lockRows_takeLock_of_error {epoch : Nat} {id : Int} {taskName : String} {f : Failure}
    (hm : u.ledger.IsMade) (h : u.perform (takeLock epoch client id taskName) = (.error f, v)) :
    v.ledger.lockRows = u.ledger.lockRows := by
  rw [perform_takeLock] at h
  rcases ha : u.perform (acquire epoch client taskName none) with ⟨g | a, w⟩
  · have hsame : w.ledger = u.ledger := Write.acquire_isAtomic _ _ _ u w g ha
    rw [ha] at h
    -- only where the lock is held something more is done, and that is a completion
    cases g with
    | alreadyHeld name key =>
      have hblocked : (w.logging (blockedEvent id taskName)).ledger.IsMade := by
        rw [ledger_logging, hsame]
        exact hm
      have hcomplete := lockRows_complete hblocked epoch id (some (.code 1)) w.clock
        (some (Failure.alreadyHeld name key).message) (some (Failure.alreadyHeld name key).message)
      rw [ledger_logging, hsame] at hcomplete
      dsimp only at h
      split at h
      · next hc =>
        rw [hc] at hcomplete
        cases h
        exact hcomplete
      · next hc =>
        rw [hc] at hcomplete
        cases h
        exact hcomplete
    | _ =>
      cases h
      rw [hsame]
  · rw [ha] at h
    cases h

/-- A launch that does not get as far as its lock has changed no lock row. -/
theorem lockRows_prepare_of_error (hk : s.ledger.IsKept) {f : Failure}
    (h : s.perform (prepare r) = (.error f, t)) : t.ledger.lockRows = s.ledger.lockRows := by
  cases hlock : lockClient? s.lifecycle r with
  | error g =>
    rw [perform_prepare, hlock] at h
    cases h
    rfl
  | ok lock =>
    -- a creation that fails leaves the ledger, and so does a launch without a lock to take
    rcases hc : s.perform (creation r s) with ⟨g | ⟨id, e⟩, u⟩
    · have hsame : u.ledger = s.ledger := Write.create_isAtomic _ _ _ s u g hc
      unfold creation at hc
      rw [perform_prepare, hlock] at h
      dsimp only at h
      rw [hc] at h
      cases h
      rw [hsame]
    · have hcreated := created_of_ok hk hc
      cases lock with
      | none =>
        rw [perform_prepare_of_noLock hlock hc] at h
        cases h
      | some client =>
        rw [perform_prepare_of_lock hlock hc] at h
        rcases ht : u.perform (takeLock s.epoch client id r.taskName) with ⟨g | a, v⟩
        · rw [ht] at h
          cases h
          exact (lockRows_takeLock_of_error hcreated.isKept.isMade ht).trans hcreated.lockRows
        · rw [ht] at h
          cases h

/-! ## Giving back -/

/-- A launch that took the lock deletes the rows of its pair, if the handle is open. -/
theorem lockRows_giveBack {l : Lifecycle} (hm : s.ledger.IsMade)
    (hlock : lockClient? l r = .ok p.lock) :
    (s.perform (giveBack p r.taskName)).2.ledger.lockRows =
      if s.isAt p.epoch then withoutOwn l r s.ledger.lockRows else s.ledger.lockRows := by
  cases hat : s.isAt p.epoch with
  | true =>
    obtain ⟨u, hgive, hu⟩ := perform_giveBack hat hm r.taskName
    rw [hgive, hu.ledger, lockRows_releases hm hlock, if_pos rfl]
  | false =>
    rw [if_neg Bool.false_ne_true]
    cases hp : p.lock with
    | none => rw [perform_giveBack_of_noLock hp]
    | some client =>
      have hrelease : s.perform (release p.epoch client r.taskName) = (.error .databaseClosed, s) :=
        perform_bind_of_error (perform_transact_of_closed hat _)
      rw [giveBack, hp]
      dsimp only
      rw [perform_bind_of_error hrelease]

/-- Without the lock that a launch took the lock rows are those before it. -/
theorem Registered.withoutOwn_lockRows {now : Instant} (h : Registered r s p now t) :
    withoutOwn s.lifecycle r t.ledger.lockRows = s.ledger.lockRows := by
  rw [h.lockRows, withoutOwn, h.lock]
  cases hp : p.lock with
  | none =>
    rw [ownLock, hp]
    exact List.append_nil _
  | some client =>
    have hfree := h.free client hp
    rw [ownLock, hp]
    dsimp only
    rw [Option.map_some, Option.toList_some, othersOf_append_heldRow, othersOf_of_free hfree]

/-- The start of a launch, whatever comes of it, leaves the lock rows and the handle. -/
theorem Registered.ready_startTask {now : Instant} (h : Registered r s p now t) :
    Ready p.epoch t.ledger.lockRows (t.perform (startTask p r)).2 :=
  (Ready.mk h.isKept h.isAt rfl).startTask p r

theorem lockRows_of_unstarted {ρ : Type} {body : Running → Session → BodyOutcome ρ × Session}
    {f : Failure} {now : Instant} (hp : s.perform (prepare r) = (.ok p, t))
    (hreg : Registered r s p now t) (hs : t.perform (startTask p r) = (.error f, u)) :
    (launch r body s).2.ledger.lockRows = s.ledger.lockRows := by
  have hready := hreg.ready_startTask
  rw [hs] at hready
  have henter : (enter p r body t).2 = u := by
    unfold enter
    rw [hs]
  rw [launch_snd hp, henter, lockRows_giveBack hready.isKept.isMade hreg.lock, hready.isAt,
    if_pos rfl, hready.lockRows, hreg.withoutOwn_lockRows]

theorem lockRows_of_started {ρ : Type} {body : Running → Session → BodyOutcome ρ × Session}
    {now : Instant} (hp : s.perform (prepare r) = (.ok p, t)) (hreg : Registered r s p now t)
    (hs : t.perform (startTask p r) = (.ok running, u)) (hk : (body running u).2.ledger.IsKept) :
    (launch r body s).2.ledger.lockRows =
      if (body running u).2.isAt s.epoch then
        withoutOwn s.lifecycle r (body running u).2.ledger.lockRows
      else (body running u).2.ledger.lockRows := by
  have hmove := run_completeMove p (body running u).1 (body running u).2
  have hsame := Move.run_sameSetup (m := completeMove p (body running u).1 (body running u).2) rfl
    (body running u).2
  have hmade := (Move.run_isKept (m := completeMove p (body running u).1 (body running u).2) hk
    rfl).isMade
  have hrows : ((completeMove p (body running u).1 (body running u).2).run
      (body running u).2).ledger.lockRows = (body running u).2.ledger.lockRows :=
    Write.lockRows_run hk.isMade rfl
  rw [launch_snd hp, enter_snd_of_ok hs, ← hmove, lockRows_giveBack hmade hreg.lock, hsame.isAt,
    hrows, hreg.epoch]

/-- A launch that does not reach its body leaves the lock rows as they were. -/
theorem lockRows_of_unbegun {ρ : Type} (hk : s.ledger.IsKept) (hnone : bodyStart? r s = none)
    (body : Running → Session → BodyOutcome ρ × Session) :
    (launch r body s).2.ledger.lockRows = s.ledger.lockRows := by
  rcases hp : s.perform (prepare r) with ⟨f | p, t⟩
  · have hlaunch : (launch r body s).2 = t := by rw [launch, hp]
    rw [hlaunch, lockRows_prepare_of_error hk hp]
  · obtain ⟨now, hreg⟩ := registered_of_ok hk hp
    rcases hs : t.perform (startTask p r) with ⟨f | running, u⟩
    · exact lockRows_of_unstarted hp hreg hs
    · rw [bodyStart?, hp] at hnone
      dsimp only at hnone
      rw [hs] at hnone
      cases hnone

/-! ## The body in between -/

/-- When a body begins there is one lock row more, if the launch takes its lock. -/
theorem Registered.lockRows_begun {now : Instant} (h : Registered r s p now t)
    (hs : t.perform (startTask p r) = (.ok running, u)) :
    u.ledger.lockRows = s.ledger.lockRows ++ (ownLock r p now).toList := by
  have hready := h.ready_startTask
  rw [hs] at hready
  exact hready.lockRows.trans h.lockRows

/-- The rows of a pair at the end of a body, by the last turn of the pair's lock in it. -/
theorem locksOf_body {key region : String} {own : Option LockRow} (hk : t.ledger.IsKept)
    {body : Body} (hbody : body.callsAll Call.isRegular = true) (running : Running)
    (hown : t.ledger.locksOf key region = own.toList) :
    (body.run running t).2.ledger.locksOf key region =
      ((latest (Deed.turnOf key region) (Move.deeds (body.moves running t) t)).getD own).toList := by
  obtain ⟨hfit, hledger⟩ := Move.runAll_history hk (Body.moves_allow hbody running t)
  rw [Body.runAll_moves] at hledger
  rw [hledger]
  exact hfit.locksOf hk.isMade hown

/-- What a launch does to lock rows, in any state of the ledger and around any body.  If the body is
not reached, nothing.  Otherwise the launch has put in one row before the body if it takes its
task's lock, which was free, and none if not.  At the end it deletes the rows of its task's key in
its region, if it took the lock and its handle is open; all other rows are those at the end of the
body.  What it deletes is its own row if the body does nothing to that pair; and else what the last
turn of the pair's lock in the body has left: the row of whoever took it last, or none. -/
theorem launch_releases (hk : s.ledger.IsKept) {body : Body}
    (hbody : body.callsAll Call.isRegular = true) :
    (bodyStart? r s = none →
      (launch r body.run s).2.ledger.lockRows = s.ledger.lockRows) ∧
    ∀ running t, bodyStart? r s = some (running, t) →
      ((launch r body.run s).2.ledger.lockRows =
        if (body.run running t).2.isAt s.epoch then
          withoutOwn s.lifecycle r (body.run running t).2.ledger.lockRows
        else (body.run running t).2.ledger.lockRows) ∧
      (lockClient? s.lifecycle r = .ok none → t.ledger.lockRows = s.ledger.lockRows) ∧
      ∀ client, lockClient? s.lifecycle r = .ok (some client) →
        s.ledger.isHeld (lockKey r.taskName) client.region = false ∧
        ∃ now, s.clock.toInstant = .ok now ∧
          t.ledger.lockRows = s.ledger.lockRows ++
            [Lock.heldRow now client.region r.taskName client.clientId] ∧
          (body.run running t).2.ledger.locksOf (lockKey r.taskName) client.region =
            ((latest (Deed.turnOf (lockKey r.taskName) client.region)
              (Move.deeds (body.moves running t) t)).getD
                (some (Lock.heldRow now client.region r.taskName client.clientId))).toList := by
  refine ⟨fun hnone => lockRows_of_unbegun hk hnone body.run, fun running t hbegin => ?_⟩
  obtain ⟨p, t₀, hp, hs⟩ := bodyStart?_eq_some hbegin
  obtain ⟨now, hreg⟩ := registered_of_ok hk hp
  have hbegun := begun_of_startTask hk hreg hs
  have hrows := hreg.lockRows_begun hs
  refine ⟨lockRows_of_started hp hreg hs (hbegun.goesOn hbody).1, fun hnone => ?_,
    fun client hlock => ?_⟩
  · have hno : p.lock = none := Except.ok.inj (hreg.lock.symm.trans hnone)
    rw [hrows, ownLock, hno]
    exact List.append_nil _
  · have hown : p.lock = some client := Except.ok.inj (hreg.lock.symm.trans hlock)
    rw [ownLock, hown] at hrows
    have hfree := hreg.free client hown
    exact ⟨hfree, now, hreg.clock, hrows, locksOf_body hbegun.isKept hbody running
      (Ledger.locksOf_of_append (Lock.isFor_heldRow _ _ _ _) hfree hrows)⟩

/-- Another client takes the same task's lock in a region of its own: its row stays. -/
theorem launch_releases_own :
    let s := Session.inMemory [⟨"r", some "a"⟩, ⟨"q", some "b"⟩] (.parts true false true)
    let r : LaunchRequest := ⟨"t", [], none, none, none⟩
    let body : Body := .act (.call (.acquire 1 "t" none)) false .done
    ((launch r body.run s).2.ledger.lockRows.map fun row => (row.region, row.clientId)) =
      [("q", "b")] := by
  intro s r body
  have hbegins : (bodyStart? r s).isSome = true := by decide +kernel
  obtain ⟨⟨running, t⟩, hbegin⟩ := Option.isSome_iff_exists.1 hbegins
  have hbody : ∀ b ∈ bodyStart? r s, (body.run b.1 b.2).2.isAt s.epoch = true ∧
      ((withoutOwn s.lifecycle r (body.run b.1 b.2).2.ledger.lockRows).map
        fun row => (row.region, row.clientId)) = [("q", "b")] := by decide +kernel
  obtain ⟨hat, hrows⟩ := hbody (running, t) hbegin
  have hkept : s.ledger.IsKept := (startsEmpty_inMemory _ _).isKept
  obtain ⟨-, hreleases⟩ :=
    launch_releases (r := r) hkept (show body.callsAll Call.isRegular = true from rfl)
  rw [(hreleases running t hbegin).1, if_pos hat]
  exact hrows

/-- The lock is given back in the body and then taken by another client: at its end the launch
deletes that client's row, which it has not put in. -/
theorem launch_releases_another :
    let s := Session.inMemory [⟨"r", some "a"⟩, ⟨"r", some "b"⟩] (.parts true false true)
    let r : LaunchRequest := ⟨"t", [], none, none, none⟩
    let body : Body := .act (.call (.release 0 "t")) false
      (.act (.call (.acquire 1 "t" none)) false .done)
    ((bodyStart? r s).map fun b => (body.run b.1 b.2).2.ledger.lockRows) =
        some [⟨lockKey "t", "r", "b", ⟨2000000, by decide⟩⟩] ∧
      (launch r body.run s).2.ledger.lockRows = [] := by
  decide +kernel

end RunLedger.Launch
