import RunLedger.Proofs.Command.Rows
import RunLedger.Proofs.Run.Reopening
import RunLedger.Proofs.Session.Links
import RunLedger.Proofs.Session.Success

/-!
# What commands do and tell

A command leaves all rows of all ledgers, but for the lock that it may be asked to give back.  Where
its settings lead to a ledger that was made, it tells whether that lock was held; and it shows an
execution just where a look-up finds it.

    Reaches env clock args disk s operation place q → (disk.ledgerAt place q).IsMade →
      the outcome is that of the operation on just this ledger           (Reaches.exists_session)
    run_effects : the rows that a command leaves, what it says of a lock, and when it shows an
      execution
-/

namespace RunLedger

open Session SessionM Ledger

namespace Session

theorem isAt_of_fresh {plan : Plan} {clock : Timestamp} {disk d : Disk} {o : Opening} {s : Session}
    (h : fresh plan clock disk o = (.ok s, d)) : s.isAt 0 = true := by
  obtain ⟨handle, hopen, rfl⟩ := fresh_ok h
  have hisOpen : handle.isOpen = true := by
    unfold openHandle at hopen
    split at hopen
    · cases hopen
    · next place dialect _ =>
      dsimp only at hopen
      generalize (if place = .memory then Database.empty else disk.get place).openLedger plan.url
        o.tablePrefix o.createTables = made at hopen
      obtain ⟨f | u, db⟩ := made
      · cases hopen
      · cases hopen
        rfl
  exact hisOpen

/-- The first opening of a session answers the jobs that its ledger has links for. -/
theorem perform_jobsOf_ledger {s : Session} (hlinks : s.plan.links = .ledger)
    (hat : s.isAt 0 = true) (hm : s.ledger.IsMade) {id : Int} (hid : Signed64.holds id = true) :
    ∃ t, s.perform (jobsOf id) = (.ok (Link.jobsAmong s.ledger.linkRows id), t) := by
  have hepoch : s.epoch = 0 := of_decide_eq_true (Bool.and_eq_true_iff.1 hat).1
  rw [jobsOf, perform_get_bind, hlinks]
  dsimp only
  rw [hepoch, perform_transact hat, Link.commit_jobsOf hm, if_pos hid]
  exact ⟨_, rfl⟩

end Session

namespace Command

variable {env : Environment} {clock : Timestamp} {args : List String} {disk : Disk} {s : Settings}
  {operation : Operation} {place : Location} {q : String}

/-- A command that reaches a ledger which was made works on it as it is, and its outcome is that of
the operation. -/
theorem Reaches.exists_session (h : Reaches env clock args disk s operation place q)
    (hm : (disk.ledgerAt place q).IsMade) :
    ∃ session : Session, session.isAt 0 = true ∧ session.plan = plan s ∧
      session.ledger = disk.ledgerAt place q ∧
      (run env clock args disk).2.ledgerAt place q =
        (session.perform (carryOut s.lockRegion operation)).2.disk.ledgerAt place q ∧
      session.leadsTo place q ∧
      ∃ lines, (run env clock args disk).1 =
        match (session.perform (carryOut s.lockRegion operation)).1 with
        | .ok report => .reported lines report
        | .error f => .failed lines f := by
  obtain ⟨i, loggers, hargs, rfl, hresolved⟩ := h.asked
  obtain ⟨session, d, hopen, hleads⟩ := h.leads
  have hrun : run env clock args disk = operate s loggers i.operation clock disk := by
    rw [run, hargs]
    dsimp only
    rw [invoke, hresolved]
  refine ⟨session, isAt_of_fresh hopen, ?_, ?_, ?_, hleads, ?_⟩
  · obtain ⟨handle, -, rfl⟩ := fresh_ok hopen
    rfl
  · rw [← opened_ledgerAt hopen h.isFile hm, ledger_of_leadsTo hleads (SameSetup.refl session)]
  · rw [hrun, operate_snd, withMemoryOf_of_ne h.isFile, operated, hopen]
  · rw [hrun]
    exact ⟨_, operate_fst hopen loggers i.operation⟩

/-- Giving back a lock takes away the rows of its key and region, and says whether there were
any. -/
theorem Reaches.run_release {taskName : String}
    (h : Reaches env clock args disk s (.lockRelease taskName) place q)
    (hm : (disk.ledgerAt place q).IsMade) :
    LosesLock (lockKey taskName) s.lockRegion (disk.ledgerAt place q)
        ((run env clock args disk).2.ledgerAt place q) ∧
      ∃ lines, (run env clock args disk).1 = .reported lines (.ofLines [releaseLine taskName
        ((disk.ledgerAt place q).isHeld (lockKey taskName) s.lockRegion)]) := by
  obtain ⟨session, hat, -, hledger, hdisk, hleads, lines, hrun⟩ := h.exists_session hm
  obtain ⟨event, hperform⟩ := perform_release ⟨s.lockRegion, ""⟩ hat (hledger ▸ hm) taskName
  have hcarry : session.perform (carryOut s.lockRegion (.lockRelease taskName)) = (.ok _, _) :=
    perform_bind_of_ok hperform
  rw [hcarry] at hrun hdisk
  rw [hledger] at hrun
  refine ⟨?_, lines, hrun⟩
  have hsame := (framed_doing (.release (lockKey taskName) s.lockRegion) event session).toSameSetup
  rw [hdisk]
  dsimp only
  rw [ledger_of_leadsTo hleads hsame, ledger_doing, hledger]
  exact .of_release _ _ _

theorem status_failed (logged : List Char) (f : Failure) :
    (Outcome.failed logged f).status = 1 := by
  unfold Outcome.failed
  split <;> rfl

/-- An execution is shown just where a look-up in the ledger finds it. -/
theorem Reaches.run_detail {id : Int} {json : Bool}
    (h : Reaches env clock args disk s (.detail id json) place q)
    (hm : (disk.ledgerAt place q).IsMade) (hid : Signed64.holds id = true) :
    (run env clock args disk).1.status = 0 ↔
      ∃ e, (Reading.find? id).commit (disk.ledgerAt place q) =
        (.ok (some e), disk.ledgerAt place q) := by
  obtain ⟨session, hat, hplan, hledger, -, -, lines, hrun⟩ := h.exists_session hm
  rw [← hledger] at hm ⊢
  have hread := (Reading.find?_isReading id).commit session.ledger
  rw [hrun, carryOut, perform_bind, perform_transact hat]
  rcases hfound : (Reading.find? id).commit session.ledger with ⟨f | found, l⟩
  · dsimp only
    rw [status_failed]
    simp
  · rw [hfound] at hread
    obtain rfl : l = session.ledger := hread
    cases found with
    | none =>
      dsimp only [perform_throw]
      rw [status_failed]
      simp
    | some e =>
      have hmade : (session.setLedger session.ledger).ledger.IsMade := by
        rw [ledger_setLedger]
        exact hm
      -- of an execution that was found the jobs can be looked up, and nothing fails from here on
      obtain ⟨t, hjobs⟩ := perform_jobsOf_ledger (by exact congrArg Plan.links hplan)
        (s := session.setLedger session.ledger) hat hmade hid
      dsimp only
      rw [perform_bind_of_ok hjobs]
      exact iff_of_true rfl ⟨e, rfl⟩

/-- Whatever the arguments are, whatever settings they lead to and however it ends, a command leaves
all rows of all ledgers and the numbers that they gave out last, but for a lock that it is asked to
give back: then at most the row of that lock, in the region and the ledger of its settings, is taken
away.  Where the settings lead to a ledger that was made, this is done and what is said is whether
the row was there; and an execution is shown just where a look-up finds it, in whatever session of
that ledger.  The ledger that an opening made in a file stays one that was made through every run,
and no lock has two rows in any state that a run passes through. -/
theorem run_effects :
    (∀ (env : Environment) (clock : Timestamp) (args : List String) (disk : Disk)
      (place : Location) (q : String), let l := disk.ledgerAt place q
      let m := (run env clock args disk).2.ledgerAt place q
      SameRows l m ∨ ∃ s taskName, Reaches env clock args disk s (.lockRelease taskName) place q ∧
        LosesLock (lockKey taskName) s.lockRegion l m ∧
          ((l.locksOf (lockKey taskName) s.lockRegion).length ≤ 1 →
            l.lockRows.length ≤ m.lockRows.length + 1)) ∧
    (∀ (env : Environment) (clock : Timestamp) (args : List String) (disk : Disk) (s : Settings)
      (operation : Operation) (place : Location) (q : String),
      Reaches env clock args disk s operation place q → (disk.ledgerAt place q).IsMade →
        let l := disk.ledgerAt place q
        let outcome := (run env clock args disk).1
        (∀ taskName, operation = .lockRelease taskName →
          LosesLock (lockKey taskName) s.lockRegion l
            ((run env clock args disk).2.ledgerAt place q) ∧
          ∃ lines, outcome = .reported lines
            (.ofLines [releaseLine taskName (l.isHeld (lockKey taskName) s.lockRegion)])) ∧
        ∀ id json, operation = .detail id json → Signed64.holds id = true →
          ∀ v : Session, v.isAt v.epoch = true → v.ledger = l →
            (outcome.status = 0 ↔
              ∃ e, (v.perform (Call.find id).run).1 = .ok (.execution (some e)))) ∧
    (∀ (plan : Plan) (clock : Timestamp) (disk d : Disk) (o : Opening) (s : Session),
      Session.fresh plan clock disk o = (.ok s, d) → o.createTables = true →
        s.handle.place ≠ .memory → disk.get s.handle.place = .empty → ∀ steps : List Step,
          (∀ step ∈ steps, step.callsAll Call.keepsTables = true) → ∀ u ds,
            Step.Passes steps s u ds →
              (u.disk.ledgerAt s.handle.place o.tablePrefix).IsMade) ∧
    ∀ s : Session, s.StartsEmpty → ∀ steps : List Step,
      (∀ step ∈ steps, step.callsAll Call.isRegular = true) → ∀ u ds, Step.Passes steps s u ds →
        ∀ key region, (u.ledger.locksOf key region).length ≤ 1 := by
  refine ⟨fun env clock args disk place q => ?_, fun env clock args disk s operation place q h hm =>
    ⟨?_, ?_⟩, ?_, ?_⟩
  · rcases run_effect env clock args disk place q with hsame | ⟨s, taskName, hreaches, hless⟩
    · exact .inl hsame
    · refine .inr ⟨s, taskName, hreaches, hless, fun honce => ?_⟩
      rw [hless.length_lockRows]
      omega
  · rintro taskName rfl
    exact h.run_release hm
  · rintro id json rfl hid v hat hledger
    rw [h.run_detail hm hid, ← hledger]
    exact exists_congr fun e => (Call.perform_find hat).symm
  · intro plan clock disk d o s hfresh hcreate hfile hempty steps hsteps u ds hu
    exact (hu.keepsMade hsteps hfile (keepsMade_of_fresh hfresh hcreate hfile hempty)).isMade
  · intro s hs steps hsteps u ds hu key region
    exact (hu.guards hs hsteps key region).length_rows

/-- A ledger with one execution that was created and the lock of its task. -/
def lockedLedger : Ledger :=
  (Deed.acquire (Lock.heldRow Instant.first defaultLockRegion "t" "client")).apply
    ((Deed.create 1 Instant.first (some "t") none none).apply (Ledger.made "task_"))

/-- A disk with this ledger in one file. -/
def lockedDisk : Disk := ⟨[(.file "db", ⟨[("task_", lockedLedger)], []⟩)], []⟩

theorem reaches_lockedDisk {clock : Timestamp} {args : List String} {operation : Operation}
    (hargs : Request.ofArguments args =
      .invoke ⟨none, some filePlan.url, false, false, operation⟩) :
    Reaches [] clock args lockedDisk { Settings.default with url := filePlan.url } operation
      (.file "db") "task_" where
  isFile := nofun
  leads := by
    have hopen : (⟨[("task_", lockedLedger)], []⟩ : Database).openLedger filePlan.url "task_" true =
        (.ok (), ⟨[("task_", lockedLedger)], []⟩) := rfl
    exact ⟨_, _, fresh_of_target (target_filePlan _) hopen, rfl, rfl⟩
  asked := ⟨_, _, hargs, rfl, rfl⟩

/-- A command gives back the lock that a ledger holds, and another one shows its execution. -/
theorem run_effects_locked :
    let now := Instant.first.toUtc
    let release := run [] now ["--url", "sqlite:///db", "lock", "release", "t"] lockedDisk
    (∃ lines, release.1 = .reported lines (.ofLines ["Released lock for t."])) ∧
      (release.2.ledgerAt (.file "db") "task_").lockRows = [] ∧
      SameRecords lockedLedger (release.2.ledgerAt (.file "db") "task_") ∧
      (run [] now ["--url", "sqlite:///db", "executions", "show", "1"] lockedDisk).1.status = 0 := by
  intro now release
  obtain ⟨-, hreached, -⟩ := run_effects
  have hledger : lockedDisk.ledgerAt (.file "db") "task_" = lockedLedger := rfl
  have hm : (lockedDisk.ledgerAt (.file "db") "task_").IsMade := by
    rw [hledger]
    exact ((Ledger.IsMade.made "task_").apply _).apply _
  have hrows : lockedLedger.lockRows =
      [Lock.heldRow Instant.first defaultLockRegion "t" "client"] := rfl
  have hfor : Lock.isFor (lockKey "t") defaultLockRegion
      (Lock.heldRow Instant.first defaultLockRegion "t" "client") = true :=
    Lock.isFor_heldRow _ _ _ _
  have hheld : lockedLedger.isHeld (lockKey "t") defaultLockRegion = true := by
    rw [isHeld, hrows, List.any_cons, hfor, Bool.true_or]
  have hasksRelease : Reaches [] now ["--url", "sqlite:///db", "lock", "release", "t"] lockedDisk _
      (.lockRelease "t") (.file "db") "task_" := reaches_lockedDisk (by decide +kernel)
  have hasksShow : Reaches [] now ["--url", "sqlite:///db", "executions", "show", "1"] lockedDisk _
      (.detail 1 false) (.file "db") "task_" := reaches_lockedDisk (by decide +kernel)
  obtain ⟨hless, lines, hsays⟩ := (hreached _ _ _ _ _ _ _ _ hasksRelease hm).1 "t" rfl
  have hshow := (hreached _ _ _ _ _ _ _ _ hasksShow hm).2 1 false rfl (by decide)
  rw [hledger] at hless hsays hshow
  refine ⟨⟨lines, ?_⟩, ?_, hless.toSameRecords, ?_⟩
  · have hlock : ({ Settings.default with url := filePlan.url } : Settings).lockRegion =
      defaultLockRegion := rfl
    rw [hlock, hheld] at hsays
    exact hsays
  · have hlocks : (release.2.ledgerAt (.file "db") "task_").lockRows =
        lockedLedger.lockRows.filter fun r => !Lock.isFor (lockKey "t") defaultLockRegion r :=
      hless.locks
    rw [hlocks, hrows, List.filter_cons, hfor]
    rfl
  · let v := Session.ofHandle filePlan now lockedDisk
      ⟨.file "db", filePlan.url, "task_", .sqlite, true⟩
    have hv : v.ledger = lockedLedger := hledger
    have hrow : v.ledger.rowsOf 1 =
        [{ Recording.createdRow (some Instant.first) (some "t") none none with id := some 1 }] := by
      rw [hv]
      rfl
    have hfind : (v.perform (Call.find 1).run).1 = .ok (.execution (some _)) :=
      Call.perform_find_of_row rfl (hv ▸ hm) (by decide) hrow rfl
    exact (hshow v rfl hv).2 ⟨_, hfind⟩

end Command

end RunLedger
