import RunLedger.Proofs.Session.Start

/-!
# Calls that fail are undone

A writing call that fails leaves the tables and the numbering of its ledger as they were, and those
of every other ledger, however far it had come: to the argument check, to the row that it reads, or
to the k-th parameter of a start, when the row is changed and the parameters before are put in.
Answers of writing calls depend on the clock, the openings and the ledger alone, so that whatever is
called later answers as if the failed call had not been made.

    s.perform (w.run epoch) = (.error f, t) →
      t.ledger = s.ledger ∧ Write.outcomes t later = Write.outcomes s later  (Write.undone_of_error)
-/

namespace RunLedger

open Session SessionM

/-! ## Sessions that answer alike -/

/-- Two sessions that a writing call cannot tell apart. -/
structure Session.Alike (s t : Session) : Prop where
  isAt : ∀ epoch, t.isAt epoch = s.isAt epoch
  clock : t.clock = s.clock
  ledger : t.ledger = s.ledger

namespace Session.Alike

variable {s t u : Session}

theorem trans (h : Alike s t) (k : Alike t u) : Alike s u where
  isAt epoch := (k.isAt epoch).trans (h.isAt epoch)
  clock := k.clock.trans h.clock
  ledger := k.ledger.trans h.ledger

theorem symm (h : Alike s t) : Alike t s where
  isAt epoch := (h.isAt epoch).symm
  clock := h.clock.symm
  ledger := h.ledger.symm

theorem of_framed (h : Framed s t) (hledger : t.ledger = s.ledger) : Alike s t where
  isAt := h.toSameSetup.isAt
  clock := h.clock
  ledger := hledger

end Session.Alike

namespace SessionM

variable {α β : Type}

/-- A call that answers alike in sessions that are alike, and leaves them so. -/
def Respects (call : SessionM α) : Prop :=
  ∀ s t, Alike s t →
    (t.perform call).1 = (s.perform call).1 ∧ Alike (s.perform call).2 (t.perform call).2

namespace Respects

theorem pure (a : α) : Respects (Pure.pure a) := fun _ _ h => ⟨rfl, h⟩

theorem throw (f : Failure) : Respects (MonadExcept.throw f : SessionM α) := fun _ _ h => ⟨rfl, h⟩

theorem liftM (r : Except Failure α) : Respects (MonadLiftT.monadLift r : SessionM α) := by
  cases r
  · exact throw _
  · exact pure _

theorem emit (e : LogEvent) : Respects (SessionM.emit e) :=
  fun _ _ h => ⟨rfl, h.isAt, h.clock, h.ledger⟩

theorem bind {call : SessionM α} {k : α → SessionM β} (hc : Respects call)
    (hk : ∀ a, Respects (k a)) : Respects (call >>= k) := by
  intro s t h
  obtain ⟨hsame, halike⟩ := hc s t h
  rw [perform_bind, perform_bind]
  rcases hs : s.perform call with ⟨f | a, s'⟩
  all_goals
    rcases ht : t.perform call with ⟨g | b, t'⟩
    all_goals
      rw [hs, ht] at hsame halike
      cases hsame
  · exact ⟨rfl, halike⟩
  · exact hk a s' t' halike

theorem map {call : SessionM α} (hc : Respects call) (b : α → β) :
    Respects (call >>= fun a => Pure.pure (b a)) := hc.bind fun _ => pure _

/-- What comes after a look at the session, if it only depends on what alike sessions share. -/
theorem get_bind {k : Session → SessionM α} (hk : ∀ s, Respects (k s))
    (hsame : ∀ s t, Alike s t → k t = k s) : Respects (get >>= k) := by
  intro s t h
  rw [perform_get_bind, perform_get_bind, hsame s t h]
  exact hk s s t h

theorem ite {p : Prop} [Decidable p] {c d : SessionM α} (hc : Respects c) (hd : Respects d) :
    Respects (if p then c else d) := by
  split
  · exact hc
  · exact hd

theorem transact (epoch : Nat) (x : Transaction α) : Respects (transact epoch x) := by
  intro s t h
  cases hat : s.isAt epoch with
  | false =>
    rw [perform_transact_of_closed hat, perform_transact_of_closed ((h.isAt epoch).trans hat)]
    exact ⟨rfl, h⟩
  | true =>
    rw [perform_transact hat, perform_transact ((h.isAt epoch).trans hat), h.ledger]
    refine ⟨rfl, h.isAt, h.clock, ?_⟩
    rw [ledger_setLedger, ledger_setLedger]

/-- A call that only reads, and answers the same in every session. -/
theorem of_isReading {call : SessionM α} {r : Except Failure α} (hc : IsReading call)
    (hr : ∀ s : Session, (s.perform call).1 = r) : Respects call := by
  intro s t h
  refine ⟨(hr t).trans (hr s).symm, ?_⟩
  have hs := Alike.of_framed (hc s).1 (hc s).2
  have ht := Alike.of_framed (hc t).1 (hc t).2
  exact (hs.symm.trans h).trans ht

end Respects

end SessionM

namespace Write

variable {epoch : Nat} {s t : Session}

theorem acquire_respects (client : LockClient) (taskName : String) (other : Option String) :
    Respects (Session.acquire epoch client taskName other) := by
  intro s t h
  by_cases hname : taskName = ""
  · rw [hname, acquire_of_noName, acquire_of_noName]
    exact ⟨rfl, h⟩
  · obtain ⟨hsame, halike⟩ := Respects.transact epoch
      (Lock.acquire s.clock client.region taskName (client.owner other)) s t h
    rw [perform_acquire other hname, perform_acquire other hname, h.clock]
    rcases hs : s.perform (transact epoch
      (Lock.acquire s.clock client.region taskName (client.owner other))) with ⟨f | v, s'⟩
    all_goals
      rcases ht : t.perform (transact epoch
        (Lock.acquire s.clock client.region taskName (client.owner other))) with ⟨g | v', t'⟩
      all_goals
        rw [hs, ht] at hsame halike
        cases hsame
    · cases f with
      | alreadyHeld name key => exact ⟨rfl, (Respects.emit _ s' t' halike).2⟩
      | _ => exact ⟨rfl, halike⟩
    · exact ⟨rfl, (Respects.emit _ s' t' halike).2⟩

theorem logged_respects {α β : Type} {call : SessionM α} (hc : Respects call) (e : α → LogEvent)
    (b : α → β) : Respects (call >>= fun a => emit (e a) >>= fun _ => pure (b a)) :=
  .bind hc fun _ => .bind (.emit _) fun _ => .pure _

theorem create_respects (taskName : Option String) (parentId : Option Int)
    (externalId : Option String) :
    Respects (Session.create epoch taskName parentId externalId) :=
  .get_bind (fun _ => logged_respects (.transact _ _) _ _) fun _ _ h => by rw [h.clock]

theorem start_respects (time : Timestamp) (r : Recording.Start) :
    Respects (Session.start epoch time r) :=
  .get_bind (fun _ => .bind (.liftM _) fun _ => logged_respects (.transact _ _) _ _)
    fun _ _ h => by rw [h.clock]

theorem complete_respects (id : Int) (status : Option ExitStatus) (time : Timestamp)
    (exitMessage errorMessage : Option String) :
    Respects (Session.complete epoch id status time exitMessage errorMessage) :=
  .get_bind (fun _ => .bind (.liftM _) fun _ => logged_respects (.transact _ _) _ _)
    fun _ _ h => by rw [h.clock]

theorem setExternalId_respects (id : Int) (externalId : Option String) :
    Respects (Session.setExternalId epoch id externalId) :=
  .get_bind (fun _ => .bind (.transact _ _) fun _ =>
    .ite (.bind (.throw _) fun _ => .emit _) (.emit _)) fun _ _ h => by rw [h.clock]

theorem run_respects (epoch : Nat) (w : Write) : Respects (w.run epoch) := by
  cases w with
  | create taskName parentId externalId => exact .map (create_respects _ _ _) _
  | start time r => exact .map (start_respects _ _) _
  | complete id status time exitMessage errorMessage =>
    exact .map (complete_respects _ _ _ _ _) _
  | setExternalId id externalId => exact .map (setExternalId_respects _ _) _
  | link store executionId jobId =>
    cases store with
    | ledger => exact .map (logged_respects (.transact _ _) _ _) _
    | memory =>
      have hok (s : Session) : (s.perform (Session.recordLink epoch .memory executionId jobId)).1 =
          .ok ⟨executionId, jobId⟩ := by
        rw [perform_recordLink_memory]
      exact .map (.of_isReading (recordLink_memory_isReading executionId jobId) hok) _
  | acquire client taskName other => exact .map (acquire_respects _ _ _) _
  | release client taskName => exact .map (logged_respects (.transact _ _) _ _) _

end Write

/-! ## A start that stops halfway -/

namespace Recording

open Transaction

/-- A start that finds one of its positions taken has changed the row by then, and has put in the
parameters before. -/
theorem exec_start_taken {l : Ledger} {now : Timestamp} {stamp startTime : Instant} {s : Start}
    {row : ExecutionRow} {before after : List String} {p : String} (hm : l.IsMade)
    (hid : Signed64.holds s.id = true) (hrow : Deed.rowOf s.id l = some row)
    (hfresh : row.startTime = none) (hopen : row.endTime = none)
    (hnow : now.toInstant = .ok stamp) (hparent : ∀ i ∈ s.parentId, Signed64.holds i = true)
    (hparameters : s.parameters = before ++ p :: after)
    (hfree : ∀ q ∈ l.parameterRows, q.executionId = s.id → before.length ≤ q.index)
    (htaken : ∃ q ∈ l.parameterRows, q.executionId = s.id ∧ q.index = before.length) :
    (start now startTime s).exec l = (.error .constraintViolated,
      (l.mapExecutions (changeAt s.id (startedRow stamp startTime s))).mapParameters
        (· ++ parameterRows s.id 0 before)) := by
  have hensure : ensureFresh s.id row = .ok () := ensureFresh_of_none hfresh hopen
  obtain ⟨n, hupdate⟩ := exec_updateExecutions hm (startedRow stamp startTime s)
    (List.Subset.refl executionColumns) hid
  have hchanged := hm.mapExecutions (changeAt s.id (startedRow stamp startTime s))
  -- the texts before the taken position go in, and then the whole call is given up
  have hstop := exec_insertEach_taken (k := 0) before p after hchanged
    (fun q hq hqid => .inr (by simpa using hfree q hq hqid)) (by simpa using htaken)
  rw [← hparameters, ← exec_insertParameters_eq hchanged] at hstop
  have hsome : (!s.parameters.isEmpty) = true := by
    rw [hparameters]
    cases before <;> rfl
  rw [start, exec_bind_of_ok (exec_fetchExecution hm hid hrow), hensure,
    exec_bind_of_ok (exec_liftM _ l), exec_bind_of_ok (exec_storedTime hnow l),
    exec_bind_of_ok (exec_checkNumber? hparent l), exec_bind_of_ok hupdate]
  dsimp only
  rw [exec_ite, if_pos hsome]
  exact exec_bind_of_error hstop

end Recording

theorem Session.perform_start_of_error {s : Session} {epoch : Nat} {time : Timestamp}
    {startTime : Instant} {r : Recording.Start} {f : Failure} (hat : s.isAt epoch = true)
    (hname : r.taskName ≠ "") (htime : time.toInstant = .ok startTime)
    (h : ((Recording.start s.clock startTime r).exec s.ledger).1 = .error f) :
    s.perform ((Write.start time r).run epoch) = (.error f, s.setLedger s.ledger) := by
  have hcheck : Recording.checkStart r.taskName time = .ok startTime := by
    rw [Recording.checkStart, if_neg hname, htime]
    rfl
  have hfail : ((Recording.start s.clock startTime r).commit s.ledger).1 = .error f := by
    rw [Transaction.commit_fst, h]
  rw [Write.run, Session.start, perform_bind, perform_get_bind, hcheck,
    perform_bind_of_ok (perform_liftM _ s), perform_bind, perform_transact hat, hfail,
    Transaction.commit_error hfail]

/-! ## What a failed call leaves -/

namespace Write

variable {epoch : Nat} {s t : Session}

/-- What writing calls answer that are made one after the other, each through the handle of an
opening. -/
def outcomes : List (Nat × Write) → Session → List (Except Failure Answer)
  | [], _ => []
  | (epoch, w) :: rest, s =>
    (s.perform (w.run epoch)).1 :: outcomes rest (s.perform (w.run epoch)).2

theorem outcomes_eq (ws : List (Nat × Write)) (h : Alike s t) : outcomes ws t = outcomes ws s := by
  induction ws generalizing s t with
  | nil => rfl
  | cons w rest ih =>
    obtain ⟨hsame, halike⟩ := run_respects w.1 w.2 s t h
    rw [outcomes, outcomes, hsame, ih halike]

/-- A writing call that fails leaves its ledger, with the number that comes next, and every other
one as they were, and the set-up and clock of the session.  No writing call made later answers
differently for it. -/
theorem undone_of_error {w : Write} {f : Failure} (h : s.perform (w.run epoch) = (.error f, t)) :
    t.ledger = s.ledger ∧
      (∀ place tablePrefix,
        t.disk.ledgerAt place tablePrefix = s.disk.ledgerAt place tablePrefix) ∧
      SameSetup s t ∧ t.clock = s.clock ∧
      ∀ later, outcomes later t = outcomes later s := by
  have hledger : t.ledger = s.ledger := run_isAtomic epoch w s t f h
  have hframed : Framed s t := by
    have hrun := run_isFramed epoch w s
    rwa [h] at hrun
  exact ⟨hledger, hframed.ledgerAt_eq hledger, hframed.toSameSetup, hframed.clock,
    fun later => outcomes_eq later (.of_framed hframed hledger)⟩

/-- A start that has changed its row and put in its first parameter when it fails, as someone has
put in a second one by hand. -/
theorem undone_of_error_taken :
    let row := Recording.createdRow none (some "t") none none
    let l := (((Ledger.made "").mapExecutions fun _ => [{ row with id := some 1 }]).mapParameters
      fun _ => [⟨1, 1, "put in"⟩]).withLastId 1
    let s := (Session.inMemory [] (.parts false false false)).setLedger l
    let r : Recording.Start := ⟨1, "t", ["a", "b", "c"], none, none⟩
    ((Recording.start s.clock Instant.first r).exec s.ledger).2.parameterRows =
        [⟨1, 1, "put in"⟩, ⟨1, 0, "a"⟩] ∧
      ∃ t, s.perform ((start Instant.first.toUtc r).run 0) = (.error .constraintViolated, t) ∧
        t.ledger = s.ledger ∧ ∀ later, outcomes later t = outcomes later s := by
  intro row l s r
  have hm : l.IsMade := (((Ledger.IsMade.made "").mapExecutions _).mapParameters _).withLastId 1
  have hledger : s.ledger = l := ledger_setLedger _ _
  have hnow : s.clock.toInstant = .ok Instant.first := Timestamp.toInstant_toUtc _
  have hrow : Deed.rowOf r.id s.ledger = some { row with id := some 1 } := by
    rw [hledger]
    rfl
  have htaken : s.ledger.parameterRows = [⟨1, 1, "put in"⟩] := by
    rw [hledger]
    rfl
  have hparameters : r.parameters = ["a"] ++ "b" :: ["c"] := rfl
  have hexec : (Recording.start s.clock Instant.first r).exec s.ledger = _ :=
    Recording.exec_start_taken (hledger ▸ hm) (by decide) hrow rfl rfl hnow
      (fun i hi => by cases hi) hparameters (by simp [htaken, r]) (by simp [htaken, r])
  have hrun : s.perform ((start Instant.first.toUtc r).run 0) = _ :=
    Session.perform_start_of_error rfl (by decide) hnow (congrArg Prod.fst hexec)
  refine ⟨?_, _, hrun, ?_⟩
  · rw [hexec]
    rfl
  · obtain ⟨hsame, -, -, -, hlater⟩ := undone_of_error hrun
    exact ⟨hsame, hlater⟩

end Write

end RunLedger
