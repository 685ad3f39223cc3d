import RunLedger.Proofs.Session.Effect
import RunLedger.Proofs.Store.Complete

/-!
# Calls on complete ledgers

A call on a ledger with all its columns is refused by the database only for a reason that the call
and the ledger tell beforehand, and leaves the ledger with all its columns.

    s.ledger.IsComplete → c.usesHandle = true →
      (s.perform c.run).1 = .error .statementRefused → c.mayBeRefused s = true
                                                                            (Call.serves_run)
-/

namespace RunLedger

open Session

/-! ## Calls step by step -/

namespace SessionM

variable {α β : Type} {s : Session} {why : Prop}

/-- A call that keeps the tables of its session's ledger but for their rows, and is refused by the
database for the given reason alone. -/
structure Serves (why : Prop) (call : SessionM α) (s : Session) : Prop where
  bare : (s.perform call).2.ledger.bare = s.ledger.bare
  refused : (s.perform call).1 = .error .statementRefused → why

namespace Serves

theorem pure (a : α) : Serves why (Pure.pure a) s := ⟨rfl, nofun⟩

theorem throw {f : Failure} (hf : f ≠ .statementRefused) :
    Serves why (MonadExcept.throw f : SessionM α) s :=
  ⟨rfl, fun h => absurd (Except.error.inj h) hf⟩

theorem liftM {r : Except Failure α} (hr : r ≠ .error .statementRefused) :
    Serves why (MonadLiftT.monadLift r : SessionM α) s := by
  cases r with
  | error f => exact throw fun hf => hr (congrArg Except.error hf)
  | ok a => exact pure a

theorem emit (e : LogEvent) : Serves why (SessionM.emit e) s := ⟨rfl, nofun⟩

theorem bind {call : SessionM α} {k : α → SessionM β} (hc : Serves why call s)
    (hk : ∀ a t, s.perform call = (.ok a, t) → t.ledger.bare = s.ledger.bare →
      Serves why (k a) t) : Serves why (call >>= k) s := by
  obtain ⟨hbare, hrefused⟩ := hc
  rcases he : s.perform call with ⟨f | a, t⟩
  · rw [he] at hbare hrefused
    have hperform : s.perform (call >>= k) = (.error f, t) := perform_bind_of_error he
    refine ⟨hperform ▸ hbare, fun h => ?_⟩
    rw [hperform] at h
    exact hrefused (congrArg Except.error (Except.error.inj h))
  · rw [he] at hbare
    obtain ⟨hbare', hrefused'⟩ := hk a t he hbare
    have hperform : s.perform (call >>= k) = t.perform (k a) := perform_bind_of_ok he
    exact ⟨hperform ▸ hbare'.trans hbare, fun h => hrefused' (hperform ▸ h)⟩

theorem map {call : SessionM α} (hc : Serves why call s) (b : α → β) :
    Serves why (call >>= fun a => Pure.pure (b a)) s := hc.bind fun _ _ _ _ => pure _

theorem get_bind {k : Session → SessionM β} (hk : Serves why (k s) s) :
    Serves why (MonadState.get >>= k) s := ⟨hk.bare, hk.refused⟩

theorem ite {p : Prop} [Decidable p] {c d : SessionM α} (hc : Serves why c s)
    (hd : Serves why d s) : Serves why (if p then c else d) s := by
  split
  · exact hc
  · exact hd

/-- A check that leaves the session as it is. -/
theorem liftM_bind {r : Except Failure α} {k : α → SessionM β}
    (hr : r ≠ .error .statementRefused) (hk : ∀ a, Serves why (k a) s) :
    Serves why (MonadLiftT.monadLift r >>= k) s := by
  refine .bind (liftM hr) fun a t he _ => ?_
  obtain rfl : s = t := congrArg Prod.snd ((perform_liftM r s).symm.trans he)
  exact hk a

/-- What a call logs once it has gone through. -/
theorem logged {call : SessionM α} (hc : Serves why call s) (e : α → LogEvent) (b : α → β) :
    Serves why (call >>= fun a => SessionM.emit (e a) >>= fun _ => Pure.pure (b a)) s :=
  hc.bind fun _ _ _ _ => (emit _).map _

theorem transact {t : Transaction α} (ht : Transaction.Serves why t s.ledger) (epoch : Nat) :
    Serves why (SessionM.transact epoch t) s := by
  cases hat : s.isAt epoch with
  | false =>
    have hperform := perform_transact_of_closed hat t
    exact ⟨by rw [hperform], by rw [hperform]; exact nofun⟩
  | true =>
    have hperform := perform_transact hat t
    refine ⟨?_, ?_⟩
    · rw [hperform, ledger_setLedger]
      exact ht.commit.1
    · rw [hperform]
      exact ht.commit.2

end Serves

end SessionM

open SessionM

/-! ## Writing calls -/

namespace Write

/-- Whether the database may refuse a writing call on a ledger with all its columns. -/
def mayBeRefused (l : Ledger) : Write → Bool
  | create _ _ _ => l.isExhausted
  | start _ _ => l.lacksKeys
  | _ => false

variable {s : Session}

theorem serves_acquire (hl : s.ledger.IsComplete) (epoch : Nat) (client : LockClient)
    (taskName : String) (other : Option String) {why : Prop} :
    Serves why (Session.acquire epoch client taskName other) s := by
  by_cases hname : taskName = ""
  · rw [hname]
    exact ⟨rfl, nofun⟩
  · obtain ⟨hbare, hrefused⟩ : Serves why (transact epoch
        (Lock.acquire s.clock client.region taskName (client.owner other))) s :=
      .transact (Lock.serves_acquire hl _ _ _ _) epoch
    refine ⟨?_, ?_⟩
    · rw [perform_acquire other hname]
      split
      · next he => exact (congrArg (·.2.ledger.bare) he).symm.trans hbare
      · next he => exact (congrArg (·.2.ledger.bare) he).symm.trans hbare
      · next he => exact (congrArg (·.2.ledger.bare) he).symm.trans hbare
    · rw [perform_acquire other hname]
      split
      · exact nofun
      · exact nofun
      · next he => exact fun h => hrefused ((congrArg Prod.fst he).trans h)

theorem checkStart_not_refused (taskName : String) (time : Timestamp) :
    Recording.checkStart taskName time ≠ .error .statementRefused := by
  unfold Recording.checkStart
  split
  · exact nofun
  · cases time.toInstant with
    | error f =>
      cases f
      exact nofun
    | ok i => exact nofun

theorem checkCompletion_not_refused (code : Option Int) (time : Timestamp) :
    Recording.checkCompletion code time ≠ .error .statementRefused := by
  unfold Recording.checkCompletion
  split
  · exact nofun
  · cases time.toInstant with
    | error f =>
      cases f
      exact nofun
    | ok i => exact nofun

theorem serves_run (hl : s.ledger.IsComplete) (epoch : Nat) (w : Write) :
    Serves (w.mayBeRefused s.ledger = true) (w.run epoch) s := by
  cases w with
  | create taskName parentId externalId =>
    have hcreate := Recording.serves_create hl s.clock taskName parentId externalId
    exact .map (.get_bind (.logged (.transact hcreate epoch) _ _)) _
  | start time r =>
    exact .map (.get_bind (.liftM_bind (checkStart_not_refused _ _) fun i =>
      .logged (.transact (Recording.serves_start hl s.clock i r) epoch) _ _)) _
  | complete id status time exitMessage errorMessage =>
    exact .map (.get_bind (.liftM_bind (checkCompletion_not_refused _ _) fun _ =>
      .logged (.transact (Recording.serves_complete hl s.clock _ _) epoch) _ _)) _
  | setExternalId id externalId =>
    refine .map (.get_bind (.bind (.transact (Recording.serves_setExternalId hl s.clock id
      externalId) epoch) fun matched t _ _ => ?_)) _
    exact .ite (.bind (.throw nofun) fun _ _ _ _ => .emit _) (.emit _)
  | link store executionId jobId =>
    cases store with
    | ledger =>
      exact .map (.logged (.transact (Link.serves_record hl executionId jobId) epoch) _ _) _
    | memory =>
      -- links in memory do not touch the ledger
      have hread : IsReading (recordLink epoch .memory executionId jobId) :=
        recordLink_memory_isReading executionId jobId
      refine .map ⟨congrArg Ledger.bare (hread s).2, ?_⟩ _
      rw [perform_recordLink_memory]
      exact nofun
  | acquire client taskName other => exact .map (serves_acquire hl epoch client taskName other) _
  | release client taskName =>
    exact .map (.logged (.transact (Lock.serves_release hl _ _) epoch) _ _) _

end Write

/-! ## Any call -/

namespace Call

/-- Whether a call works through the handle that it finds and keeps the tables: it opens no ledger,
makes no command, and drops no table. -/
def usesHandle : Call → Bool
  | reopen _ | dropTable _ | command _ _ => false
  | _ => true

/-- Whether the database may refuse a call on a ledger with all its columns.  Statements that are
made by hand may name any columns. -/
def mayBeRefused (s : Session) : Call → Bool
  | create _ _ _ => s.ledger.isExhausted
  | start _ _ => s.ledger.lacksKeys
  | page _ _ _ => !Reading.runsPages s.handle.dialect.pageForm s.handle.tablePrefix
  | insertRow _ | createAndGiveUp _ => true
  | _ => false

variable {s : Session} {why : Prop}

theorem serves_lockClient (lock : Nat) : Serves why (lockClient lock) s := by
  refine .get_bind ?_
  split
  · exact .pure _
  · exact .throw nofun

theorem serves_ensureOpen (epoch : Nat) : Serves why (ensureOpen epoch) s :=
  .get_bind (.ite (.pure _) (.throw nofun))

theorem serves_announcePager (f : Reading.Filter) : Serves why (announcePager f) s := by
  have hpager : (Reading.pager s.handle.dialect f).mapError Failure.configuration ≠
      .error .statementRefused := by
    cases Reading.pager s.handle.dialect f <;> nofun
  exact .get_bind (.ite (.liftM_bind hpager fun _ => ⟨rfl, nofun⟩) (.pure _))

theorem checkPage_not_refused (index size : Int) :
    Reading.checkPage index size ≠ .error .statementRefused := by
  unfold Reading.checkPage
  split
  · exact nofun
  · split <;> nofun

theorem pageWindow_not_refused (index size : Int) :
    Reading.pageWindow index size ≠ .error .statementRefused := by
  unfold Reading.pageWindow
  cases Window.of? (index * size) size <;> nofun

theorem serves_page (hl : s.ledger.IsComplete) (epoch : Nat) (f : Reading.Filter)
    (index size : Int) :
    Serves (Reading.runsPages s.handle.dialect.pageForm s.handle.tablePrefix = false)
      (Session.page epoch f index size) s := by
  refine .bind (.transact (Reading.serves_count hl f) epoch) fun _ t ht hbare =>
    .liftM_bind (checkPage_not_refused _ _) fun _ => .bind (serves_announcePager f)
      fun _ u hu hbare' => .liftM_bind (pageWindow_not_refused _ _) fun w => .get_bind ?_
  have hhandle : u.handle = s.handle := by
    have hcount := (IsReading.transact (Reading.count_isReading f) epoch s).1.handle
    have hannounce := (announcePager_isReading f t).1.handle
    rw [ht] at hcount
    rw [hu] at hannounce
    exact hannounce.trans hcount
  rw [← hhandle]
  exact .logged (.transact (Reading.serves_window (hl.congr (hbare'.trans hbare)) _ _ f w) epoch)
    _ _

theorem serves_rowCounts (hl : s.ledger.IsComplete) :
    Transaction.Serves why Session.rowCounts s.ledger := by
  obtain ⟨t, ht, hexecutions⟩ := hl.executions
  obtain ⟨u, hu, hparameters⟩ := hl.parameters
  obtain ⟨v, hv, hlinks⟩ := hl.links
  obtain ⟨w, hw, hlocks⟩ := hl.locks
  exact .get_bind (.require_bind ht hexecutions (.inl (List.nil_subset _))
    (.require_bind hu hparameters (.inl (List.nil_subset _))
      (.require_bind hv hlinks (.inl (List.nil_subset _))
        (.require_bind hw hlocks (.inl (List.nil_subset _)) (.pure _)))))

theorem serves_write (hl : s.ledger.IsComplete) {c : Call} {w : Write} (hw : c.write? s = some w)
    (hwhy : w.mayBeRefused s.ledger = true → why) : Serves why c.run s := by
  obtain ⟨hbare, hrefused⟩ := Write.serves_run hl s.epoch w
  have hsame := perform_run_of_write hw
  refine ⟨?_, fun h => hwhy (hrefused ?_)⟩
  · rw [hsame]
    exact hbare
  · rw [← hsame]
    exact h

theorem serves_run (hl : s.ledger.IsComplete) {c : Call} (h : c.usesHandle = true) :
    Serves (c.mayBeRefused s = true) c.run s := by
  cases c with
  | create | start | complete | setExternalId | recordLink => exact serves_write hl rfl id
  | acquire lock taskName other =>
    exact .get_bind (.bind (serves_lockClient lock) fun _ _ _ hbare =>
      .map (Write.serves_acquire (hl.congr hbare) _ _ _ _) _)
  | release lock taskName =>
    exact .get_bind (.bind (serves_lockClient lock) fun _ _ _ hbare =>
      .map (.logged (.transact (Lock.serves_release (hl.congr hbare) _ _) _) _ _) _)
  | find number => exact .get_bind (.map (.transact (Reading.serves_find? hl number) _) _)
  | running taskName => exact .get_bind (.map (.transact (Reading.serves_running hl taskName) _) _)
  | latest names => exact .get_bind (.map (.transact (Reading.serves_latest hl names) _) _)
  | count f => exact .get_bind (.map (.transact (Reading.serves_count hl f) _) _)
  | countRunning => exact .get_bind (.map (.transact (Reading.serves_countRunning hl) _) _)
  | taskNames => exact .get_bind (.map (.transact (Reading.serves_taskNames hl) _) _)
  | page f index size =>
    have hpage := serves_page hl s.epoch f index size
    exact .get_bind (.map ⟨hpage.bare, fun h => by simpa [mayBeRefused] using hpage.refused h⟩ _)
  | jobsOf executionId =>
    refine .get_bind (.map (.get_bind ?_) _)
    split
    · exact .transact (Link.serves_jobsOf hl executionId) _
    · exact .pure _
  | executionOf jobId =>
    refine .get_bind (.map (.get_bind ?_) _)
    split
    · exact .transact (Link.serves_executionOf hl jobId) _
    · exact .pure _
  | holder lock taskName =>
    exact .get_bind (.bind (serves_lockClient lock) fun _ _ _ hbare =>
      .map (.transact (Lock.serves_holder (hl.congr hbare) _ _) _) _)
  | client lock => exact .get_bind (.map (serves_lockClient lock) _)
  | setClock time => exact ⟨rfl, nofun⟩
  | close => exact ⟨rfl, nofun⟩
  | describeHandle => exact ⟨rfl, nofun⟩
  | resolvePrefix sql => exact ⟨rfl, nofun⟩
  | tables =>
    exact .get_bind (.map (.get_bind (.map (serves_ensureOpen _) _)) _)
  | connectionSetup =>
    exact .get_bind (.map (.get_bind (.map (serves_ensureOpen _) _)) _)
  | rowCounts => exact .get_bind (.map (.transact (serves_rowCounts hl) _) _)
  | insertRow row =>
    exact .get_bind (.bind (.transact (Recording.serves_insertRow hl row rfl) _)
      fun _ _ _ _ => .pure _)
  | createAndGiveUp taskName =>
    exact .get_bind (.bind (.transact (Recording.serves_createAndGiveUp hl taskName rfl) _)
      fun _ _ _ _ => .pure _)
  | reopen | dropTable | command => cases h

end Call

end RunLedger
