import RunLedger.Proofs.History.Locking
import RunLedger.Proofs.History.Recording
import RunLedger.Proofs.Session.Perform
import RunLedger.Session.Call

/-!
# Writing calls

The calls that write to the ledger, whoever makes them, and the deed that the answer of each tells
of.  A call that fails tells of none and leaves the ledger as it is.

    s.ledger.IsMade → DoneIn? (w.told s.clock (s.perform (w.run epoch)).1)
      s.ledger (s.perform (w.run epoch)).2.ledger                            (Write.run_doneIn)
    c.write? s = some w → s.perform c.run = s.perform (w.run s.epoch)   (Call.perform_run_of_write)
-/

namespace RunLedger

open Session SessionM

/-! ## Calls that fail as a whole -/

namespace SessionM

variable {α β : Type}

/-- A call that leaves the ledger as it is whenever it fails. -/
def IsAtomic (call : SessionM α) : Prop :=
  ∀ (s u : Session) (f : Failure), s.perform call = (.error f, u) → u.ledger = s.ledger

theorem IsReading.isAtomic {call : SessionM α} (h : IsReading call) : IsAtomic call := by
  intro s u f hf
  have := (h s).2
  rwa [hf] at this

namespace IsAtomic

theorem transact (epoch : Nat) (t : Transaction α) : IsAtomic (transact epoch t) :=
  fun _ _ _ h => perform_transact_error h

/-- What only reads may come before. -/
theorem bind {call : SessionM α} {k : α → SessionM β} (hc : IsReading call)
    (hk : ∀ a, IsAtomic (k a)) : IsAtomic (call >>= k) := by
  intro s u f h
  have hr := (hc s).2
  rw [perform_bind] at h
  rcases he : s.perform call with ⟨g | a, t⟩
  · rw [he] at h hr
    cases h
    exact hr
  · rw [he] at h hr
    exact (hk a t u f h).trans hr

/-- What cannot fail may come after. -/
theorem bind_of_ok {call : SessionM α} {k : α → SessionM β} (hc : IsAtomic call)
    (hk : ∀ a (t : Session), ∃ b, (t.perform (k a)).1 = .ok b) : IsAtomic (call >>= k) := by
  intro s u f h
  rw [perform_bind] at h
  rcases he : s.perform call with ⟨g | a, t⟩
  · rw [he] at h
    cases h
    exact hc s _ _ he
  · rw [he] at h
    obtain ⟨b, hb⟩ := hk a t
    have hfails : (t.perform (k a)).1 = .error f := congrArg Prod.fst h
    rw [hb] at hfails
    cases hfails

theorem bind_emit {call : SessionM α} {e : α → LogEvent} {b : α → β} (hc : IsAtomic call) :
    IsAtomic (call >>= fun a => emit (e a) >>= fun _ => pure (b a)) :=
  hc.bind_of_ok fun a _ => ⟨b a, rfl⟩

theorem map {call : SessionM α} (hc : IsAtomic call) (b : α → β) :
    IsAtomic (call >>= fun a => pure (b a)) :=
  hc.bind_of_ok fun a _ => ⟨b a, rfl⟩

end IsAtomic

end SessionM

/-! ## The calls and their deeds -/

/-- A call that writes to the ledger, with all that it is given. -/
inductive Write where
  | create (taskName : Option String) (parentId : Option Int) (externalId : Option String)
  | start (time : Timestamp) (s : Recording.Start)
  | complete (id : Int) (status : Option ExitStatus) (time : Timestamp)
      (exitMessage errorMessage : Option String)
  | setExternalId (id : Int) (externalId : Option String)
  | link (store : LinkStore) (executionId jobId : Int)
  | acquire (client : LockClient) (taskName : String) (other : Option String)
  | release (client : LockClient) (taskName : String)

/-- Whom a lock is taken for: the client, or another one that is named. -/
def LockClient.owner (client : LockClient) (other : Option String) : String :=
  match other with
  | some name => if name = "" then client.clientId else name
  | none => client.clientId

/-- The instant of a time, if it has one. -/
def Timestamp.instant? (t : Timestamp) : Option Instant := t.toInstant.toOption

namespace Write

/-- Makes the call through the handle of an opening. -/
def run (epoch : Nat) : Write → SessionM Answer
  | create taskName parentId externalId =>
    return .execution (some (← Session.create epoch taskName parentId externalId).2)
  | start time s => return .execution (some (← Session.start epoch time s))
  | complete id status time exitMessage errorMessage =>
    return .execution (some (← Session.complete epoch id status time exitMessage errorMessage))
  | setExternalId id externalId => do
    Session.setExternalId epoch id externalId
    return .done
  | link store executionId jobId =>
    return .link (← Session.recordLink epoch store executionId jobId)
  | acquire client taskName other => do
    Session.acquire epoch client taskName other
    return .flag true
  | release client taskName => return .flag (← Session.release epoch client taskName)

/-- The deed that an answer tells of, given the clock at the call.  A created execution bears its
number; a lock that was not held was not given back; links in memory are no deeds. -/
def deed? (clock : Timestamp) : Write → Answer → Option Deed
  | create taskName parentId externalId, .execution (some e) => do
    let id ← e.id
    let now ← clock.instant?
    some (.create id now taskName parentId externalId)
  | start time s, _ => do
    let now ← clock.instant?
    let startTime ← time.instant?
    some (.start now startTime s)
  | complete id status time exitMessage errorMessage, _ => do
    let now ← clock.instant?
    let endTime ← time.instant?
    let exit ← status
    some (.complete now endTime ⟨id, exit.toInt, exitMessage, errorMessage⟩)
  | setExternalId id externalId, _ => do
    let now ← clock.instant?
    some (.setExternalId now id externalId)
  | link .ledger executionId jobId, _ => some (.link ⟨executionId, jobId⟩)
  | acquire client taskName other, _ => do
    let now ← clock.instant?
    some (.acquire (Lock.heldRow now client.region taskName (client.owner other)))
  | release client taskName, .flag true => some (.release (lockKey taskName) client.region)
  | _, _ => none

/-- The deed that an outcome tells of: a failure tells of none. -/
def told (clock : Timestamp) (w : Write) : Except Failure Answer → Option Deed
  | .ok a => w.deed? clock a
  | .error _ => none

end Write

/-- What a call that tells of a deed, or of none, has done to a ledger. -/
def DoneIn? : Option Deed → Ledger → Ledger → Prop
  | none, l, m => m = l
  | some d, l, m => d.DoneIn l m

namespace Write

variable {epoch : Nat} {s u : Session}

theorem instant?_eq {t : Timestamp} {i : Instant} (h : t.toInstant = .ok i) :
    t.instant? = some i := by
  rw [Timestamp.instant?, h]
  rfl

/-! ## Recording -/

theorem create_ok {taskName externalId : Option String} {parentId : Option Int} {id : Int}
    {e : Execution} (hm : s.ledger.IsMade)
    (h : s.perform (Session.create epoch taskName parentId externalId) = (.ok (id, e), u)) :
    ∃ now, s.clock.toInstant = .ok now ∧ e.id = some id ∧ Signed64.holds id = true ∧
      (Deed.create id now taskName parentId externalId).DoneIn s.ledger u.ledger := by
  rw [Session.create, perform_get_bind] at h
  obtain ⟨⟨id', e'⟩, s₁, ht, h₁⟩ := perform_bind_ok_iff.1 h
  obtain ⟨-, hc⟩ := perform_transact_ok ht
  obtain ⟨now, hnow, hdone, hid, hholds⟩ := Recording.create_ok hm hc
  cases h₁
  exact ⟨now, hnow, hid, hholds, hdone⟩

theorem create_parent {taskName externalId : Option String} {parentId : Option Int}
    {made : Int × Execution} (hm : s.ledger.IsMade)
    (h : s.perform (Session.create epoch taskName parentId externalId) = (.ok made, u)) :
    ∀ i ∈ parentId, Signed64.holds i = true := by
  rw [Session.create, perform_get_bind] at h
  obtain ⟨made', s₁, ht, -⟩ := perform_bind_ok_iff.1 h
  exact Recording.create_parent hm (perform_transact_ok ht).2

theorem create_isAtomic (taskName : Option String) (parentId : Option Int)
    (externalId : Option String) :
    IsAtomic (Session.create epoch taskName parentId externalId) :=
  .bind .get fun _ => .bind_emit (.transact _ _)

theorem mapError_eq_ok_iff {ε δ α : Type} {x : Except ε α} {f : ε → δ} {a : α} :
    x.mapError f = .ok a ↔ x = .ok a := by
  cases x with
  | error e => exact iff_of_false nofun nofun
  | ok b =>
    constructor
    · exact fun h => congrArg Except.ok (Except.ok.inj h)
    · exact fun h => congrArg Except.ok (Except.ok.inj h)

theorem checkStart_ok {taskName : String} {time : Timestamp} {i : Instant}
    (h : Recording.checkStart taskName time = .ok i) :
    taskName ≠ "" ∧ time.toInstant = .ok i := by
  unfold Recording.checkStart at h
  split at h
  · cases h
  · next hname => exact ⟨hname, mapError_eq_ok_iff.1 h⟩

theorem start_ok {time : Timestamp} {r : Recording.Start} {e : Execution}
    (h : s.perform (Session.start epoch time r) = (.ok e, u)) :
    ∃ now startTime, s.clock.toInstant = .ok now ∧ time.toInstant = .ok startTime ∧
      (Deed.start now startTime r).DoneIn s.ledger u.ledger := by
  rw [Session.start, perform_get_bind] at h
  obtain ⟨startTime, s₁, hcheck, h₁⟩ := perform_bind_ok_iff.1 h
  rw [perform_liftM] at hcheck
  obtain ⟨hstart, rfl⟩ := Prod.mk.inj hcheck
  obtain ⟨hname, htime⟩ := checkStart_ok hstart
  obtain ⟨e', s₂, ht, h₂⟩ := perform_bind_ok_iff.1 h₁
  obtain ⟨-, hc⟩ := perform_transact_ok ht
  obtain ⟨now, hnow, hdone⟩ := Recording.start_ok hname hc
  cases h₂
  exact ⟨now, startTime, hnow, htime, hdone⟩

theorem start_isAtomic (time : Timestamp) (r : Recording.Start) :
    IsAtomic (Session.start epoch time r) :=
  .bind .get fun _ => .bind (.liftM _) fun _ => .bind_emit (.transact _ _)

theorem checkCompletion_ok {code : Option Int} {time : Timestamp} {n : Int} {i : Instant}
    (h : Recording.checkCompletion code time = .ok (n, i)) :
    code = some n ∧ time.toInstant = .ok i := by
  unfold Recording.checkCompletion at h
  split at h
  · cases h
  · next m =>
    cases ht : time.toInstant.mapError Failure.ofTimeFault with
    | error f =>
      rw [ht] at h
      cases h
    | ok j =>
      rw [ht] at h
      cases h
      exact ⟨rfl, mapError_eq_ok_iff.1 ht⟩

theorem complete_ok {id : Int} {status : Option ExitStatus} {time : Timestamp}
    {exitMessage errorMessage : Option String} {e : Execution}
    (h : s.perform (Session.complete epoch id status time exitMessage errorMessage) = (.ok e, u)) :
    ∃ now endTime exit, s.clock.toInstant = .ok now ∧ time.toInstant = .ok endTime ∧
      status = some exit ∧
      (Deed.complete now endTime ⟨id, exit.toInt, exitMessage, errorMessage⟩).DoneIn
        s.ledger u.ledger := by
  rw [Session.complete, perform_get_bind] at h
  obtain ⟨⟨code, endTime⟩, s₁, hcheck, h₁⟩ := perform_bind_ok_iff.1 h
  rw [perform_liftM] at hcheck
  obtain ⟨hcompletion, rfl⟩ := Prod.mk.inj hcheck
  obtain ⟨hcode, htime⟩ := checkCompletion_ok hcompletion
  obtain ⟨exit, rfl, rfl⟩ := Option.map_eq_some_iff.1 hcode
  obtain ⟨e', s₂, ht, h₂⟩ := perform_bind_ok_iff.1 h₁
  obtain ⟨-, hc⟩ := perform_transact_ok ht
  obtain ⟨now, hnow, hdone⟩ := Recording.complete_ok hc
  cases h₂
  exact ⟨now, endTime, exit, hnow, htime, rfl, hdone⟩

theorem complete_isAtomic (id : Int) (status : Option ExitStatus) (time : Timestamp)
    (exitMessage errorMessage : Option String) :
    IsAtomic (Session.complete epoch id status time exitMessage errorMessage) :=
  .bind .get fun _ => .bind (.liftM _) fun _ => .bind_emit (.transact _ _)

/-- The end of changing an external number: that there is no execution of the number, or an event. -/
theorem perform_setExternalId {id : Int} {externalId : Option String} :
    s.perform (Session.setExternalId epoch id externalId) =
      match s.perform (transact epoch (Recording.setExternalId s.clock id externalId)) with
      | (.ok n, t) =>
        if n = 0 then (.error (.executionNotFound id), t)
        else (.ok (), t.logging (.of "external_execution_id_updated" .debug
          [("execution_id", .int id)]))
      | (.error f, t) => (.error f, t) := by
  rw [Session.setExternalId, perform_get_bind, perform_bind]
  rcases s.perform (transact epoch (Recording.setExternalId s.clock id externalId)) with ⟨f | n, t⟩
  · rfl
  · dsimp only
    by_cases hn : n = 0
    · rw [if_pos hn, if_pos hn]
      rfl
    · rw [if_neg hn, if_neg hn]
      rfl

theorem setExternalId_ok {id : Int} {externalId : Option String} {v : Unit}
    (h : s.perform (Session.setExternalId epoch id externalId) = (.ok v, u)) :
    ∃ now, s.clock.toInstant = .ok now ∧
      (Deed.setExternalId now id externalId).DoneIn s.ledger u.ledger := by
  rw [perform_setExternalId] at h
  split at h
  · next n t ht =>
    split at h
    · cases h
    · next hn =>
      cases h
      exact Recording.setExternalId_ok hn (perform_transact_ok ht).2
  · cases h

theorem setExternalId_isAtomic (id : Int) (externalId : Option String) :
    IsAtomic (Session.setExternalId epoch id externalId) := by
  intro s u f h
  rw [perform_setExternalId] at h
  split at h
  · next n t ht =>
    split at h
    · next hn =>
      cases h
      exact Recording.setExternalId_none (hn ▸ (perform_transact_ok ht).2)
    · cases h
  · next ht =>
    cases h
    exact perform_transact_error ht

/-! ## Links and locks -/

theorem recordLink_ok {executionId jobId : Int} {row : LinkRow}
    (h : s.perform (Session.recordLink epoch .ledger executionId jobId) = (.ok row, u)) :
    (Deed.link ⟨executionId, jobId⟩).DoneIn s.ledger u.ledger := by
  rw [Session.recordLink] at h
  obtain ⟨row', s₁, ht, h₁⟩ := perform_bind_ok_iff.1 h
  obtain ⟨-, hc⟩ := perform_transact_ok ht
  obtain ⟨hdone, rfl⟩ := Link.record_ok hc
  cases h₁
  exact hdone

/-- A link in memory goes into the notebook of the opening that it is recorded for. -/
theorem perform_recordLink_memory (executionId jobId : Int) (s : Session) :
    s.perform (Session.recordLink epoch .memory executionId jobId) =
      (.ok ⟨executionId, jobId⟩, if s.epoch = epoch then
        { s with notebook := s.notebook.record executionId jobId } else s) := by
  rw [Session.recordLink, perform_get_bind]
  by_cases h : s.epoch = epoch
  · rw [if_pos h, if_pos h]
    rfl
  · rw [if_neg h, if_neg h]
    rfl

/-- Links in memory touch no ledger. -/
theorem recordLink_memory_isReading (executionId jobId : Int) :
    SessionM.IsReading (Session.recordLink epoch .memory executionId jobId) := by
  intro s
  rw [perform_recordLink_memory]
  split
  · exact ⟨⟨⟨rfl, rfl, rfl, rfl, rfl⟩, rfl, fun _ _ _ => rfl⟩, rfl⟩
  · exact ⟨Framed.refl s, rfl⟩

theorem recordLink_isAtomic (store : LinkStore) (executionId jobId : Int) :
    IsAtomic (Session.recordLink epoch store executionId jobId) := by
  cases store with
  | ledger => exact .bind_emit (.transact _ _)
  | memory => exact (recordLink_memory_isReading executionId jobId).isAtomic

/-- Taking a lock, once the name is found good. -/
theorem perform_acquire {client : LockClient} {taskName : String} (other : Option String)
    (hname : taskName ≠ "") :
    s.perform (Session.acquire epoch client taskName other) =
      match s.perform (transact epoch
          (Lock.acquire s.clock client.region taskName (client.owner other))) with
      | (.ok (), t) => (.ok (),
          t.logging (acquiredEvent client.region taskName (client.owner other)))
      | (.error (.alreadyHeld name key), t) => (.error (.alreadyHeld name key),
          t.logging (lockEvent "lock_contended" .info client.region taskName))
      | (.error f, t) => (.error f, t) := by
  unfold Session.acquire
  rw [if_neg hname, perform_get_bind, perform_bind, perform_tryCatch]
  cases other <;> dsimp only [LockClient.owner]
  all_goals
    generalize s.perform (transact epoch (Lock.acquire s.clock client.region taskName _)) = r
    obtain ⟨f | v, t⟩ := r
    · cases f <;> rfl
    · rfl

theorem acquire_of_noName (client : LockClient) (other : Option String) :
    s.perform (Session.acquire epoch client "" other) =
      (.error (.badArgument .lockNameMissing), s) := rfl

theorem acquire_ok {client : LockClient} {taskName : String} {other : Option String} {v : Unit}
    (hm : s.ledger.IsMade)
    (h : s.perform (Session.acquire epoch client taskName other) = (.ok v, u)) :
    ∃ now, s.clock.toInstant = .ok now ∧
      (Deed.acquire (Lock.heldRow now client.region taskName (client.owner other))).DoneIn
        s.ledger u.ledger := by
  by_cases hname : taskName = ""
  · rw [hname, acquire_of_noName] at h
    cases h
  · rw [perform_acquire other hname] at h
    split at h
    · next t ht =>
      cases h
      obtain ⟨-, hc⟩ := perform_transact_ok ht
      obtain ⟨now, hnow, hfree, hl⟩ := Lock.acquire_ok hm hc
      exact ⟨now, hnow, hfree, hl⟩
    · cases h
    · cases h

theorem acquire_isAtomic (client : LockClient) (taskName : String) (other : Option String) :
    IsAtomic (Session.acquire epoch client taskName other) := by
  intro s u f h
  by_cases hname : taskName = ""
  · rw [hname, acquire_of_noName] at h
    cases h
    rfl
  · rw [perform_acquire other hname] at h
    split at h
    · cases h
    · next t ht =>
      cases h
      exact (perform_transact_error ht : t.ledger = s.ledger)
    · next ht =>
      cases h
      exact perform_transact_error ht

theorem release_ok {client : LockClient} {taskName : String} {held : Bool} (hm : s.ledger.IsMade)
    (h : s.perform (Session.release epoch client taskName) = (.ok held, u)) :
    held = s.ledger.isHeld (lockKey taskName) client.region ∧
      u.ledger = (Deed.release (lockKey taskName) client.region).apply s.ledger := by
  rw [Session.release] at h
  obtain ⟨held', s₁, ht, h₁⟩ := perform_bind_ok_iff.1 h
  obtain ⟨-, hc⟩ := perform_transact_ok ht
  rw [Lock.commit_release hm] at hc
  obtain ⟨hheld, hl⟩ := Prod.mk.inj hc
  cases hheld
  cases h₁
  exact ⟨rfl, hl.symm⟩

theorem release_isAtomic (client : LockClient) (taskName : String) :
    IsAtomic (Session.release epoch client taskName) := .bind_emit (.transact _ _)

/-! ## Any writing call -/

theorem run_isAtomic (epoch : Nat) (w : Write) : IsAtomic (w.run epoch) := by
  cases w with
  | create taskName parentId externalId => exact .map (create_isAtomic _ _ _) _
  | start time r => exact .map (start_isAtomic _ _) _
  | complete id status time exitMessage errorMessage => exact .map (complete_isAtomic _ _ _ _ _) _
  | setExternalId id externalId => exact .map (setExternalId_isAtomic _ _) _
  | link store executionId jobId => exact .map (recordLink_isAtomic _ _ _) _
  | acquire client taskName other => exact .map (acquire_isAtomic _ _ _) _
  | release client taskName => exact .map (release_isAtomic _ _) _

theorem doneIn_of_perform {w : Write} {outcome : Except Failure Answer} (hm : s.ledger.IsMade)
    (h : s.perform (w.run epoch) = (outcome, u)) :
    DoneIn? (w.told s.clock outcome) s.ledger u.ledger := by
  -- what fails does no deed, as the calls are atomic; of a success each call tells its own deed
  cases outcome with
  | error f => exact run_isAtomic epoch w s u f h
  | ok a =>
    rw [told]
    cases w with
    | create taskName parentId externalId =>
      obtain ⟨⟨id, e⟩, s₁, hc, h₁⟩ := perform_bind_ok_iff.1 h
      obtain ⟨now, hnow, hid, -, hdone⟩ := create_ok hm hc
      cases h₁
      rw [deed?, hid, instant?_eq hnow]
      exact hdone
    | start time r =>
      obtain ⟨e, s₁, hc, h₁⟩ := perform_bind_ok_iff.1 h
      obtain ⟨now, startTime, hnow, htime, hdone⟩ := start_ok hc
      cases h₁
      rw [deed?, instant?_eq hnow, instant?_eq htime]
      exact hdone
    | complete id status time exitMessage errorMessage =>
      obtain ⟨e, s₁, hc, h₁⟩ := perform_bind_ok_iff.1 h
      obtain ⟨now, endTime, exit, hnow, htime, rfl, hdone⟩ := complete_ok hc
      cases h₁
      rw [deed?, instant?_eq hnow, instant?_eq htime]
      exact hdone
    | setExternalId id externalId =>
      obtain ⟨v, s₁, hc, h₁⟩ := perform_bind_ok_iff.1 h
      obtain ⟨now, hnow, hdone⟩ := setExternalId_ok hc
      cases h₁
      rw [deed?, instant?_eq hnow]
      exact hdone
    | link store executionId jobId =>
      obtain ⟨row, s₁, hc, h₁⟩ := perform_bind_ok_iff.1 h
      cases h₁
      cases store with
      | ledger => exact recordLink_ok hc
      | memory =>
        obtain ⟨-, hread⟩ := recordLink_memory_isReading executionId jobId s
        rw [hc] at hread
        exact hread
    | acquire client taskName other =>
      obtain ⟨v, s₁, hc, h₁⟩ := perform_bind_ok_iff.1 h
      obtain ⟨now, hnow, hdone⟩ := acquire_ok hm hc
      cases h₁
      rw [deed?, instant?_eq hnow]
      exact hdone
    | release client taskName =>
      obtain ⟨held, s₁, hc, h₁⟩ := perform_bind_ok_iff.1 h
      obtain ⟨hheld, hl⟩ := release_ok hm hc
      cases h₁
      cases held with
      | true => exact ⟨hheld.symm, hl⟩
      | false => exact hl.trans (Lock.release_apply_of_free hheld.symm)

/-- A writing call does the deed that its outcome tells of, and nothing else. -/
theorem run_doneIn (hm : s.ledger.IsMade) (epoch : Nat) (w : Write) :
    DoneIn? (w.told s.clock (s.perform (w.run epoch)).1) s.ledger
      (s.perform (w.run epoch)).2.ledger := doneIn_of_perform hm rfl

/-! ## Deeds to locks -/

theorem told_acquire {clock : Timestamp} {client : LockClient} {taskName : String}
    {other : Option String} {outcome : Except Failure Answer} {d : Deed}
    (h : (Write.acquire client taskName other).told clock outcome = some d) :
    ∃ now, clock.instant? = some now ∧
      d = .acquire (Lock.heldRow now client.region taskName (client.owner other)) := by
  cases outcome with
  | error f => cases h
  | ok a =>
    obtain ⟨now, hnow, hd⟩ := Option.bind_eq_some_iff.1 h
    exact ⟨now, hnow, (Option.some.inj hd).symm⟩

theorem told_release {clock : Timestamp} {client : LockClient} {taskName : String}
    {outcome : Except Failure Answer} {d : Deed}
    (h : (Write.release client taskName).told clock outcome = some d) :
    d = .release (lockKey taskName) client.region := by
  cases outcome with
  | error f => cases h
  | ok a =>
    cases a with
    | flag b =>
      cases b with
      | true => exact (Option.some.inj h).symm
      | false => cases h
    | _ => cases h

/-- Whether a call takes or gives back a lock. -/
def onLocks : Write → Bool
  | acquire _ _ _ | release _ _ => true
  | _ => false

theorem told_onLocks {clock : Timestamp} {w : Write} {outcome : Except Failure Answer} {d : Deed}
    (h : w.told clock outcome = some d) : d.onLocks = w.onLocks := by
  cases outcome with
  | error f => cases h
  | ok a =>
    cases w with
    | create taskName parentId externalId =>
      cases a with
      | execution e =>
        cases e with
        | none => cases h
        | some e =>
          obtain ⟨id, -, h⟩ := Option.bind_eq_some_iff.1 h
          obtain ⟨now, -, h⟩ := Option.bind_eq_some_iff.1 h
          cases h
          rfl
      | _ => cases h
    | start time r =>
      obtain ⟨now, -, h⟩ := Option.bind_eq_some_iff.1 h
      obtain ⟨startTime, -, h⟩ := Option.bind_eq_some_iff.1 h
      cases h
      rfl
    | complete id status time exitMessage errorMessage =>
      obtain ⟨now, -, h⟩ := Option.bind_eq_some_iff.1 h
      obtain ⟨endTime, -, h⟩ := Option.bind_eq_some_iff.1 h
      obtain ⟨exit, -, h⟩ := Option.bind_eq_some_iff.1 h
      cases h
      rfl
    | setExternalId id externalId =>
      obtain ⟨now, -, h⟩ := Option.bind_eq_some_iff.1 h
      cases h
      rfl
    | link store executionId jobId =>
      cases store with
      | ledger =>
        cases h
        rfl
      | memory => cases h
    | acquire client taskName other =>
      obtain ⟨now, -, rfl⟩ := told_acquire h
      rfl
    | release client taskName =>
      rw [told_release h]
      rfl

/-- A call that is about no lock leaves all lock rows. -/
theorem lockRows_run {w : Write} (hm : s.ledger.IsMade) (hw : w.onLocks = false) :
    (s.perform (w.run epoch)).2.ledger.lockRows = s.ledger.lockRows := by
  have hdone := run_doneIn hm epoch w
  cases hd : w.told s.clock (s.perform (w.run epoch)).1 with
  | none =>
    rw [hd] at hdone
    exact congrArg Ledger.lockRows hdone
  | some d =>
    rw [hd] at hdone
    obtain ⟨-, hledger⟩ : d.DoneIn s.ledger _ := hdone
    rw [hledger, d.lockRows_apply ((told_onLocks hd).trans hw)]

/-! ## What writing calls leave alone -/

theorem logged_isFramed {α β : Type} {call : SessionM α} (hc : IsFramed call) (e : α → LogEvent)
    (b : α → β) : IsFramed (call >>= fun a => emit (e a) >>= fun _ => pure (b a)) :=
  hc.bind fun _ => ((SessionM.IsReading.emit _).bind fun _ => .pure _).isFramed

theorem create_isFramed (taskName : Option String) (parentId : Option Int)
    (externalId : Option String) :
    IsFramed (Session.create epoch taskName parentId externalId) :=
  SessionM.IsReading.get.isFramed.bind fun _ => logged_isFramed (.transact _ _) _ _

theorem start_isFramed (time : Timestamp) (r : Recording.Start) :
    IsFramed (Session.start epoch time r) :=
  SessionM.IsReading.get.isFramed.bind fun _ => (SessionM.IsReading.liftM _).isFramed.bind fun _ =>
    logged_isFramed (.transact _ _) _ _

theorem complete_isFramed (id : Int) (status : Option ExitStatus) (time : Timestamp)
    (exitMessage errorMessage : Option String) :
    IsFramed (Session.complete epoch id status time exitMessage errorMessage) :=
  SessionM.IsReading.get.isFramed.bind fun _ => (SessionM.IsReading.liftM _).isFramed.bind fun _ =>
    logged_isFramed (.transact _ _) _ _

theorem setExternalId_isFramed (id : Int) (externalId : Option String) :
    IsFramed (Session.setExternalId epoch id externalId) :=
  SessionM.IsReading.get.isFramed.bind fun _ => (IsFramed.transact _ _).bind fun _ =>
    (SessionM.IsReading.ite (.bind (.throw _) fun _ => .emit _) (.emit _)).isFramed

theorem recordLink_isFramed (store : LinkStore) (executionId jobId : Int) :
    IsFramed (Session.recordLink epoch store executionId jobId) := by
  cases store with
  | ledger => exact logged_isFramed (.transact _ _) _ _
  | memory => exact (recordLink_memory_isReading executionId jobId).isFramed

theorem acquire_isFramed (client : LockClient) (taskName : String) (other : Option String) :
    IsFramed (Session.acquire epoch client taskName other) := by
  intro s
  by_cases hname : taskName = ""
  · rw [hname, acquire_of_noName]
    exact Framed.refl s
  · have hframed := IsFramed.transact epoch
      (Lock.acquire s.clock client.region taskName (client.owner other)) s
    rw [perform_acquire other hname]
    split
    · next ht => exact (ht ▸ hframed).trans (Framed.logging _ _)
    · next ht => exact (ht ▸ hframed).trans (Framed.logging _ _)
    · next ht => exact ht ▸ hframed

theorem release_isFramed (client : LockClient) (taskName : String) :
    IsFramed (Session.release epoch client taskName) := logged_isFramed (.transact _ _) _ _

theorem run_isFramed (epoch : Nat) (w : Write) : IsFramed (w.run epoch) := by
  cases w with
  | create taskName parentId externalId => exact .map (create_isFramed _ _ _) _
  | start time r => exact .map (start_isFramed _ _) _
  | complete id status time exitMessage errorMessage =>
    exact .map (complete_isFramed _ _ _ _ _) _
  | setExternalId id externalId => exact .map (setExternalId_isFramed _ _) _
  | link store executionId jobId => exact .map (recordLink_isFramed _ _ _) _
  | acquire client taskName other => exact .map (acquire_isFramed _ _ _) _
  | release client taskName => exact .map (release_isFramed _ _) _

end Write

end RunLedger
