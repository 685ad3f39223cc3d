import RunLedger.Proofs.Store.Commit
import RunLedger.Session.Basic

/-!
# Calls of a session step by step

How the steps of a call compose, what a transaction does to the session that it runs in, and what
calls leave alone.  A call on a ledger keeps the set-up of its session and every other ledger; one
that only reads keeps the ledger too.

    (s.setLedger l).ledger = l                                            (ledger_setLedger)
    s.isAt epoch → s.perform (transact epoch t) =
      ((t.commit s.ledger).1, s.setLedger (t.commit s.ledger).2)          (perform_transact)
    t.IsReading → (transact epoch t).IsReading                            (IsReading.transact)
-/

namespace RunLedger

/-! ## Ledgers of a disk -/

namespace Database

theorem putLedger_eq_putEntry (key : String) (l : Ledger) (ls : List (String × Ledger)) :
    putLedger key l ls = putEntry key l ls := by
  induction ls with
  | nil => rfl
  | cons e rest ih => rw [putLedger, putEntry, ih]

/-- Whether two prefixes name the same ledger. -/
def SamePrefix (p q : String) : Prop := Text.asciiLowered p = Text.asciiLowered q

theorem ledger_congr {p q : String} (h : SamePrefix q p) (db : Database) :
    db.ledger q = db.ledger p := by
  rw [ledger, ledger, h]

theorem ledger_setLedger {p q : String} (db : Database) (h : SamePrefix q p) (l : Ledger) :
    (db.setLedger p l).ledger q = l := by
  rw [ledger, setLedger, h, putLedger_eq_putEntry, lookup_putEntry_self]
  rfl

theorem ledger_setLedger_of_ne {p q : String} (db : Database) (h : ¬ SamePrefix q p) (l : Ledger) :
    (db.setLedger p l).ledger q = db.ledger q := by
  rw [ledger, setLedger, putLedger_eq_putEntry, lookup_putEntry_of_ne h]
  rfl

end Database

namespace Disk

theorem lookup_putDatabase_self (place : Location) (db : Database)
    (ds : List (Location × Database)) : (putDatabase place db ds).lookup place = some db := by
  induction ds with
  | nil => simp [putDatabase]
  | cons e rest ih =>
    obtain ⟨p, d⟩ := e
    rw [putDatabase]
    split
    · next hp => simp [hp]
    · next hp => simp [List.lookup_cons, beq_false_of_ne (Ne.symm hp), ih]

theorem lookup_putDatabase_of_ne {place other : Location} (h : other ≠ place) (db : Database)
    (ds : List (Location × Database)) :
    (putDatabase place db ds).lookup other = ds.lookup other := by
  induction ds with
  | nil => simp [putDatabase, h]
  | cons e rest ih =>
    obtain ⟨p, d⟩ := e
    rw [putDatabase]
    split
    · next hp => simp [List.lookup_cons, hp, beq_false_of_ne h]
    · simp [List.lookup_cons, ih]

@[simp] theorem get_put (d : Disk) (place : Location) (db : Database) :
    (d.put place db).get place = db := by
  rw [get, put, lookup_putDatabase_self]
  rfl

theorem get_put_of_ne {place other : Location} (d : Disk) (h : other ≠ place) (db : Database) :
    (d.put place db).get other = d.get other := by
  rw [get, put, lookup_putDatabase_of_ne h]
  rfl

/-- The ledger of a prefix in the database at a place. -/
def ledgerAt (d : Disk) (place : Location) (tablePrefix : String) : Ledger :=
  (d.get place).ledger tablePrefix

end Disk

/-! ## Steps in a row -/

namespace Session

variable {α β : Type}

@[simp] theorem perform_pure (a : α) (s : Session) : s.perform (pure a) = (.ok a, s) := rfl

@[simp] theorem perform_throw (f : Failure) (s : Session) :
    s.perform (throw f : SessionM α) = (.error f, s) := rfl

@[simp] theorem perform_get (s : Session) : s.perform get = (.ok s, s) := rfl

@[simp] theorem perform_liftM (r : Except Failure α) (s : Session) :
    s.perform (liftM r) = (r, s) := by
  cases r <;> rfl

theorem perform_get_bind (k : Session → SessionM α) (s : Session) :
    s.perform (get >>= k) = s.perform (k s) := rfl

theorem perform_bind (call : SessionM α) (k : α → SessionM β) (s : Session) :
    s.perform (call >>= k) = match s.perform call with
      | (.ok a, t) => t.perform (k a)
      | (.error f, t) => (.error f, t) := by
  simp only [perform, ExceptT.run_bind, StateT.run_bind]
  cases StateT.run (ExceptT.run call) s with
  | mk outcome t => cases outcome <;> rfl

theorem perform_bind_of_ok {call : SessionM α} {k : α → SessionM β} {s t : Session} {a : α}
    (h : s.perform call = (.ok a, t)) : s.perform (call >>= k) = t.perform (k a) := by
  rw [perform_bind, h]

theorem perform_bind_of_error {call : SessionM α} {k : α → SessionM β} {s t : Session}
    {f : Failure} (h : s.perform call = (.error f, t)) :
    s.perform (call >>= k) = (.error f, t) := by
  rw [perform_bind, h]

theorem perform_bind_ok_iff {call : SessionM α} {k : α → SessionM β} {s u : Session} {b : β} :
    s.perform (call >>= k) = (.ok b, u) ↔
      ∃ a t, s.perform call = (.ok a, t) ∧ t.perform (k a) = (.ok b, u) := by
  rw [perform_bind]
  constructor
  · intro h
    rcases he : s.perform call with ⟨f | a, t⟩
    · rw [he] at h
      cases h
    · rw [he] at h
      exact ⟨a, t, rfl, h⟩
  · rintro ⟨a, t, he, hk⟩
    rw [he]
    exact hk

theorem perform_map_fst (call : SessionM α) (b : α → β) (s : Session) :
    (s.perform (call >>= fun a => pure (b a))).1 = (s.perform call).1.map b := by
  rw [perform_bind]
  rcases s.perform call with ⟨f | a, t⟩ <;> rfl

theorem perform_map_snd (call : SessionM α) (b : α → β) (s : Session) :
    (s.perform (call >>= fun a => pure (b a))).2 = (s.perform call).2 := by
  rw [perform_bind]
  rcases s.perform call with ⟨f | a, t⟩ <;> rfl

theorem perform_tryCatch (call : SessionM α) (k : Failure → SessionM α) (s : Session) :
    s.perform (tryCatch call k) = match s.perform call with
      | (.ok a, t) => (.ok a, t)
      | (.error f, t) => t.perform (k f) := by
  have hrun : s.perform (tryCatch call k) = StateT.run (ExceptT.run (ExceptT.tryCatch call k)) s :=
    rfl
  have hcall : StateT.run (ExceptT.run call) s = s.perform call := rfl
  rw [hrun, ExceptT.tryCatch, ExceptT.run_mk, StateT.run_bind]
  change (StateT.run (ExceptT.run call) s >>= _) = _
  rw [hcall]
  rcases s.perform call with ⟨f | a, t⟩ <;> rfl

/-- The session with one more event in its log. -/
def logging (e : LogEvent) (s : Session) : Session := { s with log := s.log ++ [e] }

theorem perform_emit (e : LogEvent) (s : Session) :
    s.perform (SessionM.emit e) = (.ok (), s.logging e) := rfl

@[simp] theorem ledger_logging (e : LogEvent) (s : Session) : (s.logging e).ledger = s.ledger := rfl

@[simp] theorem ledger_tick (s : Session) : s.tick.ledger = s.ledger := by
  unfold ledger tick
  rfl

@[simp] theorem ledger_setLedger (s : Session) (l : Ledger) : (s.setLedger l).ledger = l := by
  have hget : (s.setLedger l).disk.get s.handle.place =
      (s.disk.get s.handle.place).setLedger s.handle.tablePrefix l := Disk.get_put _ _ _
  have hhandle : (s.setLedger l).handle = s.handle := rfl
  rw [ledger, hhandle, hget]
  exact Database.ledger_setLedger _ rfl l

/-! ## Transactions -/

/-- Whether the handle of an opening is the session's own and open. -/
def isAt (epoch : Nat) (s : Session) : Bool := s.epoch = epoch && s.handle.isOpen

theorem perform_ensureOpen {epoch : Nat} {s : Session} (h : s.isAt epoch = true) :
    s.perform (SessionM.ensureOpen epoch) = (.ok (), s) := by
  have hopen : (s.epoch = epoch && s.handle.isOpen) = true := h
  rw [SessionM.ensureOpen, perform_get_bind, if_pos hopen]
  rfl

theorem perform_ensureOpen_of_closed {epoch : Nat} {s : Session} (h : s.isAt epoch = false) :
    s.perform (SessionM.ensureOpen epoch) = (.error .databaseClosed, s) := by
  have hclosed : ¬ ((s.epoch = epoch && s.handle.isOpen) = true) := Bool.eq_false_iff.1 h
  rw [SessionM.ensureOpen, perform_get_bind, if_neg hclosed]
  rfl

theorem perform_transact {epoch : Nat} {s : Session} (h : s.isAt epoch = true)
    (t : Transaction α) :
    s.perform (SessionM.transact epoch t) =
      ((t.commit s.ledger).1, s.setLedger (t.commit s.ledger).2) := by
  rw [SessionM.transact, perform_bind_of_ok (perform_ensureOpen h), perform_get_bind]
  rcases hc : t.commit s.ledger with ⟨f | a, l⟩
  · rfl
  · rfl

theorem perform_transact_of_closed {epoch : Nat} {s : Session} (h : s.isAt epoch = false)
    (t : Transaction α) :
    s.perform (SessionM.transact epoch t) = (.error .databaseClosed, s) :=
  perform_bind_of_error (perform_ensureOpen_of_closed h)

theorem perform_transact_ok {epoch : Nat} {s u : Session} {t : Transaction α} {a : α}
    (h : s.perform (SessionM.transact epoch t) = (.ok a, u)) :
    s.isAt epoch = true ∧ t.commit s.ledger = (.ok a, u.ledger) := by
  cases hat : s.isAt epoch
  · rw [perform_transact_of_closed hat] at h
    cases h
  · rw [perform_transact hat] at h
    obtain ⟨h₁, rfl⟩ := Prod.mk.inj h
    rw [ledger_setLedger]
    exact ⟨rfl, Prod.ext h₁ rfl⟩

theorem perform_transact_error {epoch : Nat} {s u : Session} {t : Transaction α} {f : Failure}
    (h : s.perform (SessionM.transact epoch t) = (.error f, u)) : u.ledger = s.ledger := by
  cases hat : s.isAt epoch
  · rw [perform_transact_of_closed hat] at h
    cases h
    rfl
  · rw [perform_transact hat] at h
    obtain ⟨h₁, rfl⟩ := Prod.mk.inj h
    rw [ledger_setLedger]
    exact Transaction.commit_error h₁

/-! ## What calls leave alone -/

/-- Whether the session's handle leads to the ledger of a prefix at a place. -/
def leadsTo (s : Session) (place : Location) (tablePrefix : String) : Prop :=
  place = s.handle.place ∧ Database.SamePrefix tablePrefix s.handle.tablePrefix

/-- Two sessions of the same set-up: the same opening of the same ledger, and the same objects. -/
structure SameSetup (s t : Session) : Prop where
  plan : t.plan = s.plan
  handle : t.handle = s.handle
  epoch : t.epoch = s.epoch
  locks : t.locks = s.locks
  lifecycle : t.lifecycle = s.lifecycle

namespace SameSetup

variable {s t u : Session}

theorem refl (s : Session) : SameSetup s s := ⟨rfl, rfl, rfl, rfl, rfl⟩

theorem trans (h : SameSetup s t) (k : SameSetup t u) : SameSetup s u where
  plan := k.plan.trans h.plan
  handle := k.handle.trans h.handle
  epoch := k.epoch.trans h.epoch
  locks := k.locks.trans h.locks
  lifecycle := k.lifecycle.trans h.lifecycle

theorem tick (s : Session) : SameSetup s s.tick := by
  unfold Session.tick
  exact ⟨rfl, rfl, rfl, rfl, rfl⟩

theorem isAt (h : SameSetup s t) (epoch : Nat) : t.isAt epoch = s.isAt epoch := by
  rw [Session.isAt, Session.isAt, h.epoch, h.handle]

end SameSetup

theorem ledger_of_leadsTo {s t : Session} {place : Location} {q : String}
    (h : s.leadsTo place q) (hs : SameSetup s t) : t.disk.ledgerAt place q = t.ledger := by
  obtain ⟨rfl, hq⟩ := h
  rw [Disk.ledgerAt, ledger, hs.handle]
  exact Database.ledger_congr hq _

/-- Two sessions that agree on everything but their log, the ledger that their handle leads to, and
what they keep in memory beside it. -/
structure Framed (s t : Session) : Prop extends SameSetup s t where
  clock : t.clock = s.clock
  elsewhere : ∀ place tablePrefix, ¬ s.leadsTo place tablePrefix →
    t.disk.ledgerAt place tablePrefix = s.disk.ledgerAt place tablePrefix

namespace Framed

variable {s t u : Session}

theorem refl (s : Session) : Framed s s := ⟨SameSetup.refl s, rfl, fun _ _ _ => rfl⟩

theorem trans (h : Framed s t) (k : Framed t u) : Framed s u where
  toSameSetup := h.toSameSetup.trans k.toSameSetup
  clock := k.clock.trans h.clock
  elsewhere := fun place tablePrefix hne => by
    have hne' : ¬ t.leadsTo place tablePrefix := by
      rw [leadsTo, h.handle]
      exact hne
    exact (k.elsewhere place tablePrefix hne').trans (h.elsewhere place tablePrefix hne)

theorem logging (e : LogEvent) (s : Session) : Framed s (s.logging e) :=
  ⟨⟨rfl, rfl, rfl, rfl, rfl⟩, rfl, fun _ _ _ => rfl⟩

theorem setLedger (s : Session) (l : Ledger) : Framed s (s.setLedger l) := by
  refine ⟨⟨rfl, rfl, rfl, rfl, rfl⟩, rfl, fun place tablePrefix hne => ?_⟩
  rw [Disk.ledgerAt, Disk.ledgerAt, Session.setLedger, setDatabase]
  by_cases hp : place = s.handle.place
  · subst hp
    have hq : ¬ Database.SamePrefix tablePrefix s.handle.tablePrefix := fun hq => hne ⟨rfl, hq⟩
    rw [Disk.get_put, Database.ledger_setLedger_of_ne _ hq]
  · rw [Disk.get_put_of_ne _ hp]

/-- Where its own ledger is the same too, no ledger differs. -/
theorem ledgerAt_eq (h : Framed s t) (hledger : t.ledger = s.ledger) (place : Location)
    (tablePrefix : String) :
    t.disk.ledgerAt place tablePrefix = s.disk.ledgerAt place tablePrefix := by
  by_cases hleads : s.leadsTo place tablePrefix
  · rw [ledger_of_leadsTo hleads h.toSameSetup, hledger,
      ledger_of_leadsTo hleads (SameSetup.refl s)]
  · exact h.elsewhere place tablePrefix hleads

end Framed

end Session

namespace SessionM

open Session

variable {α β : Type}

/-- If a call, and whatever may follow it, leads to sessions in some transitive relation to those that
it started from, so do the two in a row. -/
theorem perform_bind_leads {R : Session → Session → Prop} (trans : ∀ s t u, R s t → R t u → R s u)
    {call : SessionM α} {k : α → SessionM β} (hc : ∀ s, R s (s.perform call).2)
    (hk : ∀ a s, R s (s.perform (k a)).2) (s : Session) : R s (s.perform (call >>= k)).2 := by
  have h := hc s
  rw [perform_bind]
  rcases he : s.perform call with ⟨f | a, t⟩
  · rw [he] at h
    exact h
  · rw [he] at h
    exact trans _ _ _ h (hk a t)

/-- A call that keeps the set-up of its session and all other ledgers. -/
def IsFramed (call : SessionM α) : Prop := ∀ s, Framed s (s.perform call).2

/-- A call that moreover leaves the ledger as it is. -/
def IsReading (call : SessionM α) : Prop :=
  ∀ s, Framed s (s.perform call).2 ∧ (s.perform call).2.ledger = s.ledger

theorem IsReading.isFramed {call : SessionM α} (h : IsReading call) : IsFramed call :=
  fun s => (h s).1

namespace IsFramed

theorem bind {call : SessionM α} {k : α → SessionM β} (hc : IsFramed call)
    (hk : ∀ a, IsFramed (k a)) : IsFramed (call >>= k) :=
  perform_bind_leads (fun _ _ _ h h' => h.trans h') hc hk

theorem map {call : SessionM α} (hc : IsFramed call) (b : α → β) :
    IsFramed (call >>= fun a => pure (b a)) := hc.bind fun _ s => Framed.refl s

theorem transact (epoch : Nat) (t : Transaction α) : IsFramed (transact epoch t) := by
  intro s
  cases h : s.isAt epoch
  · rw [perform_transact_of_closed h]
    exact Framed.refl s
  · rw [perform_transact h]
    exact Framed.setLedger s _

theorem tryCatch {call : SessionM α} {k : Failure → SessionM α} (hc : IsFramed call)
    (hk : ∀ f, IsFramed (k f)) : IsFramed (MonadExcept.tryCatch call k) := by
  intro s
  have h := hc s
  rw [perform_tryCatch]
  rcases he : s.perform call with ⟨f | a, t⟩
  · rw [he] at h
    exact h.trans (hk f t)
  · rw [he] at h
    exact h

end IsFramed

namespace IsReading

theorem pure (a : α) : IsReading (Pure.pure a) := fun s => ⟨Framed.refl s, rfl⟩

theorem throw (f : Failure) : IsReading (MonadExcept.throw f : SessionM α) :=
  fun s => ⟨Framed.refl s, rfl⟩

theorem get : IsReading MonadState.get := fun s => ⟨Framed.refl s, rfl⟩

theorem liftM (r : Except Failure α) : IsReading (MonadLiftT.monadLift r : SessionM α) := by
  intro s
  cases r
  · exact throw _ s
  · exact pure _ s

theorem emit (e : LogEvent) : IsReading (SessionM.emit e) :=
  fun s => ⟨Framed.logging e s, rfl⟩

theorem bind {call : SessionM α} {k : α → SessionM β} (hc : IsReading call)
    (hk : ∀ a, IsReading (k a)) : IsReading (call >>= k) :=
  perform_bind_leads (R := fun s t => Framed s t ∧ t.ledger = s.ledger)
    (fun _ _ _ h h' => ⟨h.1.trans h'.1, h'.2.trans h.2⟩) hc hk

theorem map {call : SessionM α} (hc : IsReading call) (b : α → β) :
    IsReading (call >>= fun a => Pure.pure (b a)) := hc.bind fun _ => pure _

theorem ite {p : Prop} [Decidable p] {c d : SessionM α} (hc : IsReading c) (hd : IsReading d) :
    IsReading (if p then c else d) := by
  split
  · exact hc
  · exact hd

theorem transact_of_commit {t : Transaction α} (ht : ∀ l, (t.commit l).2 = l) (epoch : Nat) :
    IsReading (transact epoch t) := by
  intro s
  refine ⟨IsFramed.transact epoch t s, ?_⟩
  cases h : s.isAt epoch
  · rw [perform_transact_of_closed h]
  · rw [perform_transact h, ht]
    exact ledger_setLedger s s.ledger

theorem transact {t : Transaction α} (ht : t.IsReading) (epoch : Nat) :
    IsReading (transact epoch t) := transact_of_commit ht.commit epoch

end IsReading

end SessionM

end RunLedger
