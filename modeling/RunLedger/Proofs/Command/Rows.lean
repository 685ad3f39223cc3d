import RunLedger.Proofs.Command.Masking
import RunLedger.Proofs.Session.LockRequest

/-!
# What commands leave of the rows of a ledger

A command opens a ledger of its own, which may make tables but puts no row anywhere.  Whatever the
command is and however it ends, all rows of every ledger stay, but for the rows of one lock where a
lock is given back: that of the task's key in the region of the settings, in the ledger that they
open.

    SameRows (disk.ledgerAt place q) ((openHandle disk url o).2.ledgerAt place q)
                                                                             (openHandle_sameRows)
    SameRows l m ∨ ∃ s taskName, Reaches env clock args disk s (.lockRelease taskName) place q ∧
      LosesLock (lockKey taskName) s.lockRegion l m                                  (run_effect)
-/

namespace RunLedger

/-! ## Rows of two ledgers -/

namespace Ledger

/-- Two ledgers with the same rows of executions, parameters and links, and the same last number. -/
structure SameRecords (l m : Ledger) : Prop where
  executions : m.executionRows = l.executionRows
  parameters : m.parameterRows = l.parameterRows
  links : m.linkRows = l.linkRows
  lastId : m.lastId = l.lastId

/-- Two ledgers with the same rows and the same last number. -/
structure SameRows (l m : Ledger) : Prop extends SameRecords l m where
  locks : m.lockRows = l.lockRows

variable {k l m : Ledger} {key region : String}

theorem SameRecords.trans (h : SameRecords k l) (h' : SameRecords l m) : SameRecords k m where
  executions := h'.executions.trans h.executions
  parameters := h'.parameters.trans h.parameters
  links := h'.links.trans h.links
  lastId := h'.lastId.trans h.lastId

theorem SameRows.refl (l : Ledger) : SameRows l l := ⟨⟨rfl, rfl, rfl, rfl⟩, rfl⟩

theorem SameRows.trans (h : SameRows k l) (h' : SameRows l m) : SameRows k m :=
  ⟨h.toSameRecords.trans h'.toSameRecords, h'.locks.trans h.locks⟩

/-- A table that is made where there is none has no rows. -/
theorem SameRows.make {role : TableRole} (h : l.has role = false) (p : String) :
    SameRows l (l.make p role) := by
  obtain ⟨executions, parameters, links, locks, lastId⟩ := l
  cases role with
  | executions =>
    cases executions with
    | none => exact ⟨⟨rfl, rfl, rfl, rfl⟩, rfl⟩
    | some t => cases h
  | parameters =>
    cases parameters with
    | none => exact ⟨⟨rfl, rfl, rfl, rfl⟩, rfl⟩
    | some t => cases h
  | links =>
    cases links with
    | none => exact ⟨⟨rfl, rfl, rfl, rfl⟩, rfl⟩
    | some t => cases h
  | locks =>
    cases locks with
    | none => exact ⟨⟨rfl, rfl, rfl, rfl⟩, rfl⟩
    | some t => cases h

/-- The second ledger has the rows of the first, without the lock rows of a key in a region. -/
structure LosesLock (key region : String) (l m : Ledger) : Prop extends SameRecords l m where
  locks : m.lockRows = l.lockRows.filter fun r => !Lock.isFor key region r

theorem LosesLock.of_release (key region : String) (l : Ledger) :
    LosesLock key region l ((Deed.release key region).apply l) := by
  refine ⟨⟨rfl, rfl, ?_, rfl⟩, ?_⟩
  · rfl
  · obtain ⟨executions, parameters, links, locks, lastId⟩ := l
    cases locks <;> rfl

theorem SameRows.losesLock (h : SameRows k l) (h' : LosesLock key region l m) :
    LosesLock key region k m :=
  ⟨h.toSameRecords.trans h'.toSameRecords, by rw [h'.locks, h.locks]⟩

/-- As many rows are lost as there are of the key in the region. -/
theorem LosesLock.length_lockRows (h : LosesLock key region l m) :
    l.lockRows.length = m.lockRows.length + (l.locksOf key region).length := by
  rw [h.locks, locksOf, Nat.add_comm]
  exact List.length_eq_length_filter_add _

end Ledger

/-! ## Openings -/

namespace Database

open Ledger

theorem createTable_sameRows (p q : String) (role : TableRole) (db : Database) :
    SameRows (db.ledger q) ((createTable p role db).2.ledger q) := by
  have hmade : (db.ledger p).has role = false →
      SameRows (db.ledger q) ((db.setLedger p ((db.ledger p).make p role)).ledger q) := by
    intro hmissing
    by_cases hsame : SamePrefix q p
    · rw [ledger_setLedger db hsame, ledger_congr hsame]
      exact .make hmissing p
    · rw [ledger_setLedger_of_ne db hsame]
      exact .refl _
  unfold createTable
  dsimp only
  split
  · exact .refl _
  · next hmissing =>
    split
    · exact .refl _
    · split
      · exact hmade (Bool.eq_false_iff.2 hmissing)
      · exact hmade (Bool.eq_false_iff.2 hmissing)

theorem createTables_sameRows (p q : String) (roles : List TableRole) (db : Database) :
    SameRows (db.ledger q) ((createTables p roles db).2.ledger q) :=
  createTables_keeps (P := fun after => SameRows (db.ledger q) (after.ledger q))
    (fun role after hsame => hsame.trans (createTable_sameRows p q role after)) roles (.refl _)

theorem openLedger_sameRows (db : Database) (url p q : String) (create : Bool) :
    SameRows (db.ledger q) ((db.openLedger url p create).2.ledger q) := by
  unfold openLedger
  dsimp only
  split
  · split
    · exact createTables_sameRows p q _ db
    · exact .refl _
  · exact .refl _

end Database

namespace Session

open Ledger

variable {place : Location}

/-- An opening puts no row in any file and takes none away, whatever comes of it. -/
theorem openHandle_sameRows (disk : Disk) (url : String) (o : Opening) (hfile : place ≠ .memory)
    (q : String) :
    SameRows (disk.ledgerAt place q) ((openHandle disk url o).2.ledgerAt place q) := by
  unfold openHandle
  split
  · exact .refl _
  · next opened dialect _ =>
    dsimp only
    by_cases h : place = opened
    · subst h
      rw [Disk.ledgerAt, Disk.ledgerAt, Disk.get_put, if_neg hfile]
      exact Database.openLedger_sameRows _ _ _ _ _
    · rw [Disk.ledgerAt, Disk.ledgerAt, Disk.get_put_of_ne _ h]
      exact .refl _

end Session

/-! ## Giving back a lock -/

namespace Lock

open Transaction

/-- Giving back a lock takes away the rows of its key and region, or is refused. -/
theorem commit_release_cases (region taskName : String) (l : Ledger) :
    ((release region taskName).commit l).2 = l ∨
      ((release region taskName).commit l).2 = (Deed.release (lockKey taskName) region).apply l := by
  rcases hcommit : (release region taskName).commit l with ⟨f | held, m⟩
  · exact .inl (by rw [← commit_error (congrArg Prod.fst hcommit), hcommit])
  · have hexec := commit_eq_ok_iff.1 hcommit
    unfold release at hexec
    rw [exec_get_bind] at hexec
    obtain ⟨t, l₁, hrequire, hrest⟩ := exec_bind_ok_iff.1 hexec
    obtain ⟨ht, rfl⟩ := require_ok hrequire
    refine .inr ?_
    cases hrest
    rw [Deed.apply, Ledger.mapLocks, ht]
    rfl

end Lock

namespace Session

open SessionM Ledger

variable {s : Session} {place : Location}

theorem ledger_release (epoch : Nat) (client : LockClient) (taskName : String) (s : Session) :
    (s.perform ((Write.release client taskName).run epoch)).2.ledger = s.ledger ∨
      (s.perform ((Write.release client taskName).run epoch)).2.ledger =
        (Deed.release (lockKey taskName) client.region).apply s.ledger := by
  have hsame : (s.perform ((Write.release client taskName).run epoch)).2.ledger =
      (s.perform (transact epoch (Lock.release client.region taskName))).2.ledger := by
    rw [Write.run, perform_map_snd, Session.release, perform_bind]
    rcases s.perform (transact epoch (Lock.release client.region taskName)) with ⟨f | held, t⟩
    · rfl
    · rfl
  rw [hsame]
  cases hat : s.isAt epoch with
  | false =>
    rw [perform_transact_of_closed hat]
    exact .inl rfl
  | true =>
    rw [perform_transact hat, ledger_setLedger]
    exact Lock.commit_release_cases _ _ _

/-- Giving back a lock through a session takes rows of its key and region away from the session's
own ledger, and nothing else from anywhere. -/
theorem release_effect (epoch : Nat) (client : LockClient) (taskName : String) (s : Session)
    (place : Location) (q : String) :
    (s.perform ((Write.release client taskName).run epoch)).2.disk.ledgerAt place q =
        s.disk.ledgerAt place q ∨
      s.leadsTo place q ∧
        (s.perform ((Write.release client taskName).run epoch)).2.disk.ledgerAt place q =
          (Deed.release (lockKey taskName) client.region).apply (s.disk.ledgerAt place q) := by
  have hframed := Write.run_isFramed epoch (.release client taskName) s
  by_cases hleads : s.leadsTo place q
  · rw [ledger_of_leadsTo hleads hframed.toSameSetup,
      ledger_of_leadsTo hleads (SameSetup.refl s)]
    exact (ledger_release epoch client taskName s).imp id fun hless => ⟨hleads, hless⟩
  · exact .inl (hframed.elsewhere place q hleads)

end Session

/-! ## Commands -/

namespace Command

open Session SessionM Ledger

variable {env : Environment} {clock : Timestamp} {disk : Disk} {place : Location} {q : String}

theorem opened_sameRows {s : Settings} {session : Session} {d : Disk}
    (hopen : Session.fresh (plan s) clock disk s.opening = (.ok session, d))
    (hfile : place ≠ .memory) (q : String) :
    SameRows (disk.ledgerAt place q) (session.disk.ledgerAt place q) := by
  obtain ⟨handle, ho, rfl⟩ := fresh_ok hopen
  have h := openHandle_sameRows disk (plan s).url s.opening hfile q
  rw [ho] at h
  exact h

/-- The settings open the ledger of a prefix in the file at a place. -/
structure Opens (s : Settings) (clock : Timestamp) (disk : Disk) (place : Location) (q : String) :
    Prop where
  isFile : place ≠ .memory
  leads : ∃ session d, Session.fresh (plan s) clock disk s.opening = (.ok session, d) ∧
    session.leadsTo place q

/-- The arguments ask for an operation with settings that open the ledger of a prefix in the file at
a place. -/
structure Reaches (env : Environment) (clock : Timestamp) (args : List String) (disk : Disk)
    (s : Settings) (operation : Operation) (place : Location) (q : String) : Prop
    extends Opens s clock disk place q where
  asked : ∃ i loggers, Request.ofArguments args = .invoke i ∧ i.operation = operation ∧
    resolve env disk i = .ok (s, loggers)

/-- An operation leaves all rows of a ledger, or takes away the rows of the lock that it gives
back. -/
theorem operate_effect (s : Settings) (loggers : Loggers) (operation : Operation)
    (clock : Timestamp) (disk : Disk) (place : Location) (q : String) :
    SameRows (disk.ledgerAt place q)
        ((operate s loggers operation clock disk).2.ledgerAt place q) ∨
      Opens s clock disk place q ∧ ∃ taskName, operation = .lockRelease taskName ∧
        LosesLock (lockKey taskName) s.lockRegion (disk.ledgerAt place q)
          ((operate s loggers operation clock disk).2.ledgerAt place q) := by
  rw [operate_snd]
  by_cases hfile : place = .memory
  · subst hfile
    rw [withMemoryOf_memory]
    exact .inl (.refl _)
  · rw [withMemoryOf_of_ne hfile]
    unfold operated
    rcases hopen : Session.fresh (plan s) clock disk s.opening with ⟨f | session, after⟩
    · have h := openHandle_sameRows disk (plan s).url s.opening hfile q
      rw [← fresh_disk (plan s) clock, hopen] at h
      exact .inl h
    · have hopened := opened_sameRows hopen hfile q
      dsimp only
      -- what gives back no lock only reads; the other operation loses the rows of its pair at most
      cases hreleased : operation.released? with
      | none =>
        have hreading : SessionM.IsReading (carryOut s.lockRegion operation) :=
          carryOut_isReading hreleased
        obtain ⟨hframed, hledger⟩ := hreading session
        rw [hframed.ledgerAt_eq hledger]
        exact .inl hopened
      | some taskName =>
        obtain rfl : operation = .lockRelease taskName := by
          cases operation <;> cases hreleased
          rfl
        rw [perform_carryOut_release]
        rcases release_effect 0 ⟨s.lockRegion, ""⟩ taskName session place q with
          hsame | ⟨hleads, hless⟩
        · rw [hsame]
          exact .inl hopened
        · rw [hless]
          exact .inr ⟨⟨hfile, session, after, hopen, hleads⟩, taskName, rfl,
            hopened.losesLock (.of_release _ _ _)⟩

/-- A command leaves all rows of a ledger, or takes away the rows of the lock that it was asked to
give back. -/
theorem run_effect (env : Environment) (clock : Timestamp) (args : List String) (disk : Disk)
    (place : Location) (q : String) :
    SameRows (disk.ledgerAt place q) ((run env clock args disk).2.ledgerAt place q) ∨
      ∃ s taskName, Reaches env clock args disk s (.lockRelease taskName) place q ∧
        LosesLock (lockKey taskName) s.lockRegion (disk.ledgerAt place q)
          ((run env clock args disk).2.ledgerAt place q) := by
  unfold run
  cases hargs : Request.ofArguments args with
  | help => exact .inl (.refl _)
  | version => exact .inl (.refl _)
  | misuse => exact .inl (.refl _)
  | invoke i =>
    dsimp only
    unfold invoke
    rcases hresolved : resolve env disk i with f | ⟨s, loggers⟩
    · cases f <;> exact .inl (.refl _)
    · rcases operate_effect s loggers i.operation clock disk place q with
        hsame | ⟨hopens, taskName, hasks, hless⟩
      · exact .inl hsame
      · exact .inr ⟨s, taskName, ⟨hopens, i, loggers, hargs, hasks, hresolved⟩, hless⟩

end Command

end RunLedger
