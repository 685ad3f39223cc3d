import RunLedger.Proofs.Session.Effect

/-!
# What commands do to a ledger

A command opens a ledger of its own, at whatever place and under whatever prefix.  To a ledger
whose tables are all there it does nothing, unless it gives back a lock of just that ledger; what
it does in memory is gone with it.

    (db.ledger q).IsMade → (db.openLedger url p create).2.ledger q = db.ledger q
                                                                    (openLedger_ledger)
    (disk.ledgerAt place q).IsMade →
      DoneIn? (deed? env clock args disk place q) (disk.ledgerAt place q)
        ((run env clock args disk).2.ledgerAt place q)              (run_doneIn)
-/

namespace RunLedger

/-! ## Opening beside a ledger -/

namespace Database

theorem createTable_ledger {p q : String} {role : TableRole} {db : Database}
    (hm : (db.ledger q).IsMade) : (createTable p role db).2.ledger q = db.ledger q := by
  unfold createTable
  dsimp only
  split
  · rfl
  · next hmissing =>
    -- a ledger that lacks the table is another one
    have hne : ¬ SamePrefix q p := fun h => hmissing (ledger_congr h db ▸ hm.has role)
    split
    · rfl
    · split
      · exact ledger_setLedger_of_ne db hne _
      · exact ledger_setLedger_of_ne db hne _

theorem createTables_ledger {p q : String} (roles : List TableRole) {db : Database}
    (hm : (db.ledger q).IsMade) : (createTables p roles db).2.ledger q = db.ledger q := by
  refine createTables_keeps (P := fun after => after.ledger q = db.ledger q)
    (fun role after hsame => ?_) roles rfl
  have hmade : (after.ledger q).IsMade := hsame ▸ hm
  exact (createTable_ledger hmade).trans hsame

theorem openLedger_ledger {p q : String} {db : Database} (url : String) (create : Bool)
    (hm : (db.ledger q).IsMade) : (db.openLedger url p create).2.ledger q = db.ledger q := by
  unfold openLedger
  dsimp only
  split
  · split
    · exact createTables_ledger _ hm
    · rfl
  · rfl

end Database

namespace Session

theorem openHandle_ledgerAt {disk : Disk} {place : Location} {q : String} (url : String)
    (o : Opening) (hplace : place ≠ .memory) (hm : (disk.ledgerAt place q).IsMade) :
    (openHandle disk url o).2.ledgerAt place q = disk.ledgerAt place q := by
  unfold openHandle
  split
  · rfl
  · next opened dialect _ =>
    dsimp only
    by_cases h : place = opened
    · subst h
      rw [Disk.ledgerAt, Disk.get_put, if_neg hplace]
      exact Database.openLedger_ledger url o.createTables hm
    · rw [Disk.ledgerAt, Disk.get_put_of_ne _ h]
      rfl

theorem fresh_disk (plan : Plan) (clock : Timestamp) (disk : Disk) (o : Opening) :
    (fresh plan clock disk o).2 = (openHandle disk plan.url o).2 := rfl

theorem fresh_ok {plan : Plan} {clock : Timestamp} {disk d : Disk} {o : Opening} {s : Session}
    (h : fresh plan clock disk o = (.ok s, d)) :
    ∃ handle, openHandle disk plan.url o = (.ok handle, d) ∧ s = ofHandle plan clock d handle := by
  rw [fresh] at h
  rcases ho : openHandle disk plan.url o with ⟨f | handle, e⟩
  · rw [ho] at h
    cases h
  · rw [ho] at h
    cases h
    exact ⟨handle, rfl, rfl⟩

instance (s : Session) (place : Location) (tablePrefix : String) :
    Decidable (s.leadsTo place tablePrefix) :=
  inferInstanceAs (Decidable (_ ∧ Text.asciiLowered _ = Text.asciiLowered _))

end Session

/-! ## Commands -/

namespace Command

open Session SessionM

/-- The deed that giving back a lock in a session does to the ledger of a prefix at a place: none in
memory, none to another ledger, and none where the lock is not held. -/
def releaseDeed? (session : Session) (client : LockClient) (taskName : String) (place : Location)
    (tablePrefix : String) : Option Deed :=
  let w := Write.release client taskName
  if place ≠ .memory ∧ session.leadsTo place tablePrefix then
    w.told session.clock (session.perform (w.run 0)).1
  else none

/-- The deed that an operation does to the ledger of a prefix at a place, once it has opened the
ledger of its settings. -/
def operationDeed? (s : Settings) (operation : Operation) (clock : Timestamp) (disk : Disk)
    (place : Location) (tablePrefix : String) : Option Deed :=
  match operation, Session.fresh (plan s) clock disk s.opening with
  | .lockRelease taskName, (.ok session, _) =>
    releaseDeed? session ⟨s.lockRegion, ""⟩ taskName place tablePrefix
  | _, _ => none

/-- The deed that a command does to the ledger of a prefix at a place. -/
def deed? (env : Environment) (clock : Timestamp) (args : List String) (disk : Disk)
    (place : Location) (tablePrefix : String) : Option Deed :=
  match Request.ofArguments args with
  | .invoke i =>
    match resolve env disk i with
    | .ok (s, _) => operationDeed? s i.operation clock disk place tablePrefix
    | .error _ => none
  | _ => none

/-- Whether an operation gives back a lock. -/
def Operation.released? : Operation → Option String
  | .lockRelease taskName => some taskName
  | _ => none

theorem carryOut_isReading {region : String} {operation : Operation}
    (h : operation.released? = none) : SessionM.IsReading (carryOut region operation) := by
  cases operation with
  | list taskName index size json => exact .bind (page_isReading _ _ _ _) fun _ => .pure _
  | detail id json =>
    refine .bind (.transact (Reading.find?_isReading id) _) fun e => ?_
    split
    · exact .throw _
    · exact .bind (jobsOf_isReading id) fun _ => .pure _
  | running taskName =>
    exact .bind (.transact (Reading.running_isReading taskName) _) fun _ => .pure _
  | lockStatus taskName => exact .bind (.transact (Lock.holder_isReading _ _) _) fun _ => .pure _
  | lockRelease taskName => cases h

theorem perform_carryOut_release (region taskName : String) (s : Session) :
    (s.perform (carryOut region (.lockRelease taskName))).2 =
      (s.perform ((Write.release ⟨region, ""⟩ taskName).run 0)).2 := by
  rw [carryOut, Write.run, perform_bind, perform_bind]
  rcases s.perform (Session.release 0 ⟨region, ""⟩ taskName) with ⟨f | held, t⟩ <;> rfl

theorem withMemoryOf_memory (before after : Disk) (q : String) :
    (withMemoryOf before after).ledgerAt .memory q = before.ledgerAt .memory q := by
  rw [withMemoryOf, Disk.ledgerAt, Disk.get_put]
  rfl

theorem withMemoryOf_of_ne {place : Location} (h : place ≠ .memory) (before after : Disk)
    (q : String) : (withMemoryOf before after).ledgerAt place q = after.ledgerAt place q := by
  rw [withMemoryOf, Disk.ledgerAt, Disk.get_put_of_ne _ h]
  rfl

/-- The disk as an operation leaves it, before the memory is restored. -/
def operated (s : Settings) (operation : Operation) (clock : Timestamp) (disk : Disk) : Disk :=
  match Session.fresh (plan s) clock disk s.opening with
  | (.error _, after) => after
  | (.ok session, _) => (session.perform (carryOut s.lockRegion operation)).2.disk

theorem operate_snd (s : Settings) (loggers : Loggers) (operation : Operation) (clock : Timestamp)
    (disk : Disk) :
    (operate s loggers operation clock disk).2 =
      withMemoryOf disk (operated s operation clock disk) := by
  unfold operate operated
  rcases Session.fresh (plan s) clock disk s.opening with ⟨f | session, after⟩
  · rfl
  · dsimp only
    rcases session.perform (carryOut s.lockRegion operation) with ⟨f | report, t⟩ <;> rfl

section
variable {s : Settings} {clock : Timestamp} {disk d : Disk} {session : Session} {place : Location}
  {q : String}

theorem opened_ledgerAt (hopen : Session.fresh (plan s) clock disk s.opening = (.ok session, d))
    (hplace : place ≠ .memory) (hm : (disk.ledgerAt place q).IsMade) :
    session.disk.ledgerAt place q = disk.ledgerAt place q := by
  obtain ⟨handle, ho, rfl⟩ := fresh_ok hopen
  have h := openHandle_ledgerAt (plan s).url s.opening hplace hm
  rw [ho] at h
  exact h

theorem reading_ledgerAt {call : SessionM Printout}
    (hopen : Session.fresh (plan s) clock disk s.opening = (.ok session, d))
    (hplace : place ≠ .memory) (hm : (disk.ledgerAt place q).IsMade)
    (hcall : SessionM.IsReading call) :
    (session.perform call).2.disk.ledgerAt place q = disk.ledgerAt place q := by
  obtain ⟨hframed, hledger⟩ := hcall session
  rw [← opened_ledgerAt hopen hplace hm]
  exact hframed.ledgerAt_eq hledger place q

theorem release_doneIn (client : LockClient) (taskName : String)
    (hopen : Session.fresh (plan s) clock disk s.opening = (.ok session, d))
    (hplace : place ≠ .memory) (hm : (disk.ledgerAt place q).IsMade) :
    DoneIn? (releaseDeed? session client taskName place q) (disk.ledgerAt place q)
      ((session.perform ((Write.release client taskName).run 0)).2.disk.ledgerAt place q) := by
  have hframed := Write.run_isFramed 0 (.release client taskName) session
  have hopened := opened_ledgerAt hopen hplace hm
  rw [← hopened] at hm ⊢
  rw [releaseDeed?]
  by_cases h : session.leadsTo place q
  · rw [if_pos ⟨hplace, h⟩, ledger_of_leadsTo h hframed.toSameSetup]
    rw [ledger_of_leadsTo h (SameSetup.refl _)] at hm ⊢
    exact Write.run_doneIn hm _ _
  · rw [if_neg fun hboth => h hboth.2]
    exact hframed.elsewhere place q h

end

theorem operate_doneIn (s : Settings) (loggers : Loggers) (operation : Operation)
    (clock : Timestamp) {disk : Disk} {place : Location} {q : String}
    (hm : (disk.ledgerAt place q).IsMade) :
    DoneIn? (operationDeed? s operation clock disk place q) (disk.ledgerAt place q)
      ((operate s loggers operation clock disk).2.ledgerAt place q) := by
  rw [operate_snd]
  by_cases hplace : place = .memory
  · -- the memory is restored, and no deed is told of it
    subst hplace
    rw [withMemoryOf_memory]
    have hnone : operationDeed? s operation clock disk .memory q = none := by
      unfold operationDeed? releaseDeed?
      split
      · exact if_neg fun h => h.1 rfl
      · rfl
    rw [hnone]
    rfl
  · rw [withMemoryOf_of_ne hplace]
    unfold operated operationDeed?
    -- an opening that is refused does no deed; of the operations only giving back a lock does
    rcases hopen : Session.fresh (plan s) clock disk s.opening with ⟨f | session, after⟩
    · have hafter : after.ledgerAt place q = disk.ledgerAt place q := by
        have h := openHandle_ledgerAt (plan s).url s.opening hplace hm
        rwa [← fresh_disk (plan s) clock, hopen] at h
      cases operation <;> exact hafter
    · cases operation with
      | lockRelease taskName =>
        dsimp only
        rw [perform_carryOut_release]
        exact release_doneIn _ taskName hopen hplace hm
      | _ => exact reading_ledgerAt hopen hplace hm (carryOut_isReading rfl)

/-- A command does the deed that it is for, to the ledger that it opens, and nothing else. -/
theorem run_doneIn {env : Environment} {clock : Timestamp} {args : List String} {disk : Disk}
    {place : Location} {q : String} (hm : (disk.ledgerAt place q).IsMade) :
    DoneIn? (deed? env clock args disk place q) (disk.ledgerAt place q)
      ((run env clock args disk).2.ledgerAt place q) := by
  unfold deed? run
  cases Request.ofArguments args with
  | help => rfl
  | version => rfl
  | misuse => rfl
  | invoke i =>
    dsimp only
    unfold invoke
    rcases resolve env disk i with f | ⟨s, loggers⟩
    · cases f <;> rfl
    · exact operate_doneIn s loggers i.operation clock hm

/-- The task's name and the region for which a command asks a lock to be given back. -/
def released? (env : Environment) (disk : Disk) (args : List String) : Option (String × String) :=
  match Request.ofArguments args with
  | .invoke i =>
    match resolve env disk i with
    | .ok (s, _) => i.operation.released?.map fun taskName => (taskName, s.lockRegion)
    | .error _ => none
  | _ => none

end Command

end RunLedger
