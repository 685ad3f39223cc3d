import RunLedger.Proofs.Command.Release

/-!
# Sessions on an empty ledger

Where nothing is stored, opening a ledger with its tables made gives a session whose handle is open
and leads to a ledger that has just been made.

    fresh plan clock .empty o = (.ok s, d) → o.createTables = true → s.StartsEmpty
                                                                    (startsEmpty_of_fresh)
-/

namespace RunLedger

/-- The handle is open, and leads to a ledger of which the tables have just been made. -/
structure Session.StartsEmpty (s : Session) : Prop where
  isOpen : s.handle.isOpen = true
  ledger : s.ledger = Ledger.made s.handle.tablePrefix

namespace Database

theorem createTable_ok {p : String} {role : TableRole} {db after : Database} {u : Unit}
    (hnone : (db.ledger p).has role = false) (h : createTable p role db = (.ok u, after)) :
    after.ledger p = (db.ledger p).make p role := by
  unfold createTable at h
  dsimp only at h
  rw [hnone, if_neg (by decide)] at h
  split at h
  · cases h
  · split at h
    · cases h
    · cases h
      exact ledger_setLedger db rfl _

/-- Tables that are missing are made, one role after the other. -/
theorem createTables_ok {p : String} {roles : List TableRole} {db after : Database} {u : Unit}
    (hnone : ∀ role ∈ roles, (db.ledger p).has role = false) (hdistinct : roles.Nodup)
    (h : createTables p roles db = (.ok u, after)) :
    after.ledger p = roles.foldl (Ledger.make p) (db.ledger p) := by
  induction roles generalizing db with
  | nil =>
    cases h
    rfl
  | cons role roles ih =>
    obtain ⟨hrole, hroles⟩ := List.forall_mem_cons.1 hnone
    obtain ⟨hnew, hdistinct⟩ := List.nodup_cons.1 hdistinct
    rw [createTables] at h
    split at h
    · next made hmade =>
      have hl := createTable_ok hrole hmade
      rw [List.foldl_cons, ← hl]
      -- the table that was made leaves the other roles without theirs
      refine ih ?_ hdistinct h
      intro other ho
      have hne : other ≠ role := fun he => hnew (he ▸ ho)
      have hother := hroles other ho
      rw [hl]
      cases role <;> cases other <;> first | exact hother | exact absurd rfl hne
    · cases h

end Database

namespace Session

theorem openHandle_empty {url : String} {o : Opening} {handle : Handle} {d : Disk}
    (h : openHandle .empty url o = (.ok handle, d)) (ho : o.createTables = true) :
    handle.isOpen = true ∧
      d.ledgerAt handle.place handle.tablePrefix = Ledger.made handle.tablePrefix := by
  unfold openHandle at h
  split at h
  · cases h
  · next place dialect _ =>
    have hstart : (if place = .memory then Database.empty else Disk.empty.get place) =
        Database.empty := by
      split <;> rfl
    rw [hstart] at h
    dsimp only at h
    rcases hopen : Database.empty.openLedger url o.tablePrefix o.createTables with ⟨f | u, db⟩
    · rw [hopen] at h
      cases h
    · rw [hopen] at h
      cases h
      refine ⟨rfl, ?_⟩
      have hcreate : Database.createTables o.tablePrefix TableRole.creationOrder Database.empty =
          (.ok u, db) := by
        rw [Database.openLedger, ho] at hopen
        exact hopen
      rw [Disk.ledgerAt, Disk.get_put]
      refine Database.createTables_ok ?_ (by decide) hcreate
      intro role _
      cases role <;> rfl

/-- Opening a ledger where nothing is stored. -/
theorem startsEmpty_of_fresh {plan : Plan} {clock : Timestamp} {o : Opening} {s : Session}
    {d : Disk} (h : fresh plan clock .empty o = (.ok s, d)) (ho : o.createTables = true) :
    s.StartsEmpty := by
  obtain ⟨handle, hopen, rfl⟩ := fresh_ok h
  obtain ⟨hhandle, hledger⟩ := openHandle_empty hopen ho
  exact ⟨hhandle, hledger⟩

/-- A session on an empty ledger in memory, at the start of the calendar, with clients of its own
for locks and launches. -/
def inMemory (locks : List LockPlan) (lifecycle : LifecyclePlan) : Session :=
  ofHandle ⟨"sqlite://", locks, .ledger, lifecycle, []⟩ Instant.first.toUtc
    ⟨[(.memory, ⟨[("", .made "")], []⟩)], []⟩ ⟨.memory, "sqlite://", "", .sqlite, true⟩

/-- It is what opening a ledger in memory with an empty prefix comes to. -/
theorem fresh_inMemory (locks : List LockPlan) (lifecycle : LifecyclePlan) :
    fresh ⟨"sqlite://", locks, .ledger, lifecycle, []⟩ Instant.first.toUtc .empty
      ⟨"", none, true⟩ = (.ok (inMemory locks lifecycle), (inMemory locks lifecycle).disk) := by
  have htarget : target .empty "sqlite://" none = .ok (.memory, .sqlite) := by rfl
  rw [fresh, openHandle, htarget]
  rfl

theorem startsEmpty_inMemory (locks : List LockPlan) (lifecycle : LifecyclePlan) :
    (inMemory locks lifecycle).StartsEmpty :=
  startsEmpty_of_fresh (fresh_inMemory locks lifecycle) rfl

/-- The same on a ledger of which the tables' names begin with a prefix. -/
def inMemoryUnder (tablePrefix : String) (locks : List LockPlan) (lifecycle : LifecyclePlan) :
    Session :=
  ofHandle ⟨"sqlite://", locks, .ledger, lifecycle, []⟩ Instant.first.toUtc
    ⟨[(.memory, ⟨[(Text.asciiLowered tablePrefix, .made tablePrefix)], []⟩)], []⟩
    ⟨.memory, "sqlite://", tablePrefix, .sqlite, true⟩

theorem startsEmpty_inMemoryUnder (tablePrefix : String) (locks : List LockPlan)
    (lifecycle : LifecyclePlan) : (inMemoryUnder tablePrefix locks lifecycle).StartsEmpty := by
  refine ⟨rfl, ?_⟩
  have hfound : Database.ledger ⟨[(Text.asciiLowered tablePrefix, .made tablePrefix)], []⟩
      tablePrefix = Ledger.made tablePrefix := by
    rw [Database.ledger, List.lookup_cons_self]
    rfl
  exact hfound

theorem StartsEmpty.isKept {s : Session} (h : s.StartsEmpty) : s.ledger.IsKept := by
  rw [h.ledger]
  exact .made _

end Session

end RunLedger
