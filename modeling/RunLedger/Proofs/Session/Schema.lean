import RunLedger.Proofs.Session.Start
import RunLedger.Proofs.Store.Complete
import RunLedger.Proofs.Store.Gap

/-!
# Which tables an opened ledger has

Opening a ledger with its tables made leaves the tables that it finds and makes the others.  Once it
has come through, every table is there, and lacks a column of its role only where it was there
before without it.  The check that is made first looks at some columns alone, and at the tables of
exactly the ledger's names: a table may come through it in which a column is missing.

    db.openLedger url p true = (.ok u, after) →
      (after.ledger p).shape? role =
        some (((db.ledger p).shape? role).getD (role.tableName p, role.columns))
                                                                            (shape?_openLedger)
    fresh plan clock disk o = (.ok s, d) → o.createTables = true →
      (s.ledger.IsComplete ↔ (found disk s.handle.place s.handle.tablePrefix).IsWhole)
                                                                          (isComplete_of_fresh)
-/

namespace RunLedger

/-! ## Opening -/

namespace Database

variable {p url : String} {db after : Database} {u : Unit}

theorem shape?_createTable {role : TableRole} (h : createTable p role db = (.ok u, after))
    (other : TableRole) :
    (after.ledger p).shape? other =
      if other = role then
        some (((db.ledger p).shape? role).getD (role.tableName p, role.columns))
      else (db.ledger p).shape? other := by
  cases hhas : (db.ledger p).has role with
  | false =>
    have hnone : (db.ledger p).shape? role = none := by
      simpa [Ledger.has] using hhas
    rw [createTable_ok hhas h, Ledger.shape?_make, hnone]
    rfl
  | true =>
    obtain ⟨shape, hshape⟩ := Option.isSome_iff_exists.1 hhas
    have hsame : db = after := by
      unfold createTable at h
      dsimp only at h
      rw [hhas, if_pos rfl] at h
      exact congrArg Prod.snd h
    rw [← hsame, hshape]
    split
    · next hrole => rw [hrole, hshape]; rfl
    · rfl

theorem shape?_createTables {roles : List TableRole} (h : createTables p roles db = (.ok u, after))
    (other : TableRole) :
    (after.ledger p).shape? other =
      if other ∈ roles then
        some (((db.ledger p).shape? other).getD (other.tableName p, other.columns))
      else (db.ledger p).shape? other := by
  induction roles generalizing db with
  | nil =>
    cases h
    rfl
  | cons role roles ih =>
    rw [createTables] at h
    split at h
    · next made hmade =>
      rw [ih h, shape?_createTable hmade]
      by_cases hrole : other = role
      · simp [hrole]
      · simp [hrole]
    · cases h

theorem openLedger_ok (h : db.openLedger url p true = (.ok u, after)) :
    (schemaGap (db.ledger p) p).isEmpty = true ∧
      createTables p TableRole.creationOrder db = (.ok u, after) := by
  unfold openLedger at h
  dsimp only at h
  split at h
  · next hgap => exact ⟨hgap, h⟩
  · cases h

/-- Tables that are found stay, and the others are made. -/
theorem shape?_openLedger (h : db.openLedger url p true = (.ok u, after)) (role : TableRole) :
    (after.ledger p).shape? role =
      some (((db.ledger p).shape? role).getD (role.tableName p, role.columns)) := by
  have hmem : role ∈ TableRole.creationOrder := by cases role <;> decide
  rw [shape?_createTables (openLedger_ok h).2, if_pos hmem]

theorem has_openLedger (h : db.openLedger url p true = (.ok u, after)) (role : TableRole) :
    (after.ledger p).has role = true := by
  rw [Ledger.has, shape?_openLedger h]
  rfl

/-- A column of a role is missing only from a table that was found without it. -/
theorem hasColumn_openLedger (h : db.openLedger url p true = (.ok u, after)) {role : TableRole}
    {column : String} (hcolumn : column ∈ role.columns) :
    (after.ledger p).hasColumn role column = true ↔
      ((db.ledger p).has role = true → (db.ledger p).hasColumn role column = true) := by
  rw [Ledger.hasColumn, Ledger.hasColumn, Ledger.has, shape?_openLedger h]
  cases (db.ledger p).shape? role with
  | some shape => simp
  | none =>
    simp only [Option.getD_none, Option.isSome_none, Bool.false_eq_true, false_imp_iff, iff_true]
    exact List.any_eq_true.2 ⟨column, hcolumn, by simp⟩

theorem isComplete_openLedger (h : db.openLedger url p true = (.ok u, after)) :
    (after.ledger p).IsComplete ↔ (db.ledger p).IsWhole := by
  constructor
  · exact fun hall role hrole column hcolumn =>
      (hasColumn_openLedger h hcolumn).1 (hall role column hcolumn) hrole
  · exact fun hall role column hcolumn =>
      (hasColumn_openLedger h hcolumn).2 fun hrole => hall role hrole column hcolumn

/-- What the check makes sure of: the columns that it asks for, of the tables that bear exactly the
ledger's names. -/
theorem mem_of_requiredColumns (h : db.openLedger url p true = (.ok u, after)) {role : TableRole}
    {column : String} (hrequired : (role, column) ∈ requiredColumns) {columns : List String}
    (hexact : exactColumns? (db.ledger p) p role = some columns) : column ∈ columns := by
  have hgap := (openLedger_ok h).1
  have hcolumns : (schemaGap (db.ledger p) p).columns = [] :=
    List.isEmpty_iff.1 (Bool.and_eq_true_iff.1 hgap).2
  have hnone := List.filterMap_eq_nil_iff.1 hcolumns _ hrequired
  simpa [hexact] using hnone

end Database

/-! ## Sessions -/

namespace Session

/-- The ledger that an opening finds at a place; a database in memory starts empty. -/
def found (disk : Disk) (place : Location) (tablePrefix : String) : Ledger :=
  (if place = .memory then Database.empty else disk.get place).ledger tablePrefix

variable {plan : Plan} {clock : Timestamp} {disk d : Disk} {o : Opening} {s : Session}

theorem fresh_of_target {place : Location} {dialect : Dialect} {after : Database}
    (htarget : target disk plan.url o.dialect = .ok (place, dialect))
    (hopen : (if place = .memory then Database.empty else disk.get place).openLedger plan.url
      o.tablePrefix o.createTables = (.ok (), after)) :
    fresh plan clock disk o =
      (.ok (ofHandle plan clock (disk.put place after)
        ⟨place, plan.url, o.tablePrefix, dialect, true⟩), disk.put place after) := by
  rw [fresh, openHandle, htarget]
  dsimp only
  rw [hopen]
  rfl

/-- A session that begins with an opening goes on with the database that the opening leaves. -/
theorem openLedger_of_fresh (h : fresh plan clock disk o = (.ok s, d)) :
    ∃ after, (if s.handle.place = .memory then Database.empty
        else disk.get s.handle.place).openLedger plan.url s.handle.tablePrefix o.createTables =
          (.ok (), after) ∧ s.ledger = after.ledger s.handle.tablePrefix := by
  obtain ⟨handle, hopen, rfl⟩ := fresh_ok h
  unfold openHandle at hopen
  split at hopen
  · cases hopen
  · next place dialect _ =>
    dsimp only at hopen
    rcases hmade : (if place = .memory then Database.empty else disk.get place).openLedger plan.url
      o.tablePrefix o.createTables with ⟨f | u, after⟩
    · rw [hmade] at hopen
      cases hopen
    · rw [hmade] at hopen
      cases hopen
      refine ⟨after, hmade, ?_⟩
      have hget : (disk.put place after).get place = after := Disk.get_put _ _ _
      exact congrArg (Database.ledger · o.tablePrefix) hget

/-- Every table is there, and lacks a column of its role only where it was found without it. -/
theorem hasColumn_of_fresh (h : fresh plan clock disk o = (.ok s, d))
    (hcreate : o.createTables = true) (role : TableRole) :
    s.ledger.has role = true ∧ ∀ column ∈ role.columns,
      (s.ledger.hasColumn role column = true ↔
        ((found disk s.handle.place s.handle.tablePrefix).has role = true →
          (found disk s.handle.place s.handle.tablePrefix).hasColumn role column = true)) := by
  obtain ⟨after, hopen, hledger⟩ := openLedger_of_fresh h
  rw [hcreate] at hopen
  rw [hledger]
  exact ⟨Database.has_openLedger hopen role, fun _ hcolumn =>
    Database.hasColumn_openLedger hopen hcolumn⟩

theorem mem_of_fresh (h : fresh plan clock disk o = (.ok s, d)) (hcreate : o.createTables = true)
    {role : TableRole} {column : String} (hrequired : (role, column) ∈ Database.requiredColumns)
    {columns : List String}
    (hexact : Database.exactColumns? (found disk s.handle.place s.handle.tablePrefix)
      s.handle.tablePrefix role = some columns) : column ∈ columns := by
  obtain ⟨after, hopen, -⟩ := openLedger_of_fresh h
  rw [hcreate] at hopen
  exact Database.mem_of_requiredColumns hopen hrequired hexact

theorem isComplete_of_fresh (h : fresh plan clock disk o = (.ok s, d))
    (hcreate : o.createTables = true) :
    s.ledger.IsComplete ↔ (found disk s.handle.place s.handle.tablePrefix).IsWhole := by
  obtain ⟨after, hopen, hledger⟩ := openLedger_of_fresh h
  rw [hcreate] at hopen
  rw [hledger]
  exact Database.isComplete_openLedger hopen

end Session

end RunLedger
