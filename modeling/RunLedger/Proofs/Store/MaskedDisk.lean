import RunLedger.Proofs.Store.Masking
import RunLedger.Store.Disk

/-!
# Databases without the texts of parameters

What is looked up, made and dropped in masked databases is what it is in the databases themselves,
masked; the names and columns of their tables are the same.

    db.masked.ledger p = (db.ledger p).masked                                  (ledger_masked)
    db.masked.openLedger url p create =
      ((db.openLedger url p create).1, (db.openLedger url p create).2.masked)   (openLedger_masked)
    db.masked.dropTable name = (db.dropTable name).map Database.masked          (dropTable_masked)
-/

namespace RunLedger

theorem lookup_map_snd {κ α β : Type} [BEq κ] (f : α → β) (key : κ) (entries : List (κ × α)) :
    (entries.map fun e => (e.1, f e.2)).lookup key = (entries.lookup key).map f := by
  induction entries with
  | nil => rfl
  | cons e rest ih =>
    rw [List.map_cons, List.lookup_cons, List.lookup_cons, ih]
    split <;> rfl

namespace Ledger

theorem shape?_masked (l : Ledger) (role : TableRole) : l.masked.shape? role = l.shape? role := by
  cases role with
  | parameters => exact Option.map_map _ _ l.parameters
  | _ => rfl

theorem has_masked (l : Ledger) (role : TableRole) : l.masked.has role = l.has role := by
  rw [has, has, shape?_masked]

theorem shapes_masked (l : Ledger) : l.masked.shapes = l.shapes := by
  rw [shapes, shapes, funext l.shape?_masked]

theorem make_masked (tablePrefix : String) (l : Ledger) (role : TableRole) :
    l.masked.make tablePrefix role = (l.make tablePrefix role).masked := by
  cases role <;> rfl

theorem drop_masked (l : Ledger) (role : TableRole) :
    l.masked.drop role = (l.drop role).masked := by
  cases role <;> rfl

end Ledger

namespace Database

def masked (db : Database) : Database :=
  { db with ledgers := db.ledgers.map fun e => (e.1, e.2.masked) }

theorem ledger_masked (db : Database) (tablePrefix : String) :
    db.masked.ledger tablePrefix = (db.ledger tablePrefix).masked := by
  rw [ledger, masked, lookup_map_snd]
  exact Option.getD_map Ledger.masked .empty _

theorem putLedger_masked (key : String) (l : Ledger) (ls : List (String × Ledger)) :
    putLedger key l.masked (ls.map fun e => (e.1, e.2.masked)) =
      (putLedger key l ls).map fun e => (e.1, e.2.masked) := by
  induction ls with
  | nil => rfl
  | cons e rest ih =>
    rw [List.map_cons, putLedger, putLedger, ih]
    split <;> rfl

theorem setLedger_masked (db : Database) (tablePrefix : String) (l : Ledger) :
    db.masked.setLedger tablePrefix l.masked = (db.setLedger tablePrefix l).masked := by
  rw [setLedger, masked, putLedger_masked]
  rfl

theorem shapes_masked (db : Database) : db.masked.shapes = db.shapes := by
  rw [shapes, shapes, masked, List.flatMap_map]
  simp only [Ledger.shapes_masked]

theorem schemaGap_masked (l : Ledger) (tablePrefix : String) :
    schemaGap l.masked tablePrefix = schemaGap l tablePrefix := by
  have hcolumns : exactColumns? l.masked tablePrefix = exactColumns? l tablePrefix := by
    funext role
    rw [exactColumns?, exactColumns?, l.shape?_masked]
  rw [schemaGap, schemaGap, hcolumns]

theorem createTable_masked (tablePrefix : String) (role : TableRole) (db : Database) :
    createTable tablePrefix role db.masked =
      ((createTable tablePrefix role db).1, (createTable tablePrefix role db).2.masked) := by
  have hother : db.masked.hasOther = db.hasOther := rfl
  unfold createTable
  simp only [ledger_masked, Ledger.has_masked, Ledger.make_masked, setLedger_masked, hother]
  split
  · rfl
  · split
    · rfl
    · split <;> rfl

theorem createTables_masked (tablePrefix : String) (roles : List TableRole) (db : Database) :
    createTables tablePrefix roles db.masked =
      ((createTables tablePrefix roles db).1, (createTables tablePrefix roles db).2.masked) := by
  induction roles generalizing db with
  | nil => rfl
  | cons role roles ih =>
    rw [createTables, createTables, createTable_masked]
    rcases createTable tablePrefix role db with ⟨f | u, made⟩
    · rfl
    · exact ih made

theorem openLedger_masked (db : Database) (url tablePrefix : String) (create : Bool) :
    db.masked.openLedger url tablePrefix create =
      ((db.openLedger url tablePrefix create).1,
        (db.openLedger url tablePrefix create).2.masked) := by
  unfold openLedger
  rw [ledger_masked, schemaGap_masked]
  dsimp only
  split
  · split
    · exact createTables_masked _ _ db
    · rfl
  · rfl

/-- Whether parameters refer to the rows of the table in a role. -/
def referred (l : Ledger) (role : TableRole) : Bool :=
  match l.executions, l.parameters with
  | some e, some p => role = .executions && p.keyed && e.rows.any fun r =>
      p.rows.any fun q => r.id = some q.executionId
  | _, _ => false

theorem referred_masked (l : Ledger) (role : TableRole) :
    referred l.masked role = referred l role := by
  obtain ⟨executions, parameters, links, locks, lastId⟩ := l
  cases executions with
  | none => cases parameters <;> rfl
  | some e =>
    cases parameters with
    | none => rfl
    | some p =>
      have hrows : ∀ r : ExecutionRow, (p.masked.rows.any fun q => r.id = some q.executionId) =
          p.rows.any fun q => r.id = some q.executionId := fun r => List.any_map
      exact congrArg (_ && e.rows.any ·) (funext hrows)

theorem dropTable_masked (db : Database) (name : String) :
    db.masked.dropTable name = (db.dropTable name).map masked := by
  unfold dropTable
  cases TableRole.ofTableName? name with
  | none =>
    have hother : db.masked.hasOther name = db.hasOther name := rfl
    dsimp only
    rw [hother]
    split <;> rfl
  | some found =>
    obtain ⟨tablePrefix, role⟩ := found
    dsimp only
    rw [ledger_masked, Ledger.has_masked, Ledger.drop_masked, setLedger_masked]
    change (if _ then _ else if referred (db.ledger tablePrefix).masked role = true then _ else _) =
      Except.map masked (if _ then _ else if referred (db.ledger tablePrefix) role then _ else _)
    rw [referred_masked]
    split
    · rfl
    · split <;> rfl

end Database

namespace Disk

def masked (d : Disk) : Disk :=
  { d with databases := d.databases.map fun e => (e.1, e.2.masked) }

theorem get_masked (d : Disk) (place : Location) : d.masked.get place = (d.get place).masked := by
  rw [get, masked, lookup_map_snd]
  exact Option.getD_map Database.masked .empty _

theorem putDatabase_masked (place : Location) (db : Database) (ds : List (Location × Database)) :
    putDatabase place db.masked (ds.map fun e => (e.1, e.2.masked)) =
      (putDatabase place db ds).map fun e => (e.1, e.2.masked) := by
  induction ds with
  | nil => rfl
  | cons e rest ih =>
    rw [List.map_cons, putDatabase, putDatabase, ih]
    split <;> rfl

theorem put_masked (d : Disk) (place : Location) (db : Database) :
    d.masked.put place db.masked = (d.put place db).masked := by
  rw [put, masked, putDatabase_masked]
  rfl

theorem settings?_masked (d : Disk) (path : String) :
    d.masked.settings? path = d.settings? path := by
  have hfile : d.masked.file? path = d.file? path := rfl
  have hholds : d.masked.holdsDatabase path = d.holdsDatabase path := List.any_map
  rw [settings?, settings?, hfile, hholds]

end Disk

end RunLedger
