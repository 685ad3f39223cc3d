import RunLedger.Store.Ledger

/-!
# Databases

A database holds the ledgers of any number of prefixes and other tables beside them.  Names of
tables count in any case of the ASCII letters.  Opening a ledger checks that its tables are all
there with the columns that matter, or that none of them is there.
-/

namespace RunLedger

/-- What is stored in one place. -/
structure Database where
  ledgers : List (String × Ledger)
  others : List (String × List String)
deriving Repr, DecidableEq

namespace Database

def empty : Database := ⟨[], []⟩

def ledger (db : Database) (tablePrefix : String) : Ledger :=
  (db.ledgers.lookup (Text.asciiLowered tablePrefix)).getD .empty

/-- The list of ledgers with one put in place of the one of the same prefix. -/
def putLedger (key : String) (l : Ledger) : List (String × Ledger) → List (String × Ledger)
  | [] => [(key, l)]
  | (k, m) :: rest => if k = key then (k, l) :: rest else (k, m) :: putLedger key l rest

def setLedger (db : Database) (tablePrefix : String) (l : Ledger) : Database :=
  { db with ledgers := putLedger (Text.asciiLowered tablePrefix) l db.ledgers }

/-- The database with a table made elsewhere. -/
def addForeign (db : Database) (name : String) (columns : List String) : Database :=
  match TableRole.ofTableName? name with
  | some (tablePrefix, role) =>
    db.setLedger tablePrefix ((db.ledger tablePrefix).addForeign role name columns)
  | none => { db with others := db.others ++ [(name, columns)] }

/-- The names and columns of all tables. -/
def shapes (db : Database) : List (String × List String) :=
  db.ledgers.flatMap (fun l => l.2.shapes) ++ db.others

/-! ## Opening -/

/-- The columns that a ledger's tables must have, by role. -/
def requiredColumns : List (TableRole × String) :=
  [(.executions, "last_updated"), (.executions, "external_execution_id"),
    (.executions, "parent_execution_id"), (.executions, "error_message"),
    (.parameters, "param_index"), (.locks, "client_id")]

/-- The columns of the table in a role, if a table of exactly the ledger's name is there. -/
def exactColumns? (l : Ledger) (tablePrefix : String) (role : TableRole) :
    Option (List String) :=
  match l.shape? role with
  | some (name, columns) => if name = role.tableName tablePrefix then some columns else none
  | none => none

/-- What a ledger lacks: tables, if some but not all are there, and columns of those that are. -/
def schemaGap (l : Ledger) (tablePrefix : String) : SchemaGap :=
  let missing := TableRole.all.filter fun role => (exactColumns? l tablePrefix role).isNone
  { tables :=
      if missing.length = TableRole.all.length then []
      else missing.map (·.tableName tablePrefix)
    columns := requiredColumns.filterMap fun (role, column) =>
      match exactColumns? l tablePrefix role with
      | some columns =>
        if columns.contains column then none else some (role.tableName tablePrefix, column)
      | none => none }

/-- Whether the database engine keeps names with this beginning for itself. -/
def isReserved (tablePrefix : String) : Bool :=
  "sqlite_".toList.isPrefixOf (Text.asciiLowered tablePrefix).toList

/-- Whether there is a table of the given name beside the ledgers. -/
def hasOther (db : Database) (name : String) : Bool :=
  db.others.any fun t => Text.asciiLowered t.1 == Text.asciiLowered name

/-- Makes a missing table and its indexes.  An index that cannot be made, because a table bears its
name, leaves the table in place. -/
def createTable (tablePrefix : String) (role : TableRole) (db : Database) :
    Except Failure Unit × Database :=
  let l := db.ledger tablePrefix
  if l.has role then (.ok (), db)
  else if isReserved tablePrefix then (.error .statementRefused, db)
  else
    let made := db.setLedger tablePrefix (l.make tablePrefix role)
    if (role.indexNames tablePrefix).any db.hasOther then (.error .statementRefused, made)
    else (.ok (), made)

/-- Makes the missing tables in some roles; those made before a failure stay. -/
def createTables (tablePrefix : String) :
    List TableRole → Database → Except Failure Unit × Database
  | [], db => (.ok (), db)
  | role :: roles, db =>
    match createTable tablePrefix role db with
    | (.ok (), db) => createTables tablePrefix roles db
    | (.error f, db) => (.error f, db)

/-- What is kept as one table is made is kept as several are, up to a failure. -/
theorem createTables_keeps {p : String} {P : Database → Prop}
    (hstep : ∀ role db, P db → P (createTable p role db).2) (roles : List TableRole)
    {db : Database} (h : P db) : P (createTables p roles db).2 := by
  induction roles generalizing db with
  | nil => exact h
  | cons role roles ih =>
    have hmade := hstep role db h
    rw [createTables]
    split
    · next after he =>
      rw [he] at hmade
      exact ih hmade
    · next f after he =>
      rw [he] at hmade
      exact hmade

/-- Opens the ledger of a prefix: its tables are checked and, if so asked, made. -/
def openLedger (db : Database) (url tablePrefix : String) (create : Bool) :
    Except Failure Unit × Database :=
  let gap := schemaGap (db.ledger tablePrefix) tablePrefix
  if gap.isEmpty then
    if create then createTables tablePrefix TableRole.creationOrder db else (.ok (), db)
  else (.error (.schemaOutdated gap url), db)

/-! ## Dropping tables -/

/-- The database without the table of the given name.  A table of executions that parameters refer
to stays. -/
def dropTable (db : Database) (name : String) : Except Failure Database :=
  match TableRole.ofTableName? name with
  | some (tablePrefix, role) =>
    let l := db.ledger tablePrefix
    let referred : Bool := match l.executions, l.parameters with
      | some e, some p => role = .executions && p.keyed && e.rows.any fun r =>
          p.rows.any fun q => r.id = some q.executionId
      | _, _ => false
    if !l.has role then .error .statementRefused
    else if referred then .error .constraintViolated
    else .ok (db.setLedger tablePrefix (l.drop role))
  | none =>
    let folded := Text.asciiLowered name
    if db.hasOther name then
      .ok { db with others := db.others.filter fun t => Text.asciiLowered t.1 != folded }
    else .error .statementRefused

end Database

end RunLedger
