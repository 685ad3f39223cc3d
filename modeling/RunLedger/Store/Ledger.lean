import RunLedger.Store.Row
import RunLedger.Text.Case
import RunLedger.Text.Replace

/-!
# The tables of a ledger

A ledger has four tables, named by its prefix and their roles.  Each may be missing, or have been
made elsewhere with other columns and without keys.  `lastId` is the greatest execution number ever
given out or put in; the next one is one more.
-/

namespace RunLedger

/-- The roles that a ledger's tables play. -/
inductive TableRole where
  | executions
  | parameters
  | links
  | locks
deriving Repr, DecidableEq, Inhabited

namespace TableRole

/-- The roles, in the order of their tables' names. -/
def all : List TableRole := [executions, parameters, locks, links]

/-- What a table's name ends in. -/
def suffix : TableRole → String
  | executions => "execution"
  | parameters => "execution_params"
  | links => "task_batch"
  | locks => "lock"

/-- The columns of a table that the ledger makes. -/
def columns : TableRole → List String
  | executions => ["task_execution_id", "start_time", "end_time", "task_name", "exit_code",
      "exit_message", "error_message", "last_updated", "external_execution_id",
      "parent_execution_id"]
  | parameters => ["task_execution_id", "param_index", "task_param"]
  | links => ["task_execution_id", "job_execution_id"]
  | locks => ["lock_key", "region", "client_id", "created_date"]

/-- The roles in the order in which tables are made: what refers to another table comes last. -/
def creationOrder : List TableRole := [executions, links, locks, parameters]

/-- The name of a table in the ledger with the given prefix. -/
def tableName (tablePrefix : String) (role : TableRole) : String := tablePrefix ++ role.suffix

/-- The names of the indexes that are made with a table. -/
def indexNames (tablePrefix : String) (role : TableRole) : List String :=
  let start := "ix_" ++ role.tableName tablePrefix
  match role with
  | executions => [start ++ "_task_name"]
  | links => [start ++ "_task_execution_id", start ++ "_job_execution_id"]
  | parameters | locks => []

/-- The prefix before a role's ending, if the name has that ending. -/
def prefixOf? (role : TableRole) (name : String) : Option String :=
  (Text.afterPrefix? role.suffix.toList.reverse name.toList.reverse).map fun rest =>
    String.ofList rest.reverse

/-- The prefix and role that a table's name shows, in any case of the ASCII letters. -/
def ofTableName? (name : String) : Option (String × TableRole) :=
  let folded := Text.asciiLowered name
  all.findSome? fun role => (role.prefixOf? folded).map fun p => (p, role)

end TableRole

/-- A table: its name and columns as they were written, whether it has the ledger's keys, and its
rows in the order in which they were put in. -/
structure Table (ρ : Type) where
  name : String
  columns : List String
  keyed : Bool
  rows : List ρ
deriving Repr, DecidableEq

namespace Table

variable {ρ : Type}

/-- Whether the table has a column of the given name, in any case of the ASCII letters. -/
def hasColumn (t : Table ρ) (column : String) : Bool :=
  t.columns.any fun c => Text.asciiLowered c == Text.asciiLowered column

def withRows (t : Table ρ) (rows : List ρ) : Table ρ := { t with rows := rows }

/-- An empty table as the ledger makes it. -/
def make (tablePrefix : String) (role : TableRole) : Table ρ :=
  ⟨role.tableName tablePrefix, role.columns, true, []⟩

/-- An empty table made elsewhere. -/
def foreign (name : String) (columns : List String) : Table ρ := ⟨name, columns, false, []⟩

end Table

/-- The tables of one prefix. -/
structure Ledger where
  executions : Option (Table ExecutionRow)
  parameters : Option (Table ParameterRow)
  links : Option (Table LinkRow)
  locks : Option (Table LockRow)
  lastId : Int
deriving Repr, DecidableEq

namespace Ledger

def empty : Ledger := ⟨none, none, none, none, 0⟩

/-- The name and columns of the table in a role. -/
def shape? (l : Ledger) : TableRole → Option (String × List String)
  | .executions => l.executions.map fun t => (t.name, t.columns)
  | .parameters => l.parameters.map fun t => (t.name, t.columns)
  | .links => l.links.map fun t => (t.name, t.columns)
  | .locks => l.locks.map fun t => (t.name, t.columns)

def has (l : Ledger) (role : TableRole) : Bool := (l.shape? role).isSome

/-- The names and columns of the tables. -/
def shapes (l : Ledger) : List (String × List String) := TableRole.all.filterMap l.shape?

/-- The ledger with a table made elsewhere in a role. -/
def addForeign (l : Ledger) (role : TableRole) (name : String) (columns : List String) : Ledger :=
  match role with
  | .executions => { l with executions := some (.foreign name columns) }
  | .parameters => { l with parameters := some (.foreign name columns) }
  | .links => { l with links := some (.foreign name columns) }
  | .locks => { l with locks := some (.foreign name columns) }

/-- The ledger with an empty table made in a role. -/
def make (tablePrefix : String) (l : Ledger) : TableRole → Ledger
  | .executions => { l with executions := some (.make tablePrefix .executions) }
  | .parameters => { l with parameters := some (.make tablePrefix .parameters) }
  | .links => { l with links := some (.make tablePrefix .links) }
  | .locks => { l with locks := some (.make tablePrefix .locks) }

/-- The ledger without the table in a role; the numbering of executions goes with their table. -/
def drop (l : Ledger) : TableRole → Ledger
  | .executions => { l with executions := none, lastId := 0 }
  | .parameters => { l with parameters := none }
  | .links => { l with links := none }
  | .locks => { l with locks := none }

def executionRows (l : Ledger) : List ExecutionRow :=
  (l.executions.map (·.rows)).getD []

def parameterRows (l : Ledger) : List ParameterRow :=
  (l.parameters.map (·.rows)).getD []

def linkRows (l : Ledger) : List LinkRow := (l.links.map (·.rows)).getD []

def lockRows (l : Ledger) : List LockRow := (l.locks.map (·.rows)).getD []

end Ledger

end RunLedger
