import RunLedger.Value.Basic
import RunLedger.Text.Case
import RunLedger.Text.Blank

/-!
# Database dialects

A dialect is a relational product that executions can be paged over.  It is declared by its own
name, by its product's name or by the name of its driver, in any case.

    parse? d.name = some d                                      (parse?_name)
    parse? d.productName = some d                               (parse?_productName)
-/

namespace RunLedger

/-- The relational products. The DB2 flavours differ in name only. -/
inductive Dialect where
  | hsql
  | h2
  | oracle
  | mysql
  | mariadb
  | postgres
  | sqlserver
  | db2
  | db2vse
  | db2zos
  | db2as400
  | sqlite
deriving Repr, DecidableEq, Inhabited

namespace Dialect

/-- All dialects, in the order in which they are listed to a reader. -/
def all : List Dialect :=
  [hsql, h2, oracle, mysql, mariadb, postgres, sqlserver, db2, db2vse, db2zos, db2as400, sqlite]

def name : Dialect → String
  | hsql => "HSQL"
  | h2 => "H2"
  | oracle => "ORACLE"
  | mysql => "MYSQL"
  | mariadb => "MARIADB"
  | postgres => "POSTGRES"
  | sqlserver => "SQLSERVER"
  | db2 => "DB2"
  | db2vse => "DB2VSE"
  | db2zos => "DB2ZOS"
  | db2as400 => "DB2AS400"
  | sqlite => "SQLITE"

/-- The product's name, as its driver reports it. -/
def productName : Dialect → String
  | hsql => "HSQL Database Engine"
  | h2 => "H2"
  | oracle => "Oracle"
  | mysql => "MySQL"
  | mariadb => "MariaDB"
  | postgres => "PostgreSQL"
  | sqlserver => "Microsoft SQL Server"
  | db2 => "DB2"
  | db2vse => "DB2VSE"
  | db2zos => "DB2ZOS"
  | db2as400 => "DB2AS400"
  | sqlite => "SQLite"

/-- The drivers and what they speak. -/
def drivers : List (String × Dialect) :=
  [("sqlite", sqlite), ("postgresql", postgres), ("mysql", mysql), ("mariadb", mariadb),
    ("oracle", oracle), ("mssql", sqlserver), ("db2", db2), ("ibm_db_sa", db2), ("h2", h2),
    ("hsqldb", hsql)]

/-- The dialect with the given own name, exactly as written. -/
def ofName? (s : String) : Option Dialect := all.find? fun d => d.name == s

/-- The dialect whose own name lower-cases to the key. -/
def ofNameKey? (key : String) : Option Dialect := all.find? fun d => Text.lowered d.name == key

/-- The dialect whose product name lower-cases to the key. -/
def ofProductKey? (key : String) : Option Dialect :=
  all.find? fun d => Text.lowered d.productName == key

def ofDriver? (driver : String) : Option Dialect := drivers.lookup driver

/-- The form in which names are looked up: trimmed and in lower case. -/
def lookupKey (s : String) : String := Text.lowered (Text.trimmed s)

/-- The dialect that a text names: by its own name, else its product's, else its driver's. -/
def parse? (s : String) : Option Dialect :=
  let key := lookupKey s
  ofNameKey? key <|> ofProductKey? key <|> ofDriver? key

/-! ## Lemmas -/

theorem mem_all (d : Dialect) : d ∈ all := by cases d <;> decide

theorem parse?_name (d : Dialect) : parse? d.name = some d := by
  have hnames : ∀ d ∈ all, parse? d.name = some d := by decide +kernel
  exact hnames d (mem_all d)

theorem parse?_productName (d : Dialect) : parse? d.productName = some d := by
  have hnames : ∀ d ∈ all, parse? d.productName = some d := by decide +kernel
  exact hnames d (mem_all d)

end Dialect

end RunLedger
