import RunLedger.Dialect.Basic

/-!
# Misconfiguration

What can be wrong with a ledger's or a page query's configuration, and how it is said.
-/

namespace RunLedger

/-- The ways in which a configuration can be refused. -/
inductive Misconfiguration where
  /-- A dialect was declared by an empty or blank name. -/
  | dialectNameMissing
  /-- A dialect was declared by a name that is none. -/
  | dialectUnknown (name : String)
  /-- A driver reported a product that is no dialect. -/
  | productUnknown (product : Option String)
  /-- A connection's driver is none of the known ones. -/
  | driverUnknown (driver : String)
  /-- Neither a dialect nor a connection was given to choose page queries by. -/
  | dialectNotGiven
  /-- A page query has no select list. -/
  | selectMissing
  /-- A page query has no source. -/
  | fromMissing
  /-- A page query has no sort keys. -/
  | sortKeysMissing
  /-- A sort key names no column. -/
  | sortColumnBlank
  /-- A sort key's order is neither ascending nor descending. -/
  | sortOrderInvalid (order : Value) (column : String)
  /-- A query has both named and positional placeholders. -/
  | placeholdersMixed (sql : String)
  /-- A job was to be linked where there is no store for links. -/
  | linkStoreMissing
  /-- A single-instance launch was asked for where there is no lock. -/
  | lockMissing
deriving Repr, Inhabited

namespace Misconfiguration

def message : Misconfiguration → String
  | dialectNameMissing => "database type must not be empty nor null"
  | dialectUnknown name =>
    "Unsupported database type: [" ++ name ++ "]. Supported: " ++
      String.intercalate ", " (Dialect.all.map Dialect.name)
  | productUnknown product =>
    "DatabaseType not found for product name: [" ++ product.getD "None" ++ "]"
  | driverUnknown driver =>
    "Could not inspect meta data for database type [" ++ driver ++
      "]. You have to supply it explicitly."
  | dialectNotGiven =>
    "Either database_type or bind must be supplied to select a paging query provider"
  | selectMissing => "select_clause must be specified"
  | fromMissing => "from_clause must be specified"
  | sortKeysMissing => "sort_keys must be specified"
  | sortColumnBlank => "sort key column names must not be empty"
  | sortOrderInvalid order column =>
    "Invalid sort order " ++ order.literal ++ " for sort key " ++ Text.quoted column ++
      "; expected ASC or DESC"
  | placeholdersMixed sql =>
    "You can't use both named parameters and classic \"?\" placeholders: " ++ sql
  | linkStoreMissing => "No job correlation store configured; cannot link batch jobs"
  | lockMissing => "single_instance launch requires a SingleInstanceLock"

end Misconfiguration

end RunLedger
