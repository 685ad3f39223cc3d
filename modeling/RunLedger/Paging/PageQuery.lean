import RunLedger.Paging.Keyword
import RunLedger.Paging.SortKey

/-!
# Page queries

A page query says which columns to take from where, which rows to keep and how to order them.
Its clauses are trimmed, without their keywords and not blank; it has at least one sort key.
-/

namespace RunLedger

/-- The clauses of a query whose rows are read page by page. -/
structure PageQuery where
  columns : String
  source : String
  sortKeys : List SortKey
  filter : Option String
deriving Repr, DecidableEq, Inhabited

namespace PageQuery

/-- Whether a clause is absent or blank. -/
def isMissing : Option String → Bool
  | none => true
  | some s => Text.isBlankText s

/-- The filter clause, unless it is absent or blank. -/
def readFilter (filter : Option String) : Option String :=
  match filter with
  | none => none
  | some s => if Text.isBlankText s then none else some (withoutKeyword "where" s)

/-- A page query from the clauses that a caller gives. -/
def configure (columns source : Option String) (sortKeys : Option (List (String × OrderChoice)))
    (filter : Option String) : Except Misconfiguration PageQuery := do
  if isMissing columns then throw .selectMissing
  if isMissing source then throw .fromMissing
  match sortKeys with
  | none => throw .sortKeysMissing
  | some choices =>
    let keys ← SortKey.ofChoices choices
    if keys.isEmpty then throw .sortKeysMissing
    pure {
      columns := withoutKeyword "select" (columns.getD "")
      source := withoutKeyword "from" (source.getD "")
      sortKeys := keys
      filter := readFilter filter }

/-- The filter with its keyword, after a blank; nothing where there is no filter. -/
def filterSql (q : PageQuery) : String :=
  match q.filter with
  | none => ""
  | some f => " WHERE " ++ f

def orderingSql (q : PageQuery) : String := SortKey.orderingSql q.sortKeys

/-- The query for all rows, in no order. -/
def baseSql (q : PageQuery) : String :=
  "SELECT " ++ q.columns ++ " FROM " ++ q.source ++ q.filterSql

/-- The query written out field by field, for a reader. -/
def describe (q : PageQuery) : String :=
  let key (k : SortKey) := "(" ++ Text.quoted k.column ++ ", <SortOrder." ++ k.order.name ++ ": " ++
    Text.quoted k.order.keyword ++ ">)"
  let keys := match q.sortKeys with
    | [k] => "(" ++ key k ++ ",)"
    | ks => "(" ++ String.intercalate ", " (ks.map key) ++ ")"
  "PagingQuerySpec(select_clause=" ++ Text.quoted q.columns ++ ", from_clause=" ++
    Text.quoted q.source ++ ", sort_keys=" ++ keys ++ ", where_clause=" ++
    (Value.ofText? q.filter).literal ++ ")"

end PageQuery

end RunLedger
