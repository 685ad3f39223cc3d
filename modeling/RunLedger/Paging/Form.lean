import RunLedger.Dialect.Detection
import RunLedger.Paging.PageQuery
import RunLedger.Paging.Placeholder
import RunLedger.Paging.Window

/-!
# Page forms

Each dialect has its own way to select a window of rows.  A form lays the clauses of a page query
out among fixed words; the window's numbers stand in the words.
-/

namespace RunLedger

/-- A stretch of a page query: fixed words, or one of the clauses. -/
inductive QueryPiece where
  | words (s : String)
  | columns
  | source
  | filter
  | ordering
deriving Repr, DecidableEq

/-- The text of a stretch, for the clauses of a given query. -/
def QueryPiece.toSql (q : PageQuery) : QueryPiece → String
  | words s => s
  | columns => q.columns
  | source => q.source
  | filter => q.filterSql
  | ordering => q.orderingSql

/-- The text of a query laid out in stretches. -/
def layoutSql (q : PageQuery) (pieces : List QueryPiece) : String :=
  String.join (pieces.map (·.toSql q))

/-- The ways to select a window of rows. -/
inductive PageForm where
  | hsql
  | h2
  | oracle
  | mysql
  | postgres
  | sqlserver
  | db2
  | sqlite
deriving Repr, DecidableEq, Inhabited

/-- The form that a dialect's page queries take. -/
def Dialect.pageForm : Dialect → PageForm
  | hsql => .hsql
  | h2 => .h2
  | oracle => .oracle
  | mysql | mariadb => .mysql
  | postgres => .postgres
  | sqlserver => .sqlserver
  | db2 | db2vse | db2zos | db2as400 => .db2
  | sqlite => .sqlite

namespace PageForm

open QueryPiece

/-- The form's name, as logs and listings show it. -/
def providerName : PageForm → String
  | hsql => "HsqlPagingQueryProvider"
  | h2 => "H2PagingQueryProvider"
  | oracle => "OraclePagingQueryProvider"
  | mysql => "MySqlPagingQueryProvider"
  | postgres => "PostgresPagingQueryProvider"
  | sqlserver => "SqlServerPagingQueryProvider"
  | db2 => "Db2PagingQueryProvider"
  | sqlite => "SqlitePagingQueryProvider"

/-- The condition that a row's number lies in the window. -/
def numberRange (w : Window) : String :=
  "TMP_ROW_NUM >= " ++ toString w.first ++ " AND TMP_ROW_NUM < " ++ toString w.next

/-- The ordered query with a limiting clause at its end. -/
def limited (clause : String) : List QueryPiece :=
  [words "SELECT ", columns, words " FROM ", source, filter, words " ORDER BY ", ordering,
    words (" " ++ clause)]

/-- The ordered query as a table of its own, its rows numbered by the given expression. -/
def numberedAround (numbering range : String) : List QueryPiece :=
  [words "SELECT ", columns, words " FROM (SELECT ", columns, words (", " ++ numbering ++
    " as TMP_ROW_NUM FROM (SELECT "), columns, words " FROM ", source, filter,
    words " ORDER BY ", ordering, words (")) WHERE " ++ range)]

/-- The layout of a form's page query for a window. -/
def layout (form : PageForm) (w : Window) : List QueryPiece :=
  let offset := toString w.offset
  let limit := toString w.limit
  match form with
  | hsql =>
    [words ("SELECT LIMIT " ++ offset ++ " " ++ limit ++ " "), columns, words " FROM ", source,
      filter, words " ORDER BY ", ordering]
  | h2 => limited ("OFFSET " ++ offset ++ " ROWS FETCH NEXT " ++ limit ++ " ROWS ONLY")
  | mysql => limited ("LIMIT " ++ offset ++ ", " ++ limit)
  | postgres | sqlite => limited ("LIMIT " ++ limit ++ " OFFSET " ++ offset)
  | oracle => numberedAround "ROWNUM" (numberRange w)
  | db2 => numberedAround "ROW_NUMBER() OVER()" (numberRange w)
  | sqlserver =>
    [words "SELECT ", columns, words " FROM (SELECT ", columns,
      words ", ROW_NUMBER() OVER (ORDER BY ", ordering, words ") AS TMP_ROW_NUM  FROM ", source,
      filter, words (") TASK_EXECUTION_PAGE  WHERE " ++ numberRange w ++ " ORDER BY "), ordering]

def pageSql (form : PageForm) (q : PageQuery) (w : Window) : String :=
  layoutSql q (form.layout w)

end PageForm

/-- A page query fitted to a dialect, with its parameters told once for all pages. -/
structure Pager where
  dialect : Dialect
  query : PageQuery
  parameters : Parameters
deriving Repr, DecidableEq, Inhabited

namespace Pager

/-- A page query fitted to a dialect, unless its parameters mix styles. -/
def ofQuery (dialect : Dialect) (q : PageQuery) : Except Misconfiguration Pager :=
  (Parameters.ofSql q.baseSql).map fun parameters => ⟨dialect, q, parameters⟩

/-- A pager from what a caller gives: the dialect is settled first, then the clauses. -/
def create (declared : Option DialectChoice) (connection : Option Dialect.Connection)
    (columns source : Option String) (sortKeys : Option (List (String × OrderChoice)))
    (filter : Option String) : Except Misconfiguration Pager := do
  let dialect ← Dialect.settle declared connection
  ofQuery dialect (← PageQuery.configure columns source sortKeys filter)

/-- The form of the pages. -/
def form (p : Pager) : PageForm := p.dialect.pageForm

def pageSql (p : Pager) (offset limit : Int) : Except BadArgument String :=
  (Window.of? offset limit).map fun w => p.form.pageSql p.query w

/-- The pager written out, for a reader. -/
def describe (p : Pager) : String := p.form.providerName ++ "(" ++ p.query.describe ++ ")"

end Pager

end RunLedger
