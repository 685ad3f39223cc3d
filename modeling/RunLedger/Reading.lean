import RunLedger.Paging.Form
import RunLedger.Paging.Page
import RunLedger.Store.Transaction

/-!
# Reading executions

Look-ups, counts and pages.  All of them read the same rows; pages list them newest first and are
selected in the way of the dialect that the ledger declares.
-/

namespace RunLedger.Reading

open Transaction

/-! ## Look-ups -/

/-- The execution that bears a number, if there is one. -/
def find? (id : Int) : Transaction (Option Execution) := do
  let t ← require (← get).executions executionColumns
  checkNumber id
  let found ← loadExecutions (t.rows.filter fun r => r.id = some id)
  pure found.head?

/-- Executions by number; of several none may lack it. -/
def orderedById (es : List Execution) : Except Failure (List Execution) :=
  if 1 < es.length && es.any fun e => e.id.isNone then
    .error (.idsNotComparable none (es.findSome? (·.id)))
  else .ok (es.mergeSort fun a b => ExecutionRow.idAtMost a.id b.id)

/-- The executions of a name that have not ended, each once, by number. -/
def running (taskName : String) : Transaction (List Execution) := do
  let rows ← selectExecutions executionColumns fun r => r.isNamed taskName && r.isRunning
  let es ← loadExecutions rows
  (orderedById es.eraseDups : Except Failure (List Execution))

/-- The row of a name that was started last. -/
def latestRow? (rows : List ExecutionRow) (taskName : String) : Option ExecutionRow :=
  (newestFirst (rows.filter fun r => r.isNamed taskName && r.startTime.isSome)).head?

/-- Two rows of the same start of which one lacks its number, by their numbers. -/
def unorderedPair? : List ExecutionRow → Option (Option Int × Option Int)
  | [] => none
  | r :: rest =>
    let other := rest.find? fun q => q.startTime == r.startTime && q.id.isSome != r.id.isSome
    (other.map fun q => (r.id, q.id)) <|> unorderedPair? rest

/-- For each of the names the execution that was started last, newest first. -/
def latest (taskNames : List String) : Transaction (List Execution) := do
  if taskNames.isEmpty then pure []
  else
    let rows ← selectExecutions executionColumns fun _ => true
    let found := taskNames.eraseDups.filterMap (latestRow? rows)
    match unorderedPair? found with
    | some (a, b) => throw (.idsNotComparable a b)
    | none => loadExecutions (newestFirst found)

/-! ## Counts -/

/-- Which executions are counted or listed. -/
inductive Filter where
  | all
  | named (taskName : String)
  | runningNamed (taskName : String)
deriving Repr, DecidableEq

namespace Filter

/-- Whether a row is counted or listed. -/
def keeps : Filter → ExecutionRow → Bool
  | all, _ => true
  | named n, r => r.isNamed n
  | runningNamed n, r => r.isNamed n && r.isRunning

/-- The columns that the filter looks at. -/
def columns : Filter → List String
  | all => []
  | named _ => ["task_name"]
  | runningNamed _ => ["task_name", "end_time"]

/-- The filter as the clause of a page query. -/
def clause : Filter → Option String
  | all => none
  | named _ => some "task_name = :task_name"
  | runningNamed _ => some "task_name = :task_name AND end_time IS NULL"

end Filter

/-- How many executions a filter keeps. -/
def count (f : Filter) : Transaction Int := do
  let rows ← selectExecutions f.columns f.keeps
  pure rows.length

def countRunning : Transaction Int := do
  let rows ← selectExecutions ["end_time"] (·.isRunning)
  pure rows.length

/-- The names of executions, each once, in order of code points. -/
def taskNames : Transaction (List String) := do
  let rows ← selectExecutions ["task_name"] fun _ => true
  pure ((rows.filterMap (·.taskName)).eraseDups.mergeSort fun a b => a ≤ b)

/-! ## Pages -/

/-- The columns of a page query over executions, as listed in it. -/
def pageColumns : String := String.intercalate ", " executionColumns

/-- The source of a page query over executions; the table's prefix is put in later. -/
def pageSource : String := "%PREFIX%execution"

/-- The order of pages: later starts first, and of equal starts the greater number. -/
def pageOrder : List SortKey :=
  [⟨"start_time", .descending⟩, ⟨"task_execution_id", .descending⟩]

/-- The pager of a filter for a dialect. -/
def pager (dialect : Dialect) (f : Filter) : Except Misconfiguration Pager :=
  Pager.create (some (.dialect dialect)) none (some pageColumns) (some pageSource)
    (some (pageOrder.map fun k => (k.column, .order k.order))) f.clause

/-- Whether a name may go on with the character. -/
def isWordChar (c : Char) : Bool := c.isAlphanum || c = '_' || 0x80 ≤ c.toNat

/-- Whether a text names a parameter: behind a colon that stands free of names, colons and
backslashes before it, and with no colon after the name. -/
def namesParameter : (free : Bool) → List Char → Bool
  | _, [] => false
  | free, c :: rest =>
    let name := rest.takeWhile isWordChar
    let ends := name.length = 1 && (rest.drop 1).head? = some ':'
    (c = ':' && free && !name.isEmpty && !ends) ||
      namesParameter (!(isWordChar c || c = ':' || c = '\\')) rest

/-- The mark that stands before some texts; the database skips one at the start of a name. -/
def byteOrderMark : Char := '\uFEFF'

/-- Whether a table's prefix can be written in a query without quotes.  A query with any other
prefix is taken to be refused: the words it forms then are assumed to name no table. -/
def isPlainPrefix (tablePrefix : String) : Bool :=
  match tablePrefix.toList with
  | [] => true
  | c :: cs =>
    let isStart (d : Char) := d.isAlpha || d = '_' || 0x80 ≤ d.toNat
    isStart c && c ≠ byteOrderMark && cs.all fun d => isStart d || d.isDigit || d = '$'

/-- The rows of a window as the embedded database selects them for a page form.  It knows the forms
that limit and those that number rows; numbers in a limit have to fit a column. -/
def selectWindow {α : Type} (form : PageForm) (w : Window) (rows : List α) :
    Except Failure (List α) :=
  match form with
  | .postgres | .sqlite | .mysql =>
    if Signed64.holds w.offset && Signed64.holds w.limit then .ok (w.slice rows)
    else .error .constraintViolated
  | .sqlserver | .db2 => .ok (w.numbered rows)
  | .hsql | .h2 | .oracle => .error .statementRefused

/-- The executions of a window among those that a filter keeps, newest first. -/
def window (form : PageForm) (tablePrefix : String) (f : Filter) (w : Window) :
    Transaction (List Execution) := do
  if namesParameter true (TableRole.executions.tableName tablePrefix).toList then
    throw .statementUnbuilt
  if !isPlainPrefix tablePrefix then throw .statementRefused
  let rows ← selectExecutions executionColumns f.keeps
  loadExecutions (← selectWindow form w (newestFirst rows))

/-- Refuses a page before the first one or without room. -/
def checkPage (index size : Int) : Except Failure Unit :=
  if index < 0 then .error (.badArgument (.pageIndexNegative index))
  else if size ≤ 0 then .error (.badArgument (.pageSizeNotPositive size))
  else .ok ()

def pageWindow (index size : Int) : Except Failure Window :=
  (Window.of? (index * size) size).mapError .badArgument

/-- How many executions a page has where the caller does not say. -/
def defaultPageSize : Int := 20

end RunLedger.Reading
