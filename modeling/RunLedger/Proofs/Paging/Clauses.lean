import Mathlib.Data.List.Basic
import RunLedger.Proofs.Paging.Dialects
import RunLedger.Proofs.Paging.Resolving
import RunLedger.Proofs.Pointwise
import RunLedger.Proofs.Text.Trim

/-!
# What the clauses of a page query say

A page of executions is asked for in words.  The clauses are read here as the database reads them:
a list of columns, tests that a row has to pass, and sort keys, the first one first.  A comparison
with a missing value is neither true nor false, and a missing value comes before all others.  Read
so, the query of a filter asks for the columns of the table, keeps what the filter keeps and lists
it newest first; and the values of a row, taken in the order of the columns, make up the row again.

    readAll? (allSql tests) = some tests                                    (readAll?_allSql)
    comesFirst pageOrder = newerFirst                                       (comesFirst_pageOrder)
    ofQuery? (the query of f) = some f.selection                            (ofQuery?_resolved)
    f.selection.rows on rows makes newestFirst (rows.filter f.keeps)        (rows_selection)
    reading a window loads the rows that its query asks for                 (exec_window_of_query)
-/

namespace RunLedger

/-! ## Rows as values by column -/

/-- What a row holds in a column. -/
inductive Cell where
  | null
  | number (n : Int)
  | text (s : String)
  | time (i : Instant)
deriving Repr, DecidableEq

namespace Cell

def ofInt? : Option Int → Cell
  | none => null
  | some n => number n

def ofText? : Option String → Cell
  | none => null
  | some s => text s

def ofTime? : Option Instant → Cell
  | none => null
  | some i => time i

def int? : Cell → Option Int
  | number n => some n
  | _ => none

def text? : Cell → Option String
  | text s => some s
  | _ => none

def time? : Cell → Option Instant
  | time i => some i
  | _ => none

@[simp] theorem int?_ofInt? (n : Option Int) : (ofInt? n).int? = n := by cases n <;> rfl

@[simp] theorem text?_ofText? (s : Option String) : (ofText? s).text? = s := by cases s <;> rfl

@[simp] theorem time?_ofTime? (i : Option Instant) : (ofTime? i).time? = i := by cases i <;> rfl

@[simp] theorem ofInt?_inj {m n : Option Int} : ofInt? m = ofInt? n ↔ m = n :=
  ⟨fun h => by simpa using congrArg int? h, congrArg ofInt?⟩

@[simp] theorem ofTime?_inj {i j : Option Instant} : ofTime? i = ofTime? j ↔ i = j :=
  ⟨fun h => by simpa using congrArg time? h, congrArg ofTime?⟩

/-- Whether one value comes before another in an ascending order; a missing one comes first. -/
def before : Cell → Cell → Bool
  | null, null => false
  | null, _ => true
  | number a, number b => a < b
  | text a, text b => a < b
  | time a, time b => a < b
  | _, _ => false

theorem before_ofTime? (i j : Option Instant) :
    before (ofTime? i) (ofTime? j) = ExecutionRow.timeBefore i j := by
  cases i <;> cases j <;> rfl

/-- A number that comes before another one or is the same is at most that one. -/
theorem before_or_eq_ofInt? (m n : Option Int) :
    (before (ofInt? m) (ofInt? n) || ofInt? m == ofInt? n) = ExecutionRow.idAtMost m n := by
  cases m with
  | none => cases n <;> rfl
  | some m =>
    cases n with
    | none => rfl
    | some n =>
      rw [Bool.eq_iff_iff]
      simp [ofInt?, before, ExecutionRow.idAtMost, Int.le_iff_lt_or_eq]

end Cell

namespace ExecutionRow

/-- A row as the database holds it, value by column. -/
def named (r : ExecutionRow) : List (String × Cell) := [
  ("task_execution_id", .ofInt? r.id),
  ("start_time", .ofTime? r.startTime),
  ("end_time", .ofTime? r.endTime),
  ("task_name", .ofText? r.taskName),
  ("exit_code", .ofInt? r.exitCode),
  ("exit_message", .ofText? r.exitMessage),
  ("error_message", .ofText? r.errorMessage),
  ("last_updated", .ofTime? r.lastUpdated),
  ("external_execution_id", .ofText? r.externalId),
  ("parent_execution_id", .ofInt? r.parentId)]

/-- The value of a column; there is none in a column that the table does not have. -/
def cell (r : ExecutionRow) (column : String) : Cell := (r.named.lookup column).getD .null

/-- The row that values make, each under the name of its column. -/
def ofNamed (values : List (String × Cell)) : ExecutionRow :=
  let cell (column : String) : Cell := (values.lookup column).getD .null
  {
    id := (cell "task_execution_id").int?
    startTime := (cell "start_time").time?
    endTime := (cell "end_time").time?
    taskName := (cell "task_name").text?
    exitCode := (cell "exit_code").int?
    exitMessage := (cell "exit_message").text?
    errorMessage := (cell "error_message").text?
    lastUpdated := (cell "last_updated").time?
    externalId := (cell "external_execution_id").text?
    parentId := (cell "parent_execution_id").int? }

/-- The values of a row in the order of some columns, taken by their places, make up the row again
if no column of the table is missing. -/
theorem ofNamed_zip {columns : List String} (h : Transaction.executionColumns ⊆ columns)
    (r : ExecutionRow) : ofNamed (columns.zip (columns.map r.cell)) = r := by
  have hzip : columns.zip (columns.map r.cell) = columns.map fun c => (c, r.cell c) := by
    rw [← List.zip_map', List.map_id']
  have hlookup : ∀ c ∈ Transaction.executionColumns,
      ((columns.zip (columns.map r.cell)).lookup c).getD .null = r.cell c := fun c hc => by
    rw [hzip, List.lookup_graph r.cell (h hc), Option.getD_some]
  simp only [Transaction.executionColumns, TableRole.columns, List.forall_mem_cons] at hlookup
  simp only [ofNamed, hlookup]
  simp [cell, named, List.lookup_cons]

end ExecutionRow

/-! ## Words and items of a clause -/

namespace Clause

/-- The words of a clause, between its blanks. -/
def words (s : String) : List String := (s.toList.splitOn ' ').map String.ofList

/-- The items of a clause that is a list, between its commas, without blanks around them. -/
def items (s : String) : List String :=
  (s.toList.splitOn ',').map fun item => Text.trimmed (String.ofList item)

theorem words_intercalate {ws : List String} (hne : ws ≠ []) (h : ∀ w ∈ ws, ' ' ∉ w.toList) :
    words (String.intercalate " " ws) = ws := by
  have hlists : ∀ cs ∈ ws.map String.toList, ' ' ∉ cs := by
    intro cs hcs
    obtain ⟨w, hw, rfl⟩ := List.mem_map.1 hcs
    exact h w hw
  have hsplit : List.splitOn ' ' ([' '].intercalate (ws.map String.toList)) =
      ws.map String.toList := List.splitOn_intercalate ' ' hlists (by simpa using hne)
  rw [words, String.toList_intercalate]
  have hblank : " ".toList = [' '] := rfl
  rw [hblank, hsplit, List.map_map]
  exact List.map_id'' (fun w => String.ofList_toList) ws

/-- Behind a comma the blank may as well belong to the next item. -/
theorem intercalate_comma_blank {α : Type} (a b : α) (l : List α) (ls : List (List α)) :
    [a, b].intercalate (l :: ls) = [a].intercalate (l :: ls.map (b :: ·)) := by
  induction ls generalizing l with
  | nil => rfl
  | cons m ls ih =>
    rw [List.intercalate_cons_cons, List.map_cons, List.intercalate_cons_cons, ih]
    simp

theorem items_intercalate {ss : List String} (hne : ss ≠ []) (hcomma : ∀ s ∈ ss, ',' ∉ s.toList)
    (htrim : ∀ s ∈ ss, Text.trimmed s = s) : items (String.intercalate ", " ss) = ss := by
  cases ss with
  | nil => exact absurd rfl hne
  | cons s ss =>
    have hlists : ∀ cs ∈ s.toList :: (ss.map String.toList).map (' ' :: ·), ',' ∉ cs := by
      intro cs hcs
      rcases List.mem_cons.1 hcs with rfl | hcs
      · exact hcomma s List.mem_cons_self
      · simp only [List.mem_map, exists_exists_and_eq_and] at hcs
        obtain ⟨t, ht, rfl⟩ := hcs
        simpa using hcomma t (List.mem_cons_of_mem _ ht)
    have hblank : ", ".toList = [',', ' '] := rfl
    rw [items, String.toList_intercalate, hblank, List.map_cons, intercalate_comma_blank,
      List.splitOn_intercalate ',' hlists (List.cons_ne_nil _ _), List.map_cons,
      String.ofList_toList, htrim s List.mem_cons_self, List.map_map, List.map_map]
    refine congrArg (s :: ·) ((List.map_congr_left fun t ht => ?_).trans (List.map_id ss))
    have hbehind : Text.trim (' ' :: t.toList) = Text.trim t.toList :=
      Text.trim_blank_append (l := [' ']) (List.forall_mem_singleton.2 rfl)
    have hself := htrim t (List.mem_cons_of_mem _ ht)
    simpa [Text.trimmed, hbehind] using hself

theorem mem_intercalate {α : Type} {a b : α} {ls : List (List α)} (h : a ∈ [b].intercalate ls) :
    a = b ∨ ∃ l ∈ ls, a ∈ l := by
  induction ls with
  | nil => cases h
  | cons l ls ih =>
    cases ls with
    | nil =>
      rw [List.intercalate_singleton] at h
      exact .inr ⟨l, List.mem_cons_self, h⟩
    | cons m ls =>
      rw [List.intercalate_cons_cons, List.append_assoc, List.mem_append, List.mem_append,
        List.mem_singleton] at h
      rcases h with h | h | h
      · exact .inr ⟨l, List.mem_cons_self, h⟩
      · exact .inl h
      · exact (ih h).imp_right fun ⟨n, hn, hmem⟩ => ⟨n, List.mem_cons_of_mem l hn, hmem⟩

end Clause

/-! ## Tests -/

/-- A test of a filter clause: that a column has the value of a parameter, or none at all. -/
inductive ColumnTest where
  | equals (column parameter : String)
  | isNull (column : String)
deriving Repr, DecidableEq

namespace ColumnTest

/-- The test as it is written, word by word. -/
def sqlWords : ColumnTest → List String
  | equals column parameter => [column, "=", ":" ++ parameter]
  | isNull column => [column, "IS", "NULL"]

/-- Tests as a clause that asks for all of them. -/
def allSql (tests : List ColumnTest) : String :=
  String.intercalate " " (["AND"].intercalate (tests.map sqlWords))

/-- The test that words write. -/
def ofWords? : List String → Option ColumnTest
  | [column, "=", parameter] =>
    (Text.afterPrefix? [':'] parameter.toList).map fun name => equals column (String.ofList name)
  | [column, "IS", "NULL"] => some (isNull column)
  | _ => none

/-- The tests that a clause asks for. -/
def readAll? (clause : String) : Option (List ColumnTest) :=
  ((Clause.words clause).splitOn "AND").mapM ofWords?

theorem ofWords?_sqlWords (t : ColumnTest) : ofWords? t.sqlWords = some t := by
  cases t with
  | isNull column => rfl
  | equals column parameter =>
    simp [sqlWords, ofWords?, Text.afterPrefix?]

/-- Tests are read as they were written, if their words are words. -/
theorem readAll?_allSql {tests : List ColumnTest} (hne : tests ≠ [])
    (h : ∀ t ∈ tests, ∀ w ∈ t.sqlWords, ' ' ∉ w.toList ∧ w ≠ "AND") :
    readAll? (allSql tests) = some tests := by
  have hand : ∀ ws ∈ tests.map sqlWords, "AND" ∉ ws := by
    intro ws hws hmem
    obtain ⟨t, ht, rfl⟩ := List.mem_map.1 hws
    exact (h t ht _ hmem).2 rfl
  have hblank : ∀ w ∈ ["AND"].intercalate (tests.map sqlWords), ' ' ∉ w.toList := by
    intro w hw
    rcases Clause.mem_intercalate hw with rfl | ⟨ws, hws, hmem⟩
    · decide
    · obtain ⟨t, ht, rfl⟩ := List.mem_map.1 hws
      exact (h t ht w hmem).1
  have hsome : ["AND"].intercalate (tests.map sqlWords) ≠ [] := by
    intro hnil
    have hsplit := List.splitOn_intercalate "AND" hand (by simpa using hne)
    rw [hnil] at hsplit
    cases tests with
    | nil => exact hne rfl
    | cons t tests => cases t <;> simp [sqlWords] at hsplit
  rw [readAll?, allSql, Clause.words_intercalate hsome hblank,
    List.splitOn_intercalate "AND" hand (by simpa using hne)]
  exact mapM_map_eq_some fun t _ => ofWords?_sqlWords t

/-- Whether a row passes a test, for the arguments of the query; a comparison with a missing value
has no outcome. -/
def outcome? (arguments : List (String × Cell)) (r : ExecutionRow) : ColumnTest → Option Bool
  | equals column parameter =>
    match r.cell column, (arguments.lookup parameter).getD .null with
    | .null, _ | _, .null => none
    | a, b => some (a == b)
  | isNull column => some (r.cell column == .null)

end ColumnTest

/-! ## Orders -/

namespace SortKey

/-- The sort key that an item of an ordering writes. -/
def read? (item : String) : Option SortKey :=
  match Clause.words item with
  | [column, word] => (SortOrder.ofWord? word).map fun order => ⟨column, order⟩
  | _ => none

theorem read?_toSql {k : SortKey} (h : ' ' ∉ k.column.toList) : read? k.toSql = some k := by
  obtain ⟨column, order⟩ := k
  have hsql : toSql ⟨column, order⟩ = String.intercalate " " [column, order.keyword] := by
    simp [toSql, String.intercalate_cons_cons]
  have hword : ' ' ∉ order.keyword.toList ∧ SortOrder.ofWord? order.keyword = some order := by
    cases order <;> decide +kernel
  have hblank : ∀ w ∈ [column, order.keyword], ' ' ∉ w.toList :=
    List.forall_mem_cons.2 ⟨h, List.forall_mem_singleton.2 hword.1⟩
  rw [read?, hsql, Clause.words_intercalate (by simp) hblank]
  dsimp only
  rw [hword.2]
  rfl

/-- An ordering is read as it was written, if its columns are names. -/
theorem readAll?_orderingSql {keys : List SortKey} (hne : keys ≠ [])
    (h : ∀ k ∈ keys, ' ' ∉ k.column.toList ∧ ',' ∉ k.column.toList ∧
      Text.trimmed k.toSql = k.toSql) :
    (Clause.items (orderingSql keys)).mapM read? = some keys := by
  have hcomma : ∀ s ∈ keys.map toSql, ',' ∉ s.toList := by
    intro s hs
    obtain ⟨k, hk, rfl⟩ := List.mem_map.1 hs
    have horder : ',' ∉ (" " ++ k.order.keyword).toList := by cases k.order <;> decide
    rw [toSql, String.append_assoc, String.toList_append, List.mem_append, not_or]
    exact ⟨(h k hk).2.1, horder⟩
  have htrim : ∀ s ∈ keys.map toSql, Text.trimmed s = s := by
    intro s hs
    obtain ⟨k, hk, rfl⟩ := List.mem_map.1 hs
    exact (h k hk).2.2
  rw [orderingSql, Clause.items_intercalate (by simpa using hne) hcomma htrim]
  exact mapM_map_eq_some fun k hk => read?_toSql (h k hk).1

/-- Whether one row comes before another by a key. -/
def before (k : SortKey) (r q : ExecutionRow) : Bool :=
  match k.order with
  | .ascending => (r.cell k.column).before (q.cell k.column)
  | .descending => (q.cell k.column).before (r.cell k.column)

/-- Whether one row is listed before another or beside it: the first key that tells them apart
decides. -/
def comesFirst : List SortKey → ExecutionRow → ExecutionRow → Bool
  | [], _, _ => true
  | k :: keys, r, q =>
    k.before r q || (r.cell k.column == q.cell k.column && comesFirst keys r q)

/-- The order of pages is that of listings. -/
theorem comesFirst_pageOrder : comesFirst Reading.pageOrder = ExecutionRow.newerFirst := by
  funext r q
  have hstart : ∀ r : ExecutionRow, r.cell "start_time" = .ofTime? r.startTime := fun _ => rfl
  have hid : ∀ r : ExecutionRow, r.cell "task_execution_id" = .ofInt? r.id := fun _ => rfl
  have heq : (Cell.ofTime? r.startTime == Cell.ofTime? q.startTime) =
      (r.startTime == q.startTime) := by
    rw [Bool.eq_iff_iff]
    simp
  have hcomm : (Cell.ofInt? r.id == Cell.ofInt? q.id) = (Cell.ofInt? q.id == Cell.ofInt? r.id) :=
    BEq.comm
  simp only [Reading.pageOrder, comesFirst, before, hstart, hid, Bool.and_true]
  rw [hcomm, Cell.before_or_eq_ofInt?, Cell.before_ofTime?, heq]
  rfl

end SortKey

/-! ## Queries -/

/-- What a query asks for: values of some columns, of the rows that pass all tests, in an order. -/
structure Selection where
  columns : List String
  tests : List ColumnTest
  keys : List SortKey
deriving Repr, DecidableEq

namespace Selection

/-- What the clauses of a page query ask for. -/
def ofQuery? (q : PageQuery) : Option Selection := do
  let keys ← (Clause.items q.orderingSql).mapM SortKey.read?
  let tests ← (q.filter.map ColumnTest.readAll?).getD (some [])
  pure ⟨Clause.items q.columns, tests, keys⟩

/-- The rows that are asked for, in their order. -/
def chosen (s : Selection) (arguments : List (String × Cell)) (rows : List ExecutionRow) :
    List ExecutionRow :=
  (rows.filter fun r => s.tests.all fun t => t.outcome? arguments r == some true).mergeSort
    (SortKey.comesFirst s.keys)

/-- The values that a query answers, row by row. -/
def rows (s : Selection) (arguments : List (String × Cell)) (rows : List ExecutionRow) :
    List (List Cell) :=
  (s.chosen arguments rows).map fun r => s.columns.map r.cell

end Selection

namespace Reading

open Session Transaction

variable {tablePrefix : String} {l : Ledger} {w : Window}

namespace Filter

/-- The arguments that go with the clause of a filter. -/
def arguments : Filter → List (String × Cell)
  | all => []
  | named n | runningNamed n => [("task_name", .text n)]

/-- That a row bears the name that is asked for. -/
def nameTest : ColumnTest := .equals "task_name" "task_name"

/-- That a row has no end. -/
def runningTest : ColumnTest := .isNull "end_time"

/-- The tests that the clause of a filter writes. -/
def tests : Filter → List ColumnTest
  | all => []
  | named _ => [nameTest]
  | runningNamed _ => [nameTest, runningTest]

def selection (f : Filter) : Selection := ⟨executionColumns, f.tests, pageOrder⟩

/-- A row passes the tests of a filter if the filter keeps it. -/
theorem all_tests (f : Filter) (r : ExecutionRow) :
    (f.tests.all fun t => t.outcome? f.arguments r == some true) = f.keeps r := by
  have hnamed (n : String) :
      (nameTest.outcome? [("task_name", .text n)] r == some true) = r.isNamed n := by
    have hcell : r.cell "task_name" = .ofText? r.taskName := rfl
    have harg : (List.lookup "task_name" [("task_name", Cell.text n)]).getD .null = .text n := rfl
    rw [nameTest, ColumnTest.outcome?, hcell, harg, ExecutionRow.isNamed]
    cases r.taskName with
    | none => rfl
    | some name =>
      rw [Bool.eq_iff_iff]
      simp [Cell.ofText?]
  have hrunning (arguments : List (String × Cell)) :
      (runningTest.outcome? arguments r == some true) = r.isRunning := by
    have hcell : r.cell "end_time" = .ofTime? r.endTime := rfl
    rw [runningTest, ColumnTest.outcome?, hcell, ExecutionRow.isRunning]
    cases r.endTime <;> rfl
  cases f with
  | all => rfl
  | named n => simp [tests, arguments, hnamed, keeps]
  | runningNamed n => simp [tests, arguments, hnamed, hrunning, keeps]

/-- The values that the query of a filter answers make up the rows that it keeps, newest first. -/
theorem rows_selection (f : Filter) (rows : List ExecutionRow) :
    (f.selection.rows f.arguments rows).map
        (fun values => ExecutionRow.ofNamed (executionColumns.zip values)) =
      newestFirst (rows.filter f.keeps) := by
  have hchosen : f.selection.chosen f.arguments rows = newestFirst (rows.filter f.keeps) := by
    have hkeeps : (fun r => f.selection.tests.all fun t =>
        t.outcome? f.arguments r == some true) = f.keeps := funext f.all_tests
    rw [Selection.chosen, hkeeps, newestFirst, ← SortKey.comesFirst_pageOrder]
    rfl
  rw [Selection.rows, hchosen, List.map_map]
  exact List.map_id'' (ExecutionRow.ofNamed_zip (List.Subset.refl _)) _

end Filter

/-- The clause of a filter writes its tests. -/
theorem Filter.readAll?_clause (f : Filter) :
    (f.clause.map ColumnTest.readAll?).getD (some []) = some f.tests := by
  have hread {tests : List ColumnTest} {clause : String} (hne : tests ≠ [])
      (hwords : ∀ t ∈ tests, ∀ w ∈ t.sqlWords, ' ' ∉ w.toList ∧ w ≠ "AND")
      (hclause : ColumnTest.allSql tests = clause) : ColumnTest.readAll? clause = some tests :=
    hclause ▸ ColumnTest.readAll?_allSql hne hwords
  have hnamed : ColumnTest.readAll? "task_name = :task_name" = some [nameTest] :=
    hread (by decide) (by decide +kernel) (by decide +kernel)
  have hrunning : ColumnTest.readAll? "task_name = :task_name AND end_time IS NULL" =
      some [nameTest, runningTest] :=
    hread (by decide) (by decide +kernel) (by decide +kernel)
  cases f with
  | all => rfl
  | named n => exact hnamed
  | runningNamed n => exact hrunning

/-- Resolving the prefix puts it before the table's name, and changes nothing else. -/
theorem Filter.resolved_query (tablePrefix : String) (f : Filter) :
    f.query.resolved tablePrefix =
      { f.query with source := TableRole.executions.tableName tablePrefix } := by
  have hself {s : String} (h : '%' ∉ s.toList) : resolvePrefix tablePrefix s = s := by
    rw [← String.toList_inj, toList_resolvePrefix]
    exact Text.replaceAll_self h
  have hsource : resolvePrefix tablePrefix pageSource =
      TableRole.executions.tableName tablePrefix := by
    have hafter : Text.afterPrefix? "%PREFIX%".toList pageSource.toList =
        some TableRole.executions.suffix.toList := by decide
    have hsuffix : '%' ∉ TableRole.executions.suffix.toList := by decide
    rw [← String.toList_inj, toList_resolvePrefix,
      Text.replaceAll_of_some (by decide) hafter, TableRole.tableName, String.toList_append]
    exact congrArg _ (Text.replaceAll_self hsuffix)
  have hkeys : (pageOrder.map fun k => { k with column := resolvePrefix tablePrefix k.column }) =
      pageOrder := by
    have hcolumn : ∀ k ∈ pageOrder, '%' ∉ k.column.toList := by decide
    refine (List.map_congr_left fun k hk => ?_).trans (List.map_id _)
    rw [hself (hcolumn k hk)]
    rfl
  have hclause : f.clause.map (resolvePrefix tablePrefix) = f.clause := by
    refine (Option.map_congr fun clause hclause => ?_).trans Option.map_id_apply
    exact hself (f.not_mem_clause clause hclause).2
  rw [PageQuery.resolved]
  dsimp only [Filter.query]
  rw [hself not_mem_pageColumns.2, hsource, hkeys, hclause]

/-- The query of a filter asks for the columns of the table, of the rows that pass the filter's
tests, in the order of pages. -/
theorem Filter.ofQuery?_resolved (tablePrefix : String) (f : Filter) :
    Selection.ofQuery? (f.query.resolved tablePrefix) = some f.selection := by
  have hcolumns : Clause.items pageColumns = executionColumns :=
    Clause.items_intercalate (by decide) (by decide) (by decide +kernel)
  have hkeys : (Clause.items (SortKey.orderingSql pageOrder)).mapM SortKey.read? =
      some pageOrder :=
    SortKey.readAll?_orderingSql (by decide) (by decide +kernel)
  rw [f.resolved_query, Selection.ofQuery?, PageQuery.orderingSql]
  dsimp only [Filter.query]
  rw [hkeys, f.readAll?_clause, hcolumns]
  rfl

/-- A page is what its text asks for.  With the prefix resolved the text is laid out around the
clauses of one query, which names the ledger's table; these are read as a selection; and reading the
window loads the rows that are made by the values of this selection, in the window. -/
theorem exec_window_of_query {d : Dialect} (hd : d ∈ Dialect.embedded) (hm : l.IsMade)
    (hplain : isPlainPrefix tablePrefix = true) (f : Filter)
    (hw : (w.next : Int) ≤ Signed64.greatest) :
    ∃ p c selection, pager d f = .ok p ∧ d.pageForm.choice? w = some c ∧
      resolvePrefix tablePrefix (p.form.pageSql p.query w) =
        layoutSql (p.query.resolved tablePrefix) c.layout ∧
      (p.query.resolved tablePrefix).source = TableRole.executions.tableName tablePrefix ∧
      Selection.ofQuery? (p.query.resolved tablePrefix) = some selection ∧
      exec (window d.pageForm tablePrefix f w) l =
        exec (loadExecutions ((w.slice (selection.rows f.arguments l.executionRows)).map
          fun values => ExecutionRow.ofNamed (executionColumns.zip values))) l := by
  obtain ⟨parameters, hp⟩ := exists_pager d f
  obtain ⟨c, hc⟩ := Dialect.exists_choice hd w
  refine ⟨_, c, f.selection, hp, hc, ?_, by rw [f.resolved_query], f.ofQuery?_resolved _, ?_⟩
  · rw [PageForm.resolvePrefix_pageSql, PageForm.pageSql, Pager.form, PageForm.layout_eq hc]
  · have hnext : w.next = w.offset + 1 + w.limit := rfl
    have hslice : (w.slice (f.selection.rows f.arguments l.executionRows)).map
        (fun values => ExecutionRow.ofNamed (executionColumns.zip values)) =
          w.slice (listing f l) := by
      rw [Window.slice, List.map_take, List.map_drop, f.rows_selection, listing, Window.slice]
    have hsame : window d.pageForm tablePrefix f w = window .sqlite tablePrefix f w :=
      window_eq (d := .sqlite) (by decide) hd hw tablePrefix f
    rw [hsame, hslice]
    exact exec_window hm hplain f (Signed64.holds_natCast (by omega))
      (Signed64.holds_natCast (by omega))

end Reading

end RunLedger
