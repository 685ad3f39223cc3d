import RunLedger.Proofs.Paging.Selection
import RunLedger.Proofs.Session.Start

/-!
# The same page in every dialect

The embedded database understands the page queries of nine dialects.  They choose rows in four ways:
two limit the ordered rows, with the two numbers in either order, and two number them from 1 on and
keep a range of numbers.  For the window of a page all four give the same rows in the same order, so
that a page is the same whichever of these dialects the ledger declares.

    form.choice? w = some c → form.layout w = c.layout                            (layout_eq)
    form.choice? w = some c → c.select rows = w.slice (newestFirst rows)          (select_eq)
    1 ≤ n → n lies in the window of exactly one page of the given size          (existsUnique_page)
    (t.perform (page f k size)).1 = (s.perform (page f k size)).1           (page_eq_of_dialects)
-/

namespace RunLedger

/-- The dialects of which the embedded database understands the page queries. -/
def Dialect.embedded : List Dialect :=
  [sqlite, postgres, mysql, mariadb, sqlserver, db2, db2vse, db2zos, db2as400]

/-! ## Ways to choose rows -/

/-- How a page query says which rows it wants, with its numbers in the order in which they are
written. -/
inductive RowChoice where
  /-- So many of the ordered rows, behind so many others. -/
  | limitOffset (limit offset : Nat)
  /-- The same, with the numbers the other way round. -/
  | limitPair (offset limit : Nat)
  /-- The rows of an ordered query, numbered around it. -/
  | numberedAround (first next : Nat)
  /-- Rows that are numbered in an order, and put in that order again once they are chosen. -/
  | numberedOver (first next : Nat)
deriving Repr, DecidableEq

namespace RowChoice

open QueryPiece

/-- The condition that a row's number lies in a range. -/
def rangeSql (first next : Nat) : String :=
  "TMP_ROW_NUM >= " ++ toString first ++ " AND TMP_ROW_NUM < " ++ toString next

/-- The query that makes the choice. -/
def layout : RowChoice → List QueryPiece
  | limitOffset limit offset =>
    PageForm.limited ("LIMIT " ++ toString limit ++ " OFFSET " ++ toString offset)
  | limitPair offset limit =>
    PageForm.limited ("LIMIT " ++ toString offset ++ ", " ++ toString limit)
  | numberedAround first next =>
    PageForm.numberedAround "ROW_NUMBER() OVER()" (rangeSql first next)
  | numberedOver first next =>
    [words "SELECT ", columns, words " FROM (SELECT ", columns,
      words ", ROW_NUMBER() OVER (ORDER BY ", ordering, words ") AS TMP_ROW_NUM  FROM ", source,
      filter, words (") TASK_EXECUTION_PAGE  WHERE " ++ rangeSql first next ++ " ORDER BY "),
      ordering]

/-- The rows of which the numbers, counted from 1, lie in a range. -/
def inRange {α : Type} (first next : Nat) (rows : List α) : List α :=
  ((rows.zipIdx 1).filter fun r => first ≤ r.2 && r.2 < next).map (·.1)

/-- The rows that the embedded database gives for the choice. -/
def select : RowChoice → List ExecutionRow → List ExecutionRow
  | limitOffset limit offset, rows => ((newestFirst rows).drop offset).take limit
  | limitPair offset limit, rows => ((newestFirst rows).drop offset).take limit
  | numberedAround first next, rows => inRange first next (newestFirst rows)
  | numberedOver first next, rows => newestFirst (inRange first next (newestFirst rows))

end RowChoice

/-- The choice that a form's page query makes for a window, if it is one of these. -/
def PageForm.choice? (w : Window) : PageForm → Option RowChoice
  | postgres | sqlite => some (.limitOffset w.limit w.offset)
  | mysql => some (.limitPair w.offset w.limit)
  | db2 => some (.numberedAround w.first w.next)
  | sqlserver => some (.numberedOver w.first w.next)
  | hsql | h2 | oracle => none

variable {w : Window} {form : PageForm} {c : RowChoice}

theorem Dialect.exists_choice {d : Dialect} (hd : d ∈ embedded) (w : Window) :
    ∃ c, d.pageForm.choice? w = some c := by
  cases d with
  | hsql | h2 | oracle => exact absurd hd (by decide)
  | _ => exact ⟨_, rfl⟩

/-- A form's page query is that of its choice. -/
theorem PageForm.layout_eq (h : form.choice? w = some c) : form.layout w = c.layout := by
  cases form with
  | hsql | h2 | oracle => cases h
  | _ =>
    cases h
    rfl

/-! ## Chosen rows -/

/-- Rows in order that are taken out of rows in order need no sorting. -/
theorem newestFirst_of_sublist {rows chosen : List ExecutionRow}
    (h : chosen.Sublist (newestFirst rows)) : newestFirst chosen = chosen :=
  List.mergeSort_of_pairwise ((pairwise_newestFirst rows).sublist h)

theorem Window.slice_sublist {α : Type} (w : Window) (rows : List α) :
    (w.slice rows).Sublist rows :=
  (List.take_sublist _ _).trans (List.drop_sublist _ _)

/-- Every choice for a window takes its rows. -/
theorem RowChoice.select_eq (h : form.choice? w = some c) (rows : List ExecutionRow) :
    c.select rows = w.slice (newestFirst rows) := by
  have hrange : inRange w.first w.next (newestFirst rows) = w.slice (newestFirst rows) :=
    w.numbered_eq_slice _
  cases form with
  | hsql | h2 | oracle => cases h
  | postgres | sqlite | mysql =>
    cases h
    rfl
  | db2 =>
    cases h
    exact hrange
  | sqlserver =>
    cases h
    rw [select, hrange]
    exact newestFirst_of_sublist (w.slice_sublist _)

namespace Reading

/-- As long as no number is too large for the database, it selects a window by the choice of the
form. -/
theorem selectWindow_eq (h : form.choice? w = some c) (hw : (w.next : Int) ≤ Signed64.greatest)
    (rows : List ExecutionRow) :
    selectWindow form w (newestFirst rows) = .ok (c.select rows) := by
  have hnext : w.next = w.offset + 1 + w.limit := rfl
  have hoffset : Signed64.holds (w.offset : Int) = true := Signed64.holds_natCast (by omega)
  have hlimit : Signed64.holds (w.limit : Int) = true := Signed64.holds_natCast (by omega)
  rw [RowChoice.select_eq h]
  cases form with
  | hsql | h2 | oracle => cases h
  | postgres | sqlite | mysql => exact if_pos (by rw [hoffset, hlimit]; rfl)
  | db2 | sqlserver => exact congrArg _ (w.numbered_eq_slice _)

theorem window_eq {d d' : Dialect} (hd : d ∈ Dialect.embedded) (hd' : d' ∈ Dialect.embedded)
    (hw : (w.next : Int) ≤ Signed64.greatest) (tablePrefix : String) (f : Filter) :
    window d'.pageForm tablePrefix f w = window d.pageForm tablePrefix f w := by
  obtain ⟨c, hc⟩ := Dialect.exists_choice hd w
  obtain ⟨c', hc'⟩ := Dialect.exists_choice hd' w
  have hsame : ∀ rows, selectWindow d'.pageForm w (newestFirst rows) =
      selectWindow d.pageForm w (newestFirst rows) := fun rows => by
    rw [selectWindow_eq hc hw, selectWindow_eq hc' hw, RowChoice.select_eq hc,
      RowChoice.select_eq hc']
  unfold window
  simp only [hsame]

/-- Every number from 1 on lies in the window of exactly one page of a size. -/
theorem existsUnique_page {size : Nat} (hsize : 0 < size) {n : Nat} (hn : 1 ≤ n) :
    ∃! k : Nat, ∃ w, pageWindow k size = .ok w ∧ w.first ≤ n ∧ n < w.next := by
  have hlies : ∀ k : Nat, (∃ w, pageWindow k size = .ok w ∧ w.first ≤ n ∧ n < w.next) ↔
      (n - 1) / size = k := by
    intro k
    have hle : k ≤ (n - 1) / size ↔ k * size ≤ n - 1 := Nat.le_div_iff_mul_le hsize
    have hlt : (n - 1) / size < k + 1 ↔ n - 1 < (k + 1) * size := Nat.div_lt_iff_lt_mul hsize
    rw [Nat.succ_mul] at hlt
    rw [Session.pageWindow_ofNat k hsize]
    constructor
    · rintro ⟨w, hw, hfirst, hnext⟩
      cases hw
      simp only [Window.first, Window.next] at hfirst hnext
      omega
    · intro hk
      refine ⟨_, rfl, ?_⟩
      simp only [Window.first, Window.next]
      omega
  exact ⟨(n - 1) / size, (hlies _).2 rfl, fun k hk => ((hlies k).1 hk).symm⟩

end Reading

/-! ## Pages -/

namespace Session

open SessionM

theorem perform_page_of_closed {s : Session} {epoch : Nat} (hat : s.isAt epoch = false)
    (f : Reading.Filter) (index size : Int) :
    (s.perform (page epoch f index size)).1 = .error .databaseClosed := by
  rw [page, perform_bind_of_error (perform_transact_of_closed hat _)]

/-- Two sessions on one ledger, whatever it holds, that declare dialects of which the embedded
database understands the page queries: every page is the same in both.  The queries of both choose
the rows of the page's window, and for a given size each row number lies in the window of exactly
one page. -/
theorem page_eq_of_dialects {s t : Session} (hs : s.handle.dialect ∈ Dialect.embedded)
    (ht : t.handle.dialect ∈ Dialect.embedded) (hledger : t.ledger = s.ledger)
    (hopen : t.isAt t.epoch = s.isAt s.epoch)
    (htables : t.handle.tablePrefix = s.handle.tablePrefix)
    (f : Reading.Filter) {index size : Int} (hindex : 0 ≤ index) (hsize : 1 ≤ size)
    (hroom : (index + 1) * size + 1 ≤ Signed64.greatest) :
    (t.perform (Call.page f index size).run).1 = (s.perform (Call.page f index size).run).1 ∧
      (∃ w c c', Reading.pageWindow index size = .ok w ∧
        (∀ q, s.handle.dialect.pageForm.pageSql q w = layoutSql q (RowChoice.layout c)) ∧
        (∀ q, t.handle.dialect.pageForm.pageSql q w = layoutSql q (RowChoice.layout c')) ∧
        ∀ rows, c.select rows = w.slice (newestFirst rows) ∧
          c'.select rows = w.slice (newestFirst rows)) ∧
      ∀ n : Nat, 1 ≤ n → ∃! k : Nat, ∃ w,
        Reading.pageWindow k size = .ok w ∧ w.first ≤ n ∧ n < w.next := by
  obtain ⟨k, rfl⟩ := Int.eq_ofNat_of_zero_le hindex
  obtain ⟨m, rfl⟩ := Int.eq_ofNat_of_zero_le (Int.le_trans (by decide) hsize)
  have hm : 0 < m := by omega
  have hcheck : Reading.checkPage k m = .ok () := by
    rw [Reading.checkPage, if_neg (by omega), if_neg (by omega)]
  have hw := pageWindow_ofNat k hm
  -- from here on the window may be any one whose rows a column can number
  generalize hwindow : (⟨k * m, m, hm⟩ : Window) = w at hw
  have hnext : (w.next : Int) ≤ Signed64.greatest := by
    rw [← hwindow]
    simp only [Window.next]
    push_cast
    rw [Int.add_mul] at hroom
    omega
  obtain ⟨c, hc⟩ := Dialect.exists_choice hs w
  obtain ⟨c', hc'⟩ := Dialect.exists_choice ht w
  refine ⟨?_, ⟨w, c, c', hw, fun q => ?_, fun q => ?_, fun rows =>
    ⟨RowChoice.select_eq hc rows, RowChoice.select_eq hc' rows⟩⟩,
    fun n hn => Reading.existsUnique_page hm hn⟩
  · have hpage : (t.perform (page t.epoch f k m)).1 = (s.perform (page s.epoch f k m)).1 := by
      cases hat : s.isAt s.epoch with
      | false =>
        rw [perform_page_of_closed hat, perform_page_of_closed (hopen.trans hat)]
      | true =>
        rw [perform_page_of_window hat f hcheck hw,
          perform_page_of_window (hopen.trans hat) f hcheck hw, hledger, htables,
          Reading.window_eq hs ht hnext]
    rw [Call.run, perform_get_bind, perform_map_fst, perform_get_bind, perform_map_fst, hpage]
  · rw [PageForm.pageSql, PageForm.layout_eq hc]
  · rw [PageForm.pageSql, PageForm.layout_eq hc']

/-- The second page of three executions, limited by the one query and numbered by the other. -/
theorem page_eq_of_dialects_numbered :
    let create := (Call.create (some "t") none none).run
    let s := (((((Session.inMemory [] (.parts false false false)).perform create).2.perform
      create).2).perform create).2
    let t := { s with handle := { s.handle with dialect := .sqlserver } }
    s.handle.dialect.pageForm = .sqlite ∧ t.handle.dialect.pageForm = .sqlserver ∧
      (t.perform (Call.page .all 1 2).run).1 = (s.perform (Call.page .all 1 2).run).1 := by
  intro create s t
  have hs : s.handle.dialect = .sqlite := by decide +kernel
  clear_value s
  have hsqlite : s.handle.dialect ∈ Dialect.embedded := hs ▸ by decide
  have hsqlserver : Dialect.sqlserver ∈ Dialect.embedded := by decide
  refine ⟨hs ▸ rfl, rfl, ?_⟩
  exact (page_eq_of_dialects (t := t) hsqlite hsqlserver rfl rfl rfl .all (by decide)
    (by decide) (by decide)).1

end Session

end RunLedger
