import RunLedger.Proofs.Paging.Order
import RunLedger.Proofs.Paging.Page
import RunLedger.Proofs.Paging.Pager
import RunLedger.Proofs.Pointwise
import RunLedger.Proofs.Session.Effect
import RunLedger.Session.Operations

/-!
# Selecting a page

What a filter keeps of a ledger, newest first, is its listing; a page selects a window of it and
loads the rows.  The embedded database can do so for every window that fits its numbers and of which
the rows are not too many for one statement, where the table's prefix can be written without quotes.

    loads (listing f l) as es → reading page k of the given size answers
      ofList es k size                                                       (perform_page)
    or fails for its many items                                      (perform_page_of_many)
-/

namespace RunLedger

open Transaction

namespace Reading

variable {l : Ledger} {f : Filter} {tablePrefix : String} {w : Window}

/-- The rows that a filter keeps, newest first. -/
def listing (f : Filter) (l : Ledger) : List ExecutionRow :=
  newestFirst (l.executionRows.filter f.keeps)

theorem mem_listing {r : ExecutionRow} :
    r ∈ listing f l ↔ r ∈ l.executionRows ∧ f.keeps r = true := by
  rw [listing, (perm_newestFirst _).mem_iff, List.mem_filter]

theorem length_listing : (listing f l).length = (l.executionRows.filter f.keeps).length :=
  (perm_newestFirst _).length_eq

theorem Filter.columns_subset (f : Filter) : f.columns ⊆ TableRole.executions.columns := by
  cases f <;> simp [Filter.columns, TableRole.columns]

theorem exec_selectExecutions (hm : l.IsMade) {columns : List String}
    (hc : columns ⊆ TableRole.executions.columns) (keep : ExecutionRow → Bool) :
    exec (selectExecutions columns keep) l = (.ok (l.executionRows.filter keep), l) := by
  obtain ⟨t, ht, own⟩ := hm.executions
  rw [selectExecutions, exec_get_bind, ht, own.require hc, exec_bind_of_ok (exec_pure t l),
    rows_of_executions ht]
  rfl

theorem commit_count (hm : l.IsMade) (f : Filter) :
    (count f).commit l = (.ok ((listing f l).length : Int), l) := by
  rw [commit_eq_ok_iff, count, exec_bind_of_ok (exec_selectExecutions hm f.columns_subset f.keeps),
    length_listing]
  rfl

/-! ## Prefixes -/

/-- A text that names a parameter has a colon in it. -/
theorem mem_of_namesParameter {free : Bool} {cs : List Char}
    (h : namesParameter free cs = true) : ':' ∈ cs := by
  induction cs generalizing free with
  | nil => cases h
  | cons c rest ih =>
    rw [namesParameter, Bool.or_eq_true] at h
    rcases h with h | h
    · simp only [Bool.and_eq_true, decide_eq_true_eq] at h
      rw [h.1.1.1]
      exact List.mem_cons_self
    · exact List.mem_cons_of_mem c (ih h)

theorem not_mem_of_isPlainPrefix (h : isPlainPrefix tablePrefix = true) :
    ':' ∉ tablePrefix.toList := by
  unfold isPlainPrefix at h
  split at h
  · next hnil =>
    rw [hnil]
    exact List.not_mem_nil
  · next c cs hcons =>
    rw [hcons, List.mem_cons]
    obtain ⟨hc, hcs⟩ := Bool.and_eq_true_iff.1 h
    rintro (rfl | hmem)
    · revert hc
      decide
    · exact absurd (List.all_eq_true.1 hcs ':' hmem) (by decide)

theorem namesParameter_of_isPlainPrefix (h : isPlainPrefix tablePrefix = true) :
    namesParameter true (TableRole.executions.tableName tablePrefix).toList = false := by
  rw [Bool.eq_false_iff]
  intro hnames
  have hmem := mem_of_namesParameter hnames
  rw [TableRole.tableName, String.toList_append, List.mem_append] at hmem
  rcases hmem with hmem | hmem
  · exact not_mem_of_isPlainPrefix h hmem
  · revert hmem
    decide

/-! ## Windows -/

/-- A window comes to loading its rows. -/
theorem exec_window (hm : l.IsMade) (hplain : isPlainPrefix tablePrefix = true) (f : Filter)
    (hoffset : Signed64.holds w.offset = true) (hlimit : Signed64.holds w.limit = true) :
    exec (window .sqlite tablePrefix f w) l =
      exec (loadExecutions (w.slice (listing f l))) l := by
  have hselect : selectWindow .sqlite w (listing f l) = .ok (w.slice (listing f l)) :=
    if_pos (by rw [hoffset, hlimit]; rfl)
  have hrows : exec (selectExecutions executionColumns f.keeps) l =
      (.ok (l.executionRows.filter f.keeps), l) :=
    exec_selectExecutions hm (List.Subset.refl _) f.keeps
  unfold window
  rw [if_neg (by rw [namesParameter_of_isPlainPrefix hplain]; decide)]
  dsimp only
  rw [if_neg (by rw [hplain]; decide), exec_bind_of_ok hrows]
  rw [listing] at hselect
  rw [hselect, exec_bind_of_ok (exec_liftM _ l), listing]

end Reading

namespace Session

open SessionM

variable {s : Session} {f : Reading.Filter} {epoch : Nat}

theorem perform_announcePager (s : Session) (f : Reading.Filter) :
    ∃ t, s.perform (announcePager f) = (.ok (), t) := by
  obtain ⟨p, hp⟩ := Reading.exists_pager s.handle.dialect f
  unfold announcePager
  rw [perform_get_bind]
  split
  · rw [hp]
    exact ⟨_, rfl⟩
  · exact ⟨s, rfl⟩

/-- The session after a transaction that only reads. -/
theorem perform_transact_reading {α : Type} {t : Transaction α} {a : α}
    (hat : s.isAt epoch = true) (h : t.commit s.ledger = (.ok a, s.ledger)) :
    ∃ u, s.perform (transact epoch t) = (.ok a, u) ∧ Framed s u ∧ u.ledger = s.ledger := by
  refine ⟨s.setLedger s.ledger, ?_, Framed.setLedger s s.ledger, ledger_setLedger s s.ledger⟩
  rw [perform_transact hat, h]

theorem pageWindow_ofNat (k : Nat) {size : Nat} (hsize : 0 < size) :
    Reading.pageWindow k size = .ok ⟨k * size, size, hsize⟩ := by
  have hpos : ¬ ((size : Int) ≤ 0) := by omega
  have hoffset : ¬ ((k : Int) * size < 0) := by
    norm_cast
    omega
  rw [Reading.pageWindow, Window.of?, if_neg hoffset, dif_neg hpos]
  simp only [Except.mapError, ← Int.natCast_mul, Int.toNat_natCast]

/-- Reading a page comes to selecting its window, once the count is taken. -/
theorem perform_page_of_window (hat : s.isAt epoch = true) (f : Reading.Filter) {index size : Int}
    {w : Window} (hcheck : Reading.checkPage index size = .ok ())
    (hw : Reading.pageWindow index size = .ok w) :
    (s.perform (page epoch f index size)).1 =
      ((Reading.count f).commit s.ledger).1.bind fun total =>
        ((Reading.window s.handle.dialect.pageForm s.handle.tablePrefix f w).commit s.ledger).1.map
          fun items => ⟨items, total, index, size⟩ := by
  have hread := (Reading.count_isReading f).commit s.ledger
  rcases hc : (Reading.count f).commit s.ledger with ⟨g | total, l⟩
  · have hcount : s.perform (transact epoch (Reading.count f)) = (.error g, s.setLedger l) := by
      rw [perform_transact hat, hc]
    rw [page, perform_bind_of_error hcount]
    rfl
  · rw [hc] at hread
    obtain rfl : l = s.ledger := hread
    -- neither the count nor the event about the pager changes what the window is taken from
    obtain ⟨t, hcount, hframed, hledger⟩ := perform_transact_reading hat hc
    obtain ⟨u, hpager⟩ := perform_announcePager t f
    obtain ⟨hframed', hledger'⟩ := announcePager_isReading f t
    rw [hpager] at hframed' hledger'
    have hu := hframed.trans hframed'
    have hatu : u.isAt epoch = true := by rw [hu.isAt, hat]
    have hsame : u.ledger = s.ledger := hledger'.trans hledger
    rw [page, perform_bind_of_ok hcount, hcheck, perform_bind_of_ok (perform_liftM _ t),
      perform_bind_of_ok hpager, hw, perform_bind_of_ok (perform_liftM _ u), perform_get_bind,
      perform_bind, perform_transact hatu, hu.handle, hsame]
    rcases (Reading.window s.handle.dialect.pageForm s.handle.tablePrefix f w).commit s.ledger with
      ⟨g | items, m⟩ <;> rfl

theorem perform_page_eq (hm : s.ledger.IsMade) (hat : s.isAt epoch = true) (f : Reading.Filter)
    (k : Nat) {size : Nat} (hsize : 0 < size) :
    (s.perform (page epoch f k size)).1 =
      ((Reading.window s.handle.dialect.pageForm s.handle.tablePrefix f
        ⟨k * size, size, hsize⟩).commit s.ledger).1.map
          fun items => ⟨items, (Reading.listing f s.ledger).length, k, size⟩ := by
  have hcheck : Reading.checkPage k size = .ok () := by
    rw [Reading.checkPage, if_neg (by omega), if_neg (by omega)]
  rw [perform_page_of_window hat f hcheck (pageWindow_ofNat k hsize), Reading.commit_count hm]
  rfl

section
variable {es : List Execution} {k size : Nat}

/-- Reading a page comes to loading the rows of its window. -/
theorem perform_page_of_plain (hm : s.ledger.IsMade) (hat : s.isAt epoch = true)
    (hd : s.handle.dialect = .sqlite) (hplain : Reading.isPlainPrefix s.handle.tablePrefix = true)
    (f : Reading.Filter) (hsize : 0 < size) (hroom : (size : Int) ≤ Signed64.greatest)
    (hoffset : (k * size : Int) ≤ Signed64.greatest) :
    (s.perform (page epoch f k size)).1 =
      (exec (loadExecutions (((Reading.listing f s.ledger).drop (k * size)).take size))
        s.ledger).1.map fun items => ⟨items, (Reading.listing f s.ledger).length, k, size⟩ := by
  have hform : s.handle.dialect.pageForm = .sqlite := by
    rw [hd]
    rfl
  rw [perform_page_eq hm hat f k hsize, hform, commit_fst, Reading.exec_window hm hplain f]
  · rfl
  · exact Signed64.holds_natCast (by exact_mod_cast hoffset)
  · exact Signed64.holds_natCast hroom

/-- Reading a page of a ledger of which the listing makes up executions. -/
theorem perform_page (hm : s.ledger.IsMade) (hat : s.isAt epoch = true)
    (hd : s.handle.dialect = .sqlite) (hplain : Reading.isPlainPrefix s.handle.tablePrefix = true)
    (hes : List.Forall₂ (fun r e => s.ledger.load r = .ok e) (Reading.listing f s.ledger) es)
    (hsize : 0 < size) (hroom : (size : Int) ≤ Signed64.greatest)
    (hoffset : (k * size : Int) ≤ Signed64.greatest)
    (hfit : (Page.ofList es k size).items.length ≤ variableLimit) :
    (s.perform (page epoch f k size)).1 = .ok (Page.ofList es k size) := by
  have hitems := List.forall₂_take size (List.forall₂_drop (k * size) hes)
  rw [Page.ofList, ← hitems.length_eq] at hfit
  rw [perform_page_of_plain hm hat hd hplain f hsize hroom hoffset, exec_loadExecutions hm hfit,
    mapM_eq_ok_iff.2 hitems, hes.length_eq]
  rfl

/-- A page of more items than the database takes variables in one statement cannot be read. -/
theorem perform_page_of_many (hm : s.ledger.IsMade) (hat : s.isAt epoch = true)
    (hd : s.handle.dialect = .sqlite) (hplain : Reading.isPlainPrefix s.handle.tablePrefix = true)
    (hes : List.Forall₂ (fun r e => s.ledger.load r = .ok e) (Reading.listing f s.ledger) es)
    (hsize : 0 < size) (hroom : (size : Int) ≤ Signed64.greatest)
    (hoffset : (k * size : Int) ≤ Signed64.greatest)
    (hmany : variableLimit < (Page.ofList es k size).items.length) :
    (s.perform (page epoch f k size)).1 = .error .tooManyVariables := by
  rw [Page.ofList, ← (List.forall₂_take size (List.forall₂_drop (k * size) hes)).length_eq] at hmany
  rw [perform_page_of_plain hm hat hd hplain f hsize hroom hoffset,
    exec_loadExecutions_of_lt hmany]
  rfl

end

/-- The call for a page answers what reading the page gives. -/
theorem perform_page_run {f : Reading.Filter} {index size : Int} {p : Page Execution} :
    (s.perform (Call.page f index size).run).1 = .ok (.page p) ↔
      (s.perform (page s.epoch f index size)).1 = .ok p := by
  rw [Call.run, perform_get_bind, perform_map_fst]
  cases (s.perform (page s.epoch f index size)).1 <;> simp [Except.map]

/-- Where the prefix needs quotes no page can be read. -/
theorem perform_page_of_quoted (hm : s.ledger.IsMade) (hat : s.isAt epoch = true)
    (hquoted : Reading.isPlainPrefix s.handle.tablePrefix = false) (f : Reading.Filter) (k : Nat)
    {size : Nat} (hsize : 0 < size) :
    (s.perform (page epoch f k size)).1 = .error .statementUnbuilt ∨
      (s.perform (page epoch f k size)).1 = .error .statementRefused := by
  rw [perform_page_eq hm hat f k hsize, commit_fst]
  unfold Reading.window
  by_cases hnames : Reading.namesParameter true
      (TableRole.executions.tableName s.handle.tablePrefix).toList = true
  · rw [if_pos hnames]
    exact .inl rfl
  · rw [if_neg hnames]
    dsimp only
    rw [if_pos (by rw [hquoted]; rfl)]
    exact .inr rfl

end Session

end RunLedger
