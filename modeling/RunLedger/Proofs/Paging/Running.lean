import RunLedger.Proofs.Paging.Listing
import RunLedger.Proofs.Session.Readable

/-!
# What is found running

What is found or listed as running is made by rows that have no end, and such rows alone are
counted.  An execution of which the row has an end is in none of these answers.

    w.ledger.rowsOf id = [row] → row has an end → w overlooks id               (overlooks_of_ended)
-/

namespace RunLedger

namespace Ledger

/-- The rows that do not bear a number. -/
def rowsBut (id : Int) (l : Ledger) : List ExecutionRow :=
  l.executionRows.filter fun r => r.id ≠ some id

variable {l : Ledger} {id : Int} {row : ExecutionRow}

theorem id_ne_of_isRunning (hrow : l.rowsOf id = [row]) (hend : row.endTime.isSome = true)
    {r : ExecutionRow} (hr : r ∈ l.executionRows) (hrunning : r.isRunning = true) :
    r.id ≠ some id := by
  intro hid
  have hmem : r ∈ l.rowsOf id := List.mem_filter.2 ⟨hr, by simpa using hid⟩
  rw [hrow, List.mem_singleton] at hmem
  rw [ExecutionRow.isRunning, hmem, Option.isNone_iff_eq_none] at hrunning
  rw [hrunning] at hend
  cases hend

theorem filter_eq_filter_rowsBut (hrow : l.rowsOf id = [row]) (hend : row.endTime.isSome = true)
    {keep : ExecutionRow → Bool} (hkeep : ∀ r, keep r = true → r.isRunning = true) :
    l.executionRows.filter keep = (l.rowsBut id).filter keep := by
  rw [rowsBut, List.filter_filter]
  refine List.filter_congr fun r hr => ?_
  cases h : keep r with
  | false => rfl
  | true => simpa using id_ne_of_isRunning hrow hend hr (hkeep r h)

end Ledger

namespace Reading

open Transaction

variable {l m : Ledger} {e : Execution} {es : List Execution}

theorem exists_row_of_loadExecutions (hm : l.IsMade) {rows : List ExecutionRow}
    (h : exec (loadExecutions rows) l = (.ok es, m)) (he : e ∈ es) :
    ∃ r ∈ rows, l.load r = .ok e := by
  rw [exec_loadExecutions hm (length_le_of_loadExecutions h)] at h
  have hload : rows.mapM l.load = .ok es := congrArg Prod.fst h
  exact exists_mem_left (mapM_eq_ok_iff.1 hload) he

theorem mem_of_orderedById {found : List Execution} (h : orderedById found = .ok es) (he : e ∈ es) :
    e ∈ found := by
  unfold orderedById at h
  split at h
  · cases h
  · cases h
    exact List.mem_mergeSort.1 he

theorem exists_row_of_running (hm : l.IsMade) {taskName : String}
    (h : exec (running taskName) l = (.ok es, m)) (he : e ∈ es) :
    ∃ r ∈ l.executionRows, r.isRunning = true ∧ l.load r = .ok e := by
  have hselect := exec_selectExecutions hm (List.Subset.refl executionColumns)
    fun r => r.isNamed taskName && r.isRunning
  rw [running, exec_bind_of_ok hselect] at h
  obtain ⟨found, l₁, hfound, hordered⟩ := exec_bind_ok_iff.1 h
  have hmem := mem_of_orderedById (liftM_ok hordered).1 he
  obtain ⟨r, hr, hload⟩ := exists_row_of_loadExecutions hm hfound (List.mem_eraseDups.1 hmem)
  obtain ⟨hrow, hkeep⟩ := List.mem_filter.1 hr
  exact ⟨r, hrow, (Bool.and_eq_true_iff.1 hkeep).2, hload⟩

theorem exists_row_of_window (hm : l.IsMade) {form : PageForm} {tablePrefix : String} {f : Filter}
    {w : Window} (h : exec (window form tablePrefix f w) l = (.ok es, m)) (he : e ∈ es) :
    ∃ r ∈ l.executionRows, f.keeps r = true ∧ l.load r = .ok e := by
  unfold window at h
  -- a statement that cannot be built, or needs quotes, gives no executions at all
  by_cases hnames : namesParameter true (TableRole.executions.tableName tablePrefix).toList = true
  · rw [if_pos hnames] at h
    have herror : Except.error Failure.statementUnbuilt = Except.ok es := congrArg Prod.fst h
    cases herror
  rw [if_neg hnames] at h
  dsimp only at h
  by_cases hplain : (!isPlainPrefix tablePrefix) = true
  · rw [if_pos hplain] at h
    have herror : Except.error Failure.statementRefused = Except.ok es := congrArg Prod.fst h
    cases herror
  have hrows := exec_selectExecutions hm (List.Subset.refl executionColumns) f.keeps
  rw [if_neg hplain, exec_bind_of_ok hrows] at h
  obtain ⟨found, l₁, hfound, hloaded⟩ := exec_bind_ok_iff.1 h
  obtain ⟨hselect, rfl⟩ := liftM_ok hfound
  obtain ⟨r, hr, hload⟩ := exists_row_of_loadExecutions hm hloaded he
  rcases selectWindow_cases form w (newestFirst (l₁.executionRows.filter f.keeps)) with
    hw | hw | hw
  all_goals
    rw [hw] at hselect
    cases hselect
  have hmem := (perm_newestFirst _).mem_iff.1 (slice_subset w _ hr)
  obtain ⟨hrow, hkeep⟩ := List.mem_filter.1 hmem
  exact ⟨r, hrow, hkeep, hload⟩

theorem commit_countRunning (hm : l.IsMade) :
    countRunning.commit l = (.ok ((l.executionRows.filter (·.isRunning)).length : Int), l) := by
  have hcolumns : ["end_time"] ⊆ TableRole.executions.columns := by simp [TableRole.columns]
  rw [commit_eq_ok_iff, countRunning, exec_bind_of_ok (exec_selectExecutions hm hcolumns _)]
  rfl

end Reading

/-! ## What a session answers -/

namespace Session

open SessionM Transaction

variable {s t : Session} {epoch : Nat} {f : Reading.Filter}

theorem isAt_of_page {index size : Int} {p : Page Execution}
    (h : s.perform (page epoch f index size) = (.ok p, t)) : s.isAt epoch = true := by
  obtain ⟨total, u, hcount, -⟩ := perform_bind_ok_iff.1 h
  exact (perform_transact_ok hcount).1

theorem checkPage_of_page {index size : Int} {p : Page Execution}
    (h : s.perform (page epoch f index size) = (.ok p, t)) :
    Reading.checkPage index size = .ok () := by
  obtain ⟨total, u, -, h⟩ := perform_bind_ok_iff.1 h
  obtain ⟨v, w, hcheck, -⟩ := perform_bind_ok_iff.1 h
  rw [perform_liftM] at hcheck
  exact (Prod.mk.inj hcheck).1

theorem exists_of_checkPage {index size : Int} (h : Reading.checkPage index size = .ok ()) :
    ∃ k n : Nat, index = k ∧ size = n ∧ 0 < n := by
  rw [Reading.checkPage] at h
  split at h
  · cases h
  · split at h
    · cases h
    · exact ⟨index.toNat, size.toNat, by omega, by omega, by omega⟩

/-- What is on a page is made by rows that the filter keeps, and all of these are counted. -/
theorem page_ok (hm : s.ledger.IsMade) {index size : Int} {p : Page Execution}
    (h : s.perform (page epoch f index size) = (.ok p, t)) :
    p.total = (s.ledger.executionRows.filter f.keeps).length ∧
      ∀ e ∈ p.items, ∃ r ∈ s.ledger.executionRows, f.keeps r = true ∧ s.ledger.load r = .ok e := by
  obtain ⟨k, n, rfl, rfl, hn⟩ := exists_of_checkPage (checkPage_of_page h)
  have hpage := perform_page_eq hm (isAt_of_page h) f k hn
  rw [h, commit_fst] at hpage
  rcases hw : exec (Reading.window s.handle.dialect.pageForm s.handle.tablePrefix f
    ⟨k * n, n, hn⟩) s.ledger with ⟨g | items, l⟩
  · rw [hw] at hpage
    cases hpage
  · rw [hw] at hpage
    cases hpage
    exact ⟨by rw [Reading.length_listing], fun e => Reading.exists_row_of_window hm hw⟩

/-- An execution is not among what is found, listed or counted as running. -/
structure Overlooks (id : Int) (s : Session) : Prop where
  found : ∀ taskName es, (s.perform (Call.running taskName).run).1 = .ok (.executions es) →
    ∀ e ∈ es, e.id ≠ some id
  listed : ∀ taskName index size p,
    (s.perform (Call.page (.runningNamed taskName) index size).run).1 = .ok (.page p) →
      p.total = ((s.ledger.rowsBut id).filter fun r => r.isNamed taskName && r.isRunning).length ∧
        ∀ e ∈ p.items, e.id ≠ some id
  counted : ∀ taskName, (s.perform (Call.count (.runningNamed taskName)).run).1 =
    .ok (.number (some
      ((s.ledger.rowsBut id).filter fun r => r.isNamed taskName && r.isRunning).length))
  countedOfAll : (s.perform Call.countRunning.run).1 =
    .ok (.number (some ((s.ledger.rowsBut id).filter (·.isRunning)).length))

/-- An execution that has ended is overlooked. -/
theorem overlooks_of_ended (hat : s.isAt s.epoch = true) (hm : s.ledger.IsMade) {id : Int}
    {row : ExecutionRow} (hrow : s.ledger.rowsOf id = [row]) (hend : row.endTime.isSome = true) :
    Overlooks id s := by
  have hnamed : ∀ taskName, ∀ r : ExecutionRow,
      (r.isNamed taskName && r.isRunning) = true → r.isRunning = true :=
    fun _ _ h => (Bool.and_eq_true_iff.1 h).2
  constructor
  case found =>
    intro taskName es h e he
    rw [Call.run, perform_get_bind, perform_bind, perform_transact hat, commit_fst] at h
    rcases hw : exec (Reading.running taskName) s.ledger with ⟨g | found, l⟩
    · rw [hw] at h
      cases h
    · rw [hw] at h
      cases h
      obtain ⟨r, hr, hrunning, hload⟩ := Reading.exists_row_of_running hm hw he
      rw [(Ledger.shows_of_load hload).id]
      exact Ledger.id_ne_of_isRunning hrow hend hr hrunning
  case listed =>
    intro taskName index size p h
    obtain ⟨htotal, hitems⟩ := page_ok hm (Prod.ext (perform_page_run.1 h) rfl)
    refine ⟨?_, fun e he => ?_⟩
    · rw [htotal, ← Ledger.filter_eq_filter_rowsBut hrow hend (hnamed taskName)]
      rfl
    · obtain ⟨r, hr, hkeep, hload⟩ := hitems e he
      rw [(Ledger.shows_of_load hload).id]
      exact Ledger.id_ne_of_isRunning hrow hend hr (hnamed taskName r hkeep)
  case counted =>
    intro taskName
    rw [Call.run, perform_get_bind, perform_bind, perform_transact hat, Reading.commit_count hm,
      Reading.length_listing, ← Ledger.filter_eq_filter_rowsBut hrow hend (hnamed taskName)]
    rfl
  case countedOfAll =>
    rw [Call.run, perform_get_bind, perform_bind, perform_transact hat,
      Reading.commit_countRunning hm, ← Ledger.filter_eq_filter_rowsBut hrow hend fun _ h => h]
    rfl

end Session

end RunLedger
