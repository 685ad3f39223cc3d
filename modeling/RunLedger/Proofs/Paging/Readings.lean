import Mathlib.Data.List.Dedup
import Mathlib.Algebra.BigOperators.Group.List.Lemmas
import Mathlib.Algebra.GroupWithZero.Nat
import RunLedger.Proofs.Paging.Running
import RunLedger.Proofs.Sorted

/-!
# Readings that tell of the same executions

Look-ups, counts, names and pages are each a query of their own.  On a ledger that is numbered in
turn all of them tell of one list of executions, those that its rows make.

    l.IsNumbered → rows ⊆ l.executionRows → rows.mapM l.load = .ok (l.loaded rows)   (mapM_load)
    (latestRows l names).length = (startedNames (l.loaded l.executionRows) names).length
                                                                             (length_latestRows)
    s.ledger.IsNumbered → s.TellsOf (s.ledger.loaded s.ledger.executionRows)           (tellsOf)
-/

namespace RunLedger

/-! ## Executions that rows make -/

namespace Ledger

variable {l : Ledger} {rows : List ExecutionRow} {e : Execution}

/-- The executions that rows make; a row that makes none is left out. -/
def loaded (l : Ledger) (rows : List ExecutionRow) : List Execution :=
  rows.filterMap fun r => (l.load r).toOption

theorem toOption_eq_some_iff {α : Type} {x : Except Failure α} {a : α} :
    x.toOption = some a ↔ x = .ok a := by
  cases x <;> simp [Except.toOption]

theorem mem_loaded : e ∈ l.loaded rows ↔ ∃ r ∈ rows, l.load r = .ok e := by
  simp only [loaded, List.mem_filterMap, toOption_eq_some_iff]

theorem loaded_subset {more : List ExecutionRow} (h : rows ⊆ more) :
    l.loaded rows ⊆ l.loaded more := List.filterMap_subset _ h

/-- What holds of executions just where it holds of their rows can be asked of either. -/
theorem filter_loaded {p : Execution → Bool} {q : ExecutionRow → Bool}
    (h : ∀ r e, l.load r = .ok e → p e = q r) (rows : List ExecutionRow) :
    (l.loaded rows).filter p = l.loaded (rows.filter q) := by
  rw [loaded, loaded, List.filter_filterMap, List.filterMap_filter]
  refine List.filterMap_congr fun r _ => ?_
  cases hload : l.load r with
  | error f => simp [Except.toOption]
  | ok e => simp [Except.toOption, Option.filter, h r e hload]

theorem isStarted_of_load {r : ExecutionRow} (h : l.load r = .ok e) :
    e.isStarted = r.startTime.isSome := by
  unfold load ExecutionRow.toExecution ExecutionFields.toExecution at h
  split at h
  · cases h
    exact Option.isSome_map
  · cases h

theorem loaded_eq {es : List Execution} (h : rows.mapM l.load = .ok es) : l.loaded rows = es := by
  have hall := mapM_eq_ok_iff.1 h
  clear h
  induction hall with
  | nil => rfl
  | @cons r e rows es hload _ ih =>
    rw [loaded, List.filterMap_cons, hload]
    exact congrArg (e :: ·) ih

namespace IsNumbered

theorem mapM_load (h : l.IsNumbered) (hrows : rows ⊆ l.executionRows) :
    rows.mapM l.load = .ok (l.loaded rows) := by
  obtain ⟨es, hes⟩ := Transaction.mapM_load_ok h hrows
  rw [loaded_eq hes, hes]

theorem length_loaded (h : l.IsNumbered) (hrows : rows ⊆ l.executionRows) :
    (l.loaded rows).length = rows.length :=
  (mapM_eq_ok_iff.1 (h.mapM_load hrows)).length_eq.symm

/-- How many of the executions something holds of, counted by rows. -/
theorem length_filter_loaded (h : l.IsNumbered) {p : Execution → Bool} {q : ExecutionRow → Bool}
    (hpq : ∀ r e, l.load r = .ok e → p e = q r) :
    ((l.loaded l.executionRows).filter p).length = (l.executionRows.filter q).length := by
  rw [filter_loaded hpq, h.length_loaded (List.filter_subset_self _)]

/-- Whether something holds of one of the executions, asked of rows. -/
theorem any_loaded (h : l.IsNumbered) {p : Execution → Bool} {q : ExecutionRow → Bool}
    (hpq : ∀ r e, l.load r = .ok e → p e = q r) :
    (l.loaded l.executionRows).any p = l.executionRows.any q := by
  rw [Bool.eq_iff_iff, List.any_eq_true, List.any_eq_true]
  constructor
  · rintro ⟨e, he, hp⟩
    obtain ⟨r, hr, hload⟩ := mem_loaded.1 he
    exact ⟨r, hr, (hpq r e hload).symm.trans hp⟩
  · rintro ⟨r, hr, hq⟩
    obtain ⟨e, hload⟩ := l.load_ok (h.ended r hr)
    exact ⟨e, mem_loaded.2 ⟨r, hr, hload⟩, (hpq r e hload).trans hq⟩

theorem isSome_id (h : l.IsNumbered) {r : ExecutionRow} (hr : r ∈ l.executionRows) :
    r.id.isSome = true := by
  obtain ⟨i, hi, -⟩ := h.exists_id hr
  rw [hi]
  rfl

theorem pairwise_loaded (h : l.IsNumbered) :
    (l.loaded l.executionRows).Pairwise fun d e => d.id ≠ e.id := by
  refine List.pairwise_filterMap.2 (h.pairwise_id_ne.imp fun hne d hd e he => ?_)
  rw [(shows_of_load (toOption_eq_some_iff.1 hd)).id,
    (shows_of_load (toOption_eq_some_iff.1 he)).id]
  exact hne

end IsNumbered

end Ledger

/-- The names, each once, under which one of the executions was started. -/
def Execution.startedNames (es : List Execution) (names : List String) : List String :=
  names.eraseDups.filter fun name => es.any fun e => e.taskName == some name && e.isStarted

theorem Execution.length_startedNames_le (es : List Execution) (names : List String) :
    (startedNames es names).length ≤ names.eraseDups.length :=
  List.length_filter_le _ _

/-! ## Look-ups -/

namespace Reading

open Transaction

variable {l : Ledger}

theorem orderedById_eq {es : List Execution} (h : ∀ e ∈ es, e.id.isSome = true) :
    orderedById es = .ok (es.mergeSort fun a b => ExecutionRow.idAtMost a.id b.id) := by
  have hnone : (es.any fun e => e.id.isNone) = false := by
    rw [List.any_eq_false]
    intro e he
    rw [Option.isNone_eq_false_iff.2 (h e he)]
    decide
  rw [orderedById, hnone, Bool.and_false]
  rfl

theorem isSome_id_of_mem_loaded (h : l.IsNumbered) {e : Execution}
    (he : e ∈ l.loaded l.executionRows) : e.id.isSome = true := by
  obtain ⟨r, hr, hload⟩ := Ledger.mem_loaded.1 he
  rw [(Ledger.shows_of_load hload).id]
  exact h.isSome_id hr

/-- What is found running are the executions of the name that have not ended, each once, if they are
not too many for one statement. -/
theorem exists_commit_running (h : l.IsNumbered) {taskName : String}
    (hfit : ((l.loaded l.executionRows).filter (Filter.runningNamed taskName).matches).length ≤
      variableLimit) :
    ∃ es, (running taskName).commit l = (.ok es, l) ∧
      es.Perm ((l.loaded l.executionRows).filter (Filter.runningNamed taskName).matches) := by
  have hmatches : ∀ r e, l.load r = .ok e → (Filter.runningNamed taskName).matches e =
      (r.isNamed taskName && r.isRunning) := fun r e hload =>
    (Filter.runningNamed taskName).matches_of_shows (Ledger.shows_of_load hload)
  rw [Ledger.filter_loaded hmatches] at hfit ⊢
  generalize hrows : (l.executionRows.filter fun r => r.isNamed taskName && r.isRunning) = rows
    at hfit ⊢
  have hsubset : rows ⊆ l.executionRows := hrows ▸ List.filter_subset_self _
  rw [h.length_loaded hsubset] at hfit
  -- no two rows make the same execution, so that there are no repetitions to take out
  have hnodup : (l.loaded rows).Nodup := by
    rw [← hrows, ← Ledger.filter_loaded hmatches]
    exact (h.pairwise_loaded.imp fun hne he => hne (congrArg Execution.id he)).filter _
  have hids : ∀ e ∈ (l.loaded rows).eraseDups, e.id.isSome = true := fun e he =>
    isSome_id_of_mem_loaded h (Ledger.loaded_subset hsubset (List.mem_eraseDups.1 he))
  have hload : exec (loadExecutions rows) l = (.ok (l.loaded rows), l) := by
    rw [exec_loadExecutions h.isMade hfit, h.mapM_load hsubset]
  have hselect := exec_selectExecutions h.isMade (List.Subset.refl executionColumns)
    fun r => r.isNamed taskName && r.isRunning
  rw [hrows] at hselect
  refine ⟨(l.loaded rows).eraseDups.mergeSort fun a b => ExecutionRow.idAtMost a.id b.id,
    commit_eq_ok_iff.2 ?_, (List.mergeSort_perm _ _).trans (perm_eraseDups hnodup)⟩
  rw [running, exec_bind_of_ok hselect, exec_bind_of_ok hload, orderedById_eq hids, exec_liftM]

theorem unorderedPair?_eq_none {rows : List ExecutionRow} (h : ∀ r ∈ rows, r.id.isSome = true) :
    unorderedPair? rows = none := by
  induction rows with
  | nil => rfl
  | cons r rest ih =>
    obtain ⟨hr, hrest⟩ := List.forall_mem_cons.1 h
    have hother : (rest.find? fun q => q.startTime == r.startTime && q.id.isSome != r.id.isSome) =
        none := by
      rw [List.find?_eq_none]
      intro q hq
      simp [hr, hrest q hq]
    rw [unorderedPair?, hother, ih hrest]
    rfl

/-- The rows of what was started last under some names, newest first. -/
def latestRows (l : Ledger) (names : List String) : List ExecutionRow :=
  newestFirst (names.eraseDups.filterMap (latestRow? l.executionRows))

theorem mem_latestRows {names : List String} {r : ExecutionRow} :
    r ∈ latestRows l names ↔ ∃ name ∈ names, latestRow? l.executionRows name = some r := by
  rw [latestRows, (perm_newestFirst _).mem_iff, List.mem_filterMap]
  simp only [List.mem_eraseDups]

theorem latestRows_subset (l : Ledger) (names : List String) :
    latestRows l names ⊆ l.executionRows := by
  intro r hr
  obtain ⟨name, -, hlatest⟩ := mem_latestRows.1 hr
  exact latestRow?_mem hlatest

/-- A name has a row that was started last if a row of the name was started. -/
theorem isSome_latestRow? (rows : List ExecutionRow) (name : String) :
    (latestRow? rows name).isSome = rows.any fun r => r.isNamed name && r.startTime.isSome := by
  have hperm := perm_newestFirst (rows.filter fun r => r.isNamed name && r.startTime.isSome)
  rw [latestRow?, Bool.eq_iff_iff, List.isSome_head?, ← List.length_pos_iff, hperm.length_eq,
    List.length_filter_pos_iff, List.any_eq_true]

/-- As many rows were started last under some names as there are names of something started. -/
theorem length_latestRows (h : l.IsNumbered) (names : List String) :
    (latestRows l names).length =
      (Execution.startedNames (l.loaded l.executionRows) names).length := by
  have hstarted : ∀ name r e, l.load r = .ok e →
      (e.taskName == some name && e.isStarted) = (r.isNamed name && r.startTime.isSome) := by
    intro name r e hload
    rw [ExecutionRow.isNamed, (Ledger.shows_of_load hload).taskName, Ledger.isStarted_of_load hload]
  rw [latestRows, (perm_newestFirst _).length_eq, List.length_filterMap_eq_countP,
    List.countP_eq_length_filter, Execution.startedNames]
  refine congrArg List.length (List.filter_congr fun name _ => ?_)
  rw [isSome_latestRow?, h.any_loaded (hstarted name)]

/-- What was started last are the executions that these rows make, if they are not too many for one
statement. -/
theorem commit_latest (h : l.IsNumbered) {names : List String}
    (hfit : (latestRows l names).length ≤ variableLimit) :
    (latest names).commit l = (.ok (l.loaded (latestRows l names)), l) := by
  have hload := h.mapM_load (latestRows_subset l names)
  by_cases hnames : names.isEmpty = true
  · obtain rfl := List.isEmpty_iff.1 hnames
    have hnone : latestRows l [] = [] := by simp [latestRows, newestFirst]
    rw [hnone]
    rfl
  have hselect := exec_selectExecutions h.isMade (List.Subset.refl executionColumns)
    fun _ => true
  rw [List.filter_eq_self.2 fun _ _ => rfl] at hselect
  rw [latestRows] at hload hfit ⊢
  have hids : ∀ r ∈ names.eraseDups.filterMap (latestRow? l.executionRows), r.id.isSome = true := by
    intro r hr
    obtain ⟨name, -, hlatest⟩ := List.mem_filterMap.1 hr
    exact h.isSome_id (latestRow?_mem hlatest)
  rw [commit_eq_ok_iff, latest, if_neg hnames, exec_bind_of_ok hselect]
  dsimp only
  rw [unorderedPair?_eq_none hids]
  dsimp only
  rw [exec_loadExecutions h.isMade hfit, hload]

/-! ## Names -/

theorem commit_taskNames (hm : l.IsMade) :
    taskNames.commit l = (.ok
      ((l.executionRows.filterMap (·.taskName)).eraseDups.mergeSort fun a b => a ≤ b), l) := by
  have hcolumns : ["task_name"] ⊆ TableRole.executions.columns := by simp [TableRole.columns]
  have hselect := exec_selectExecutions hm hcolumns fun _ => true
  rw [commit_eq_ok_iff, taskNames, exec_bind_of_ok hselect, List.filter_eq_self.2 fun _ _ => rfl]
  rfl

/-- Every name of a list counted, and what has none: that is the whole list. -/
theorem length_eq_sum_named {names : List String} (es : List Execution) (hnodup : names.Nodup)
    (hnames : ∀ n, n ∈ names ↔ ∃ e ∈ es, e.taskName = some n) :
    es.length = (names.map fun n => (es.filter (Filter.named n).matches).length).sum +
      (es.filter fun e => e.taskName.isNone).length := by
  have hcount : ∀ n, (es.filter (Filter.named n).matches).length =
      (es.filterMap (·.taskName)).count n := by
    intro n
    rw [List.count_filterMap, List.countP_eq_length_filter]
    rfl
  have hperm : names.Perm (es.filterMap (·.taskName)).dedup := by
    refine (List.perm_ext_iff_of_nodup hnodup (List.nodup_dedup _)).2 fun n => ?_
    rw [hnames, List.mem_dedup, List.mem_filterMap]
  have hsum : (names.map fun n => (es.filter (Filter.named n).matches).length).sum =
      (es.filterMap (·.taskName)).length := by
    simp only [hcount]
    rw [(hperm.map _).sum_eq, List.sum_map_count_dedup_eq_length]
  have hnone : (es.filter fun e => e.taskName.isNone) =
      es.filter fun e => !e.taskName.isSome := List.filter_congr fun e _ => by simp
  rw [hsum, hnone, List.length_filterMap_eq_countP, List.countP_eq_length_filter]
  exact List.length_eq_length_filter_add _

theorem lt_of_sorted {a b : String} (h : decide (a ≤ b) = true ∧ a ≠ b) : a < b :=
  String.not_le.1 fun hba => h.2 (String.le_antisymm (of_decide_eq_true h.1) hba)

/-- The names of executions are in strict order, and are those that one of them bears. -/
theorem exists_commit_taskNames (h : l.IsNumbered) :
    ∃ names, taskNames.commit l = (.ok names, l) ∧ names.Pairwise (· < ·) ∧
      ∀ n, n ∈ names ↔ ∃ e ∈ l.loaded l.executionRows, e.taskName = some n := by
  refine ⟨_, commit_taskNames h.isMade, ?_, fun n => ?_⟩
  · refine (pairwise_mergeSort_eraseDups ?_ ?_ _).imp lt_of_sorted
    · intro a b c hab hbc
      exact decide_eq_true (String.le_trans (of_decide_eq_true hab) (of_decide_eq_true hbc))
    · intro a b
      simpa using String.le_total a b
  · rw [mem_mergeSort_eraseDups, List.mem_filterMap]
    constructor
    · rintro ⟨r, hr, hname⟩
      obtain ⟨e, hload⟩ := l.load_ok (h.ended r hr)
      exact ⟨e, Ledger.mem_loaded.2 ⟨r, hr, hload⟩, (Ledger.shows_of_load hload).taskName ▸ hname⟩
    · rintro ⟨e, he, hname⟩
      obtain ⟨r, hr, hload⟩ := Ledger.mem_loaded.1 he
      exact ⟨r, hr, (Ledger.shows_of_load hload).taskName ▸ hname⟩

end Reading

/-! ## What a session answers -/

namespace Session

open SessionM

variable {s : Session} {epoch : Nat}

/-- That all readings of a session tell of one list of executions.  Each of these is what looking up
its number finds, and they are counted, by filters and by names.  What is found running or started
last is among them; it is found if it is not too many for one statement.  So is what is on a page,
where the table's prefix can be written without quotes. -/
structure TellsOf (s : Session) (es : List Execution) : Prop where
  distinct : es.Pairwise fun d e => d.id ≠ e.id
  found : ∀ e ∈ es, ∃ id, e.id = some id ∧
    (s.perform (Call.find id).run).1 = .ok (.execution (some e))
  missing : ∀ id, Signed64.holds id = true → (∀ e ∈ es, e.id ≠ some id) →
    (s.perform (Call.find id).run).1 = .ok (.execution none)
  running : ∀ taskName, (es.filter fun e => e.taskName == some taskName && e.isRunning).length ≤
      Transaction.variableLimit →
      ∃ rs, (s.perform (Call.running taskName).run).1 = .ok (.executions rs) ∧
        rs.Perm (es.filter fun e => e.taskName == some taskName && e.isRunning)
  latest : ∀ names, (Execution.startedNames es names).length ≤ Transaction.variableLimit →
    ∃ rs, (s.perform (Call.latest names).run).1 = .ok (.executions rs) ∧ rs ⊆ es
  counted : ∀ f : Reading.Filter, (s.perform (Call.count f).run).1 =
    .ok (.number (some (es.filter f.matches).length))
  countedRunning : (s.perform Call.countRunning.run).1 =
    .ok (.number (some (es.filter (·.isRunning)).length))
  listed : Reading.isPlainPrefix s.handle.tablePrefix = true → ∀ f index size p,
    (s.perform (Call.page f index size).run).1 = .ok (.page p) →
      p.total = (es.filter f.matches).length ∧ p.items ⊆ es.filter f.matches
  named : ∃ names, (s.perform Call.taskNames.run).1 = .ok (.names names) ∧
    names.Pairwise (· < ·) ∧
    (∀ n, n ∈ names ↔ 0 < (es.filter (Reading.Filter.named n).matches).length) ∧
    es.length = (names.map fun n => (es.filter (Reading.Filter.named n).matches).length).sum +
      (es.filter fun e => e.taskName.isNone).length

/-- What the look-up of a number finds is among them. -/
theorem TellsOf.mem_of_find {es : List Execution} {id : Int} {e : Execution} (h : s.TellsOf es)
    (hid : Signed64.holds id = true)
    (hfind : (s.perform (Call.find id).run).1 = .ok (.execution (some e))) : e ∈ es := by
  by_cases hnone : ∀ d ∈ es, d.id ≠ some id
  · rw [h.missing id hid hnone] at hfind
    cases hfind
  · push Not at hnone
    obtain ⟨d, hd, hdid⟩ := hnone
    obtain ⟨i, hi, hfound⟩ := h.found d hd
    obtain rfl : id = i := Option.some.inj (hdid.symm.trans hi)
    rw [hfind] at hfound
    cases hfound
    exact hd

theorem perform_answered {α : Type} {t : Transaction α} {a : α} {m : Ledger}
    (hat : s.isAt epoch = true) (h : t.commit s.ledger = (.ok a, m)) (b : α → Answer) :
    (s.perform (transact epoch t >>= fun a => pure (b a))).1 = .ok (b a) := by
  rw [perform_bind, perform_transact hat, h]
  rfl

/-- The readings of a ledger that is numbered in turn tell of the executions that its rows make. -/
theorem tellsOf (hat : s.isAt s.epoch = true) (h : s.ledger.IsNumbered) :
    s.TellsOf (s.ledger.loaded s.ledger.executionRows) where
  distinct := h.pairwise_loaded
  found e he := by
    obtain ⟨r, hr, hload⟩ := Ledger.mem_loaded.1 he
    obtain ⟨id, hid, hholds⟩ := h.holds_id hr
    exact ⟨id, (Ledger.shows_of_load hload).id.trans hid,
      Call.perform_find_of_row hat h.isMade hholds (h.rowsOf_eq hr hid) hload⟩
  missing id hid hnone := by
    have hrows : s.ledger.rowsOf id = [] := by
      rw [Ledger.rowsOf, List.filter_eq_nil_iff]
      intro r hr hrid
      obtain ⟨e, hload⟩ := s.ledger.load_ok (h.ended r hr)
      refine hnone e (Ledger.mem_loaded.2 ⟨r, hr, hload⟩) ?_
      exact (Ledger.shows_of_load hload).id.trans (of_decide_eq_true hrid)
    rw [Call.perform_find hat, Reading.commit_find? h.isMade hid (h.length_rowsOf_le id), hrows]
    rfl
  running taskName hfit := by
    obtain ⟨rs, hcommit, hperm⟩ := Reading.exists_commit_running h hfit
    refine ⟨rs, ?_, hperm⟩
    rw [Call.run, perform_get_bind]
    exact perform_answered hat hcommit _
  latest names hfit := by
    rw [← Reading.length_latestRows h] at hfit
    refine ⟨_, ?_, Ledger.loaded_subset (Reading.latestRows_subset s.ledger names)⟩
    rw [Call.run, perform_get_bind]
    exact perform_answered hat (Reading.commit_latest h hfit) _
  counted f := by
    have hcount := Reading.commit_count h.isMade f
    rw [Reading.length_listing, ← h.length_filter_loaded fun r e hload =>
      f.matches_of_shows (Ledger.shows_of_load hload)] at hcount
    rw [Call.run, perform_get_bind]
    exact perform_answered hat hcount _
  countedRunning := by
    have hcount := Reading.commit_countRunning h.isMade
    rw [← h.length_filter_loaded fun r e hload => (Ledger.shows_of_load hload).isRunning] at hcount
    rw [Call.run, perform_get_bind]
    exact perform_answered hat hcount _
  listed _ f index size p hp := by
    have hmatches : ∀ r e, s.ledger.load r = .ok e → f.matches e = f.keeps r := fun r e hload =>
      f.matches_of_shows (Ledger.shows_of_load hload)
    obtain ⟨htotal, hitems⟩ := page_ok h.isMade (Prod.ext (perform_page_run.1 hp) rfl)
    refine ⟨by rw [htotal, h.length_filter_loaded hmatches], fun e he => ?_⟩
    obtain ⟨r, hr, hkeeps, hload⟩ := hitems e he
    exact List.mem_filter.2 ⟨Ledger.mem_loaded.2 ⟨r, hr, hload⟩, (hmatches r e hload).trans hkeeps⟩
  named := by
    obtain ⟨names, hcommit, hsorted, hmem⟩ := Reading.exists_commit_taskNames h
    have hne : ∀ {a b : String}, a < b → a ≠ b := fun hlt he => String.lt_irrefl _ (he ▸ hlt)
    have hnodup : names.Nodup := hsorted.imp hne
    refine ⟨names, ?_, hsorted, fun n => ?_, Reading.length_eq_sum_named _ hnodup hmem⟩
    · rw [Call.run, perform_get_bind]
      exact perform_answered hat hcommit _
    · rw [hmem, List.length_pos_iff_exists_mem]
      simp [Reading.Filter.matches, List.mem_filter]

end Session

end RunLedger
