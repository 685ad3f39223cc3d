import RunLedger.Proofs.Paging.Readings

/-!
# What was started last

What was started last under a name heads the listing of the name, unless nothing was started under
it: rows without a start come last in a listing.  The executions found for several names stand in
strict order, one for each name that has a started execution, and do not depend on the order of the
names or on how often they come.

    latestRow? l.executionRows n = (listing (named n) l).head?, if it was started  (latestRow?_eq)
    IsLatest es n e ↔ ∃ r, latestRow? l.executionRows n = some r ∧ l.load r = .ok e
                                                                          (isLatest_loaded_iff)
    ns and ms have the same members → latestRows l ns = latestRows l ms          (latestRows_congr)
-/

namespace RunLedger

/-! ## Sorted rows of a numbered ledger -/

namespace Ledger.IsNumbered

variable {l : Ledger} {as bs : List ExecutionRow}

/-- The order of rows is strict, so that the same rows stand in it in one way only. -/
theorem eq_newestFirst (h : l.IsNumbered) (hsubset : bs ⊆ l.executionRows) (hperm : as.Perm bs)
    (hsorted : as.Pairwise fun r q => ExecutionRow.newerFirst r q = true) :
    as = newestFirst bs := by
  refine (hperm.trans (perm_newestFirst bs).symm).eq_of_pairwise (fun r q hr hq hrq hqr => ?_)
    hsorted (pairwise_newestFirst bs)
  exact h.eq_of_id (hsubset (hperm.mem_iff.1 hr)) (hsubset ((perm_newestFirst bs).mem_iff.1 hq))
    (ExecutionRow.newerFirst_antisymm hrq hqr)

theorem newestFirst_congr (h : l.IsNumbered) (hsubset : bs ⊆ l.executionRows)
    (hperm : as.Perm bs) : newestFirst as = newestFirst bs :=
  h.eq_newestFirst hsubset ((perm_newestFirst as).trans hperm) (pairwise_newestFirst as)

theorem filter_newestFirst (h : l.IsNumbered) (hsubset : bs ⊆ l.executionRows)
    (p : ExecutionRow → Bool) : (newestFirst bs).filter p = newestFirst (bs.filter p) :=
  h.eq_newestFirst (List.Subset.trans (List.filter_subset_self _) hsubset)
    ((perm_newestFirst bs).filter p) ((pairwise_newestFirst bs).sublist List.filter_sublist)

end Ledger.IsNumbered

/-! ## The head of a listing -/

/-- A row without a start is followed by such rows only. -/
theorem ExecutionRow.startTime_eq_none {r q : ExecutionRow} (h : newerFirst r q = true)
    (hr : r.startTime = none) : q.startTime = none := by
  rcases newerFirst_iff.1 h with hlater | ⟨hstart, -⟩
  · rw [hr] at hlater
    cases hq : q.startTime with
    | none => rfl
    | some i =>
      rw [hq] at hlater
      cases hlater
  · exact hstart.symm.trans hr

namespace Reading

variable {l : Ledger}

/-- What was started last under a name heads the listing of the name. -/
theorem latestRow?_eq (h : l.IsNumbered) (name : String) :
    latestRow? l.executionRows name =
      (listing (.named name) l).head?.filter fun r => r.startTime.isSome := by
  have hfilter : (l.executionRows.filter fun r => r.isNamed name && r.startTime.isSome) =
      (l.executionRows.filter (Filter.named name).keeps).filter fun r => r.startTime.isSome := by
    rw [List.filter_filter]
    exact List.filter_congr fun r _ => Bool.and_comm _ _
  rw [latestRow?, hfilter, ← h.filter_newestFirst (List.filter_subset_self _), ← listing]
  have hsorted : (listing (.named name) l).Pairwise fun r q =>
      ExecutionRow.newerFirst r q = true := pairwise_newestFirst _
  cases hlisting : listing (.named name) l with
  | nil => rfl
  | cons r rest =>
    cases hstart : r.startTime.isSome with
    | true => simp [Option.filter, hstart]
    | false =>
      rw [hlisting] at hsorted
      -- what was never started comes last, so that none of the later rows was started either
      have hrest : (rest.filter fun q => q.startTime.isSome) = [] := by
        rw [List.filter_eq_nil_iff]
        intro q hq
        have hnone := ExecutionRow.startTime_eq_none ((List.pairwise_cons.1 hsorted).1 q hq)
          (by simpa using hstart)
        simp [hnone]
      simp [Option.filter, hstart, hrest]

/-- It was started, and comes before every other row of the name. -/
theorem latestRow?_eq_some_iff (h : l.IsNumbered) {name : String} {r : ExecutionRow} :
    latestRow? l.executionRows name = some r ↔ r ∈ l.executionRows ∧ r.isNamed name = true ∧
      r.startTime.isSome = true ∧ ∀ q ∈ l.executionRows, q.isNamed name = true → q ≠ r →
        ExecutionRow.newerFirst r q = true := by
  have hsorted : (listing (.named name) l).Pairwise fun r q =>
      ExecutionRow.newerFirst r q = true := pairwise_newestFirst _
  have hmem : ∀ q, q ∈ listing (.named name) l ↔ q ∈ l.executionRows ∧ q.isNamed name = true :=
    fun q => mem_listing
  rw [latestRow?_eq h]
  cases hlisting : listing (.named name) l with
  | nil =>
    rw [hlisting] at hmem
    constructor
    · intro hr
      cases hr
    · rintro ⟨hr, hname, -⟩
      cases (hmem r).2 ⟨hr, hname⟩
  | cons first rest =>
    rw [hlisting] at hmem hsorted
    obtain ⟨hfirst, -⟩ := List.pairwise_cons.1 hsorted
    rw [List.head?_cons, Option.filter_eq_some_iff]
    constructor
    · rintro ⟨hr, hstart⟩
      obtain rfl := Option.some.inj hr
      obtain ⟨hrow, hname⟩ := (hmem first).1 List.mem_cons_self
      refine ⟨hrow, hname, hstart, fun q hq hqname hne => ?_⟩
      rcases List.mem_cons.1 ((hmem q).2 ⟨hq, hqname⟩) with rfl | hrest
      · exact absurd rfl hne
      · exact hfirst q hrest
    · rintro ⟨hr, hname, hstart, hbefore⟩
      refine ⟨?_, hstart⟩
      obtain ⟨hrow, hfirstname⟩ := (hmem first).1 List.mem_cons_self
      by_contra hne
      have hne' : first ≠ r := fun he => hne (congrArg some he)
      -- the first row and this one would come before each other
      rcases List.mem_cons.1 ((hmem r).2 ⟨hr, hname⟩) with rfl | hrest
      · exact hne' rfl
      · exact hne' (h.eq_of_id hrow hr (ExecutionRow.newerFirst_antisymm (hfirst r hrest)
          (hbefore first hrow hfirstname hne')))

end Reading

/-! ## Executions -/

namespace Execution

/-- Of the executions of a name, the one that was started last, or of several that were started at
once the one with the greatest number. -/
structure IsLatest (es : List Execution) (name : String) (e : Execution) : Prop where
  mem : e ∈ es
  named : e.taskName = some name
  started : e.isStarted = true
  precedes : ∀ d ∈ es, d.taskName = some name → d ≠ e → e.Precedes d

end Execution

namespace Ledger

variable {l : Ledger} {r q : ExecutionRow} {e d : Execution}

theorem Shows.newerFirst_of_precedes (hr : Shows r e) (hq : Shows q d) (h : e.Precedes d) :
    ExecutionRow.newerFirst r q = true := by
  rw [Execution.Precedes, hr.startedAt, hq.startedAt, hr.id, hq.id] at h
  rw [ExecutionRow.newerFirst_iff]
  rcases h with hlater | ⟨hstart, i, j, hi, hj, hlt⟩
  · exact .inl hlater
  · refine .inr ⟨hstart, ?_⟩
    rw [hi, hj]
    exact decide_eq_true (Int.le_of_lt hlt)

theorem isNamed_iff_of_load (h : l.load r = .ok e) (name : String) :
    r.isNamed name = true ↔ e.taskName = some name := by
  rw [ExecutionRow.isNamed, beq_iff_eq, (shows_of_load h).taskName]

namespace IsNumbered

/-- Rows that make different executions bear different numbers. -/
theorem ne_iff_of_load (h : l.IsNumbered) (hr : r ∈ l.executionRows) (hq : q ∈ l.executionRows)
    (he : l.load r = .ok e) (hd : l.load q = .ok d) : d ≠ e ↔ q ≠ r := by
  constructor
  · rintro hne rfl
    exact hne (Except.ok.inj (hd.symm.trans he))
  · rintro hne rfl
    exact hne (h.eq_of_id hq hr ((shows_of_load hd).id.symm.trans (shows_of_load he).id))

theorem precedes_iff_of_load (h : l.IsNumbered) (hr : r ∈ l.executionRows)
    (hq : q ∈ l.executionRows) (he : l.load r = .ok e) (hd : l.load q = .ok d) (hne : q ≠ r) :
    e.Precedes d ↔ ExecutionRow.newerFirst r q = true := by
  obtain ⟨i, hi, -⟩ := h.exists_id hr
  obtain ⟨j, hj, -⟩ := h.exists_id hq
  refine ⟨(shows_of_load he).newerFirst_of_precedes (shows_of_load hd), fun hrq => ?_⟩
  refine (shows_of_load he).precedes (shows_of_load hd) hi hj ?_ hrq
  rintro rfl
  exact hne (h.eq_of_id hq hr (hj.trans hi.symm))

/-- What was started last under a name is made by the row that was started last. -/
theorem isLatest_loaded_iff (h : l.IsNumbered) {name : String} :
    Execution.IsLatest (l.loaded l.executionRows) name e ↔
      ∃ r, Reading.latestRow? l.executionRows name = some r ∧ l.load r = .ok e := by
  constructor
  · intro he
    obtain ⟨r, hr, hload⟩ := mem_loaded.1 he.mem
    refine ⟨r, (Reading.latestRow?_eq_some_iff h).2 ⟨hr, ?_, ?_, fun q hq hname hne => ?_⟩, hload⟩
    · exact (isNamed_iff_of_load hload name).2 he.named
    · exact (isStarted_of_load hload).symm.trans he.started
    · obtain ⟨d, hd⟩ := l.load_ok (h.ended q hq)
      exact (h.precedes_iff_of_load hr hq hload hd hne).1
        (he.precedes d (mem_loaded.2 ⟨q, hq, hd⟩) ((isNamed_iff_of_load hd name).1 hname)
          ((h.ne_iff_of_load hr hq hload hd).2 hne))
  · rintro ⟨r, hlatest, hload⟩
    obtain ⟨hr, hname, hstart, hbefore⟩ := (Reading.latestRow?_eq_some_iff h).1 hlatest
    refine ⟨mem_loaded.2 ⟨r, hr, hload⟩, (isNamed_iff_of_load hload name).1 hname,
      (isStarted_of_load hload).trans hstart, fun d hd hdname hne => ?_⟩
    obtain ⟨q, hq, hdload⟩ := mem_loaded.1 hd
    have hqr := (h.ne_iff_of_load hr hq hload hdload).1 hne
    exact (h.precedes_iff_of_load hr hq hload hdload hqr).2
      (hbefore q hq ((isNamed_iff_of_load hdload name).2 hdname) hqr)

/-- A name under which something was started has an execution that was started last. -/
theorem exists_isLatest (h : l.IsNumbered) {name : String} (hd : d ∈ l.loaded l.executionRows)
    (hname : d.taskName = some name) (hstart : d.isStarted = true) :
    ∃ e, Execution.IsLatest (l.loaded l.executionRows) name e := by
  obtain ⟨q, hq, hload⟩ := mem_loaded.1 hd
  have hmem : q ∈ newestFirst (l.executionRows.filter fun r =>
      r.isNamed name && r.startTime.isSome) := by
    rw [(perm_newestFirst _).mem_iff, List.mem_filter, (isNamed_iff_of_load hload name).2 hname,
      ← isStarted_of_load hload, hstart]
    exact ⟨hq, rfl⟩
  obtain ⟨r, hr⟩ : ∃ r, Reading.latestRow? l.executionRows name = some r := by
    rw [Reading.latestRow?]
    exact ⟨_, List.head?_eq_some_head (List.ne_nil_of_mem hmem)⟩
  obtain ⟨e, he⟩ := l.load_ok (h.ended r (Reading.latestRow?_mem hr))
  exact ⟨e, h.isLatest_loaded_iff.2 ⟨r, hr, he⟩⟩

end IsNumbered

end Ledger

/-! ## Several names -/

namespace Reading

variable {l : Ledger} {names others : List String} {e : Execution}

theorem mem_loaded_latestRows (h : l.IsNumbered) :
    e ∈ l.loaded (latestRows l names) ↔
      ∃ name ∈ names, Execution.IsLatest (l.loaded l.executionRows) name e := by
  simp only [Ledger.mem_loaded, mem_latestRows, h.isLatest_loaded_iff]
  constructor
  · rintro ⟨r, ⟨name, hname, hlatest⟩, hload⟩
    exact ⟨name, hname, r, hlatest, hload⟩
  · rintro ⟨name, hname, r, hlatest, hload⟩
    exact ⟨r, ⟨name, hname, hlatest⟩, hload⟩

/-- No two of the rows bear the same name. -/
theorem pairwise_latestRows (h : l.IsNumbered) (names : List String) :
    (latestRows l names).Pairwise fun r q =>
      ExecutionRow.newerFirst r q = true ∧ r.taskName ≠ q.taskName := by
  have hnames : (names.eraseDups.filterMap (latestRow? l.executionRows)).Pairwise fun r q =>
      r.taskName ≠ q.taskName := by
    refine List.pairwise_filterMap.2 ((nodup_eraseDups names).imp fun hne r hr q hq he => hne ?_)
    obtain ⟨-, hr, -⟩ := (latestRow?_eq_some_iff h).1 hr
    obtain ⟨-, hq, -⟩ := (latestRow?_eq_some_iff h).1 hq
    rw [ExecutionRow.isNamed, beq_iff_eq] at hr hq
    exact Option.some.inj (hr.symm.trans (he.trans hq))
  refine (pairwise_newestFirst _).and ?_
  exact (List.Perm.pairwise_iff (fun hrq => Ne.symm hrq) (perm_newestFirst _)).2 hnames

/-- The executions found stand in strict order, and no two of them bear the same name. -/
theorem pairwise_loaded_latestRows (h : l.IsNumbered) (names : List String) :
    (l.loaded (latestRows l names)).Pairwise fun e d => e.Precedes d ∧ e.taskName ≠ d.taskName := by
  rw [Ledger.loaded, List.pairwise_filterMap]
  have hsubset := latestRows_subset l names
  refine (pairwise_latestRows h names).imp_of_mem fun hr hq hrq e he d hd => ?_
  rw [Ledger.toOption_eq_some_iff] at he hd
  have hne := hrq.2
  rw [← (Ledger.shows_of_load he).taskName, ← (Ledger.shows_of_load hd).taskName] at hne
  refine ⟨(h.precedes_iff_of_load (hsubset hr) (hsubset hq) he hd ?_).2 hrq.1, hne⟩
  rintro rfl
  exact hrq.2 rfl

/-- The order of the names does not matter, nor how often they come. -/
theorem latestRows_congr (h : l.IsNumbered) (hsame : ∀ name, name ∈ others ↔ name ∈ names) :
    latestRows l others = latestRows l names := by
  refine h.newestFirst_congr (fun r hr => ?_) (List.Perm.filterMap _ ?_)
  · obtain ⟨name, -, hlatest⟩ := List.mem_filterMap.1 hr
    exact latestRow?_mem hlatest
  · refine (List.perm_ext_iff_of_nodup (nodup_eraseDups others) (nodup_eraseDups names)).2 ?_
    intro name
    rw [List.mem_eraseDups, List.mem_eraseDups, hsame]

end Reading

end RunLedger
