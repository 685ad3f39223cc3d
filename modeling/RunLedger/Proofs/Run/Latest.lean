import RunLedger.Proofs.Paging.Latest
import RunLedger.Proofs.Run.Readings

/-!
# What was started last, along a run

In every state that a run of calls, launches and commands from an empty ledger passes through, what
is found to have been started last under some names is one execution for each of the names that has
a started one, and the same however the names are ordered or repeated, if these names are not more
than the database takes variables in one statement.  Where the table's prefix can be written in a
query without quotes it is the first item of the name's listing; with a prefix that needs quotes
there is no such listing.

    latest_leads : in every state, one execution for each name, in strict order
-/

namespace RunLedger

open Session SessionM

namespace Session

variable {s : Session}

theorem perform_latest (hat : s.isAt s.epoch = true) (h : s.ledger.IsNumbered)
    {names : List String}
    (hfit : (Reading.latestRows s.ledger names).length ≤ Transaction.variableLimit) :
    (s.perform (Call.latest names).run).1 =
      .ok (.executions (s.ledger.loaded (Reading.latestRows s.ledger names))) := by
  rw [Call.run, perform_get_bind]
  exact perform_answered hat (Reading.commit_latest h hfit) _

/-- The first page of one item of a name holds what was started last under it, if anything was. -/
theorem isLatest_iff_of_page (h : s.ledger.IsNumbered) (hat : s.isAt s.epoch = true)
    (hdialect : s.handle.dialect = .sqlite)
    (hplain : Reading.isPlainPrefix s.handle.tablePrefix = true) (name : String) :
    ∃ p, (s.perform (Call.page (.named name) 0 1).run).1 = .ok (.page p) ∧ ∀ e,
      Execution.IsLatest (s.ledger.loaded s.ledger.executionRows) name e ↔
        e.isStarted = true ∧ p.items = [e] := by
  obtain ⟨es, hes, -, -⟩ := h.exists_executions (.named name)
  have hpage : (s.perform (page s.epoch (.named name) (0 : Nat) (1 : Nat))).1 =
      .ok (Page.ofList es 0 1) :=
    perform_page h.isMade hat hdialect hplain hes Nat.one_pos (by decide) (by decide)
      (Nat.le_trans ((Page.isPaging_ofList es Nat.one_pos).length_items_le 0) (by decide))
  refine ⟨Page.ofList es 0 1, perform_page_run.2 hpage, fun e => ?_⟩
  rw [h.isLatest_loaded_iff, Reading.latestRow?_eq h]
  have hitems : (Page.ofList es 0 1).items = es.take 1 := by simp [Page.ofList]
  rw [hitems]
  -- of the listing and its executions the heads alone matter, and these belong together
  generalize Reading.listing (.named name) s.ledger = rows at hes
  cases hes with
  | nil => simp
  | @cons r d rows es hload hrest =>
    rw [List.head?_cons]
    constructor
    · rintro ⟨q, hq, hloadq⟩
      obtain ⟨hrq, hstart⟩ := Option.filter_eq_some_iff.1 hq
      obtain rfl := Option.some.inj hrq
      obtain rfl : d = e := Except.ok.inj (hload.symm.trans hloadq)
      exact ⟨(Ledger.isStarted_of_load hload).trans hstart, rfl⟩
    · rintro ⟨hstart, hhead⟩
      obtain rfl : d = e := by simpa using hhead
      refine ⟨r, Option.filter_eq_some_iff.2 ⟨rfl, ?_⟩, hload⟩
      exact (Ledger.isStarted_of_load hload).symm.trans hstart

end Session

/-- In every state that a run from an empty ledger passes through there is one list of executions
that all readings tell of.  What is found to have been started last under some names, if the started
ones of these are not too many for one statement, are in strict order those of the executions that
were started last under one of the names: for each name that has a started execution one, and no
other.  Other names with the same members find the same.  Where the prefix needs no quotes, what was
started last under a name is the one item of the first page of one, if that was started. -/
theorem Step.latest_leads {s u : Session} (hs : s.StartsEmpty)
    (hdialect : s.handle.dialect = .sqlite) {steps : List Step}
    (hsteps : ∀ step ∈ steps, step.callsAll Call.keepsOpen = true) {ds : List Deed}
    (hu : Step.Passes steps s u ds) :
    ∃ es, u.TellsOf es ∧
      (∀ names : List String,
        (Execution.startedNames es names).length ≤ Transaction.variableLimit →
        ∃ rs, (u.perform (Call.latest names).run).1 = .ok (.executions rs) ∧
          rs.Pairwise (fun e d => e.Precedes d ∧ e.taskName ≠ d.taskName) ∧
          (∀ e, e ∈ rs ↔ ∃ name ∈ names, Execution.IsLatest es name e) ∧
          (∀ name ∈ names, (∃ d ∈ es, d.taskName = some name ∧ d.isStarted = true) →
            ∃ e ∈ rs, e.taskName = some name) ∧
          (∀ others : List String, (∀ name, name ∈ others ↔ name ∈ names) →
            (u.perform (Call.latest others).run).1 = .ok (.executions rs))) ∧
      (Reading.isPlainPrefix s.handle.tablePrefix = true → ∀ name,
        ∃ p, (u.perform (Call.page (.named name) 0 1).run).1 = .ok (.page p) ∧
          ∀ e, Execution.IsLatest es name e ↔ e.isStarted = true ∧ p.items = [e]) := by
  have hnumbered := hu.isNumbered hs hsteps
  have hsame := hu.sameSetup hsteps
  have hat : u.isAt u.epoch = true := by simp [isAt, hsame.handle, hs.isOpen]
  refine ⟨_, tellsOf hat hnumbered, fun names hfit => ?_, fun hplain name => ?_⟩
  · rw [← Reading.length_latestRows hnumbered] at hfit
    refine ⟨_, perform_latest hat hnumbered hfit,
      Reading.pairwise_loaded_latestRows hnumbered names,
      fun e => Reading.mem_loaded_latestRows hnumbered, ?_, fun others hothers => ?_⟩
    · rintro name hname ⟨d, hd, hnamed, hstarted⟩
      obtain ⟨e, he⟩ := hnumbered.exists_isLatest hd hnamed hstarted
      exact ⟨e, (Reading.mem_loaded_latestRows hnumbered).2 ⟨name, hname, he⟩, he.named⟩
    · have hsame := Reading.latestRows_congr hnumbered hothers
      rw [perform_latest hat hnumbered (hsame ▸ hfit), hsame]
  · rw [← hsame.handle] at hdialect hplain
    exact isLatest_iff_of_page hnumbered hat hdialect hplain name

/-- Whether an outcome is a started execution with the name. -/
def isStartedNamed (name : String) : Except Failure Answer → Bool
  | .ok (.execution (some e)) => e.isStarted && e.taskName == some name
  | _ => false

theorem exists_of_isStartedNamed {name : String} {x : Except Failure Answer}
    (h : isStartedNamed name x = true) :
    ∃ e, x = .ok (.execution (some e)) ∧ e.taskName = some name ∧ e.isStarted = true := by
  unfold isStartedNamed at h
  split at h
  · rw [Bool.and_eq_true, beq_iff_eq] at h
    exact ⟨_, rfl, h.2, h.1⟩
  · cases h

/-- Two executions started at once under one name, one started later under another, and one only
created: for each of the two names one is found, however the names are ordered and repeated. -/
theorem Step.latest_leads_tie :
    let s := Session.inMemory [] (.parts false false false)
    let later : Instant := ⟨1, by decide⟩
    let steps : List Step := [
      .call (.create (some "a") none none),
      .call (.create (some "a") none none),
      .call (.create (some "b") none none),
      .call (.create (some "c") none none),
      .call (.start Instant.first.toUtc ⟨1, "a", ["x"], none, none⟩),
      .call (.start Instant.first.toUtc ⟨2, "a", [], none, none⟩),
      .call (.start later.toUtc ⟨3, "b", [], none, none⟩)]
    let u := (Step.runAll steps s).2
    ∃ rs, (u.perform (Call.latest ["c", "a", "b", "a", "d"]).run).1 = .ok (.executions rs) ∧
      (u.perform (Call.latest ["b", "d", "c", "a"]).run).1 = .ok (.executions rs) ∧
      (∃ e ∈ rs, e.taskName = some "a") ∧ (∃ e ∈ rs, e.taskName = some "b") ∧
      ∀ e ∈ rs, e.isStarted = true := by
  intro s later steps u
  have hu : Step.Passes steps s u (Step.history steps s) :=
    ⟨_, [], (List.append_nil _).symm, (Step.runAll_movesOfAll _ _).symm, rfl⟩
  obtain ⟨es, htells, hlatest, -⟩ := Step.latest_leads
    (startsEmpty_inMemory [] (.parts false false false)) rfl (by decide) hu
  obtain ⟨rs, hrs, -, hmem, hexists, hothers⟩ := hlatest ["c", "a", "b", "a", "d"]
    (Nat.le_trans (Execution.length_startedNames_le es _) (by decide))
  have hstarted : ∀ (id : Int) (name : String), Signed64.holds id = true →
      isStartedNamed name (u.perform (Call.find id).run).1 = true →
        ∃ d ∈ es, d.taskName = some name ∧ d.isStarted = true := by
    intro id name hid hfind
    obtain ⟨d, hd, hname, hstart⟩ := exists_of_isStartedNamed hfind
    exact ⟨d, htells.mem_of_find hid hd, hname, hstart⟩
  have hsame : ["b", "d", "c", "a"] ⊆ ["c", "a", "b", "a", "d"] ∧
      ["c", "a", "b", "a", "d"] ⊆ ["b", "d", "c", "a"] := by decide
  refine ⟨rs, hrs, hothers ["b", "d", "c", "a"] fun name => ⟨(hsame.1 ·), (hsame.2 ·)⟩, ?_, ?_,
    fun e he => ?_⟩
  · exact hexists "a" (by decide) (hstarted 2 _ (by decide) (by decide +kernel))
  · exact hexists "b" (by decide) (hstarted 3 _ (by decide) (by decide +kernel))
  · obtain ⟨name, -, hname⟩ := (hmem e).1 he
    exact hname.started

/-- Whether an outcome is executions with the numbers. -/
def isExecutions (ids : List Int) : Except Failure Answer → Bool
  | .ok (.executions es) => es.map (·.id) == ids.map some
  | _ => false

/-- Where the prefix has a hyphen, an execution that was started last is on no page. -/
theorem Step.latest_unlisted_hyphen :
    let s := Session.inMemoryUnder "my-" [] (.parts false false false)
    let steps : List Step := [.call (.create (some "t") none none),
      .call (.start Instant.first.toUtc ⟨1, "t", [], none, none⟩)]
    let u := (Step.runAll steps s).2
    s.StartsEmpty ∧ s.handle.dialect = .sqlite ∧
      (∀ step ∈ steps, step.callsAll Call.keepsOpen = true) ∧
      isExecutions [1] (u.perform (Call.latest ["t"]).run).1 = true ∧
      ∀ p, (u.perform (Call.page (.named "t") 0 1).run).1 ≠ .ok (.page p) := by
  have hs := startsEmpty_inMemoryUnder "my-" [] (.parts false false false)
  refine ⟨hs, rfl, by decide, by decide +kernel, fun p => ?_⟩
  exact Step.Passes.page_of_quoted
    ⟨_, [], (List.append_nil _).symm, (Step.runAll_movesOfAll _ _).symm, rfl⟩ hs (by decide)
    (by decide +kernel) (.named "t") 0 (by decide) p

end RunLedger
