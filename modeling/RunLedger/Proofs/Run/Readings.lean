import RunLedger.Proofs.Paging.Readings
import RunLedger.Proofs.Run.Pages

/-!
# Readings along a run

In every state that a run of calls, launches and commands from an empty ledger passes through, all
look-ups, counts, names and pages tell of the same executions.  Pages of them are answered where the
table's prefix can be written in a query without quotes, and no more executions are found or listed
at once than the database takes variables in one statement; pages of more are refused.

    readings_agree : in every state, u.TellsOf es for one list es of executions
    page_of_many : variableLimit < the items of the page → reading it fails
-/

namespace RunLedger

open Session SessionM

/-- In every state that a run from an empty ledger passes through there is one list of executions
that all readings tell of, also in whatever other session of that ledger.  Where the prefix needs no
quotes, every page that fits the numbers of a column is answered, if the executions of the filter
that are left for it, up to its size, are not too many for one statement. -/
theorem Step.readings_agree {s u : Session} (hs : s.StartsEmpty)
    (hdialect : s.handle.dialect = .sqlite) {steps : List Step}
    (hsteps : ∀ step ∈ steps, step.callsAll Call.keepsOpen = true) {ds : List Deed}
    (hu : Step.Passes steps s u ds) :
    ∃ es, u.TellsOf es ∧
      (∀ v : Session, v.ledger = u.ledger → v.isAt v.epoch = true → v.TellsOf es) ∧
      (Reading.isPlainPrefix s.handle.tablePrefix = true →
        ∀ (f : Reading.Filter) (k size : Nat), 0 < size → (size : Int) ≤ Signed64.greatest →
          (k * size : Int) ≤ Signed64.greatest →
          min size ((es.filter f.matches).length - k * size) ≤ Transaction.variableLimit →
            ∃ p, (u.perform (Call.page f k size).run).1 = .ok (.page p)) := by
  have hnumbered := hu.isNumbered hs hsteps
  have hsame := hu.sameSetup hsteps
  have hat : u.isAt u.epoch = true := by simp [isAt, hsame.handle, hs.isOpen]
  refine ⟨_, tellsOf hat hnumbered, fun v hledger hatv => ?_,
    fun hplain f k size hsize hroom hoffset hfit => ?_⟩
  · rw [← hledger] at hnumbered ⊢
    exact tellsOf hatv hnumbered
  · obtain ⟨es, hes, -, -⟩ := hnumbered.exists_executions f
    refine ⟨_, perform_page_run.2
      (perform_page hnumbered.isMade hat ?_ ?_ hes hsize hroom hoffset ?_)⟩
    · rw [hsame.handle, hdialect]
    · rw [hsame.handle, hplain]
    · rwa [Page.length_items_ofList, ← hes.length_eq, Reading.length_listing,
        ← hnumbered.length_filter_loaded fun r e hload =>
          f.matches_of_shows (Ledger.shows_of_load hload)]

/-- A page for which more executions are left than the database takes variables in one statement
cannot be read, if its size has room for so many. -/
theorem Step.Passes.page_of_many {steps : List Step} {s u : Session} {ds : List Deed}
    (h : Step.Passes steps s u ds) (hs : s.StartsEmpty) (hdialect : s.handle.dialect = .sqlite)
    (hplain : Reading.isPlainPrefix s.handle.tablePrefix = true)
    (hsteps : ∀ step ∈ steps, step.callsAll Call.keepsOpen = true) {es : List Execution}
    (hes : u.TellsOf es) (f : Reading.Filter) (k : Nat) {size : Nat} (hsize : 0 < size)
    (hroom : (size : Int) ≤ Signed64.greatest) (hoffset : (k * size : Int) ≤ Signed64.greatest)
    (hmany : Transaction.variableLimit < min size ((es.filter f.matches).length - k * size)) :
    (u.perform (Call.page f k size).run).1 = .error .tooManyVariables := by
  have hnumbered := h.isNumbered hs hsteps
  have hsame := h.sameSetup hsteps
  have hat : u.isAt u.epoch = true := by simp [isAt, hsame.handle, hs.isOpen]
  obtain ⟨listed, hlisted, -, -⟩ := hnumbered.exists_executions f
  -- the count tells how long the listing is, whatever list the readings are taken to tell of
  have hlength : (Reading.listing f u.ledger).length = (es.filter f.matches).length := by
    have hcount := hes.counted f
    rw [Call.run, perform_get_bind,
      perform_answered hat (Reading.commit_count hnumbered.isMade f)] at hcount
    have hcast : ((Reading.listing f u.ledger).length : Int) = (es.filter f.matches).length := by
      simpa using hcount
    exact_mod_cast hcast
  have hpage := perform_page_of_many (f := f) hnumbered.isMade hat (hsame.handle ▸ hdialect)
    (hsame.handle ▸ hplain) hlisted hsize hroom hoffset
    (by rwa [Page.length_items_ofList, ← hlisted.length_eq, hlength])
  rw [Call.run, perform_get_bind, perform_map_fst, hpage]
  rfl

/-- Whether an outcome is the number. -/
def isNumber (n : Int) : Except Failure Answer → Bool
  | .ok (.number (some m)) => m = n
  | _ => false

/-- Three executions, of which one has no name and one was started with parameters and has ended. -/
theorem Step.readings_agree_three :
    let s := Session.inMemory [] (.parts false false false)
    let steps : List Step := [
      .call (.create (some "b") none none),
      .call (.create none none none),
      .call (.create (some "a") none none),
      .call (.start Instant.first.toUtc ⟨3, "a", ["y", "x"], none, none⟩),
      .call (.complete 3 (some (.code 0)) Instant.first.toUtc none none)]
    let u := (Step.runAll steps s).2
    ∃ es, u.TellsOf es ∧ es.length = 3 ∧ (es.filter (·.isRunning)).length = 2 ∧
      ∃ p, (u.perform (Call.page .all 1 2).run).1 = .ok (.page p) ∧ p.total = 3 := by
  intro s steps u
  have hu : Step.Passes steps s u (Step.history steps s) :=
    ⟨_, [], (List.append_nil _).symm, (Step.runAll_movesOfAll _ _).symm, rfl⟩
  obtain ⟨es, htells, -, hpages⟩ := Step.readings_agree
    (startsEmpty_inMemory [] (.parts false false false)) rfl (by decide) hu
  have hcount : isNumber 3 (u.perform (Call.count .all).run).1 = true := by decide +kernel
  have hrunning : isNumber 2 (u.perform Call.countRunning.run).1 = true := by decide +kernel
  rw [htells.counted .all, isNumber, decide_eq_true_eq] at hcount
  rw [htells.countedRunning, isNumber, decide_eq_true_eq] at hrunning
  have hplain : Reading.isPlainPrefix u.handle.tablePrefix = true := by decide +kernel
  have hall : es.filter (Reading.Filter.matches .all) = es := List.filter_eq_self.2 fun _ _ => rfl
  rw [hall] at hcount
  obtain ⟨p, hp⟩ := hpages rfl .all 1 2 (by decide) (by decide) (by decide)
    (Nat.le_trans (Nat.min_le_left _ _) (by decide))
  refine ⟨es, htells, by exact_mod_cast hcount, by exact_mod_cast hrunning, p, hp, ?_⟩
  rw [(htells.listed hplain .all _ _ p hp).1, hall, hcount]

/-- Where the prefix has a hyphen, an execution that is counted by its name is on no page. -/
theorem Step.readings_disagree_hyphen :
    let s := Session.inMemoryUnder "my-" [] (.parts false false false)
    let steps : List Step := [.call (.create (some "t") none none)]
    let u := (Step.runAll steps s).2
    s.StartsEmpty ∧ s.handle.dialect = .sqlite ∧
      (∀ step ∈ steps, step.callsAll Call.keepsOpen = true) ∧
      (u.perform (Call.count (.named "t")).run).1 = .ok (.number (some 1)) ∧
      ∀ p, (u.perform (Call.page (.named "t") 0 Reading.defaultPageSize).run).1 ≠
        .ok (.page p) := by
  have hs := startsEmpty_inMemoryUnder "my-" [] (.parts false false false)
  refine ⟨hs, rfl, by decide, rfl, fun p => ?_⟩
  exact Step.Passes.page_of_quoted
    ⟨_, [], (List.append_nil _).symm, (Step.runAll_movesOfAll _ _).symm, rfl⟩ hs (by decide)
    (by decide +kernel) (.named "t") 0 (by decide) p

end RunLedger
