import RunLedger.Proofs.Paging.Listing
import RunLedger.Proofs.Run.Locks

/-!
# Pages along a run

In every state that a run of calls, launches and commands from an empty ledger passes through, the
pages of a filter make up the executions that the filter matches, each of them once and in strict
order, where the embedded database is the declared dialect and the table's prefix can be written in
a query without quotes.  A page can be read if it has no more items than the database takes
variables in one statement; with a prefix that needs quotes no page can be read.

    pages_complete : the pages of a filter, of any size, are those of one list of executions
-/

namespace RunLedger

open Session SessionM Transaction

namespace Step.Passes

variable {steps : List Step} {s u : Session} {ds : List Deed}

theorem isNumbered (h : Step.Passes steps s u ds) (hs : s.StartsEmpty)
    (hsteps : ∀ step ∈ steps, step.callsAll Call.keepsOpen = true) : u.ledger.IsNumbered := by
  obtain ⟨ms, rest, hsplit, rfl, -⟩ := h.split
  have hallow : ∀ m ∈ ms, m.allows Call.isRegular = true := fun m hm =>
    Move.allows_mono (fun _ => Call.keepsOpen_isRegular)
      (Step.movesOfAll_allow hsteps s m (hsplit ▸ List.mem_append_left rest hm))
  have hstart : s.ledger.IsNumbered := by
    rw [hs.ledger]
    exact .made _
  exact Move.runAll_keeps (fun d l hd hl => hl.apply hd) hs.isKept hallow hstart

theorem sameSetup (h : Step.Passes steps s u ds)
    (hsteps : ∀ step ∈ steps, step.callsAll Call.keepsOpen = true) : SameSetup s u := by
  obtain ⟨ms, rest, hsplit, rfl, -⟩ := h.split
  have hallow : ∀ m ∈ ms, m.allows Call.keepsOpen = true := fun m hm =>
    Step.movesOfAll_allow hsteps s m (hsplit ▸ List.mem_append_left rest hm)
  exact Move.runAll_sameSetup hallow s

end Step.Passes

theorem Ledger.IsNumbered.length_listing_le {l : Ledger} (h : l.IsNumbered) (f : Reading.Filter) :
    ((Reading.listing f l).length : Int) ≤ Signed64.greatest := by
  have hkept : (l.executionRows.filter f.keeps).length ≤ l.executionRows.length :=
    List.length_filter_le _ _
  have hrows := h.length_executionRows
  have hlast := h.lastId_le
  rw [Reading.length_listing]
  omega

/-- In every state that a run from an empty ledger passes through, for every filter there is one
list of executions: in strict order, later starts first and what never started last, and of equal
starts the greater number first; and made up of what look-ups find and the filter matches.  Pages of
any size make it up, and each that the database takes variables enough for is what reading it
answers in whatever session of that ledger. -/
theorem Step.pages_complete {s u : Session} (hs : s.StartsEmpty)
    (hdialect : s.handle.dialect = .sqlite)
    (hplain : Reading.isPlainPrefix s.handle.tablePrefix = true) {steps : List Step}
    (hsteps : ∀ step ∈ steps, step.callsAll Call.keepsOpen = true) {ds : List Deed}
    (hu : Step.Passes steps s u ds) (f : Reading.Filter) :
    ∃ es : List Execution, es.Pairwise Execution.Precedes ∧ es.Nodup ∧
      (∀ e, e ∈ es ↔ f.matches e = true ∧
        ∃ id, (u.perform (Call.find id).run).1 = .ok (.execution (some e))) ∧
      ∀ size : Nat, 0 < size → (size : Int) ≤ Signed64.greatest →
        ∃ pages : Nat → Page Execution, Page.IsPaging size pages es ∧
          (∀ k : Nat, k < (pages k).totalPages → (k * size : Int) ≤ Signed64.greatest) ∧
          ∀ (v : Session) (k : Nat), v.ledger = u.ledger → v.handle = u.handle →
            (k * size : Int) ≤ Signed64.greatest →
              (pages k).items.length ≤ Transaction.variableLimit →
                (v.perform (Call.page f k size).run).1 = .ok (.page (pages k)) := by
  have hnumbered := hu.isNumbered hs hsteps
  have hsame := hu.sameSetup hsteps
  have hopen : u.handle.isOpen = true := by rw [hsame.handle, hs.isOpen]
  have hat : u.isAt u.epoch = true := by simp [isAt, hopen]
  obtain ⟨es, hes, hordered, hmem⟩ := hnumbered.exists_executions f
  refine ⟨es, hordered, Execution.nodup_of_pairwise hordered, fun e => ?_, ?_⟩
  · rw [hmem e]
    exact and_congr_right fun _ => exists_congr fun id => (Call.perform_find hat).symm
  intro size hsize hroom
  have hpaging := Page.isPaging_ofList es hsize
  refine ⟨fun k => Page.ofList es k size, hpaging, ?_, ?_⟩
  · intro k hk
    -- a page with something on it begins within the list, whose length a column can hold
    have hitems := (Page.ofList_ne_nil_iff hsize).1 ((hpaging.ne_nil_iff k).2 hk)
    have hlength := hnumbered.length_listing_le f
    rw [hes.length_eq] at hlength
    have hcast : (k * size : Int) < es.length := by exact_mod_cast hitems
    omega
  · intro v k hledger hhandle hoffset hfit
    have hatv : v.isAt v.epoch = true := by simp [isAt, hhandle, hopen]
    rw [← hledger] at hnumbered hes
    refine perform_page_run.2
      (perform_page hnumbered.isMade hatv ?_ ?_ hes hsize hroom hoffset hfit)
    · rw [hhandle, hsame.handle, hdialect]
    · rw [hhandle, hsame.handle, hplain]

/-- Two executions that were created in a ledger just opened and never started, on pages of one. -/
theorem Step.pages_complete_created :
    let steps : List Step := [.call (.create (some "t") none none),
      .call (.create (some "t") none none)]
    ∃ s d, Session.fresh ⟨"sqlite://", [], .ledger, .parts false false false, []⟩
        Instant.first.toUtc .empty ⟨"", none, true⟩ = (.ok s, d) ∧
      ∃ (es : List Execution) (pages : Nat → Page Execution), es.Pairwise Execution.Precedes ∧
        Page.IsPaging 1 pages es ∧ ∀ k : Nat, (k * 1 : Int) ≤ Signed64.greatest →
          ((Step.runAll steps s).2.perform (Call.page (.named "t") k 1).run).1 =
            .ok (.page (pages k)) := by
  intro steps
  have hopened := fresh_inMemory [] (.parts false false false)
  have hsteps : ∀ step ∈ steps, step.callsAll Call.keepsOpen = true := by decide
  have hu : Step.Passes steps (inMemory [] (.parts false false false)) _ _ :=
    ⟨_, [], (List.append_nil _).symm, (Step.runAll_movesOfAll _ _).symm, rfl⟩
  obtain ⟨es, hordered, -, -, hpages⟩ := Step.pages_complete (startsEmpty_of_fresh hopened rfl)
    rfl (by decide) hsteps hu (.named "t")
  obtain ⟨pages, hpaging, -, hread⟩ := hpages 1 (by decide) (by decide)
  refine ⟨_, _, hopened, es, pages, hordered, hpaging, fun k hk => hread _ k rfl rfl hk ?_⟩
  exact Nat.le_trans (hpaging.length_items_le k) (by decide)

/-- Where the prefix needs quotes no page of a run's ledger can be read. -/
theorem Step.Passes.page_of_quoted {steps : List Step} {s u : Session} {ds : List Deed}
    (h : Step.Passes steps s u ds) (hs : s.StartsEmpty)
    (hsteps : ∀ step ∈ steps, step.callsAll Call.keepsOpen = true)
    (hquoted : Reading.isPlainPrefix s.handle.tablePrefix = false) (f : Reading.Filter) (k : Nat)
    {size : Nat} (hsize : 0 < size) (p : Page Execution) :
    (u.perform (Call.page f k size).run).1 ≠ .ok (.page p) := by
  have hsame := h.sameSetup hsteps
  have hat : u.isAt u.epoch = true := by simp [isAt, hsame.handle, hs.isOpen]
  rw [ne_eq, perform_page_run]
  rcases perform_page_of_quoted (h.isNumbered hs hsteps).isMade hat (hsame.handle ▸ hquoted) f k
    hsize with hpage | hpage
  all_goals
    rw [hpage]
    intro h
    cases h

/-- The one execution of a ledger of which the prefix has a hyphen is counted, and is on no page. -/
theorem Step.pages_refused_hyphen :
    let s := Session.inMemoryUnder "my-" [] (.parts false false false)
    let steps : List Step := [.call (.create none none none)]
    let u := (Step.runAll steps s).2
    s.StartsEmpty ∧ s.handle.dialect = .sqlite ∧
      (∀ step ∈ steps, step.callsAll Call.keepsOpen = true) ∧
      (u.perform (Call.count .all).run).1 = .ok (.number (some 1)) ∧
      ∀ p, (u.perform (Call.page .all 0 1).run).1 ≠ .ok (.page p) := by
  have hs := startsEmpty_inMemoryUnder "my-" [] (.parts false false false)
  refine ⟨hs, rfl, by decide, rfl, fun p => ?_⟩
  exact Step.Passes.page_of_quoted
    ⟨_, [], (List.append_nil _).symm, (Step.runAll_movesOfAll _ _).symm, rfl⟩ hs (by decide)
    (by decide +kernel) .all 0 (by decide) p

end RunLedger
