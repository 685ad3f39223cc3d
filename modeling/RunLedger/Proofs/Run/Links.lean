import RunLedger.Launch.Body
import RunLedger.Proofs.Session.Links
import RunLedger.Proofs.Session.Start

/-!
# Links along a run

Links are recorded in some order, some of them several times, with readings of all kinds between.
What is answered of them afterwards is told by the set of the recorded links, and is the same
whether they are rows of the ledger or in a notebook in memory.

    s.TakesLinks → (∀ c ∈ calls, c.readsOrLinks = true) →
      GainsLinks (calls.filterMap Call.recorded?) s (runAll (calls.map .call) s).2
                                                                            (runAll_gains)
    (∀ r, r ∈ others.filterMap Call.recorded? ↔ r ∈ calls.filterMap Call.recorded?) →
      the ledger after calls and the notebook after others answer alike     (links_agree)
-/

namespace RunLedger

open Session

namespace Step

/-- Calls that record links or look something up give the session the links that they record. -/
theorem runAll_gains {calls : List Call} (hcalls : ∀ c ∈ calls, c.readsOrLinks = true)
    {s : Session} (hs : s.TakesLinks) :
    GainsLinks (calls.filterMap Call.recorded?) s (runAll (calls.map .call) s).2 := by
  induction calls generalizing s with
  | nil => exact .nil hs (.refl s) rfl rfl
  | cons c calls ih =>
    obtain ⟨hc, hrest⟩ := List.forall_mem_cons.1 hcalls
    -- the clock goes on before the call
    have htick : GainsLinks [] s s.tick := .nil hs (.tick s) (ledger_tick s) (notebook_tick s)
    have hcall := Call.run_gains hc htick.takesLinks
    have hlater := htick.append (hcall.append (ih hrest hcall.takesLinks))
    rw [List.filterMap_cons]
    cases hrecorded : c.recorded? with
    | none =>
      rw [hrecorded] at hlater
      exact hlater
    | some r =>
      rw [hrecorded] at hlater
      exact hlater

/-- One session keeps its links in an empty ledger, another in an empty notebook.  Calls record
links in the one, and calls that record the same links, in whatever order and however often, record
them in the other; what calls look up between is any, and need not have been recorded.  Of every
number both then answer the same, which the set of the links alone tells: the jobs of an execution
are those that it was linked to, and the execution of a job is the least that was linked to it.
Only, the ledger refuses to look up what no column can hold. -/
theorem links_agree {s t : Session} (hs : s.StartsEmpty) (hledger : s.plan.links = .ledger)
    (hmemory : t.plan.links = .memory) (hempty : t.notebook = []) {calls others : List Call}
    (hcalls : ∀ c ∈ calls, c.readsOrLinks = true) (hothers : ∀ c ∈ others, c.readsOrLinks = true)
    (hsame : ∀ r, r ∈ others.filterMap Call.recorded? ↔ r ∈ calls.filterMap Call.recorded?) :
    let links := calls.filterMap Call.recorded?
    let u := (runAll (calls.map .call) s).2
    let v := (runAll (others.map .call) t).2
    (∀ e, ∃ js : List Int, js.Pairwise (· < ·) ∧ (∀ j, j ∈ js ↔ ⟨e, j⟩ ∈ links) ∧
      (v.perform (Call.jobsOf e).run).1 = .ok (.numbers js) ∧
      (u.perform (Call.jobsOf e).run).1 =
        if Signed64.holds e then .ok (.numbers js) else .error .integerTooLarge) ∧
    (∀ j, ∃ found : Option Int,
      (∀ e, found = some e ↔ ⟨e, j⟩ ∈ links ∧ ∀ e', ⟨e', j⟩ ∈ links → e ≤ e') ∧
      (found = none ↔ ∀ e, ⟨e, j⟩ ∉ links) ∧
      (v.perform (Call.executionOf j).run).1 = .ok (.number found) ∧
      (u.perform (Call.executionOf j).run).1 =
        if Signed64.holds j then .ok (.number found) else .error .integerTooLarge) := by
  intro links u v
  obtain ⟨hs', hnone⟩ : s.TakesLinks ∧ s.linked = [] :=
    takesLinks_of_noRows hledger (by simp [isAt, hs.isOpen]) (hs.ledger ▸ .made _)
      (by rw [hs.ledger]; rfl)
  obtain ⟨ht', hnone'⟩ := takesLinks_of_noNotes hmemory hempty
  -- either session has the links of its own calls, which are the same as a set
  have hu := runAll_gains hcalls hs'
  have hv := runAll_gains hothers ht'
  have hu_links : ∀ r, r ∈ u.linked ↔ r ∈ links := hu.mem_linked hnone
  have hv_links (r : LinkRow) : r ∈ v.linked ↔ r ∈ links := (hv.mem_linked hnone' r).trans (hsame r)
  have hu_holds (n : Int) : u.plan.links.holds n = Signed64.holds n := by
    rw [hu.plan, hledger]
    rfl
  have hv_holds (n : Int) : v.plan.links.holds n = true := by
    rw [hv.plan, hmemory]
    rfl
  refine ⟨fun e => ⟨Link.jobsAmong links e, Link.pairwise_jobsAmong _ _,
    fun j => Link.mem_jobsAmong, ?_, ?_⟩, fun j => ⟨Link.executionAmong links j,
    fun e => Link.executionAmong_eq_some_iff, Link.executionAmong_eq_none_iff, ?_, ?_⟩⟩
  · rw [Call.perform_jobsOf hv.takesLinks, hv_holds, if_pos rfl, Link.jobsAmong_congr hv_links]
  · rw [Call.perform_jobsOf hu.takesLinks, hu_holds, Link.jobsAmong_congr hu_links]
  · rw [Call.perform_executionOf hv.takesLinks, hv_holds, if_pos rfl,
      Link.executionAmong_congr hv_links]
  · rw [Call.perform_executionOf hu.takesLinks, hu_holds, Link.executionAmong_congr hu_links]

/-- A job that two executions ran, the later of them recorded first and again later on, beside a job
of one execution. -/
theorem links_agree_shared :
    let s := Session.inMemory [] (.parts false false false)
    let t := { s with plan := { s.plan with links := .memory } }
    let calls : List Call := [.recordLink 3 7, .jobsOf 9, .recordLink 1 7, .recordLink 3 7,
      .recordLink 3 5]
    let others : List Call := [.recordLink 1 7, .recordLink 3 5, .executionOf 7, .recordLink 3 7]
    let u := (runAll (calls.map .call) s).2
    let v := (runAll (others.map .call) t).2
    (∃ js : List Int, js.Pairwise (· < ·) ∧ (∀ j, j ∈ js ↔ j = 7 ∨ j = 5) ∧
      (u.perform (Call.jobsOf 3).run).1 = .ok (.numbers js) ∧
      (v.perform (Call.jobsOf 3).run).1 = .ok (.numbers js)) ∧
    (u.perform (Call.executionOf 7).run).1 = .ok (.number (some 1)) ∧
    (v.perform (Call.executionOf 7).run).1 = .ok (.number (some 1)) := by
  intro s t calls others u v
  have hlinks : calls.filterMap Call.recorded? = [⟨3, 7⟩, ⟨1, 7⟩, ⟨3, 7⟩, ⟨3, 5⟩] := rfl
  have hlinks' : others.filterMap Call.recorded? = [⟨1, 7⟩, ⟨3, 5⟩, ⟨3, 7⟩] := rfl
  have hsame (r : LinkRow) :
      r ∈ others.filterMap Call.recorded? ↔ r ∈ calls.filterMap Call.recorded? := by
    rw [hlinks, hlinks']
    simp only [List.mem_cons, List.not_mem_nil]
    tauto
  obtain ⟨hjobs, hexecutions⟩ := links_agree (s := s) (t := t)
    (startsEmpty_inMemory [] (.parts false false false)) rfl rfl rfl (by decide) (by decide) hsame
  rw [hlinks] at hjobs hexecutions
  obtain ⟨js, hsorted, hmem, hv, hu⟩ := hjobs 3
  obtain ⟨found, hfound, -, hv', hu'⟩ := hexecutions 7
  have hleast : found = some 1 := by
    refine (hfound 1).2 ⟨by decide, fun e' he' => ?_⟩
    simp only [List.mem_cons, LinkRow.mk.injEq, List.not_mem_nil, and_true, or_false] at he'
    omega
  refine ⟨⟨js, hsorted, fun j => ?_, hu, hv⟩, hleast ▸ hu', hleast ▸ hv'⟩
  rw [hmem]
  simp only [List.mem_cons, LinkRow.mk.injEq, List.not_mem_nil, true_and, or_false]
  omega

end Step

end RunLedger
