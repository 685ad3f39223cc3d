import RunLedger.Proofs.History.Numbering
import RunLedger.Proofs.Paging.Selection

/-!
# Listings of numbered ledgers

On a ledger whose executions are numbered in turn every row makes an execution, and no two rows make
the same.  The listing of a filter is then a list of executions in strict order: those that a
look-up finds and that the filter matches.

    l.IsNumbered → the executions of (listing f l) are in strict order, and are those that
      f matches among what look-ups find                                     (exists_executions)
-/

namespace RunLedger

namespace Reading

/-- Whether an execution is counted or listed. -/
def Filter.matches : Filter → Execution → Bool
  | all, _ => true
  | named n, e => e.taskName == some n
  | runningNamed n, e => e.taskName == some n && e.isRunning

theorem Filter.matches_of_shows {r : ExecutionRow} {e : Execution} (h : Ledger.Shows r e)
    (f : Filter) : f.matches e = f.keeps r := by
  cases f with
  | all => rfl
  | named n => rw [Filter.matches, keeps, ExecutionRow.isNamed, h.taskName]
  | runningNamed n => rw [Filter.matches, keeps, ExecutionRow.isNamed, h.taskName, h.isRunning]

end Reading

namespace Execution

variable {a b : Execution}

theorem Precedes.ne (h : a.Precedes b) : a ≠ b := by
  rintro rfl
  rcases h with h | ⟨-, i, j, hi, hj, hlt⟩
  · cases hs : a.startedAt with
    | none =>
      rw [hs] at h
      cases h
    | some start =>
      rw [hs] at h
      have hlt : start.micros < start.micros := of_decide_eq_true h
      omega
  · obtain rfl : i = j := Option.some.inj (hi.symm.trans hj)
    omega

theorem nodup_of_pairwise {es : List Execution} (h : es.Pairwise Precedes) : es.Nodup :=
  h.imp Precedes.ne

end Execution

/-! ## Rows and what they make -/

namespace Ledger.IsNumbered

open Transaction

variable {l : Ledger} {f : Reading.Filter} {r : ExecutionRow} {e : Execution}

theorem commit_find?_of_load (h : l.IsNumbered) (hr : r ∈ l.executionRows) (he : l.load r = .ok e) :
    ∃ id, (Reading.find? id).commit l = (.ok (some e), l) := by
  obtain ⟨i, hi, hholds⟩ := h.holds_id hr
  refine ⟨i, ?_⟩
  rw [Reading.commit_find? h.isMade hholds (h.length_rowsOf_le i), h.rowsOf_eq hr hi, List.mapM_cons, he]
  rfl

theorem holds_of_commit_find? {id : Int} {found : Option Execution}
    (h : (Reading.find? id).commit l = (.ok found, l)) : Signed64.holds id = true := by
  have hexec := commit_eq_ok_iff.1 h
  rw [Reading.find?, exec_get_bind] at hexec
  obtain ⟨t, l₁, -, hexec⟩ := exec_bind_ok_iff.1 hexec
  obtain ⟨u, l₂, hcheck, -⟩ := exec_bind_ok_iff.1 hexec
  exact (checkNumber_ok hcheck).1

/-- What a look-up finds is made by a row. -/
theorem exists_row_of_commit_find? (h : l.IsNumbered) {id : Int}
    (hfind : (Reading.find? id).commit l = (.ok (some e), l)) :
    ∃ r ∈ l.executionRows, l.load r = .ok e := by
  rw [Reading.commit_find? h.isMade (holds_of_commit_find? hfind) (h.length_rowsOf_le id)] at hfind
  have hfound : ((l.rowsOf id).mapM l.load).map List.head? = .ok (some e) :=
    congrArg Prod.fst hfind
  cases hes : (l.rowsOf id).mapM l.load with
  | error g =>
    rw [hes] at hfound
    cases hfound
  | ok es =>
    rw [hes] at hfound
    have he : e ∈ es := List.mem_of_mem_head? (Except.ok.inj hfound)
    obtain ⟨r, hr, hload⟩ := exists_mem_left (mapM_eq_ok_iff.1 hes) he
    exact ⟨r, (List.mem_filter.1 hr).1, hload⟩

theorem pairwise_listing (h : l.IsNumbered) (f : Reading.Filter) :
    (Reading.listing f l).Pairwise fun r q =>
      ExecutionRow.newerFirst r q = true ∧ r.id ≠ q.id := by
  have hne : (l.executionRows.filter f.keeps).Pairwise fun r q => r.id ≠ q.id :=
    h.pairwise_id_ne.sublist List.filter_sublist
  refine (pairwise_newestFirst _).and ?_
  exact (List.Perm.pairwise_iff (fun hrq => Ne.symm hrq) (perm_newestFirst _)).2 hne

/-- The executions of a listing. -/
theorem exists_executions (h : l.IsNumbered) (f : Reading.Filter) :
    ∃ es, List.Forall₂ (fun r e => l.load r = .ok e) (Reading.listing f l) es ∧
      es.Pairwise Execution.Precedes ∧
      ∀ e, e ∈ es ↔ f.matches e = true ∧ ∃ id, (Reading.find? id).commit l = (.ok (some e), l) := by
  have hload : ∀ r ∈ Reading.listing f l, ∃ e, l.load r = .ok e := fun r hr =>
    l.load_ok (h.ended r (Reading.mem_listing.1 hr).1)
  obtain ⟨es, hes⟩ := exists_forall₂ hload
  refine ⟨es, hes, ?_, fun e => ⟨fun he => ?_, ?_⟩⟩
  -- rows of the listing bear different numbers, which makes the order of executions strict
  · refine pairwise_of_forall₂ hes (h.pairwise_listing f) fun r hr q hq e d he hd hrq => ?_
    obtain ⟨i, hi, -⟩ := h.holds_id (Reading.mem_listing.1 hr).1
    obtain ⟨j, hj, -⟩ := h.holds_id (Reading.mem_listing.1 hq).1
    have hne : i ≠ j := by
      rintro rfl
      exact hrq.2 (hi.trans hj.symm)
    exact (shows_of_load he).precedes (shows_of_load hd) hi hj hne hrq.1
  · obtain ⟨r, hr, hload⟩ := exists_mem_left hes he
    obtain ⟨hrow, hkeeps⟩ := Reading.mem_listing.1 hr
    rw [f.matches_of_shows (shows_of_load hload)]
    exact ⟨hkeeps, h.commit_find?_of_load hrow hload⟩
  · rintro ⟨hmatches, id, hfind⟩
    obtain ⟨r, hrow, hload⟩ := h.exists_row_of_commit_find? hfind
    rw [f.matches_of_shows (shows_of_load hload)] at hmatches
    obtain ⟨e', he', hload'⟩ := exists_mem_right hes (Reading.mem_listing.2 ⟨hrow, hmatches⟩)
    obtain rfl : e = e' := Except.ok.inj (hload.symm.trans hload')
    exact he'

end Ledger.IsNumbered

end RunLedger
