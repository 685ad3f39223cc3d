import Mathlib.Data.List.Forall2
import RunLedger.Proofs.Session.Write
import RunLedger.Proofs.Store.Loading

/-!
# The order of pages

Rows are listed by start and number: later starts first, rows without a start last, and of equal
starts the greater number first.  Where no number is given twice the order is strict, and the
executions that the rows make stand in it.

    (newestFirst rows).Pairwise newerFirst                             (pairwise_newestFirst)
    newerFirst r q → the execution of r precedes that of q             (Shows.precedes)
-/

namespace RunLedger

namespace ExecutionRow

/-! ## Times and numbers -/

theorem timeBefore_trans {a b c : Option Instant} (hab : timeBefore a b = true)
    (hbc : timeBefore b c = true) : timeBefore a c = true := by
  cases a with
  | none =>
    cases c with
    | none => cases b <;> cases hbc
    | some c => rfl
  | some a =>
    cases b with
    | none => cases hab
    | some b =>
      cases c with
      | none => cases hbc
      | some c =>
        have hlt : a.micros < b.micros := of_decide_eq_true hab
        have hlt' : b.micros < c.micros := of_decide_eq_true hbc
        exact decide_eq_true (show a.micros < c.micros from Nat.lt_trans hlt hlt')

theorem timeBefore_trichotomy (a b : Option Instant) :
    timeBefore a b = true ∨ a = b ∨ timeBefore b a = true := by
  cases a with
  | none =>
    cases b with
    | none => exact .inr (.inl rfl)
    | some b => exact .inl rfl
  | some a =>
    cases b with
    | none => exact .inr (.inr rfl)
    | some b =>
      rcases Nat.lt_trichotomy a.micros b.micros with h | h | h
      · exact .inl (decide_eq_true h)
      · obtain ⟨n, hn⟩ := a
        obtain ⟨m, hm⟩ := b
        cases h
        exact .inr (.inl rfl)
      · exact .inr (.inr (decide_eq_true h))

theorem timeBefore_irrefl (a : Option Instant) : timeBefore a a = false := by
  cases a with
  | none => rfl
  | some a => exact decide_eq_false (Nat.lt_irrefl a.micros)

theorem timeBefore_asymm {a b : Option Instant} (h : timeBefore a b = true) :
    timeBefore b a = false := by
  rw [Bool.eq_false_iff]
  intro hba
  have hself := timeBefore_trans h hba
  rw [timeBefore_irrefl] at hself
  cases hself

theorem idAtMost_antisymm {a b : Option Int} (hab : idAtMost a b = true)
    (hba : idAtMost b a = true) : a = b := by
  cases a with
  | none =>
    cases b with
    | none => rfl
    | some b => cases hba
  | some a =>
    cases b with
    | none => cases hab
    | some b =>
      exact congrArg some (Int.le_antisymm (of_decide_eq_true hab) (of_decide_eq_true hba))

theorem idAtMost_trans {a b c : Option Int} (hab : idAtMost a b = true)
    (hbc : idAtMost b c = true) : idAtMost a c = true := by
  cases a with
  | none => rfl
  | some a =>
    cases b with
    | none => cases hab
    | some b =>
      cases c with
      | none => cases hbc
      | some c =>
        exact decide_eq_true (Int.le_trans (of_decide_eq_true hab) (of_decide_eq_true hbc))

theorem idAtMost_total (a b : Option Int) : idAtMost a b = true ∨ idAtMost b a = true := by
  cases a with
  | none => exact .inl rfl
  | some a =>
    cases b with
    | none => exact .inr rfl
    | some b =>
      rcases Int.le_total a b with h | h
      · exact .inl (decide_eq_true h)
      · exact .inr (decide_eq_true h)

/-! ## Rows -/

theorem newerFirst_iff {a b : ExecutionRow} :
    newerFirst a b = true ↔ timeBefore b.startTime a.startTime = true ∨
      a.startTime = b.startTime ∧ idAtMost b.id a.id = true := by
  simp [newerFirst]

theorem newerFirst_trans (a b c : ExecutionRow) (hab : newerFirst a b = true)
    (hbc : newerFirst b c = true) : newerFirst a c = true := by
  rw [newerFirst_iff] at hab hbc ⊢
  rcases hab with hab | ⟨hstart, hab⟩
  · rcases hbc with hbc | ⟨hstart', -⟩
    · exact .inl (timeBefore_trans hbc hab)
    · exact .inl (hstart' ▸ hab)
  · rcases hbc with hbc | ⟨hstart', hbc⟩
    · exact .inl (hstart ▸ hbc)
    · exact .inr ⟨hstart.trans hstart', idAtMost_trans hbc hab⟩

/-- Rows that come before each other bear the same number. -/
theorem newerFirst_antisymm {a b : ExecutionRow} (hab : newerFirst a b = true)
    (hba : newerFirst b a = true) : a.id = b.id := by
  rcases newerFirst_iff.1 hab with hab | ⟨hstart, hab⟩
  · rcases newerFirst_iff.1 hba with hba | ⟨hstart, -⟩
    · rw [timeBefore_asymm hba] at hab
      cases hab
    · rw [hstart, timeBefore_irrefl] at hab
      cases hab
  · rcases newerFirst_iff.1 hba with hba | ⟨-, hba⟩
    · rw [hstart, timeBefore_irrefl] at hba
      cases hba
    · exact idAtMost_antisymm hba hab

theorem newerFirst_total (a b : ExecutionRow) : (newerFirst a b || newerFirst b a) = true := by
  rw [Bool.or_eq_true, newerFirst_iff, newerFirst_iff]
  rcases timeBefore_trichotomy a.startTime b.startTime with h | h | h
  · exact .inr (.inl h)
  · rcases idAtMost_total a.id b.id with hid | hid
    · exact .inr (.inr ⟨h.symm, hid⟩)
    · exact .inl (.inr ⟨h, hid⟩)
  · exact .inl (.inl h)

end ExecutionRow

theorem pairwise_newestFirst (rows : List ExecutionRow) :
    (newestFirst rows).Pairwise fun a b => ExecutionRow.newerFirst a b = true :=
  List.pairwise_mergeSort ExecutionRow.newerFirst_trans ExecutionRow.newerFirst_total rows

theorem perm_newestFirst (rows : List ExecutionRow) : (newestFirst rows).Perm rows :=
  List.mergeSort_perm _ _

/-! ## Executions that rows make -/

namespace Execution

/-- When an execution started, if it did. -/
def startedAt (e : Execution) : Option Instant := e.startTime.bind Timestamp.instant?

/-- Whether an execution is listed before another one: it started later, the other one never
started, or both started at once, or neither, and it bears the greater number. -/
def Precedes (a b : Execution) : Prop :=
  ExecutionRow.timeBefore b.startedAt a.startedAt = true ∨
    a.startedAt = b.startedAt ∧ ∃ i j, a.id = some i ∧ b.id = some j ∧ j < i

end Execution

theorem Instant.instant?_toUtc (i : Instant) : i.toUtc.instant? = some i :=
  Write.instant?_eq (Timestamp.toInstant_toUtc i)

namespace Ledger

variable {l : Ledger} {r q : ExecutionRow} {e d : Execution}

/-- An execution shows the columns of the row that made it. -/
structure Shows (r : ExecutionRow) (e : Execution) : Prop where
  id : e.id = r.id
  taskName : e.taskName = r.taskName
  startedAt : e.startedAt = r.startTime
  isRunning : e.isRunning = r.isRunning

theorem shows_of_load (h : l.load r = .ok e) : Shows r e := by
  unfold load ExecutionRow.toExecution ExecutionFields.toExecution at h
  split at h
  · cases h
    refine ⟨rfl, rfl, ?_, ?_⟩
    · rw [Execution.startedAt, Option.bind_map]
      cases r.startTime with
      | none => rfl
      | some i => rw [Option.bind_some, Function.comp_apply, i.instant?_toUtc]
    · rw [Execution.isRunning, ExecutionRow.isRunning, Option.isNone_map]
  · cases h

theorem Shows.precedes (hr : Shows r e) (hq : Shows q d) {i j : Int} (hi : r.id = some i)
    (hj : q.id = some j) (hne : i ≠ j) (h : ExecutionRow.newerFirst r q = true) :
    e.Precedes d := by
  rw [Execution.Precedes, hr.startedAt, hq.startedAt, hr.id, hq.id, hi, hj]
  rcases ExecutionRow.newerFirst_iff.1 h with hlater | ⟨hstart, hid⟩
  · exact .inl hlater
  · rw [hi, hj] at hid
    have hle : j ≤ i := of_decide_eq_true hid
    exact .inr ⟨hstart, i, j, rfl, rfl, by omega⟩

end Ledger

end RunLedger
