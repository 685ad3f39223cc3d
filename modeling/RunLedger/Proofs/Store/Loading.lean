import RunLedger.Proofs.Store.Statements
import RunLedger.Reading

/-!
# Loading executions

On a ledger with its own tables, loading rows makes each into an execution with the parameters that
are kept for it, and looking up a number loads the rows that bear it.

    rows.length ≤ variableLimit →
      exec (loadExecutions rows) l = (rows.mapM l.load, l)              (exec_loadExecutions)
    (l.rowsOf id).length ≤ 1 →
      (find? id).commit l = (((l.rowsOf id).mapM l.load).map List.head?, l)    (commit_find?)
-/

namespace RunLedger

namespace Ledger

/-- The rows that bear a number. -/
def rowsOf (id : Int) (l : Ledger) : List ExecutionRow :=
  l.executionRows.filter fun r => r.id = some id

/-- The execution that a row makes with the parameters that are kept for it. -/
def load (l : Ledger) (r : ExecutionRow) : Except Failure Execution :=
  r.toExecution (Transaction.rowParameters l.parameterRows r)

/-- A row makes an execution if it has an exit code or no end. -/
theorem load_ok (l : Ledger) {r : ExecutionRow}
    (h : r.endTime.isSome = true → r.exitCode.isSome = true) : ∃ e, l.load r = .ok e := by
  refine ⟨_, dif_pos ?_⟩
  intro hend
  exact h (by simpa using hend)

end Ledger

namespace Transaction

variable {l : Ledger}

theorem exec_mapM {α β : Type} (f : α → Except Failure β) (as : List α) (l : Ledger) :
    exec (as.mapM fun a => (liftM (f a) : Transaction β)) l = (as.mapM f, l) := by
  induction as with
  | nil => rfl
  | cons a as ih =>
    rw [List.mapM_cons, List.mapM_cons, exec_bind, exec_liftM]
    cases f a with
    | error e => rfl
    | ok b =>
      dsimp only
      rw [exec_bind, ih]
      cases as.mapM f <;> rfl

theorem exec_loadExecutions (hm : l.IsMade) {rows : List ExecutionRow}
    (hfit : rows.length ≤ variableLimit) :
    exec (loadExecutions rows) l = (rows.mapM l.load, l) := by
  obtain ⟨t, ht, own⟩ := hm.parameters
  cases rows with
  | nil => rfl
  | cons r rows =>
    rw [loadExecutions, if_neg (by simp), exec_bind_of_ok (exec_checkVariables hfit l),
      exec_get_bind, ht, own.require (List.Subset.refl _), exec_bind_of_ok (exec_pure t l),
      exec_mapM, ← rows_of_parameters ht]
    rfl

theorem exec_loadExecutions_of_lt {rows : List ExecutionRow} (h : variableLimit < rows.length)
    (l : Ledger) : exec (loadExecutions rows) l = (.error .tooManyVariables, l) := by
  have hsome : ¬ rows.isEmpty = true := by
    rw [List.isEmpty_iff_length_eq_zero]
    exact Nat.ne_of_gt (Nat.zero_lt_of_lt h)
  rw [loadExecutions, if_neg hsome, exec_bind_of_error (exec_checkVariables_of_lt h l)]

/-- What is loaded was not too much for one statement. -/
theorem length_le_of_loadExecutions {m : Ledger} {rows : List ExecutionRow} {es : List Execution}
    (h : exec (loadExecutions rows) l = (.ok es, m)) : rows.length ≤ variableLimit := by
  rcases Nat.lt_or_ge variableLimit rows.length with hlt | hle
  · rw [exec_loadExecutions_of_lt hlt] at h
    cases h
  · exact hle

theorem exec_loadExecution (hm : l.IsMade) {id : Int} {r : ExecutionRow}
    (hid : Signed64.holds id = true)
    (hr : l.executionRows.find? (fun r => r.id = some id) = some r) :
    exec (loadExecution id) l = (l.load r, l) := by
  obtain ⟨t, ht, own⟩ := hm.parameters
  rw [loadExecution, exec_bind_of_ok (exec_fetchExecution hm hid hr), exec_get_bind, ht,
    own.require (List.Subset.refl _), exec_bind_of_ok (exec_pure t l), exec_liftM,
    ← rows_of_parameters ht]
  rfl

/-! ## Parameters in their order -/

theorem le_index_of_mem {id : Int} {k : Nat} {ps : List String} {r : ParameterRow}
    (h : r ∈ parameterRows id k ps) : k ≤ r.index := by
  induction ps generalizing k with
  | nil => cases h
  | cons p ps ih =>
    rcases List.mem_cons.1 h with rfl | h
    · exact Nat.le_refl k
    · exact Nat.le_of_succ_le (ih h)

theorem parameterRows_pairwise (id : Int) (k : Nat) (ps : List String) :
    (parameterRows id k ps).Pairwise fun a b => decide (a.index ≤ b.index) = true := by
  induction ps generalizing k with
  | nil => exact List.Pairwise.nil
  | cons p ps ih =>
    refine List.pairwise_cons.2 ⟨fun r hr => ?_, ih (k + 1)⟩
    have := le_index_of_mem hr
    simp only [decide_eq_true_eq]
    omega

theorem map_text_parameterRows (id : Int) (k : Nat) (ps : List String) :
    (parameterRows id k ps).map (·.text) = ps := by
  induction ps generalizing k with
  | nil => rfl
  | cons p ps ih => rw [parameterRows, List.map_cons, ih]

theorem map_index_parameterRows (id : Int) (k : Nat) (ps : List String) :
    (parameterRows id k ps).map (·.index) = List.range' k ps.length := by
  induction ps generalizing k with
  | nil => rfl
  | cons p ps ih => rw [parameterRows, List.map_cons, ih, List.length_cons, List.range'_succ]

theorem length_parameterRows (id : Int) (k : Nat) (ps : List String) :
    (parameterRows id k ps).length = ps.length := by
  rw [← List.length_map (·.text), map_text_parameterRows]

/-- The parameters of an execution are read in the order in which they were put in. -/
theorem parametersOf_eq {rows : List ParameterRow} {id : Int} {ps : List String}
    (h : rows.filter (fun r => r.executionId = id) = parameterRows id 0 ps) :
    parametersOf rows id = ps := by
  rw [parametersOf, h, List.mergeSort_of_pairwise (parameterRows_pairwise id 0 ps),
    map_text_parameterRows]

end Transaction

theorem Reading.commit_find? {l : Ledger} {id : Int} (hm : l.IsMade)
    (hid : Signed64.holds id = true) (hone : (l.rowsOf id).length ≤ 1) :
    (find? id).commit l = (((l.rowsOf id).mapM l.load).map List.head?, l) := by
  obtain ⟨t, ht, own⟩ := hm.executions
  have hr : Transaction.require (some t) Transaction.executionColumns = pure t :=
    own.require (List.Subset.refl _)
  have hfit : (l.rowsOf id).length ≤ Transaction.variableLimit := Nat.le_trans hone (by decide)
  have hexec : Transaction.exec (find? id) l =
      (((l.rowsOf id).mapM l.load).map List.head?, l) := by
    rw [find?, Transaction.exec_get_bind, ht, hr,
      Transaction.exec_bind_of_ok (Transaction.exec_pure t l),
      Transaction.exec_bind_of_ok (Transaction.exec_checkNumber hid l), Transaction.exec_bind,
      ← Transaction.rows_of_executions ht, ← Ledger.rowsOf, Transaction.exec_loadExecutions hm hfit]
    cases (l.rowsOf id).mapM l.load <;> rfl
  rw [Transaction.commit, hexec]
  cases (l.rowsOf id).mapM l.load <;> rfl

end RunLedger
