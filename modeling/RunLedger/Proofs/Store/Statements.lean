import RunLedger.Proofs.Store.Made

/-!
# What statements have done

For each statement of a transaction: what is known, and what the ledger is, once it went through.

    exec (fetchExecution id) l = (.ok r, m) → Signed64.holds id = true ∧
      l.executionRows.find? (fun r => r.id = some id) = some r ∧ m = l       (fetchExecution_ok)
    exec (updateExecutions columns id change) l = (.ok n, m) →
      m = l.mapExecutions (changed rows)                                     (updateExecutions_ok)
-/

namespace RunLedger.Transaction

variable {l m : Ledger}

/-! ## Checks -/

theorem liftM_ok {α : Type} {r : Except Failure α} {a : α} (h : exec (liftM r) l = (.ok a, m)) :
    r = .ok a ∧ m = l := by
  rw [exec_liftM] at h
  obtain ⟨hr, hl⟩ := Prod.mk.inj h
  exact ⟨hr, hl.symm⟩

theorem storedTime_ok {t : Timestamp} {i : Instant} (h : exec (storedTime t) l = (.ok i, m)) :
    t.toInstant = .ok i ∧ m = l := by
  unfold storedTime at h
  split at h
  · next j hj =>
    cases h
    exact ⟨hj, rfl⟩
  · cases h

theorem exec_storedTime {t : Timestamp} {i : Instant} (h : t.toInstant = .ok i) (l : Ledger) :
    exec (storedTime t) l = (.ok i, l) := by
  unfold storedTime
  rw [h]
  rfl

theorem checkNumber_ok {n : Int} {u : Unit} (h : exec (checkNumber n) l = (.ok u, m)) :
    Signed64.holds n = true ∧ m = l := by
  unfold checkNumber at h
  split at h
  · next hn =>
    cases h
    exact ⟨hn, rfl⟩
  · cases h

theorem exec_checkNumber {n : Int} (h : Signed64.holds n = true) (l : Ledger) :
    exec (checkNumber n) l = (.ok (), l) := by
  rw [checkNumber, if_pos h]
  rfl

theorem checkVariables_ok {n : Nat} {u : Unit} (h : exec (checkVariables n) l = (.ok u, m)) :
    n ≤ variableLimit ∧ m = l := by
  unfold checkVariables at h
  split at h
  · next hn =>
    cases h
    exact ⟨hn, rfl⟩
  · cases h

theorem exec_checkVariables {n : Nat} (h : n ≤ variableLimit) (l : Ledger) :
    exec (checkVariables n) l = (.ok (), l) := by
  rw [checkVariables, if_pos h]
  rfl

theorem exec_checkVariables_of_lt {n : Nat} (h : variableLimit < n) (l : Ledger) :
    exec (checkVariables n) l = (.error .tooManyVariables, l) := by
  rw [checkVariables, if_neg (Nat.not_le.2 h)]
  rfl

theorem checkNumber?_ok {n : Option Int} {u : Unit} (h : exec (checkNumber? n) l = (.ok u, m)) :
    (∀ i ∈ n, Signed64.holds i = true) ∧ m = l := by
  cases n with
  | none =>
    cases h
    exact ⟨(fun i hi => by cases hi), rfl⟩
  | some n =>
    obtain ⟨hn, rfl⟩ := checkNumber_ok h
    refine ⟨fun i hi => ?_, rfl⟩
    cases hi
    exact hn

theorem exec_checkNumber? {n : Option Int} (h : ∀ i ∈ n, Signed64.holds i = true) (l : Ledger) :
    exec (checkNumber? n) l = (.ok (), l) := by
  cases n with
  | none => rfl
  | some n => exact exec_checkNumber (h n rfl) l

theorem require_ok {ρ : Type} {table : Option (Table ρ)} {columns : List String} {t : Table ρ}
    (h : exec (require table columns) l = (.ok t, m)) : table = some t ∧ m = l := by
  unfold require at h
  split at h
  · split at h
    · cases h
      exact ⟨rfl, rfl⟩
    · cases h
  · cases h

/-! ## Executions -/

theorem rows_of_executions {t : Table ExecutionRow} (h : l.executions = some t) :
    l.executionRows = t.rows := by
  simp [Ledger.executionRows, h]

theorem rows_of_parameters {t : Table ParameterRow} (h : l.parameters = some t) :
    l.parameterRows = t.rows := by
  simp [Ledger.parameterRows, h]

theorem rows_of_links {t : Table LinkRow} (h : l.links = some t) : l.linkRows = t.rows := by
  simp [Ledger.linkRows, h]

theorem rows_of_locks {t : Table LockRow} (h : l.locks = some t) : l.lockRows = t.rows := by
  simp [Ledger.lockRows, h]

theorem insertExecution_ok (hm : l.IsMade) {columns : List String} {row : ExecutionRow} {id : Int}
    (h : exec (insertExecution columns row) l = (.ok id, m)) :
    id = l.lastId + 1 ∧ id ≤ Signed64.greatest ∧ (∀ i ∈ row.parentId, Signed64.holds i = true) ∧
      m = (l.mapExecutions (· ++ [{ row with id := some id }])).withLastId id := by
  obtain ⟨t, ht, own⟩ := hm.executions
  rw [insertExecution, exec_get_bind] at h
  obtain ⟨t', l₁, hr, h₁⟩ := exec_bind_ok_iff.1 h
  obtain ⟨ht', rfl⟩ := require_ok hr
  obtain rfl : t = t' := Option.some.inj (ht.symm.trans ht')
  obtain ⟨_, l₂, hc, h₂⟩ := exec_bind_ok_iff.1 h₁
  obtain ⟨hparent, rfl⟩ := checkNumber?_ok hc
  rw [if_pos own.keyed, exec_get_bind] at h₂
  dsimp only at h₂
  rw [exec_ite] at h₂
  split at h₂
  · cases h₂
  · next hlast =>
    cases h₂
    refine ⟨rfl, by omega, hparent, ?_⟩
    rw [Ledger.mapExecutions, Ledger.withLastId, ht]
    rfl

theorem selectExecutions_ok {columns : List String} {keep : ExecutionRow → Bool} {m : Ledger}
    {rows : List ExecutionRow} (h : exec (selectExecutions columns keep) l = (.ok rows, m)) :
    rows = l.executionRows.filter keep := by
  rw [selectExecutions, exec_get_bind] at h
  obtain ⟨t, l₁, hr, h₁⟩ := exec_bind_ok_iff.1 h
  obtain ⟨ht, rfl⟩ := require_ok hr
  cases h₁
  rw [rows_of_executions ht]

theorem updateExecutions_ok {columns : List String} {id : Int}
    {change : ExecutionRow → ExecutionRow} {n : Nat}
    (h : exec (updateExecutions columns id change) l = (.ok n, m)) :
    n = (l.executionRows.filter fun r => r.id = some id).length ∧
      m = l.mapExecutions fun rows => rows.map fun r => if r.id = some id then change r else r := by
  rw [updateExecutions, exec_get_bind] at h
  obtain ⟨t, l₁, hr, h₁⟩ := exec_bind_ok_iff.1 h
  obtain ⟨ht, rfl⟩ := require_ok hr
  obtain ⟨_, l₂, hc, h₂⟩ := exec_bind_ok_iff.1 h₁
  obtain ⟨-, rfl⟩ := checkNumber_ok hc
  cases h₂
  rw [rows_of_executions ht, Ledger.mapExecutions, ht]
  exact ⟨rfl, rfl⟩

theorem fetchExecution_ok {id : Int} {r : ExecutionRow}
    (h : exec (fetchExecution id) l = (.ok r, m)) :
    Signed64.holds id = true ∧ l.executionRows.find? (fun r => r.id = some id) = some r ∧
      m = l := by
  rw [fetchExecution, exec_get_bind] at h
  obtain ⟨t, l₁, hr, h₁⟩ := exec_bind_ok_iff.1 h
  obtain ⟨ht, rfl⟩ := require_ok hr
  obtain ⟨_, l₂, hc, h₂⟩ := exec_bind_ok_iff.1 h₁
  obtain ⟨hid, rfl⟩ := checkNumber_ok hc
  rw [rows_of_executions ht]
  split at h₂
  · next hf =>
    cases h₂
    exact ⟨hid, hf, rfl⟩
  · cases h₂

theorem exec_fetchExecution (hm : l.IsMade) {id : Int} {r : ExecutionRow}
    (hid : Signed64.holds id = true)
    (hr : l.executionRows.find? (fun r => r.id = some id) = some r) :
    exec (fetchExecution id) l = (.ok r, l) := by
  obtain ⟨t, ht, own⟩ := hm.executions
  have hrequire : require (some t) executionColumns = pure t := own.require (List.Subset.refl _)
  rw [rows_of_executions ht] at hr
  rw [fetchExecution, exec_get_bind, ht, hrequire, exec_bind_of_ok (exec_pure t l),
    exec_bind_of_ok (exec_checkNumber hid l), hr]
  rfl

theorem exec_updateExecutions (hm : l.IsMade) {columns : List String} {id : Int}
    (change : ExecutionRow → ExecutionRow) (hc : columns ⊆ TableRole.executions.columns)
    (hid : Signed64.holds id = true) :
    ∃ n, exec (updateExecutions columns id change) l =
      (.ok n, l.mapExecutions fun rows =>
        rows.map fun r => if r.id = some id then change r else r) := by
  obtain ⟨t, ht, own⟩ := hm.executions
  refine ⟨(t.rows.filter fun r => r.id = some id).length, ?_⟩
  rw [updateExecutions, exec_get_bind, ht, own.require hc, exec_bind_of_ok (exec_pure t l),
    exec_bind_of_ok (exec_checkNumber hid l), Ledger.mapExecutions, ht]
  rfl

theorem loadExecution_ok {id : Int} {e : Execution}
    (h : exec (loadExecution id) l = (.ok e, m)) :
    m = l ∧ Signed64.holds id = true ∧
      ∃ r, l.executionRows.find? (fun r => r.id = some id) = some r ∧
        r.toExecution (rowParameters l.parameterRows r) = .ok e := by
  obtain ⟨r, l₁, hf, h₁⟩ := exec_bind_ok_iff.1 h
  obtain ⟨hid, hrow, rfl⟩ := fetchExecution_ok hf
  rw [exec_get_bind] at h₁
  obtain ⟨t, l₂, hr, h₂⟩ := exec_bind_ok_iff.1 h₁
  obtain ⟨ht, rfl⟩ := require_ok hr
  obtain ⟨he, rfl⟩ := liftM_ok h₂
  exact ⟨rfl, hid, r, hrow, by rw [rows_of_parameters ht, he]⟩

/-! ## Parameters -/

theorem insertParameter_ok {row : ParameterRow} {u : Unit}
    (h : exec (insertParameter row) l = (.ok u, m)) : m = l.mapParameters (· ++ [row]) := by
  rw [insertParameter, exec_get_bind] at h
  obtain ⟨t, l₁, hr, h₁⟩ := exec_bind_ok_iff.1 h
  obtain ⟨ht, rfl⟩ := require_ok hr
  dsimp only at h₁
  rw [exec_ite] at h₁
  split at h₁
  · cases h₁
  · cases h₁
    rw [Ledger.mapParameters, ht]
    rfl

theorem mapParameters_append (l : Ledger) (rows more : List ParameterRow) :
    (l.mapParameters (· ++ rows)).mapParameters (· ++ more) =
      l.mapParameters (· ++ (rows ++ more)) := by
  cases h : l.parameters with
  | none => simp [Ledger.mapParameters, h]
  | some t => simp [Ledger.mapParameters, h, Table.withRows]

theorem mapParameters_nil (l : Ledger) : l.mapParameters (· ++ []) = l := by
  obtain ⟨_, parameters, _, _, _⟩ := l
  cases parameters <;> simp [Ledger.mapParameters, Table.withRows]

theorem insertEach_ok {rows : List ParameterRow} {u : Unit}
    (h : exec (insertEach rows) l = (.ok u, m)) : m = l.mapParameters (· ++ rows) := by
  induction rows generalizing l with
  | nil =>
    cases h
    exact (mapParameters_nil m).symm
  | cons row rows ih =>
    obtain ⟨_, l₁, hi, h₁⟩ := exec_bind_ok_iff.1 h
    obtain rfl := insertParameter_ok hi
    rw [ih h₁, mapParameters_append]
    rfl

theorem insertParameters_ok {rows : List ParameterRow} {u : Unit}
    (h : exec (insertParameters rows) l = (.ok u, m)) : m = l.mapParameters (· ++ rows) := by
  rw [insertParameters, exec_get_bind] at h
  obtain ⟨t, l₁, hr, h₁⟩ := exec_bind_ok_iff.1 h
  obtain ⟨ht, rfl⟩ := require_ok hr
  dsimp only at h₁
  rw [exec_ite] at h₁
  split at h₁
  · cases h₁
  · exact insertEach_ok h₁

/-- Whether a row of parameters is for the same position of the same execution as another. -/
def SamePosition (a b : ParameterRow) : Prop := a.executionId = b.executionId ∧ a.index = b.index

theorem exec_insertParameter {row : ParameterRow} (hm : l.IsMade)
    (hfree : ∀ r ∈ l.parameterRows, ¬ SamePosition r row) :
    exec (insertParameter row) l = (.ok (), l.mapParameters (· ++ [row])) := by
  obtain ⟨t, ht, own⟩ := hm.parameters
  have hnew : (t.rows.any fun r => r.executionId = row.executionId && r.index = row.index) =
      false := by
    refine List.any_eq_false.2 fun r hr => ?_
    have hother := hfree r (rows_of_parameters ht ▸ hr)
    simpa [SamePosition] using hother
  rw [insertParameter, exec_get_bind, ht, own.require (List.Subset.refl _),
    exec_bind_of_ok (exec_pure t l)]
  dsimp only
  rw [hnew, Bool.and_false, Ledger.mapParameters, ht]
  rfl

theorem exec_insertParameter_taken {row : ParameterRow} (hm : l.IsMade)
    (htaken : ∃ r ∈ l.parameterRows, SamePosition r row) :
    exec (insertParameter row) l = (.error .constraintViolated, l) := by
  obtain ⟨t, ht, own⟩ := hm.parameters
  obtain ⟨r, hr, hsame⟩ := htaken
  have hold : (t.rows.any fun r => r.executionId = row.executionId && r.index = row.index) =
      true := by
    refine List.any_eq_true.2 ⟨r, rows_of_parameters ht ▸ hr, ?_⟩
    simpa [SamePosition] using hsame
  rw [insertParameter, exec_get_bind, ht, own.require (List.Subset.refl _),
    exec_bind_of_ok (exec_pure t l)]
  dsimp only
  rw [hold, own.keyed]
  rfl

/-- Parameters go in where their execution has none from the first of their positions on. -/
theorem exec_insertEach {id : Int} {k : Nat} (ps : List String) (hm : l.IsMade)
    (hfree : ∀ p ∈ l.parameterRows, p.executionId = id → p.index < k) :
    exec (insertEach (parameterRows id k ps)) l =
      (.ok (), l.mapParameters (· ++ parameterRows id k ps)) := by
  induction ps generalizing l k with
  | nil => rw [parameterRows, mapParameters_nil, insertEach, exec_pure]
  | cons p ps ih =>
    have hinsert : exec (insertParameter ⟨id, k, p⟩) l = _ :=
      exec_insertParameter hm fun r hr hsame => by
        have hlt := hfree r hr hsame.1
        rw [hsame.2] at hlt
        exact Nat.lt_irrefl k hlt
    rw [parameterRows, insertEach, exec_bind_of_ok hinsert, ih (hm.mapParameters _),
      mapParameters_append]
    · rfl
    · intro r hr hid
      rw [hm.parameterRows_mapParameters] at hr
      rcases List.mem_append.1 hr with hr | hr
      · exact Nat.lt_succ_of_lt (hfree r hr hid)
      · rw [List.mem_singleton.1 hr]
        exact Nat.lt_succ_self k

/-- Parameters go in up to the first of their positions that is taken. -/
theorem exec_insertEach_taken {id : Int} {k : Nat} (before : List String) (p : String)
    (after : List String) (hm : l.IsMade)
    (hfree : ∀ q ∈ l.parameterRows, q.executionId = id →
      q.index < k ∨ k + before.length ≤ q.index)
    (htaken : ∃ q ∈ l.parameterRows, q.executionId = id ∧ q.index = k + before.length) :
    exec (insertEach (parameterRows id k (before ++ p :: after))) l =
      (.error .constraintViolated, l.mapParameters (· ++ parameterRows id k before)) := by
  -- the position that is taken stays so while the ones before it are put in
  induction before generalizing l k with
  | nil =>
    have hstop : exec (insertParameter ⟨id, k, p⟩) l = _ := exec_insertParameter_taken hm htaken
    rw [List.nil_append, parameterRows.eq_1, mapParameters_nil, parameterRows, insertEach,
      exec_bind_of_error hstop]
  | cons b before ih =>
    rw [List.length_cons] at hfree htaken
    have hinsert : exec (insertParameter ⟨id, k, b⟩) l = _ :=
      exec_insertParameter hm fun r hr hsame => by
        have hapart := hfree r hr hsame.1
        rw [hsame.2] at hapart
        dsimp only at hapart
        omega
    have hmem {q : ParameterRow} : q ∈ (l.mapParameters (· ++ [⟨id, k, b⟩])).parameterRows ↔
        q ∈ l.parameterRows ∨ q = ⟨id, k, b⟩ := by
      rw [hm.parameterRows_mapParameters, List.mem_append, List.mem_singleton]
    rw [List.cons_append, parameterRows, insertEach, exec_bind_of_ok hinsert,
      ih (hm.mapParameters _), mapParameters_append]
    · rfl
    · intro q hq hid
      rcases hmem.1 hq with hq | rfl
      · have := hfree q hq hid
        omega
      · exact .inl (Nat.lt_succ_self k)
    · obtain ⟨q, hq, hid, hindex⟩ := htaken
      exact ⟨q, hmem.2 (.inl hq), hid, by omega⟩

/-- Where the tables have their keys, parameters go in one by one. -/
theorem exec_insertParameters_eq (hm : l.IsMade) (rows : List ParameterRow) :
    exec (insertParameters rows) l = exec (insertEach rows) l := by
  obtain ⟨t, ht, own⟩ := hm.parameters
  obtain ⟨e, he, ownE⟩ := hm.executions
  have hkeyed : hasKeyedExecutions l = true := by
    rw [hasKeyedExecutions, he]
    exact ownE.keyed
  rw [insertParameters, exec_get_bind, ht, own.require (List.Subset.refl _),
    exec_bind_of_ok (exec_pure t l)]
  dsimp only
  rw [hkeyed, exec_ite, if_neg (by simp)]

theorem exec_insertParameters {id : Int} (ps : List String) (hm : l.IsMade)
    (hfree : ∀ p ∈ l.parameterRows, p.executionId ≠ id) :
    exec (insertParameters (parameterRows id 0 ps)) l =
      (.ok (), l.mapParameters (· ++ parameterRows id 0 ps)) := by
  rw [exec_insertParameters_eq hm]
  exact exec_insertEach ps hm fun p hp hid => absurd hid (hfree p hp)

end RunLedger.Transaction
