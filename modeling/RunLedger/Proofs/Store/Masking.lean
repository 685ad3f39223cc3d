import RunLedger.Proofs.Sorted
import RunLedger.Proofs.Store.Loading
import RunLedger.Recording

/-!
# Ledgers without the texts of parameters

A ledger is masked when every parameter in it is blank; how many there are and where they stand
stays.  No statement tells a masked ledger from the one it was made of, other than by the parameters
of the executions that it loads: on the masked ledger it ends in the same way and leaves the masked
form of what it would have left.

    t.Masks f u → u.commit l.masked = ((t.commit l).1.map f, (t.commit l).2.masked)   (Masks.commit)
    (loadExecutions rows).Masks (List.map Execution.masked) (loadExecutions rows)
                                                                        (masks_loadExecutions)
    (start now i s).Masks Execution.masked (start now i s.masked)       (Recording.masks_start)
-/

namespace RunLedger

/-! ## Masked data -/

/-- Blank texts in place of the given ones. -/
def blanks (ps : List String) : List String := ps.map fun _ => ""

/-- The row without the parameter's text. -/
def ParameterRow.masked (r : ParameterRow) : ParameterRow := { r with text := "" }

def Execution.masked (e : Execution) : Execution := { e with parameters := blanks e.parameters }

def Recording.Start.masked (s : Recording.Start) : Recording.Start :=
  { s with parameters := blanks s.parameters }

/-- The ledger with blank parameters. -/
def Ledger.masked (l : Ledger) : Ledger := l.mapParameters (List.map ParameterRow.masked)

/-- The table of parameters with blank ones. -/
def Table.masked (t : Table ParameterRow) : Table ParameterRow :=
  t.withRows (t.rows.map ParameterRow.masked)

theorem Table.masked_append (t : Table ParameterRow) (rows : List ParameterRow) :
    (t.withRows (t.rows ++ rows)).masked =
      t.masked.withRows (t.masked.rows ++ rows.map ParameterRow.masked) := by
  simp only [Table.masked, Table.withRows, List.map_append]

theorem ExecutionRow.toExecution_blanks (r : ExecutionRow) (ps : List String) :
    r.toExecution (blanks ps) = (r.toExecution ps).map Execution.masked := by
  unfold toExecution ExecutionFields.toExecution
  split <;> rfl

/-- Executions that agree on their numbers agree on their parameters. -/
def ParametersById (es : List Execution) : Prop :=
  ∀ a ∈ es, ∀ b ∈ es, a.id = b.id → a.parameters = b.parameters

theorem ParametersById.masked_injective {es : List Execution} (h : ParametersById es) :
    ∀ a ∈ es, ∀ b ∈ es, a.masked = b.masked → a = b := by
  intro a ha b hb hab
  have hid : a.id = b.id := (Execution.mk.inj hab).1
  have hparameters := h a ha b hb hid
  cases a
  cases b
  cases hparameters
  simp only [Execution.masked, Execution.mk.injEq] at hab ⊢
  simp_all

/-- Repetitions are the same in a list and in its image, as long as no two members become one. -/
theorem eraseDups_map {α β : Type} [DecidableEq α] [DecidableEq β] (f : α → β) {as : List α}
    (hf : ∀ a ∈ as, ∀ b ∈ as, f a = f b → a = b) :
    (as.map f).eraseDups = as.eraseDups.map f := by
  induction as using eraseDups_induction with
  | nil => rfl
  | cons a as ih =>
    have hrest : (as.map f).filter (fun b => !b == f a) =
        (as.filter fun b => !b == a).map f := by
      rw [List.filter_map]
      refine congrArg (List.map f) (List.filter_congr fun b hb => ?_)
      have hsame : f b = f a ↔ b = a :=
        ⟨hf b (List.mem_cons_of_mem a hb) a List.mem_cons_self, congrArg f⟩
      have hbeq : (f b == f a) = (b == a) := Bool.eq_iff_iff.2 (by simpa using hsame)
      exact congrArg (! ·) hbeq
    have hsub : ∀ b ∈ as.filter fun b => !b == a, b ∈ a :: as := fun b hb =>
      List.mem_cons_of_mem a (List.mem_filter.1 hb).1
    rw [List.map_cons, List.eraseDups_cons, List.eraseDups_cons, hrest,
      ih fun b hb c hc => hf b (hsub b hb) c (hsub c hc), List.map_cons]

/-! ## Statements that take no notice -/

namespace Transaction

variable {α β γ δ : Type}

/-- Two transactions of which the second does on masked ledgers what the first does on ledgers as
they are, its value seen through a function. -/
def Masks (f : α → β) (t : Transaction α) (u : Transaction β) : Prop :=
  ∀ l : Ledger, u.exec l.masked = ((t.exec l).1.map f, (t.exec l).2.masked)

namespace Masks

variable {f : α → β} {g : γ → δ} {t : Transaction α} {u : Transaction β}

theorem pure (f : α → β) (a : α) : Masks f (Pure.pure a) (Pure.pure (f a)) := fun _ => rfl

theorem throw (f : α → β) (e : Failure) :
    Masks f (MonadExcept.throw e) (MonadExcept.throw e) := fun _ => rfl

theorem get : Masks Ledger.masked MonadState.get MonadState.get := fun _ => rfl

theorem liftM (f : α → β) (r : Except Failure α) :
    Masks f (MonadLiftT.monadLift r) (MonadLiftT.monadLift (r.map f)) := by
  cases r <;> exact fun _ => rfl

theorem check (r : Except Failure α) :
    Masks id (MonadLiftT.monadLift r) (MonadLiftT.monadLift r) := by
  cases r <;> exact fun _ => rfl

theorem modify {change change' : Ledger → Ledger}
    (h : ∀ l, change' l.masked = (change l).masked) :
    Masks id (modify change) (modify change') := fun l => congrArg (Prod.mk _) (h l)

/-- What follows a transaction has to match for the values that it can end in. -/
theorem bind_of_ok {k : α → Transaction γ} {k' : β → Transaction δ} (ht : Masks f t u)
    (hk : ∀ a l m, t.exec l = (.ok a, m) → Masks g (k a) (k' (f a))) :
    Masks g (t >>= k) (u >>= k') := by
  intro l
  have h := ht l
  rw [exec_bind, exec_bind, h]
  rcases he : exec t l with ⟨e | a, m⟩
  · rfl
  · exact hk a l m he m

theorem bind {k : α → Transaction γ} {k' : β → Transaction δ} (ht : Masks f t u)
    (hk : ∀ a, Masks g (k a) (k' (f a))) : Masks g (t >>= k) (u >>= k') :=
  ht.bind_of_ok fun a _ _ _ => hk a

theorem ite {p : Prop} [Decidable p] {t' : Transaction α} {u' : Transaction β}
    (ht : Masks f t u) (ht' : Masks f t' u') :
    Masks f (if p then t else t') (if p then u else u') := by
  split
  · exact ht
  · exact ht'

theorem commit (h : Masks f t u) (l : Ledger) :
    u.commit l.masked = ((t.commit l).1.map f, (t.commit l).2.masked) := by
  have hl := h l
  rw [Transaction.commit, Transaction.commit, hl]
  rcases exec t l with ⟨e | a, m⟩ <;> rfl

end Masks

/-! ## Checks -/

theorem masks_require {ρ : Type} (table : Option (Table ρ)) (columns : List String) :
    Masks id (require table columns) (require table columns) := by
  unfold require
  split
  · exact .ite (.pure id _) (.throw id _)
  · exact .throw id _

theorem masks_requireParameters (table : Option (Table ParameterRow)) (columns : List String) :
    Masks Table.masked (require table columns) (require (table.map Table.masked) columns) := by
  cases table with
  | none => exact .throw _ _
  | some t =>
    have hcolumns : columns.all t.masked.hasColumn = columns.all t.hasColumn := rfl
    rw [Option.map_some, require, require, hcolumns]
    exact .ite (.pure _ _) (.throw _ _)

theorem masks_checkNumber (n : Int) : Masks id (checkNumber n) (checkNumber n) :=
  .ite (.pure id _) (.throw id _)

theorem masks_checkNumber? (n : Option Int) : Masks id (checkNumber? n) (checkNumber? n) := by
  cases n with
  | none => exact .pure id _
  | some n => exact masks_checkNumber n

theorem masks_checkVariables (n : Nat) : Masks id (checkVariables n) (checkVariables n) :=
  .ite (.pure id _) (.throw id _)

theorem masks_storedTime (t : Timestamp) : Masks id (storedTime t) (storedTime t) := by
  unfold storedTime
  split
  · exact .pure id _
  · exact .throw id _

/-! ## Executions -/

theorem masks_selectExecutions (columns : List String) (keep : ExecutionRow → Bool) :
    Masks id (selectExecutions columns keep) (selectExecutions columns keep) :=
  Masks.get.bind fun _ => (masks_require _ _).bind fun _ => .pure id _

theorem masks_insertExecution (columns : List String) (row : ExecutionRow) :
    Masks id (insertExecution columns row) (insertExecution columns row) := by
  refine Masks.get.bind fun _ => (masks_require _ _).bind fun t =>
    (masks_checkNumber? _).bind fun _ => .ite (Masks.get.bind fun m => ?_) ?_
  · exact .ite (.bind (.throw id _) fun _ => .bind (.modify fun _ => rfl) fun _ => .pure id _)
      (.bind (.modify fun _ => rfl) fun _ => .pure id _)
  · exact .bind (.modify fun _ => rfl) fun _ => .pure id _

theorem masks_updateExecutions (columns : List String) (number : Int)
    (change : ExecutionRow → ExecutionRow) :
    Masks id (updateExecutions columns number change) (updateExecutions columns number change) :=
  Masks.get.bind fun _ => (masks_require _ _).bind fun _ => (masks_checkNumber _).bind fun _ =>
    .bind (.modify fun _ => rfl) fun _ => .pure _ _

theorem masks_fetchExecution (number : Int) :
    Masks id (fetchExecution number) (fetchExecution number) := by
  refine Masks.get.bind fun _ => (masks_require _ _).bind fun t =>
    (masks_checkNumber _).bind fun _ => ?_
  dsimp only [id]
  split
  · exact .pure id _
  · exact .throw id _

/-! ## Parameters -/

theorem parameterRows_blanks (number : Int) (k : Nat) (ps : List String) :
    parameterRows number k (blanks ps) = (parameterRows number k ps).map ParameterRow.masked := by
  induction ps generalizing k with
  | nil => rfl
  | cons p ps ih => exact congrArg (List.cons _) (ih (k + 1))

theorem masks_insertParameter (row : ParameterRow) :
    Masks id (insertParameter row) (insertParameter row.masked) := by
  refine Masks.get.bind fun _ => (masks_requireParameters _ _).bind fun t => ?_
  have htaken : (t.masked.keyed && t.masked.rows.any fun r =>
      r.executionId = row.masked.executionId && r.index = row.masked.index) =
      (t.keyed && t.rows.any fun r => r.executionId = row.executionId && r.index = row.index) := by
    simp only [Table.masked, Table.withRows, List.any_map]
    rfl
  have hput : Masks id
      (modify fun l => { l with parameters := some (t.withRows (t.rows ++ [row])) })
      (modify fun l => { l with
        parameters := some (t.masked.withRows (t.masked.rows ++ [row.masked])) }) :=
    .modify fun l => by rw [← List.map_singleton, ← t.masked_append]; rfl
  rw [htaken]
  exact .ite (.bind (.throw id _) fun _ => hput) hput

theorem masks_insertEach (rows : List ParameterRow) :
    Masks id (insertEach rows) (insertEach (rows.map ParameterRow.masked)) := by
  induction rows with
  | nil => exact .pure id _
  | cons row rows ih => exact (masks_insertParameter row).bind fun _ => ih

theorem masks_insertParameters (rows : List ParameterRow) :
    Masks id (insertParameters rows) (insertParameters (rows.map ParameterRow.masked)) := by
  refine Masks.get.bind fun l => (masks_requireParameters _ _).bind fun t => ?_
  exact .ite (.bind (.throw id _) fun _ => masks_insertEach rows) (masks_insertEach rows)

/-! ## Loading -/

theorem parametersOf_masked (rows : List ParameterRow) (number : Int) :
    parametersOf (rows.map ParameterRow.masked) number = blanks (parametersOf rows number) := by
  have hsame : (rows.map ParameterRow.masked).filter (fun r => r.executionId = number) =
      (rows.filter fun r => r.executionId = number).map ParameterRow.masked := List.filter_map
  have hsort : ∀ found : List ParameterRow,
      (found.map ParameterRow.masked).mergeSort (fun a b => a.index ≤ b.index) =
        (found.mergeSort fun a b => a.index ≤ b.index).map ParameterRow.masked := by
    intro found
    rw [List.map_mergeSort]
    intro _ _ _ _
    rfl
  rw [parametersOf, hsame, hsort, parametersOf, blanks, List.map_map, List.map_map]
  rfl

theorem rowParameters_masked (rows : List ParameterRow) (r : ExecutionRow) :
    rowParameters (rows.map ParameterRow.masked) r = blanks (rowParameters rows r) := by
  rw [rowParameters, rowParameters]
  cases r.id with
  | none => rfl
  | some number => exact parametersOf_masked rows number

theorem toExecution_masked (t : Table ParameterRow) (r : ExecutionRow) :
    r.toExecution (rowParameters t.masked.rows r) =
      (r.toExecution (rowParameters t.rows r)).map Execution.masked := by
  have hrows : t.masked.rows = t.rows.map ParameterRow.masked := rfl
  rw [hrows, rowParameters_masked, r.toExecution_blanks]

theorem masks_loadExecutions (rows : List ExecutionRow) :
    Masks (List.map Execution.masked) (loadExecutions rows) (loadExecutions rows) := by
  refine .ite (.pure _ _) ((masks_checkVariables _).bind fun _ => Masks.get.bind fun _ =>
    (masks_requireParameters _ _).bind fun t => ?_)
  -- row by row: a row that cannot be loaded is refused with the same failure on both sides
  induction rows with
  | nil => exact .pure _ _
  | cons r rows ih =>
    rw [List.mapM_cons, List.mapM_cons, toExecution_masked]
    exact (Masks.liftM _ _).bind fun e => ih.bind fun es => .pure _ _

theorem masks_loadExecution (number : Int) :
    Masks Execution.masked (loadExecution number) (loadExecution number) := by
  refine (masks_fetchExecution number).bind fun r => Masks.get.bind fun _ =>
    (masks_requireParameters _ _).bind fun t => ?_
  dsimp only [id]
  rw [toExecution_masked]
  exact .liftM _ _

end Transaction

end RunLedger
