import RunLedger.Lock.Holding
import RunLedger.Proofs.Store.Statements
import RunLedger.Reading
import RunLedger.Recording
import RunLedger.Link

/-!
# Complete ledgers

On a ledger with all its columns no statement is refused for a table or a column that is missing.
What may still be refused has another reason, which is told beforehand: the numbers of executions
have run out, parameters refer to keys that the executions lack, or the embedded database cannot run
the page.  No transaction takes a table or a column away.

    t.Serves why l → (t.exec l).2.bare = l.bare ∧
      ((t.exec l).1 = .error .statementRefused → why)
    l.IsComplete → (Recording.create ..).Serves (l.isExhausted = true) l    (Recording.serves_create)
    l.IsComplete → (Lock.acquire ..).Serves why l                           (Lock.serves_acquire)
-/

namespace RunLedger

/-! ## Columns -/

namespace Table

/-- A table that has all the columns of a role. -/
def Covers {ρ : Type} (role : TableRole) (t : Table ρ) : Prop :=
  ∀ column ∈ role.columns, t.hasColumn column = true

end Table

namespace Ledger

/-- Whether the table in a role is there and has a column, in any case of the ASCII letters. -/
def hasColumn (l : Ledger) (role : TableRole) (column : String) : Bool :=
  match l.shape? role with
  | some (_, columns) => columns.any fun c => Text.asciiLowered c == Text.asciiLowered column
  | none => false

/-- Every table is there, with all the columns of its role. -/
def IsComplete (l : Ledger) : Prop :=
  ∀ role, ∀ column ∈ role.columns, l.hasColumn role column = true

/-- No table that is there lacks a column of its role. -/
def IsWhole (l : Ledger) : Prop :=
  ∀ role, l.has role = true → ∀ column ∈ role.columns, l.hasColumn role column = true

/-- The tables without their rows. -/
def bare (l : Ledger) : Ledger where
  executions := l.executions.map (·.withRows [])
  parameters := l.parameters.map (·.withRows [])
  links := l.links.map (·.withRows [])
  locks := l.locks.map (·.withRows [])
  lastId := 0

variable {l m : Ledger}

theorem shape?_bare (l : Ledger) : l.bare.shape? = l.shape? := by
  funext role
  cases role <;> exact Option.map_map _ _ _

theorem hasColumn_bare (l : Ledger) : l.bare.hasColumn = l.hasColumn := by
  funext role column
  rw [hasColumn, hasColumn, shape?_bare]

theorem IsComplete.congr (h : l.IsComplete) (hbare : m.bare = l.bare) : m.IsComplete := by
  rw [IsComplete, ← hasColumn_bare, hbare, hasColumn_bare]
  exact h

/-- A role's table, once its columns are found. -/
theorem exists_covers {ρ : Type} {role : TableRole} {table : Option (Table ρ)}
    (h : ∀ column ∈ role.columns,
      (match table.map fun t => (t.name, t.columns) with
        | some (_, columns) =>
          columns.any fun c => Text.asciiLowered c == Text.asciiLowered column
        | none => false) = true) : ∃ t, table = some t ∧ t.Covers role := by
  cases table with
  | some t => exact ⟨t, rfl, h⟩
  | none =>
    obtain ⟨column, hcolumn⟩ : ∃ column, column ∈ role.columns := by
      cases role <;> exact ⟨_, List.mem_cons_self⟩
    cases h column hcolumn

namespace IsComplete

theorem executions (h : l.IsComplete) : ∃ t, l.executions = some t ∧ t.Covers .executions :=
  exists_covers (h .executions)

theorem parameters (h : l.IsComplete) : ∃ t, l.parameters = some t ∧ t.Covers .parameters :=
  exists_covers (h .parameters)

theorem links (h : l.IsComplete) : ∃ t, l.links = some t ∧ t.Covers .links :=
  exists_covers (h .links)

theorem locks (h : l.IsComplete) : ∃ t, l.locks = some t ∧ t.Covers .locks :=
  exists_covers (h .locks)

end IsComplete

/-- Whether the numbers of executions have run out. -/
def isExhausted (l : Ledger) : Bool :=
  Transaction.hasKeyedExecutions l && Signed64.greatest ≤ l.lastId

/-- Whether parameters refer to keys that the executions lack. -/
def lacksKeys (l : Ledger) : Bool :=
  match l.parameters with
  | some t => t.keyed && !Transaction.hasKeyedExecutions l
  | none => false

theorem lacksKeys_bare (l : Ledger) : l.bare.lacksKeys = l.lacksKeys := by
  obtain ⟨executions, parameters, links, locks, lastId⟩ := l
  cases executions <;> cases parameters <;> rfl

theorem lacksKeys_congr (hbare : m.bare = l.bare) : m.lacksKeys = l.lacksKeys := by
  rw [← lacksKeys_bare, hbare, lacksKeys_bare]

end Ledger

/-! ## Statements -/

namespace Transaction

variable {α β : Type} {l : Ledger} {why : Prop}

/-- A transaction that keeps a ledger's tables but for their rows, and is refused by the database
for the given reason alone. -/
structure Serves (why : Prop) (t : Transaction α) (l : Ledger) : Prop where
  bare : (exec t l).2.bare = l.bare
  refused : (exec t l).1 = .error .statementRefused → why

namespace Serves

theorem pure (a : α) : Serves why (Pure.pure a) l := ⟨rfl, nofun⟩

theorem throw {f : Failure} (hf : f = .statementRefused → why) :
    Serves why (MonadExcept.throw f : Transaction α) l :=
  ⟨rfl, fun h => hf (Except.error.inj h)⟩

theorem liftM {r : Except Failure α} (hr : r = .error .statementRefused → why) :
    Serves why (MonadLiftT.monadLift r) l := by
  cases r with
  | error f => exact throw fun hf => hr (congrArg Except.error hf)
  | ok a => exact pure a

theorem modify {change : Ledger → Ledger} (h : (change l).bare = l.bare) :
    Serves why (modify change) l := ⟨h, nofun⟩

theorem bind {t : Transaction α} {k : α → Transaction β} (ht : Serves why t l)
    (hk : ∀ a m, exec t l = (.ok a, m) → m.bare = l.bare → Serves why (k a) m) :
    Serves why (t >>= k) l := by
  obtain ⟨hbare, hrefused⟩ := ht
  rcases he : exec t l with ⟨f | a, m⟩
  · rw [he] at hbare hrefused
    have hexec : exec (t >>= k) l = (.error f, m) := exec_bind_of_error he
    refine ⟨hexec ▸ hbare, fun h => ?_⟩
    rw [hexec] at h
    exact hrefused (congrArg Except.error (Except.error.inj h))
  · rw [he] at hbare
    obtain ⟨hbare', hrefused'⟩ := hk a m he hbare
    have hexec : exec (t >>= k) l = exec (k a) m := exec_bind_of_ok he
    exact ⟨hexec ▸ hbare'.trans hbare, fun h => hrefused' (hexec ▸ h)⟩

theorem throw_bind {f : Failure} {k : α → Transaction β} (hf : f = .statementRefused → why) :
    Serves why (MonadExcept.throw f >>= k) l := .bind (throw hf) fun _ _ he _ => by cases he

theorem get_bind {k : Ledger → Transaction β} (hk : Serves why (k l) l) :
    Serves why (MonadState.get >>= k) l := ⟨hk.bare, hk.refused⟩

theorem ite {p : Prop} [Decidable p] {t u : Transaction α} (ht : p → Serves why t l)
    (hu : ¬ p → Serves why u l) : Serves why (if p then t else u) l := by
  split
  · next hp => exact ht hp
  · next hp => exact hu hp

/-- A transaction that fails leaves the whole ledger as it was. -/
theorem commit {t : Transaction α} (ht : Serves why t l) :
    (t.commit l).2.bare = l.bare ∧ ((t.commit l).1 = .error .statementRefused → why) := by
  obtain ⟨hbare, hrefused⟩ := ht
  rw [Transaction.commit]
  rcases he : exec t l with ⟨f | a, m⟩
  · rw [he] at hrefused
    exact ⟨rfl, fun h => hrefused h⟩
  · rw [he] at hbare
    exact ⟨hbare, nofun⟩

/-- A table that is there is refused only for its columns. -/
theorem require_bind {ρ : Type} {role : TableRole} {table : Option (Table ρ)} {t : Table ρ}
    {columns : List String} {k : Table ρ → Transaction β} (ht : table = some t)
    (hcover : t.Covers role) (hcolumns : columns ⊆ role.columns ∨ why)
    (hk : Serves why (k t) l) : Serves why (Transaction.require table columns >>= k) l := by
  rw [ht]
  by_cases hall : columns.all t.hasColumn = true
  · have hok : Transaction.require (some t) columns = Pure.pure t := if_pos hall
    rw [hok, pure_bind]
    exact hk
  · have hfail : Transaction.require (some t) columns = MonadExcept.throw .statementRefused :=
      if_neg hall
    rw [hfail]
    refine throw_bind fun _ => ?_
    exact hcolumns.resolve_left fun hsub =>
      hall (List.all_eq_true.2 fun c hc => hcover c (hsub hc))

theorem checkNumber (n : Int) : Serves why (Transaction.checkNumber n) l :=
  .ite (fun _ => pure _) fun _ => throw nofun

theorem checkNumber? (n : Option Int) : Serves why (Transaction.checkNumber? n) l := by
  cases n with
  | none => exact pure _
  | some n => exact checkNumber n

theorem checkVariables (n : Nat) : Serves why (Transaction.checkVariables n) l :=
  .ite (fun _ => pure _) fun _ => throw nofun

theorem storedTime (t : Timestamp) : Serves why (Transaction.storedTime t) l := by
  unfold Transaction.storedTime
  split
  · exact pure _
  · exact throw nofun

end Serves

section
variable (hl : l.IsComplete)
include hl

theorem serves_selectExecutions {columns : List String} (hc : columns ⊆ executionColumns)
    (keep : ExecutionRow → Bool) : Serves why (selectExecutions columns keep) l := by
  obtain ⟨t, ht, hcover⟩ := hl.executions
  exact .get_bind (.require_bind ht hcover (.inl hc) (.pure _))

theorem serves_insertExecution {columns : List String} (hc : columns ⊆ executionColumns ∨ why)
    (row : ExecutionRow) (hwhy : l.isExhausted = true → why) :
    Serves why (insertExecution columns row) l := by
  obtain ⟨t, ht, hcover⟩ := hl.executions
  have hput (rows : List ExecutionRow) (n : Int) :
      ({ l with executions := some (t.withRows rows), lastId := n } : Ledger).bare = l.bare := by
    rw [Ledger.bare, Ledger.bare, ht]
    rfl
  refine .get_bind (.require_bind ht hcover hc (.bind (.checkNumber? _) fun _ m he _ => ?_))
  obtain rfl : m = l := (checkNumber?_ok he).2
  refine .ite (fun hkeyed => .get_bind (.ite (fun hlast => ?_) fun _ => ?_)) fun _ => ?_
  · refine .throw_bind fun _ => hwhy ?_
    rw [Ledger.isExhausted, hasKeyedExecutions, ht]
    simp [hkeyed, hlast]
  · exact .bind (.modify (hput _ _)) fun _ _ _ _ => .pure _
  · exact .bind (.modify (hput _ _)) fun _ _ _ _ => .pure _

theorem serves_updateExecutions {columns : List String} (hc : columns ⊆ executionColumns)
    (number : Int) (change : ExecutionRow → ExecutionRow) :
    Serves why (updateExecutions columns number change) l := by
  obtain ⟨t, ht, hcover⟩ := hl.executions
  refine .get_bind (.require_bind ht hcover (.inl hc) (.bind (.checkNumber _) fun _ m he _ => ?_))
  obtain rfl : m = l := (checkNumber_ok he).2
  refine .bind (.modify ?_) fun _ _ _ _ => .pure _
  rw [Ledger.bare, Ledger.bare, ht]
  rfl

theorem serves_fetchExecution (number : Int) : Serves why (fetchExecution number) l := by
  obtain ⟨t, ht, hcover⟩ := hl.executions
  refine .get_bind (.require_bind ht hcover (.inl (List.Subset.refl _))
    (.bind (.checkNumber _) fun _ _ _ _ => ?_))
  split
  · exact .pure _
  · exact .throw nofun

theorem serves_insertParameter (row : ParameterRow) : Serves why (insertParameter row) l := by
  obtain ⟨t, ht, hcover⟩ := hl.parameters
  have hput : Serves why
      (modify fun l => { l with parameters := some (t.withRows (t.rows ++ [row])) }) l := by
    refine .modify ?_
    rw [Ledger.bare, Ledger.bare, ht]
    rfl
  refine .get_bind (.require_bind ht hcover (.inl (List.Subset.refl _)) ?_)
  exact .ite (fun _ => .throw_bind nofun) fun _ => hput

theorem serves_insertEach (rows : List ParameterRow) : Serves why (insertEach rows) l := by
  induction rows generalizing l with
  | nil => exact .pure _
  | cons row rows ih =>
    exact .bind (serves_insertParameter hl row) fun _ _ _ hbare => ih (hl.congr hbare)

theorem serves_insertParameters (rows : List ParameterRow) (hwhy : l.lacksKeys = true → why) :
    Serves why (insertParameters rows) l := by
  obtain ⟨t, ht, hcover⟩ := hl.parameters
  refine .get_bind (.require_bind ht hcover (.inl (List.Subset.refl _)) ?_)
  refine .ite (fun hkeys => .throw_bind fun _ => hwhy ?_) fun _ => serves_insertEach hl rows
  rw [Ledger.lacksKeys, ht]
  exact hkeys

end

/-! ## Loading -/

theorem toExecution_not_refused (r : ExecutionRow) (ps : List String) :
    r.toExecution ps ≠ .error .statementRefused := by
  unfold ExecutionRow.toExecution ExecutionFields.toExecution
  split <;> nofun

theorem serves_loadExecutions (hl : l.IsComplete) (rows : List ExecutionRow) :
    Serves why (loadExecutions rows) l := by
  obtain ⟨t, ht, hcover⟩ := hl.parameters
  have hload : ∀ (rows : List ExecutionRow) (m : Ledger), Serves why (rows.mapM fun r =>
      (r.toExecution (rowParameters t.rows r) : Except Failure Execution)) m := by
    intro rows
    induction rows with
    | nil => exact fun _ => .pure _
    | cons r rows ih =>
      intro m
      rw [List.mapM_cons]
      exact .bind (.liftM fun h => absurd h (toExecution_not_refused r _)) fun _ _ _ _ =>
        .bind (ih _) fun _ _ _ _ => .pure _
  refine .ite (fun _ => .pure _) fun _ => .bind (.checkVariables _) fun _ m he _ => ?_
  obtain rfl : m = l := (checkVariables_ok he).2
  exact .get_bind (.require_bind ht hcover (.inl (List.Subset.refl _)) (hload rows m))

theorem serves_loadExecution (hl : l.IsComplete) (number : Int) :
    Serves why (loadExecution number) l := by
  refine .bind (serves_fetchExecution hl number) fun r m _ hbare => ?_
  obtain ⟨t, ht, hcover⟩ := (hl.congr hbare).parameters
  exact .get_bind (.require_bind ht hcover (.inl (List.Subset.refl _))
    (.liftM fun h => absurd h (toExecution_not_refused r _)))

end Transaction

/-! ## Transactions -/

section
variable {l : Ledger} {why : Prop} (hl : l.IsComplete)
include hl

namespace Recording

open Transaction

theorem serves_create (now : Timestamp) (taskName : Option String) (parentId : Option Int)
    (externalId : Option String) :
    Serves (l.isExhausted = true) (create now taskName parentId externalId) l := by
  refine .bind (.storedTime now) fun stamp m he _ => ?_
  obtain rfl : m = l := (storedTime_ok he).2
  exact .bind (serves_insertExecution hl (.inl (by decide)) _ id) fun number m _ hbare =>
    .bind (serves_loadExecution (hl.congr hbare) number) fun _ _ _ _ => .pure _

theorem serves_start (now : Timestamp) (startTime : Instant) (s : Start) :
    Serves (l.lacksKeys = true) (start now startTime s) l := by
  have hfresh (row : ExecutionRow) : ensureFresh s.id row ≠ .error .statementRefused := by
    unfold ensureFresh
    split <;> nofun
  refine .bind (serves_fetchExecution hl s.id) fun row m _ h₁ =>
    .bind (.liftM fun h => absurd h (hfresh row)) fun _ m₂ _ h₂ =>
      .bind (.storedTime now) fun _ m₃ _ h₃ => .bind (.checkNumber? _) fun _ m₄ _ h₄ => ?_
  have hbare : m₄.bare = l.bare := h₄.trans (h₃.trans (h₂.trans h₁))
  refine .bind (serves_updateExecutions (hl.congr hbare) (List.Subset.refl _) s.id _)
    fun _ m₅ _ h₅ => ?_
  have hbare₅ := h₅.trans hbare
  have hcomplete := hl.congr hbare₅
  have hkeys : m₅.lacksKeys = true → l.lacksKeys = true := by
    rw [Ledger.lacksKeys_congr hbare₅]
    exact id
  exact .ite (fun _ => .bind (serves_insertParameters hcomplete _ hkeys) fun _ _ _ h =>
    serves_loadExecution (hcomplete.congr h) s.id) fun _ => serves_loadExecution hcomplete s.id

theorem serves_complete (now : Timestamp) (endTime : Instant) (o : Outcome) :
    Serves why (complete now endTime o) l := by
  have hstart (row : ExecutionRow) :
      ensureNotBeforeStart o.id endTime row ≠ .error .statementRefused := by
    unfold ensureNotBeforeStart
    split
    · split <;> nofun
    · nofun
  refine .bind (serves_fetchExecution hl o.id) fun row m _ h₁ =>
    .bind (.liftM fun h => absurd h (hstart row)) fun _ m₂ _ h₂ =>
      .bind (.storedTime now) fun _ m₃ _ h₃ => .bind (.checkNumber _) fun _ m₄ _ h₄ => ?_
  have hcomplete := hl.congr (h₄.trans (h₃.trans (h₂.trans h₁)))
  exact .bind (serves_updateExecutions hcomplete (List.Subset.refl _) o.id _) fun _ _ _ h =>
    serves_loadExecution (hcomplete.congr h) o.id

theorem serves_setExternalId (now : Timestamp) (number : Int) (externalId : Option String) :
    Serves why (setExternalId now number externalId) l :=
  .bind (.storedTime now) fun _ _ _ h =>
    serves_updateExecutions (hl.congr h) (by decide) number _

/-- A row that is put in by hand may name any columns. -/
theorem serves_insertRow (r : RawRow) (hwhy : why) : Serves why (insertRow r) l := by
  have hstored (t : Option Timestamp) (m : Ledger) : Serves why (t.mapM storedTime) m := by
    cases t with
    | none => exact .pure _
    | some t => exact .bind (.storedTime t) fun _ _ _ _ => .pure _
  refine .bind (hstored _ _) fun _ _ _ h₁ => .bind (hstored _ _) fun _ _ _ h₂ =>
    .bind (hstored _ _) fun _ m _ h₃ => ?_
  have hcomplete := hl.congr (h₃.trans (h₂.trans h₁))
  obtain ⟨t, ht, hcover⟩ := hcomplete.executions
  dsimp only
  split
  · refine .get_bind (.require_bind ht hcover (.inr hwhy)
      (.bind (.checkNumber? _) fun _ _ _ h => ?_))
    exact .bind (serves_insertExecution (hcomplete.congr h) (.inr hwhy) _ fun _ => hwhy)
      fun _ _ _ _ => .pure _
  · refine .get_bind (.require_bind ht hcover (.inr hwhy) (.bind (.checkNumber _)
      fun _ m₁ he₁ _ => .bind (.checkNumber? _) fun _ m₂ he₂ _ =>
        .bind (.checkNumber? _) fun _ m₃ he₃ _ => ?_))
    -- the checks of the numbers leave the ledger as it is
    obtain rfl : m₁ = m := (checkNumber_ok he₁).2
    obtain rfl : m₂ = m₁ := (checkNumber?_ok he₂).2
    obtain rfl : m₃ = m₂ := (checkNumber?_ok he₃).2
    refine .ite (fun _ => .throw_bind nofun) fun _ => .modify ?_
    rw [Ledger.bare, Ledger.bare, ht]
    rfl

theorem serves_createAndGiveUp (taskName : Option String) (hwhy : why) :
    Serves why (createAndGiveUp taskName) l :=
  .bind (serves_insertExecution hl (.inr hwhy) _ fun _ => hwhy) fun _ _ _ _ => .throw nofun

end Recording

namespace Reading

open Transaction

theorem serves_find? (number : Int) : Serves why (find? number) l := by
  obtain ⟨t, ht, hcover⟩ := hl.executions
  exact .get_bind (.require_bind ht hcover (.inl (List.Subset.refl _))
    (.bind (.checkNumber _) fun _ _ _ h =>
      .bind (serves_loadExecutions (hl.congr h) _) fun _ _ _ _ => .pure _))

theorem serves_running (taskName : String) : Serves why (running taskName) l := by
  refine .bind (serves_selectExecutions hl (List.Subset.refl _) _) fun _ _ _ h =>
    .bind (serves_loadExecutions (hl.congr h) _) fun es _ _ _ => .liftM fun hrefused => ?_
  unfold orderedById at hrefused
  split at hrefused <;> cases hrefused

theorem serves_latest (names : List String) : Serves why (latest names) l := by
  refine .ite (fun _ => .pure _) fun _ =>
    .bind (serves_selectExecutions hl (List.Subset.refl _) _) fun rows _ _ h => ?_
  dsimp only
  split
  · exact .throw nofun
  · exact serves_loadExecutions (hl.congr h) _

theorem serves_count (f : Filter) : Serves why (count f) l := by
  have hcolumns : f.columns ⊆ executionColumns := by
    cases f with
    | all => exact List.nil_subset _
    | named => exact (by decide : ["task_name"] ⊆ executionColumns)
    | runningNamed => exact (by decide : ["task_name", "end_time"] ⊆ executionColumns)
  exact .bind (serves_selectExecutions hl hcolumns _) fun _ _ _ _ => .pure _

theorem serves_countRunning : Serves why countRunning l :=
  .bind (serves_selectExecutions hl (by decide) _) fun _ _ _ _ => .pure _

theorem serves_taskNames : Serves why taskNames l :=
  .bind (serves_selectExecutions hl (by decide) _) fun _ _ _ _ => .pure _

/-- Whether the embedded database runs the page queries of a form over tables of a prefix. -/
def runsPages (form : PageForm) (tablePrefix : String) : Bool :=
  isPlainPrefix tablePrefix && match form with
    | .hsql | .h2 | .oracle => false
    | _ => true

theorem serves_window (form : PageForm) (tablePrefix : String) (f : Filter) (w : Window) :
    Serves (runsPages form tablePrefix = false) (window form tablePrefix f w) l := by
  have hplain (h : (!isPlainPrefix tablePrefix) = true) : runsPages form tablePrefix = false := by
    have hfalse : isPlainPrefix tablePrefix = false := by simpa using h
    unfold runsPages
    rw [hfalse]
    exact Bool.false_and _
  -- rows are refused only by the forms that the embedded database does not understand
  have hform {rows : List ExecutionRow} (h : selectWindow form w rows = .error .statementRefused) :
      runsPages form tablePrefix = false := by
    cases form with
    | hsql | h2 | oracle => exact Bool.and_false _
    | sqlserver | db2 => cases h
    | postgres | sqlite | mysql =>
      unfold selectWindow at h
      dsimp only at h
      split at h <;> cases h
  have hselect (m : Ledger) (hm : m.bare = l.bare) : Serves (runsPages form tablePrefix = false) (do
      let rows ← selectExecutions executionColumns f.keeps
      loadExecutions (← selectWindow form w (newestFirst rows))) m :=
    .bind (serves_selectExecutions (hl.congr hm) (List.Subset.refl _) _) fun _ _ _ h₁ =>
      .bind (.liftM hform) fun _ _ _ h₂ =>
        serves_loadExecutions (hl.congr (h₂.trans (h₁.trans hm))) _
  refine .ite (fun _ => .throw_bind nofun) fun _ => ?_
  exact .ite (fun h => .throw_bind fun _ => hplain h) fun _ => hselect l rfl

end Reading

namespace Link

open Transaction

theorem serves_record (executionId jobId : Int) : Serves why (record executionId jobId) l := by
  obtain ⟨t, ht, hcover⟩ := hl.links
  refine .get_bind (.require_bind ht hcover (.inl (List.Subset.refl _))
    (.bind (.checkNumber _) fun _ m he _ => .bind (.checkNumber _) fun _ m' he' _ => ?_))
  obtain rfl : m = l := (checkNumber_ok he).2
  obtain rfl : m' = m := (checkNumber_ok he').2
  refine .bind (.modify ?_) fun _ _ _ _ => .pure _
  rw [Ledger.bare, Ledger.bare, ht]
  rfl

theorem serves_jobsOf (executionId : Int) : Serves why (jobsOf executionId) l := by
  obtain ⟨t, ht, hcover⟩ := hl.links
  exact .get_bind (.require_bind ht hcover (.inl (List.Subset.refl _))
    (.bind (.checkNumber _) fun _ _ _ _ => .pure _))

theorem serves_executionOf (jobId : Int) : Serves why (executionOf jobId) l := by
  obtain ⟨t, ht, hcover⟩ := hl.links
  exact .get_bind (.require_bind ht hcover (.inl (List.Subset.refl _))
    (.bind (.checkNumber _) fun _ _ _ _ => .pure _))

end Link

namespace Lock

open Transaction

theorem serves_acquire (now : Timestamp) (region taskName clientId : String) :
    Serves why (acquire now region taskName clientId) l := by
  refine .bind (.storedTime now) fun stamp m he _ => ?_
  obtain rfl : m = l := (storedTime_ok he).2
  obtain ⟨t, ht, hcover⟩ := hl.locks
  refine .get_bind (.require_bind ht hcover (.inl (List.Subset.refl _)) ?_)
  refine .ite (fun _ => .throw_bind nofun) fun _ => .modify ?_
  rw [Ledger.bare, Ledger.bare, ht]
  rfl

theorem serves_release (region taskName : String) : Serves why (release region taskName) l := by
  obtain ⟨t, ht, hcover⟩ := hl.locks
  refine .get_bind (.require_bind ht hcover (.inl (by decide)) ?_)
  refine .bind (.modify ?_) fun _ _ _ _ => .pure _
  rw [Ledger.bare, Ledger.bare, ht]
  rfl

theorem serves_holder (region taskName : String) : Serves why (holder region taskName) l := by
  obtain ⟨t, ht, hcover⟩ := hl.locks
  exact .get_bind (.require_bind ht hcover (.inl (List.Subset.refl _)) (.pure _))

end Lock

end

end RunLedger
