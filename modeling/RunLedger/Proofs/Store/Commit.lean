import RunLedger.Store.Transaction

/-!
# Transactions statement by statement

How the statements of a transaction compose, and which transactions only read.  A transaction that
ended well did so in each of its statements; one that only reads leaves the ledger as it is,
however it ends.

    (t >>= k).exec l = (.ok b, n) ↔
      ∃ a m, t.exec l = (.ok a, m) ∧ (k a).exec m = (.ok b, n)     (exec_bind_ok_iff)
    t.commit l = (.ok a, m) ↔ t.exec l = (.ok a, m)                (commit_eq_ok_iff)
    t.IsReading → (t.commit l).2 = l                               (IsReading.commit)
-/

namespace RunLedger.Transaction

variable {α β : Type}

/-! ## Statements in a row -/

@[simp] theorem exec_pure (a : α) (l : Ledger) : exec (pure a) l = (.ok a, l) := rfl

@[simp] theorem exec_throw (f : Failure) (l : Ledger) :
    exec (throw f : Transaction α) l = (.error f, l) := rfl

@[simp] theorem exec_get (l : Ledger) : exec get l = (.ok l, l) := rfl

@[simp] theorem exec_modify (f : Ledger → Ledger) (l : Ledger) :
    exec (modify f) l = (.ok (), f l) := rfl

@[simp] theorem exec_liftM (r : Except Failure α) (l : Ledger) :
    exec (liftM r) l = (r, l) := by
  cases r <;> rfl

theorem exec_bind (t : Transaction α) (k : α → Transaction β) (l : Ledger) :
    exec (t >>= k) l = match exec t l with
      | (.ok a, m) => exec (k a) m
      | (.error f, m) => (.error f, m) := by
  simp only [exec, ExceptT.run_bind, StateT.run_bind]
  cases StateT.run (ExceptT.run t) l with
  | mk outcome m => cases outcome <;> rfl

theorem exec_bind_of_ok {t : Transaction α} {k : α → Transaction β} {l m : Ledger} {a : α}
    (h : exec t l = (.ok a, m)) : exec (t >>= k) l = exec (k a) m := by
  rw [exec_bind, h]

theorem exec_bind_of_error {t : Transaction α} {k : α → Transaction β} {l m : Ledger}
    {f : Failure} (h : exec t l = (.error f, m)) : exec (t >>= k) l = (.error f, m) := by
  rw [exec_bind, h]

theorem exec_get_bind (k : Ledger → Transaction α) (l : Ledger) :
    exec (get >>= k) l = exec (k l) l := rfl

theorem exec_bind_ok_iff {t : Transaction α} {k : α → Transaction β} {l n : Ledger} {b : β} :
    exec (t >>= k) l = (.ok b, n) ↔
      ∃ a m, exec t l = (.ok a, m) ∧ exec (k a) m = (.ok b, n) := by
  rw [exec_bind]
  constructor
  · intro h
    rcases he : exec t l with ⟨f | a, m⟩
    · rw [he] at h
      cases h
    · rw [he] at h
      exact ⟨a, m, rfl, h⟩
  · rintro ⟨a, m, he, hk⟩
    rw [he]
    exact hk

theorem exec_ite (p : Prop) [Decidable p] (t u : Transaction α) (l : Ledger) :
    exec (if p then t else u) l = if p then exec t l else exec u l := by
  split <;> rfl

/-! ## Commits -/

theorem commit_eq_ok_iff {t : Transaction α} {l m : Ledger} {a : α} :
    t.commit l = (.ok a, m) ↔ t.exec l = (.ok a, m) := by
  unfold commit
  rcases exec t l with ⟨f | b, n⟩ <;> simp

theorem commit_fst (t : Transaction α) (l : Ledger) : (t.commit l).1 = (t.exec l).1 := by
  unfold commit
  rcases exec t l with ⟨f | b, n⟩ <;> rfl

/-- However a transaction ends, it leaves the ledger that its statements made or the one that was
there before. -/
theorem commit_cases (t : Transaction α) (l : Ledger) :
    (∃ a m, t.commit l = (.ok a, m) ∧ t.exec l = (.ok a, m)) ∨
      ∃ f, t.commit l = (.error f, l) ∧ (t.exec l).1 = .error f := by
  unfold commit
  rcases exec t l with ⟨f | b, n⟩
  · exact Or.inr ⟨f, rfl, rfl⟩
  · exact Or.inl ⟨b, n, rfl, rfl⟩

/-! ## Reading -/

/-- A transaction that leaves every ledger as it is. -/
def IsReading (t : Transaction α) : Prop := ∀ l, (t.exec l).2 = l

namespace IsReading

theorem pure (a : α) : IsReading (Pure.pure a) := fun _ => rfl

theorem throw (f : Failure) : IsReading (MonadExcept.throw f : Transaction α) := fun _ => rfl

theorem get : IsReading MonadState.get := fun _ => rfl

theorem liftM (r : Except Failure α) : IsReading (MonadLiftT.monadLift r : Transaction α) := by
  intro l
  cases r <;> rfl

theorem bind {t : Transaction α} {k : α → Transaction β} (ht : IsReading t)
    (hk : ∀ a, IsReading (k a)) : IsReading (t >>= k) := by
  intro l
  have h := ht l
  rw [exec_bind]
  rcases he : exec t l with ⟨f | a, m⟩
  · rw [he] at h
    exact h
  · rw [he] at h
    subst h
    exact hk a m

theorem ite {p : Prop} [Decidable p] {t u : Transaction α} (ht : IsReading t) (hu : IsReading u) :
    IsReading (if p then t else u) := by
  split
  · exact ht
  · exact hu

theorem require {ρ : Type} (table : Option (Table ρ)) (columns : List String) :
    IsReading (Transaction.require table columns) := by
  unfold Transaction.require
  split
  · exact ite (pure _) (throw _)
  · exact throw _

theorem checkNumber (n : Int) : IsReading (Transaction.checkNumber n) := ite (pure _) (throw _)

theorem checkNumber? (n : Option Int) : IsReading (Transaction.checkNumber? n) := by
  cases n with
  | none => exact pure _
  | some n => exact checkNumber n

theorem checkVariables (n : Nat) : IsReading (Transaction.checkVariables n) :=
  ite (pure _) (throw _)

theorem commit {t : Transaction α} (ht : IsReading t) (l : Ledger) : (t.commit l).2 = l := by
  rcases commit_cases t l with ⟨a, m, hc, he⟩ | ⟨f, hc, -⟩
  · rw [hc]
    have h := ht l
    rw [he] at h
    exact h
  · rw [hc]

theorem selectExecutions (columns : List String) (keep : ExecutionRow → Bool) :
    IsReading (Transaction.selectExecutions columns keep) :=
  get.bind fun _ => (require _ _).bind fun _ => pure _

theorem loadExecutions (rows : List ExecutionRow) :
    IsReading (Transaction.loadExecutions rows) := by
  unfold Transaction.loadExecutions
  refine ite (pure _) ((checkVariables _).bind fun _ => get.bind fun _ =>
    (require _ _).bind fun t => ?_)
  generalize rows.length = n
  induction rows with
  | nil => exact pure _
  | cons r rows ih =>
    rw [List.mapM_cons]
    exact (liftM _).bind fun _ => ih.bind fun _ => pure _

end IsReading

end RunLedger.Transaction
