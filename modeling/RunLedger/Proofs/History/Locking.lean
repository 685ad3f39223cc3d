import RunLedger.Proofs.History.Deed
import RunLedger.Proofs.Store.Statements

/-!
# Lock statements as deeds

On a ledger with its own tables a lock is taken exactly where it is free, and giving it back takes
all rows of its key and region away.

    (acquire now region taskName clientId).commit l =
      if l.isHeld key region then (.error (.alreadyHeld taskName key), l)
      else (.ok (), (Deed.acquire row).apply l)                              (commit_acquire)
    (release region taskName).commit l =
      (.ok (l.isHeld key region), (Deed.release key region).apply l)         (commit_release)
    (holder region taskName).commit l = (.ok (l.lockOf key region), l)       (commit_holder)
-/

namespace RunLedger

namespace Ledger

/-- Whether a key is locked in a region. -/
def isHeld (key region : String) (l : Ledger) : Bool := l.lockRows.any (Lock.isFor key region)

/-- The row of a key's lock in a region, if it is locked. -/
def lockOf (key region : String) (l : Ledger) : Option LockRow :=
  l.lockRows.find? (Lock.isFor key region)

theorem isHeld_eq_isSome (key region : String) (l : Ledger) :
    l.isHeld key region = (l.lockOf key region).isSome := by
  rw [isHeld, lockOf, Bool.eq_iff_iff, List.any_eq_true, List.find?_isSome]

theorem lockOf_eq_none_iff {key region : String} {l : Ledger} :
    l.lockOf key region = none ↔ l.isHeld key region = false := by
  rw [isHeld_eq_isSome]
  cases l.lockOf key region <;> simp

end Ledger

namespace Lock

open Transaction

variable {l : Ledger} {now : Timestamp} {stamp : Instant} {region taskName clientId : String}

theorem keyColumns_subset : keyColumns ⊆ TableRole.locks.columns := by
  simp [keyColumns, TableRole.columns]

theorem isFor_heldRow (stamp : Instant) (region taskName clientId : String) :
    isFor (lockKey taskName) region (heldRow stamp region taskName clientId) = true := by
  simp [isFor, heldRow]

theorem commit_acquire (hm : l.IsMade) (hnow : now.toInstant = .ok stamp) :
    (acquire now region taskName clientId).commit l =
      if l.isHeld (lockKey taskName) region then
        (.error (.alreadyHeld taskName (lockKey taskName)), l)
      else (.ok (), (Deed.acquire (heldRow stamp region taskName clientId)).apply l) := by
  obtain ⟨t, ht, own⟩ := hm.locks
  have hrows : l.lockRows = t.rows := rows_of_locks ht
  unfold commit acquire
  rw [exec_bind_of_ok (exec_storedTime hnow l), exec_get_bind, ht,
    own.require (List.Subset.refl _), exec_bind_of_ok (exec_pure t l)]
  dsimp only
  have hkey : (heldRow stamp region taskName clientId).key = lockKey taskName := rfl
  rw [exec_ite, own.keyed, Bool.true_and, Ledger.isHeld, hrows, hkey]
  by_cases h : t.rows.any (isFor (lockKey taskName) region) = true
  · rw [if_pos h, if_pos h]
    rfl
  · rw [if_neg h, if_neg h, Deed.apply, Ledger.mapLocks, ht]
    rfl

/-- While the clock shows no instant no lock is taken. -/
theorem commit_acquire_of_noInstant {f : TimeFault} (hnow : now.toInstant = .error f) :
    (acquire now region taskName clientId).commit l = (.error .statementUnbuilt, l) := by
  have hstamp : exec (storedTime now) l = (.error .statementUnbuilt, l) := by
    unfold storedTime
    rw [hnow]
    rfl
  rw [commit, acquire, exec_bind_of_error hstamp]

theorem acquire_ok {m : Ledger} {u : Unit} (hm : l.IsMade)
    (h : (acquire now region taskName clientId).commit l = (.ok u, m)) :
    ∃ stamp, now.toInstant = .ok stamp ∧ l.isHeld (lockKey taskName) region = false ∧
      m = (Deed.acquire (heldRow stamp region taskName clientId)).apply l := by
  have hexec := commit_eq_ok_iff.1 h
  obtain ⟨stamp, l₁, ht, -⟩ := exec_bind_ok_iff.1 hexec
  obtain ⟨hstamp, rfl⟩ := storedTime_ok ht
  refine ⟨stamp, hstamp, ?_⟩
  rw [commit_acquire hm hstamp] at h
  split at h
  · cases h
  · next hfree =>
    cases h
    exact ⟨Bool.eq_false_iff.2 hfree, rfl⟩

theorem commit_release (hm : l.IsMade) :
    (release region taskName).commit l =
      (.ok (l.isHeld (lockKey taskName) region),
        (Deed.release (lockKey taskName) region).apply l) := by
  obtain ⟨t, ht, own⟩ := hm.locks
  have hrows : l.lockRows = t.rows := rows_of_locks ht
  unfold commit release
  rw [exec_get_bind, ht, own.require keyColumns_subset, exec_bind_of_ok (exec_pure t l)]
  rw [Ledger.isHeld, hrows, Deed.apply, Ledger.mapLocks, ht]
  rfl

theorem commit_holder (hm : l.IsMade) :
    (holder region taskName).commit l = (.ok (l.lockOf (lockKey taskName) region), l) := by
  obtain ⟨t, ht, own⟩ := hm.locks
  unfold commit holder
  rw [exec_get_bind, ht, own.require (List.Subset.refl _), exec_bind_of_ok (exec_pure t l),
    Ledger.lockOf, rows_of_locks ht]
  rfl

theorem holder_isReading (region taskName : String) : (holder region taskName).IsReading :=
  IsReading.get.bind fun _ => (IsReading.require _ _).bind fun _ => IsReading.pure _

/-- Giving back a lock that is not held changes nothing. -/
theorem release_apply_of_free {key region : String} (h : l.isHeld key region = false) :
    (Deed.release key region).apply l = l := by
  rw [Ledger.isHeld, List.any_eq_false] at h
  obtain ⟨executions, parameters, links, locks, lastId⟩ := l
  cases locks with
  | none => rfl
  | some t =>
    have hkeep : t.rows.filter (fun r => !isFor key region r) = t.rows := by
      rw [List.filter_eq_self]
      intro r hr
      have := h r hr
      simpa using this
    simp [Deed.apply, Ledger.mapLocks, Table.withRows, hkeep]

end Lock

end RunLedger
