import RunLedger.Lock.Key
import RunLedger.Store.Transaction

/-!
# Holding locks

A task's lock is a row with the task's key in a region.  Taking it is putting in that row, which
fails if it is there; giving it back is deleting the row, whoever put it in.  A lock does not lapse,
and its holder cannot take it twice.
-/

namespace RunLedger.Lock

open Transaction

/-- The columns that find a lock. -/
def keyColumns : List String := ["lock_key", "region"]

/-- The row of a lock taken for a task. -/
def heldRow (now : Instant) (region taskName clientId : String) : LockRow :=
  ⟨lockKey taskName, region, clientId, now⟩

/-- Whether a row is that of a key in a region. -/
def isFor (key region : String) (r : LockRow) : Bool := r.key == key && r.region == region

def acquire (now : Timestamp) (region taskName clientId : String) : Transaction Unit := do
  let stamp ← storedTime now
  let t ← require (← get).locks TableRole.locks.columns
  let row := heldRow stamp region taskName clientId
  if t.keyed && t.rows.any (isFor row.key region) then
    throw (.alreadyHeld taskName row.key)
  modify fun l => { l with locks := some (t.withRows (t.rows ++ [row])) }

/-- Gives back the lock of a task, and says whether it was held. -/
def release (region taskName : String) : Transaction Bool := do
  let t ← require (← get).locks keyColumns
  let key := lockKey taskName
  modify fun l => { l with
    locks := some (t.withRows (t.rows.filter fun r => !isFor key region r)) }
  pure (t.rows.any (isFor key region))

/-- The row of a task's lock, if it is held. -/
def holder (region taskName : String) : Transaction (Option LockRow) := do
  let t ← require (← get).locks TableRole.locks.columns
  pure (t.rows.find? (isFor (lockKey taskName) region))

end RunLedger.Lock
