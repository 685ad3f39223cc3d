import RunLedger.Proofs.Command.Release

/-!
# Calls as deeds

The deed that a call of a session does to the session's ledger.  Calls that open the ledger anew
and statements that someone makes on its tables by hand are left out: they are no business of the
ledger's rules.

    s.ledger.IsMade → c.isRegular = true →
      DoneIn? (c.deed? s) s.ledger (s.perform c.run).2.ledger                (Call.run_doneIn)
    c.keepsOpen = true → SameSetup s (s.perform c.run).2                     (Call.run_sameSetup)
-/

namespace RunLedger.Call

open Session SessionM

/-- Whether a call is one of the ledger's own operations, or closes the handle: not one that opens
another ledger, drops a table or puts in a row by hand. -/
def isRegular : Call → Bool
  | reopen _ | dropTable _ | insertRow _ => false
  | _ => true

/-- Whether a call is regular and leaves the handle open. -/
def keepsOpen : Call → Bool
  | close => false
  | c => c.isRegular

/-- The deed that a call does to the session's ledger, as its outcome tells. -/
def deed? (c : Call) (s : Session) : Option Deed :=
  match c with
  | command settings arguments =>
    let (disk, arguments) := commandOn s.disk settings arguments
    Command.deed? s.plan.environment s.clock arguments disk s.handle.place s.handle.tablePrefix
  | c => (c.write? s).bind fun w => w.told s.clock (s.perform (w.run s.epoch)).1

theorem keepsOpen_isRegular {c : Call} (h : c.keepsOpen = true) : c.isRegular = true := by
  cases c <;> first | rfl | exact h

/-! ## Commands -/

theorem commandOn_ledgerAt (disk : Disk) (settings : Option (List (String × Value)))
    (arguments : List String) (place : Location) (q : String) :
    (commandOn disk settings arguments).1.ledgerAt place q = disk.ledgerAt place q := by
  cases settings <;> rfl

theorem command_doneIn (settings : Option (List (String × Value))) (arguments : List String)
    {s : Session} {place : Location} {q : String} (hm : (s.disk.ledgerAt place q).IsMade) :
    DoneIn? (Command.deed? s.plan.environment s.clock (commandOn s.disk settings arguments).2
        (commandOn s.disk settings arguments).1 place q) (s.disk.ledgerAt place q)
      ((s.perform (run (command settings arguments))).2.disk.ledgerAt place q) := by
  have hsame := commandOn_ledgerAt s.disk settings arguments place q
  have hmade : ((commandOn s.disk settings arguments).1.ledgerAt place q).IsMade := by
    rw [hsame]
    exact hm
  have hdone : DoneIn? (Command.deed? s.plan.environment s.clock
      (commandOn s.disk settings arguments).2 (commandOn s.disk settings arguments).1
      place q) _ _ := Command.run_doneIn hmade
  rw [hsame] at hdone
  exact hdone

/-! ## Locks that the session has no client for -/

theorem perform_lockClient_of_none {lock : Nat} {s : Session} (h : s.locks[lock]? = none) :
    s.perform (lockClient lock) = (.error (.configuration .lockMissing), s) := by
  rw [lockClient, perform_get_bind, h]
  rfl

theorem perform_acquire_of_noClient {lock : Nat} {s : Session} (h : s.locks[lock]? = none)
    (taskName : String) (other : Option String) :
    s.perform (run (acquire lock taskName other)) =
      (.error (.configuration .lockMissing), s) := by
  rw [run, perform_get_bind]
  exact perform_bind_of_error (perform_lockClient_of_none h)

theorem perform_release_of_noClient {lock : Nat} {s : Session} (h : s.locks[lock]? = none)
    (taskName : String) :
    s.perform (run (release lock taskName)) = (.error (.configuration .lockMissing), s) := by
  rw [run, perform_get_bind]
  exact perform_bind_of_error (perform_lockClient_of_none h)

/-- Taking a lock is a call that writes if the session has the client that it names; otherwise it
does nothing. -/
theorem acquire_cases (lock : Nat) (taskName : String) (other : Option String) (s : Session) :
    (∃ w, (acquire lock taskName other).write? s = some w) ∨
      (acquire lock taskName other).deed? s = none ∧
        (s.perform (run (acquire lock taskName other))).2 = s := by
  cases hc : s.locks[lock]? with
  | some client =>
    refine .inl ⟨.acquire client taskName other, ?_⟩
    rw [write?, hc]
    rfl
  | none =>
    refine .inr ⟨?_, by rw [perform_acquire_of_noClient hc]⟩
    rw [deed?, write?, hc]
    · rfl
    · simp

theorem release_cases (lock : Nat) (taskName : String) (s : Session) :
    (∃ w, (release lock taskName).write? s = some w) ∨
      (release lock taskName).deed? s = none ∧
        (s.perform (run (release lock taskName))).2 = s := by
  cases hc : s.locks[lock]? with
  | some client =>
    refine .inl ⟨.release client taskName, ?_⟩
    rw [write?, hc]
    rfl
  | none =>
    refine .inr ⟨?_, by rw [perform_release_of_noClient hc]⟩
    rw [deed?, write?, hc]
    · rfl
    · simp

/-! ## Any call -/

theorem deed?_of_write {c : Call} {w : Write} {s : Session} (hw : c.write? s = some w) :
    c.deed? s = w.told s.clock (s.perform (w.run s.epoch)).1 := by
  rw [deed?, hw]
  · rfl
  · intro settings arguments hc
    rw [hc] at hw
    cases hw

theorem write_doneIn {c : Call} {w : Write} {s : Session} (hm : s.ledger.IsMade)
    (hw : c.write? s = some w) : DoneIn? (c.deed? s) s.ledger (s.perform c.run).2.ledger := by
  rw [deed?_of_write hw, perform_run_of_write hw]
  exact Write.run_doneIn hm _ _

/-- A regular call does the deed that it tells of, and nothing else. -/
theorem run_doneIn {c : Call} {s : Session} (hm : s.ledger.IsMade) (h : c.isRegular = true) :
    DoneIn? (c.deed? s) s.ledger (s.perform c.run).2.ledger := by
  cases c with
  | create | start | complete | setExternalId | recordLink => exact write_doneIn hm rfl
  | acquire lock taskName other =>
    rcases acquire_cases lock taskName other s with ⟨w, hw⟩ | ⟨hnone, hsame⟩
    · exact write_doneIn hm hw
    · rw [hnone, hsame]
      rfl
  | release lock taskName =>
    rcases release_cases lock taskName s with ⟨w, hw⟩ | ⟨hnone, hsame⟩
    · exact write_doneIn hm hw
    · rw [hnone, hsame]
      rfl
  | command settings arguments => exact command_doneIn settings arguments hm
  | setClock | close => rfl
  | reopen | dropTable | insertRow => cases h
  | _ => exact (run_isReading rfl s).2

/-- The task's name and the region for which a call asks a lock to be given back: through one of the
session's clients, or by a command. -/
def released? (s : Session) : Call → Option (String × String)
  | release lock taskName => s.locks[lock]?.map fun client => (taskName, client.region)
  | command settings arguments =>
    Command.released? s.plan.environment (commandOn s.disk settings arguments).1
      (commandOn s.disk settings arguments).2
  | _ => none

theorem write_sameSetup {c : Call} {w : Write} {s : Session} (hw : c.write? s = some w) :
    SameSetup s (s.perform c.run).2 := by
  rw [perform_run_of_write hw]
  exact (Write.run_isFramed s.epoch w s).toSameSetup

theorem run_sameSetup {c : Call} (h : c.keepsOpen = true) (s : Session) :
    SameSetup s (s.perform c.run).2 := by
  cases c with
  | create | start | complete | setExternalId | recordLink =>
    exact write_sameSetup (w := _) rfl
  | acquire lock taskName other =>
    rcases acquire_cases lock taskName other s with ⟨w, hw⟩ | ⟨-, hsame⟩
    · exact write_sameSetup hw
    · rw [hsame]
      exact SameSetup.refl s
  | release lock taskName =>
    rcases release_cases lock taskName s with ⟨w, hw⟩ | ⟨-, hsame⟩
    · exact write_sameSetup hw
    · rw [hsame]
      exact SameSetup.refl s
  | command | setClock => exact ⟨rfl, rfl, rfl, rfl, rfl⟩
  | close | reopen | dropTable | insertRow => cases h
  | _ => exact (run_isReading rfl s).1.toSameSetup

end RunLedger.Call
