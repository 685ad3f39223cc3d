import RunLedger.Proofs.Run.History
import RunLedger.Proofs.Session.Schema
import RunLedger.Proofs.Session.Served

/-!
# Runs on ledgers that were found

What a session can do to its ledger through the handle takes no table and no column away.  A ledger
that was found without gaps thus refuses no statement for a table or a column, at any point of any
run.  One that was found with a gap that the check does not see keeps it: opening it comes through,
and the calls that need the missing column are refused.

    s.ledger.IsComplete → (∀ m ∈ ms, m.allows Call.usesHandle) →
      (runAll ms s).ledger.bare = s.ledger.bare                                 (Move.bare_runAll)
    (found disk s.handle.place s.handle.tablePrefix).IsWhole →
      ((runAll ms s).perform c.run).1 = .error .statementRefused →
        c.mayBeRefused (runAll ms s) = true                                     (served_of_fresh)
-/

namespace RunLedger

open Session

namespace Move

variable {s : Session}

theorem bare_run (hl : s.ledger.IsComplete) {m : Move} (h : m.allows Call.usesHandle = true) :
    (m.run s).ledger.bare = s.ledger.bare := by
  cases m with
  | tick => exact congrArg Ledger.bare (ledger_tick s)
  | attempt | remark => rfl
  | call c => exact (Call.serves_run hl h).bare
  | write epoch w => exact (Write.serves_run hl epoch w).bare

theorem bare_runAll (hl : s.ledger.IsComplete) {ms : List Move}
    (h : ∀ m ∈ ms, m.allows Call.usesHandle = true) :
    (runAll ms s).ledger.bare = s.ledger.bare :=
  runAll_induction (P := fun t => t.ledger.bare = s.ledger.bare)
    (fun m hm _ hbare => (bare_run (hl.congr hbare) (h m hm)).trans hbare) rfl

end Move

namespace Session

/-! ## A ledger that was made elsewhere -/

/-- A database with the tables of a ledger, made elsewhere; the locks have these columns. -/
def madeElsewhere (lockColumns : List String) : Database :=
  ⟨[("task_", {
    executions := some (.foreign "task_execution" TableRole.executions.columns)
    parameters := some (.foreign "task_execution_params" TableRole.parameters.columns)
    links := some (.foreign "task_task_batch" TableRole.links.columns)
    locks := some (.foreign "task_lock" lockColumns)
    lastId := 0 })], []⟩

/-- A plan for a ledger in a file, with one client of locks. -/
def filePlan : Plan :=
  ⟨"sqlite:///db", [⟨"DEFAULT", some "client"⟩], .ledger, .parts false false false, []⟩

theorem target_filePlan (db : Database) :
    target ⟨[(.file "db", db)], []⟩ filePlan.url none = .ok (.file "db", .sqlite) := by
  -- splitting a text does not evaluate by itself, and is unfolded equation by equation
  have hsplit : "db".splitOn "/" = ["db"] := by
    rw [String.splitOn, if_neg (by decide), String.splitOnAux, String.splitOnAux,
      String.splitOnAux]
    decide +kernel
  have steps : Text.pathSteps "db" = ["db"] := by
    rw [Text.pathSteps, hsplit]
    decide
  have hplace : Location.ofPath "db" = .file "db" := by
    have hresolved : Text.resolvedPath "db" = "db" := by
      rw [Text.resolvedPath, steps]
      decide +kernel
    rw [Location.ofPath, hresolved]
    rfl
  have hreach : (Location.file "db").isReachable = true := by
    rw [Location.isReachable, steps]
    decide
  have url : DatabaseUrl.ofText? filePlan.url = some ⟨"sqlite", "", "", "", "", "db"⟩ := by
    decide +kernel
  have hlocate : locate ⟨[(.file "db", db)], []⟩ filePlan.url = .ok (.file "db") := by
    rw [locate, url]
    simp [DatabaseUrl.portNumber, embeddedDrivers, DatabaseUrl.namesServer, hplace, hreach,
      Disk.keepsSettings, Disk.file?]
    rfl
  have hdialect : settleDialect filePlan.url none = .ok .sqlite := by rfl
  rw [target, hlocate, hdialect]
  rfl

/-! ## Runs from an opening -/

variable {plan : Plan} {clock : Timestamp} {disk d : Disk} {o : Opening} {s : Session}

/-- Opening a ledger with its tables made leaves every table there, without the columns only that it
was found without; not without those that the check asks for, where the tables bear exactly the
ledger's names.  If it was found without gaps, then at any point of any run through the handle the
database refuses a call only for what the call and the ledger tell beforehand: never for a table or
a column that is missing. -/
theorem served_of_fresh (h : fresh plan clock disk o = (.ok s, d))
    (hcreate : o.createTables = true) :
    (∀ role, s.ledger.has role = true ∧ ∀ column ∈ role.columns,
      (s.ledger.hasColumn role column = true ↔
        ((found disk s.handle.place s.handle.tablePrefix).has role = true →
          (found disk s.handle.place s.handle.tablePrefix).hasColumn role column = true))) ∧
    (∀ role column, (role, column) ∈ Database.requiredColumns → ∀ columns,
      Database.exactColumns? (found disk s.handle.place s.handle.tablePrefix) s.handle.tablePrefix
        role = some columns → column ∈ columns) ∧
    ((found disk s.handle.place s.handle.tablePrefix).IsWhole →
      ∀ ms : List Move, (∀ m ∈ ms, m.allows Call.usesHandle = true) →
        ∀ c : Call, c.usesHandle = true →
          ((Move.runAll ms s).perform c.run).1 = .error .statementRefused →
            c.mayBeRefused (Move.runAll ms s) = true) := by
  refine ⟨hasColumn_of_fresh h hcreate, fun role column hrequired columns hexact =>
    mem_of_fresh h hcreate hrequired hexact, fun hwhole ms hms c hc hrefused => ?_⟩
  have hcomplete := (isComplete_of_fresh h hcreate).2 hwhole
  have hafter := hcomplete.congr (Move.bare_runAll hcomplete hms)
  exact (Call.serves_run hafter hc).refused hrefused

/-- The theorem on a ledger that was made elsewhere with all its columns. -/
theorem served_of_fresh_madeElsewhere :
    ∃ s d, fresh filePlan Instant.first.toUtc
        ⟨[(.file "db", madeElsewhere TableRole.locks.columns)], []⟩ Opening.default = (.ok s, d) ∧
      (∀ role, s.ledger.has role = true) ∧
      ∀ ms : List Move, (∀ m ∈ ms, m.allows Call.usesHandle = true) →
        ∀ c : Call, c.usesHandle = true →
          ((Move.runAll ms s).perform c.run).1 = .error .statementRefused →
            c.mayBeRefused (Move.runAll ms s) = true := by
  have hopen : (madeElsewhere TableRole.locks.columns).openLedger filePlan.url "task_" true =
      (.ok (), madeElsewhere TableRole.locks.columns) := rfl
  have hfresh : fresh filePlan Instant.first.toUtc _ Opening.default = _ :=
    fresh_of_target (target_filePlan (madeElsewhere TableRole.locks.columns)) hopen
  have hserved := served_of_fresh hfresh rfl
  refine ⟨_, _, hfresh, fun role => (hserved.1 role).1, hserved.2.2 ?_⟩
  intro role _
  cases role <;> decide

/-- The check does not ask for the time at which a lock was taken: a ledger whose locks lack it is
opened, and refuses to take a lock. -/
theorem acquire_refused_foundWithout :
    ∃ s d, fresh filePlan Instant.first.toUtc
        ⟨[(.file "db", madeElsewhere ["lock_key", "region", "client_id"])], []⟩
        Opening.default = (.ok s, d) ∧
      "created_date" ∈ TableRole.locks.columns ∧
      s.ledger.hasColumn .locks "created_date" = false ∧
      (s.perform (Call.acquire 0 "t" none).run).1 = .error .statementRefused := by
  have hopen : (madeElsewhere ["lock_key", "region", "client_id"]).openLedger filePlan.url "task_"
      true = (.ok (), madeElsewhere ["lock_key", "region", "client_id"]) := rfl
  refine ⟨_, _, fresh_of_target (target_filePlan _) hopen, by decide, ?_, ?_⟩
  · rfl
  · rfl

end Session

end RunLedger
