import RunLedger.Store.Transaction

/-!
# Links to batch jobs

Which jobs an execution ran.  Links are kept as rows of the ledger, or in a notebook in memory
where there is no ledger for them.  Either way the answers depend on the set of links alone.
-/

namespace RunLedger

/-- Numbers in ascending order, each once. -/
def ascending (ns : List Int) : List Int := ns.eraseDups.mergeSort fun a b => a ≤ b

def least? (ns : List Int) : Option Int := (ascending ns).head?

namespace Link

open Transaction

def jobsAmong (links : List LinkRow) (executionId : Int) : List Int :=
  ascending ((links.filter fun r => r.executionId = executionId).map (·.jobId))

/-- The execution linked to a job; of several the one with the least number. -/
def executionAmong (links : List LinkRow) (jobId : Int) : Option Int :=
  least? ((links.filter fun r => r.jobId = jobId).map (·.executionId))

/-- Records a link in the ledger; one that is there already is recorded again. -/
def record (executionId jobId : Int) : Transaction LinkRow := do
  let t ← require (← get).links TableRole.links.columns
  checkNumber executionId
  checkNumber jobId
  let row : LinkRow := ⟨executionId, jobId⟩
  modify fun l => { l with links := some (t.withRows (t.rows ++ [row])) }
  pure row

/-- The jobs that the ledger links to an execution. -/
def jobsOf (executionId : Int) : Transaction (List Int) := do
  let t ← require (← get).links TableRole.links.columns
  checkNumber executionId
  pure (jobsAmong t.rows executionId)

/-- The execution that the ledger links to a job. -/
def executionOf (jobId : Int) : Transaction (Option Int) := do
  let t ← require (← get).links TableRole.links.columns
  checkNumber jobId
  pure (executionAmong t.rows jobId)

end Link

/-! ## In memory -/

/-- Links kept in memory: for each execution the jobs that it ran, each once. -/
abbrev LinkNotebook := List (Int × List Int)

namespace LinkNotebook

/-- The notebook with one more link. -/
def record (executionId jobId : Int) : LinkNotebook → LinkNotebook
  | [] => [(executionId, [jobId])]
  | (e, jobs) :: rest =>
    if e = executionId then (e, if jobs.contains jobId then jobs else jobs ++ [jobId]) :: rest
    else (e, jobs) :: record executionId jobId rest

/-- The jobs linked to an execution. -/
def jobsOf (book : LinkNotebook) (executionId : Int) : List Int :=
  ascending ((book.lookup executionId).getD [])

/-- The execution linked to a job; of several the one with the least number. -/
def executionOf (book : LinkNotebook) (jobId : Int) : Option Int :=
  least? ((book.filter fun e => e.2.contains jobId).map (·.1))

end LinkNotebook

end RunLedger
