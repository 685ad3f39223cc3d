import RunLedger.Number.Signed64
import RunLedger.Store.Ledger

/-!
# Transactions

A transaction is a run of statements over a ledger.  A statement that fails leaves what was written
before it in place; committing puts all of it back.

    (t.commit l).1 = .error e → (t.commit l).2 = l              (commit_error)
    (t.commit l).1 = .ok a → t.commit l = t.exec l              (commit_ok)

The parameters of the rows that are loaded are asked for in one statement with a variable for every
row, and the database takes no more than `variableLimit` variables in one.  The number is that of
SQLite as it is built by default; where it was built to take more, more rows are loaded than here.
-/

namespace RunLedger

/-- Statements over a ledger that end in a value or a failure, with the ledger as they leave it. -/
abbrev Transaction (α : Type) := ExceptT Failure (StateM Ledger) α

namespace Transaction

variable {α : Type}

/-- The outcome of a transaction and the ledger it leaves, without any clean-up. -/
def exec (t : Transaction α) (l : Ledger) : Except Failure α × Ledger := (ExceptT.run t).run l

/-- Runs a transaction as a whole: if it fails, the ledger is as it was before. -/
def commit (t : Transaction α) (l : Ledger) : Except Failure α × Ledger :=
  match t.exec l with
  | (.ok a, after) => (.ok a, after)
  | (.error f, _) => (.error f, l)

/-! ## Checks that come before a statement runs -/

/-- A table with the columns that a statement names; without them the statement is refused. -/
def require {ρ : Type} (table : Option (Table ρ)) (columns : List String) :
    Transaction (Table ρ) :=
  match table with
  | some t => if columns.all t.hasColumn then pure t else throw .statementRefused
  | none => throw .statementRefused

/-- Refuses a number that a column cannot hold. -/
def checkNumber (n : Int) : Transaction Unit :=
  if Signed64.holds n then pure () else throw .integerTooLarge

/-- Refuses a number, if there is one, that a column cannot hold. -/
def checkNumber? : Option Int → Transaction Unit
  | none => pure ()
  | some n => checkNumber n

/-- How many variables the database takes in one statement. -/
def variableLimit : Nat := 32766

/-- Refuses a statement with more variables than the database takes in one. -/
def checkVariables (count : Nat) : Transaction Unit :=
  if count ≤ variableLimit then pure () else throw .tooManyVariables

/-- The instant that a statement stores for a time; a statement with a time that no instant stands
for does not reach the database. -/
def storedTime (t : Timestamp) : Transaction Instant :=
  match t.toInstant with
  | .ok i => pure i
  | .error _ => throw .statementUnbuilt

/-! ## Executions -/

/-- The columns that every reading of executions names. -/
def executionColumns : List String := TableRole.executions.columns

/-- The rows of executions that meet a condition on the named columns. -/
def selectExecutions (columns : List String) (keep : ExecutionRow → Bool) :
    Transaction (List ExecutionRow) := do
  let t ← require (← get).executions columns
  pure (t.rows.filter keep)

/-- Puts a row into the executions table under the next number, and gives the number that the
row is known by. -/
def insertExecution (columns : List String) (row : ExecutionRow) : Transaction Int := do
  let t ← require (← get).executions columns
  checkNumber? row.parentId
  if t.keyed then
    let lastId := (← get).lastId
    if Signed64.greatest ≤ lastId then throw .statementRefused
    let id := lastId + 1
    modify fun l => { l with
      executions := some (t.withRows (t.rows ++ [{ row with id := some id }])), lastId := id }
    pure id
  else
    -- without keys the row bears no number, and is known by its place
    let place : Int := t.rows.length + 1
    modify fun l => { l with executions := some (t.withRows (t.rows ++ [{ row with id := none }])) }
    pure place

/-- Changes the executions that bear a number, and says how many there are. -/
def updateExecutions (columns : List String) (id : Int) (change : ExecutionRow → ExecutionRow) :
    Transaction Nat := do
  let t ← require (← get).executions columns
  checkNumber id
  modify fun l => { l with
    executions := some (t.withRows (t.rows.map fun r => if r.id = some id then change r else r)) }
  pure (t.rows.filter fun r => r.id = some id).length

def fetchExecution (id : Int) : Transaction ExecutionRow := do
  let t ← require (← get).executions executionColumns
  checkNumber id
  match t.rows.find? fun r => r.id = some id with
  | some r => pure r
  | none => throw (.executionNotFound id)

/-! ## Parameters -/

/-- Parameters numbered from a given position on. -/
def parameterRows (id : Int) : (index : Nat) → List String → List ParameterRow
  | _, [] => []
  | index, p :: ps => ⟨id, index, p⟩ :: parameterRows id (index + 1) ps

/-- Puts in one parameter.  A position is not taken twice. -/
def insertParameter (row : ParameterRow) : Transaction Unit := do
  let t ← require (← get).parameters TableRole.parameters.columns
  if t.keyed && t.rows.any fun r => r.executionId = row.executionId && r.index = row.index then
    throw .constraintViolated
  modify fun l => { l with parameters := some (t.withRows (t.rows ++ [row])) }

/-- Puts in parameters, one row after the other. -/
def insertEach : List ParameterRow → Transaction Unit
  | [] => pure ()
  | row :: rows => do
    insertParameter row
    insertEach rows

/-- Whether the executions table has the ledger's keys. -/
def hasKeyedExecutions (l : Ledger) : Bool :=
  match l.executions with
  | some t => t.keyed
  | none => false

/-- Puts in the parameters of an execution; keyed ones refer to the keys of executions. -/
def insertParameters (rows : List ParameterRow) : Transaction Unit := do
  let l ← get
  let t ← require l.parameters TableRole.parameters.columns
  if t.keyed && !hasKeyedExecutions l then throw .statementRefused
  insertEach rows

/-- The parameters of an execution among rows, in order of position. -/
def parametersOf (rows : List ParameterRow) (id : Int) : List String :=
  ((rows.filter fun r => r.executionId = id).mergeSort fun a b => a.index ≤ b.index).map (·.text)

/-- The parameters of a row's execution; a row without a number has none. -/
def rowParameters (rows : List ParameterRow) (r : ExecutionRow) : List String :=
  (r.id.map (parametersOf rows)).getD []

/-- The executions that rows make, with their parameters, in the order of the rows.  The parameters
table is read only if there is a row, by one statement with a variable for every row. -/
def loadExecutions (rows : List ExecutionRow) : Transaction (List Execution) := do
  if rows.isEmpty then pure []
  else
    checkVariables rows.length
    let t ← require (← get).parameters TableRole.parameters.columns
    rows.mapM fun r => (r.toExecution (rowParameters t.rows r) : Except Failure Execution)

/-- The execution that bears a number. -/
def loadExecution (id : Int) : Transaction Execution := do
  let row ← fetchExecution id
  let t ← require (← get).parameters TableRole.parameters.columns
  (row.toExecution (rowParameters t.rows row) : Except Failure Execution)

/-! ## Lemmas -/

theorem commit_error {t : Transaction α} {l : Ledger} {f : Failure}
    (h : (t.commit l).1 = .error f) : (t.commit l).2 = l := by
  unfold commit at h ⊢
  split <;> simp_all

theorem commit_ok {t : Transaction α} {l : Ledger} {a : α} (h : (t.commit l).1 = .ok a) :
    t.commit l = t.exec l := by
  unfold commit at h ⊢
  split
  · next he => rw [he]
  · simp_all

end Transaction

end RunLedger
