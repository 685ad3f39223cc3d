import RunLedger.Execution
import RunLedger.Paging.Page
import RunLedger.Store.Row
import RunLedger.Text.Column
import RunLedger.Value.Json

/-!
# Reports on the command line

Executions and locks as lines of text or as JSON.  Escape sequences that colour a terminal are
taken out of what is printed.
-/

namespace RunLedger.Command

def timeValue : Option Timestamp → Value
  | none => .null
  | some t => .text t.toText

def executionFields (e : Execution) : List (String × Value) :=
  [("execution_id", .ofInt? e.id), ("task_name", .ofText? e.taskName),
    ("start_time", timeValue e.startTime), ("end_time", timeValue e.endTime),
    ("exit_code", .ofInt? e.exitCode), ("exit_message", .ofText? e.exitMessage),
    ("error_message", .ofText? e.errorMessage),
    ("external_execution_id", .ofText? e.externalId),
    ("parent_execution_id", .ofInt? e.parentId),
    ("parameters", .list (e.parameters.map Value.text))]

/-- A name, or a dash where there is none. -/
def nameOrDash : Option String → String
  | none => "-"
  | some s => if s = "" then "-" else s

/-- An execution on one line, which begins with its number. -/
def executionLine (e : Execution) : Except Failure String :=
  match e.id with
  | none => .error .idNotPadded
  | some id => .ok (Text.padLeft 8 (toString id) ++ "  " ++
      Text.padRight 30 (nameOrDash e.taskName) ++ "  " ++
      Text.padRight 32 ((e.startTime.map Timestamp.toText).getD "-") ++ "  " ++
      Text.padRight 32 ((e.endTime.map Timestamp.toText).getD "running") ++ "  " ++
      (e.exitCode.map toString).getD "-")

/-- The lines of a report, up to the failure that ends it early, if there is one. -/
structure Printout where
  lines : List String
  failure : Option Failure
deriving Repr

namespace Printout

/-- A report that is printed to its end. -/
def ofLines (lines : List String) : Printout := ⟨lines, none⟩

/-- A report line by line; the first line that cannot be written ends it. -/
def ofEach : List (Except Failure String) → Printout
  | [] => ⟨[], none⟩
  | .error f :: _ => ⟨[], some f⟩
  | .ok line :: rest =>
    let p := ofEach rest
    { p with lines := line :: p.lines }

end Printout

def pageValue (p : Page Execution) : Value :=
  .map [("total", .int p.total), ("page_index", .int p.index), ("page_size", .int p.size),
    ("total_pages", .int p.totalPages),
    ("items", .list (p.items.map fun e => .map (executionFields e)))]

def pageLines (p : Page Execution) : Printout :=
  if p.items.isEmpty then .ofLines ["No task executions found."]
  else .ofEach (p.items.map executionLine ++ [.ok ("Page " ++ toString (p.index + 1) ++ " of " ++
    toString p.totalPages ++ " (" ++ toString p.total ++ " executions)")])

/-- An execution with its jobs, field by field. -/
def detailFields (e : Execution) (jobs : List Int) : List (String × Value) :=
  executionFields e ++ [("job_execution_ids", .list (jobs.map Value.int))]

def detailLines (e : Execution) (jobs : List Int) : List String :=
  (detailFields e jobs).map fun f => f.1 ++ ": " ++ f.2.display

/-- The lines on the executions of a task that have not ended. -/
def runningLines (taskName : String) (es : List Execution) : Printout :=
  if es.isEmpty then .ofLines ["No running executions of " ++ taskName ++ "."]
  else .ofEach (es.map executionLine)

def lockLine (taskName : String) : Option LockRow → String
  | none => taskName ++ " is not locked."
  | some l => taskName ++ " is locked by client " ++ l.clientId ++ " since " ++
      l.createdAt.toText ++ " (key " ++ l.key ++ ", region " ++ l.region ++ ")"

def releaseLine (taskName : String) (held : Bool) : String :=
  if held then "Released lock for " ++ taskName ++ "." else taskName ++ " was not locked."

def settingsErrorLines (errors : List FieldError) : List String :=
  "Configuration errors:" :: errors.map fun e =>
    "  - " ++ String.intercalate "." e.path ++ ": " ++ e.fault.message

/-! ## What reaches the terminal -/

/-- The text behind a colouring sequence, if the text begins with one. -/
def afterColour? : List Char → Option (List Char)
  | '\x1b' :: '[' :: rest =>
    match rest.dropWhile fun c => c = ';' || c = '?' || c.isDigit with
    | c :: after => if c.isAlpha then some after else none
    | [] => none
  | _ => none

theorem afterColour?_length {cs after : List Char} (h : afterColour? cs = some after) :
    after.length < cs.length := by
  unfold afterColour? at h
  split at h
  · next rest =>
    split at h
    · next c tail hd =>
      split at h
      · cases h
        have := (List.dropWhile_sublist (l := rest)
          fun c => c = ';' || c = '?' || c.isDigit).length_le
        rw [hd] at this
        simp only [List.length_cons] at this ⊢
        omega
      · cases h
    · cases h
  · cases h

def withoutColours (cs : List Char) : List Char :=
  match cs with
  | [] => []
  | c :: rest =>
    match _h : afterColour? (c :: rest) with
    | some after => withoutColours after
    | none => c :: withoutColours rest
termination_by cs.length
decreasing_by
  · exact afterColour?_length _h
  · simp

/-- Lines as they are printed. -/
def printed (lines : List String) : List Char :=
  lines.flatMap fun line => withoutColours line.toList ++ ['\n']

end RunLedger.Command
