import RunLedger.Command.Number
import RunLedger.Command.Options

/-!
# Command-line requests

What the arguments of the command line ask for: help, the version, or one of the operations on a
ledger.  Arguments that ask for nothing sensible are a misuse.
-/

namespace RunLedger.Command

/-- The operations on a ledger. -/
inductive Operation where
  | list (taskName : Option String) (page size : Int) (json : Bool)
  | detail (executionId : Int) (json : Bool)
  | running (taskName : String)
  | lockStatus (taskName : String)
  | lockRelease (taskName : String)
deriving Repr, DecidableEq

/-- An operation, and where and how it is carried out. -/
structure Invocation where
  settingsPath : Option String
  url : Option String
  verbose : Bool
  jsonLogs : Bool
  operation : Operation
deriving Repr, DecidableEq

/-- What the arguments ask for. -/
inductive Request where
  | help
  | version
  | misuse
  | invoke (i : Invocation)
deriving Repr, DecidableEq

def helpOption : OptionSpec := ⟨"help", ["--help"], false⟩

/-- The options before the first command. -/
def rootOptions : List OptionSpec :=
  [⟨"version", ["--version", "-V"], false⟩, ⟨"settings", ["--settings", "-s"], true⟩,
    ⟨"url", ["--url"], true⟩, ⟨"verbose", ["--verbose", "-v"], false⟩,
    ⟨"json-logs", ["--json-logs"], false⟩, helpOption]

def listOptions : List OptionSpec :=
  [⟨"task", ["--task", "-t"], true⟩, ⟨"page", ["--page", "-p"], true⟩,
    ⟨"size", ["--size", "-n"], true⟩, ⟨"json", ["--json"], false⟩, helpOption]

def showOptions : List OptionSpec := [⟨"json", ["--json"], false⟩, helpOption]

/-- What a command asks for: help, a misuse, or an operation. -/
inductive Asked where
  | help
  | misuse
  | operation (o : Operation)
deriving Repr, DecidableEq

/-- A number not less than a bound, or the default where none is given. -/
def readBounded (least absent : Int) (given : Option String) : Option Int :=
  match given with
  | none => some absent
  | some s =>
    match readInt? s with
    | some n => if least ≤ n then some n else none
    | none => none

/-- What a command with options asks for, once its options are read. -/
def askWith (specs : List OptionSpec) (args : List String) (read : Options → Option Operation) :
    Asked :=
  match readOptions specs true args with
  | none => .misuse
  | some o =>
    if o.has "help" then .help
    else
      match read o with
      | some operation => .operation operation
      | none => .misuse

/-- An operation on the one argument that there is. -/
def withArgument (operation : String → Operation) (o : Options) : Option Operation :=
  match o.rest with
  | [name] => some (operation name)
  | _ => none

def readListing (o : Options) : Option Operation := do
  let page ← readBounded 0 0 (o.value? "page")
  let size ← readBounded 1 20 (o.value? "size")
  if o.rest.isEmpty then some (.list (o.value? "task") page size (o.has "json")) else none

def readShowing (o : Options) : Option Operation :=
  match o.rest with
  | [s] => (readInt? s).map fun id => .detail id (o.has "json")
  | _ => none

/-- The commands of a group. -/
abbrev Group := List (String × (List String → Asked))

def executionCommands : Group :=
  [("list", fun args => askWith listOptions args readListing),
    ("show", fun args => askWith showOptions args readShowing),
    ("running", fun args => askWith [helpOption] args (withArgument .running))]

def lockCommands : Group :=
  [("status", fun args => askWith [helpOption] args (withArgument .lockStatus)),
    ("release", fun args => askWith [helpOption] args (withArgument .lockRelease))]

def groups : List (String × Group) :=
  [("executions", executionCommands), ("lock", lockCommands)]

/-- What a group's arguments ask for.  Arguments that begin with no command are read as options
once more, so that help can be asked for behind two dashes. -/
def askGroup (group : Group) (args : List String) : Asked :=
  match readOptions [helpOption] false args with
  | none => .misuse
  | some o =>
    if o.has "help" then .help
    else
      match o.rest with
      | [] => .misuse
      | name :: args =>
        match group.lookup name with
        | some ask => ask args
        | none =>
          match readOptions [helpOption] false (name :: args) with
          | some o => if o.has "help" then .help else .misuse
          | none => .misuse

/-- Whether help or the version is asked for, by the option that comes first. -/
def eager? (o : Options) : Option Request :=
  match o.found.find? fun f => f.1 == "help" || f.1 == "version" with
  | some f => if f.1 = "help" then some .help else some .version
  | none => none

/-- What the arguments of the command line ask for.  Arguments that begin with no group are read as
options once more. -/
def Request.ofArguments (args : List String) : Request :=
  match readOptions rootOptions false args with
  | none => .misuse
  | some o =>
    match eager? o with
    | some request => request
    | none =>
      match o.rest with
      | [] => .misuse
      | name :: args =>
        match groups.lookup name with
        | none => ((readOptions rootOptions false (name :: args)).bind eager?).getD .misuse
        | some group =>
          match askGroup group args with
          | .help => .help
          | .misuse => .misuse
          | .operation operation =>
            .invoke ⟨o.value? "settings", o.value? "url", o.has "verbose", o.has "json-logs",
              operation⟩

end RunLedger.Command
