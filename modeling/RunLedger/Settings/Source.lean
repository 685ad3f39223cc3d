import RunLedger.Failure
import RunLedger.Settings.Basic
import RunLedger.Settings.Expansion
import RunLedger.Settings.Marker
import RunLedger.Settings.Merge
import RunLedger.Text.Blank
import RunLedger.Toml.Reader

/-!
# Where settings come from

A settings file gives a mapping whose keys match in any case.  Environment variables that begin
with `TASKLEDGER_` override its entries one by one; a doubled underscore or a dot in a name leads
into an entry that is itself a mapping.  References are replaced after that, and the result is
checked.

The text of such a variable is read as a value of TOML where it is one; otherwise it stands for
itself.  A marked text, in the file or in a variable, is read as its marker says.

Two things are assumed of what is read.  No variable is set that begins with `DYNACONF_`, which would
give settings too, or that ends in `_FOR_DYNACONF`, which would change how they are read.  And no
text begins with a marker other than those of `Marker`, such as `@format`, `@jinja`, `@merge` or
`@reset`.
-/

namespace RunLedger

namespace Settings

/-! ## Values of variables -/

/-- The words for truth values in environment variables, as they are often written. -/
def capitalWords : List String := ["True", "False"]

/-- The text of a variable as it is read: a capitalised truth value is put in lower case. -/
def variableText (s : String) : String :=
  if capitalWords.contains (Text.trimmed s) then Text.lowered s else s

/-- The key that the value of a variable is read behind. -/
def valueKey : String := "key"

/-- The value that the text of a variable stands for. -/
def variableValue (s : String) : Value :=
  let text := variableText s
  match marked? text with
  | some v => v
  | none => ((Toml.ofText? (valueKey ++ "=" ++ text)).bind (·.lookup valueKey)).getD (.text text)

/-! ## Putting the sources together -/

/-- What the overriding variables begin with. -/
def variableStart : String := "TASKLEDGER_"

/-- The name and value that an environment variable gives to a setting, if it is one of those. -/
def override? (binding : String × String) : Option (String × Value) :=
  (Text.afterPrefix? variableStart.toList binding.1.toList).map fun name =>
    (String.ofList name, variableValue binding.2)

/-- The length of a name's part before its first doubled underscore. -/
def stemLength : List Char → Nat
  | [] => 0
  | '_' :: '_' :: _ => 0
  | _ :: rest => stemLength rest + 1

/-- A file's key with its part before the first doubled underscore in upper case. -/
def foldKey (k : String) : String :=
  let cs := k.toList
  String.ofList (Text.upper (cs.take (stemLength cs)) ++ cs.drop (stemLength cs))

/-- The entries of a settings file under their folded keys; of keys that become the same the last
one counts. -/
def ofFile (file : List (String × Value)) : List (String × Value) :=
  ofEntries (file.map fun e => (foldKey e.1, e.2))

mutual

/-- A value with the keys of its mappings in lower case. -/
def lowerKeys : Value → Value
  | .map entries => .map (ofEntries (lowerEntries entries))
  | v => v

/-- Entries with their keys in lower case, all the way down. -/
def lowerEntries : List (String × Value) → List (String × Value)
  | [] => []
  | (k, v) :: rest => (Text.lowered k, lowerKeys v) :: lowerEntries rest

end

/-- The mapping that a file and the environment give together, by field. -/
def merged (file : List (String × Value)) (env : Environment) : List (String × Value) :=
  let all := ofFile file ++ env.filterMap override?
  ofEntries (lowerEntries (all.foldl (fun entries e => put e.1 (castMarked e.2) entries) []))

/-- The settings that a file gives in an environment. -/
def ofSources (file : List (String × Value)) (env : Environment) : Checked Settings :=
  check (Value.expandEntries env (merged file env))

/-- The settings in the file at a path, which may be missing. -/
def load (path : String) (file : Option (List (String × Value))) (env : Environment) :
    Except Failure Settings :=
  match file with
  | none => .error (.settingsFileMissing path)
  | some entries =>
    match ofSources entries env with
    | .ok s => .ok s
    | .error errors => .error (.settingsInvalid errors)

end Settings

end RunLedger
