import RunLedger.Failure
import RunLedger.Logging.Level
import RunLedger.Text.Case
import RunLedger.Value.Entries

/-!
# Loggers

Loggers stand below each other by the dots in their names, as far as they have been asked for.  A
logger whose level is not set has that of the nearest one above it whose level is set, and else that
of the root.  What passes its logger's level goes to every output of the root.  Configuring puts one
output in place of all, and keeps the database library's chatter down.
-/

namespace RunLedger

/-- How logs are to be printed: as JSON or for a console, and from which level on. -/
structure LogSetup where
  json : Bool
  level : LogLevel
deriving Repr, DecidableEq, Inhabited

/-- The setup that a caller asks for; the level's name counts in any case. -/
def LogSetup.ofName? (json : Bool) (level : String) : Option LogSetup :=
  (LogLevel.ofName? (Text.uppered level)).map fun l => ⟨json, l⟩

/-- Where printed lines go, and in which form. -/
inductive LogOutput where
  | json
  | console
deriving Repr, DecidableEq, Inhabited

/-- The loggers of a process: the levels that are set by name, the root's level, the root's outputs,
and the names of the loggers that events came from. -/
structure Loggers where
  levels : List (String × LogLevel)
  rootLevel : LogLevel
  outputs : List LogOutput
  asked : List String
deriving Repr, DecidableEq

namespace Loggers

/-! ## Levels -/

/-- The names above a name, nearest first, all of them written backwards.  Each is cut at a dot with
something before it.  A dot right before such a cut is passed over, unless the name that ends there
is itself that of a logger which was asked for. -/
def above (asked : List String) : List Char → List (List Char)
  | [] => []
  | ['.'] => []
  | '.' :: c :: rest =>
    (c :: rest) :: if String.ofList (c :: rest).reverse ∈ asked then above asked (c :: rest)
      else above asked rest
  | _ :: rest => above asked rest

/-- A name and the names above it, nearest first. -/
def lineage (asked : List String) (logger : String) : List String :=
  logger :: (above asked logger.toList.reverse).map fun name => String.ofList name.reverse

/-- The level from which on a logger's events are printed. -/
def threshold (ls : Loggers) (logger : String) : LogLevel :=
  ((lineage ls.asked logger).findSome? fun name => ls.levels.lookup name).getD ls.rootLevel

/-- Whether an event of a logger is printed. -/
def prints (ls : Loggers) (logger : String) (level : LogLevel) : Bool :=
  (ls.threshold logger).rank ≤ level.rank

/-- The loggers once an event came from one of them. -/
def ask (logger : String) (ls : Loggers) : Loggers := { ls with asked := ls.asked ++ [logger] }

/-! ## Configuring -/

/-- The database library's own logger. -/
def libraryLogger : String := "sqlalchemy"

/-- The database library's loggers of statements and connections, which are never worth less than
a warning. -/
def quietLoggers : List String :=
  ["sqlalchemy.engine", "sqlalchemy.pool", "sqlalchemy.dialects", "sqlalchemy.orm"]

/-- The loggers of a process that has configured nothing. -/
def initial : Loggers := ⟨[(libraryLogger, .warning)], .warning, [], []⟩

def setLevels (names : List String) (level : LogLevel) (levels : List (String × LogLevel)) :
    List (String × LogLevel) :=
  names.foldl (fun set name => putEntry name level set) levels

/-- The loggers as a setup asks for. -/
def configure (s : LogSetup) (ls : Loggers) : Loggers where
  levels := setLevels quietLoggers (s.level.atLeast .warning) ls.levels
  rootLevel := s.level
  outputs := [if s.json then .json else .console]
  asked := ls.asked

/-- The loggers after a call that asks for a setup by form and level. -/
def configureNamed (json : Bool) (level : String) (ls : Loggers) : Except Failure Loggers :=
  match LogSetup.ofName? json level with
  | some s => .ok (ls.configure s)
  | none => .error (.badArgument (.logLevelUnknown level))

/-- The loggers after such calls, one after another. -/
def configureAll (calls : List (Bool × String)) (ls : Loggers) : Except Failure Loggers :=
  calls.foldlM (fun ls call => ls.configureNamed call.1 call.2) ls

end Loggers

end RunLedger
