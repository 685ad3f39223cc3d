import RunLedger.Store.Database
import RunLedger.Text.Path
import RunLedger.Value.Basic

/-!
# The working directory

Where databases and settings files are.  A database is in memory or in a file; the working
directory holds files only, so a path that leads through a directory leads nowhere.
-/

namespace RunLedger

/-- Where a database is: in memory, or in a file of the working directory. -/
inductive Location where
  | memory
  | file (path : String)
deriving Repr, DecidableEq, Inhabited

namespace Location

/-- The path that stands for the memory. -/
def memoryPath : String := ":memory:"

def ofPath (path : String) : Location :=
  if path = "" || path = memoryPath then memory else file (Text.resolvedPath path)

/-- Whether a database can be made in the place: in memory, or in a file right in the working
directory or one above it. -/
def isReachable : Location → Bool
  | memory => true
  | file path =>
    (Text.rootSlashes path.toList).isEmpty &&
      ((Text.pathSteps path).filter (· ≠ Text.stepUp)).length = 1

end Location

/-- The databases and settings files of the working directory, and the database in memory. -/
structure Disk where
  databases : List (Location × Database)
  files : List (String × List (String × Value))
deriving Repr

namespace Disk

def empty : Disk := ⟨[], []⟩

def get (d : Disk) (place : Location) : Database := (d.databases.lookup place).getD .empty

/-- The list of databases with one put in place of the one at the same place. -/
def putDatabase (place : Location) (db : Database) :
    List (Location × Database) → List (Location × Database)
  | [] => [(place, db)]
  | (p, e) :: rest => if p = place then (p, db) :: rest else (p, e) :: putDatabase place db rest

def put (d : Disk) (place : Location) (db : Database) : Disk :=
  { d with databases := putDatabase place db d.databases }

def file? (d : Disk) (path : String) : Option (List (String × Value)) :=
  d.files.lookup (Text.plainPath path)

/-- Whether a place is that of a settings file. -/
def keepsSettings (d : Disk) : Location → Bool
  | .memory => false
  | .file path => (d.file? path).isSome

def holdsDatabase (d : Disk) (path : String) : Bool :=
  d.databases.any fun e => e.1 == .file (Text.plainPath path)

/-- Whether a path leads to the working directory, to one above it or to the root. -/
def isDirectory (path : String) : Bool := (Text.pathSteps path).all (· = Text.stepUp)

/-- The settings that a path gives.  A directory or a database gives none of its own, and is there
all the same. -/
def settings? (d : Disk) (path : String) : Option (List (String × Value)) :=
  d.file? path <|> if isDirectory path || d.holdsDatabase path then some [] else none

/-- The disk with a settings file at a path, in place of a former one. -/
def putFile (d : Disk) (path : String) (entries : List (String × Value)) : Disk :=
  { d with files := (Text.plainPath path, entries) :: d.files }

end Disk

end RunLedger
