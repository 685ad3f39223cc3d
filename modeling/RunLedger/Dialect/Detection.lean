import RunLedger.Misconfiguration
import RunLedger.Text.Numeral
import RunLedger.Text.Replace

/-!
# Finding the dialect

A dialect is declared by name, reported by a driver as a product name and version, or told from the
driver that a connection uses.
-/

namespace RunLedger.Dialect

/-- The dialect that a declared name means. -/
def resolve (name : Option String) : Except Misconfiguration Dialect :=
  match name with
  | none => .error .dialectNameMissing
  | some s =>
    if Text.isBlankText s then .error .dialectNameMissing
    else
      match parse? s with
      | some d => .ok d
      | none => .error (.dialectUnknown s)

/-- The dialect of a product, by the product's name in any case. -/
def ofProductName (product : String) : Except Misconfiguration Dialect :=
  match ofProductKey? (lookupKey product) with
  | some d => .ok d
  | none => .error (.productUnknown (some product))

/-! ## Reported products -/

/-- Whether a version is a midrange release, `V1R2M3` with any digits and either case of `m`. -/
def isMidrangeRelease : List Char → Bool
  | [v, version, r, release, m, modification] =>
    v = 'V' && r = 'R' && (m = 'm' || m = 'M') && (Text.digitValue? version).isSome &&
      (Text.digitValue? release).isSome && (Text.digitValue? modification).isSome
  | _ => false

/-- Whether a version is one of the midrange system: it starts with `QSQ`, or is a release from its
first `V` on. -/
def isMidrangeVersion (version : List Char) : Bool :=
  "QSQ".toList.isPrefixOf version || isMidrangeRelease (version.dropWhile (· ≠ 'V'))

/-- The product name that a reported name stands for: the DB2 spellings are folded, and the version
tells their mainframe and midrange flavours. -/
def canonicalProduct (product : String) (version : Option String) : String :=
  let name := product.toList
  let release := (version.getD "").toList
  if !"DB2".toList.isPrefixOf name then product
  else if product = "DB2/Linux" then "DB2"
  else if "ARI".toList.isPrefixOf release then "DB2VSE"
  else if "DSN".toList.isPrefixOf release then "DB2ZOS"
  else if Text.contains "AS".toList name && isMidrangeVersion release then "DB2AS400"
  else "DB2"

/-- The dialect of a product that a driver reports. -/
def ofMetadata (product : Option String) (version : Option String) :
    Except Misconfiguration Dialect :=
  match product with
  | none => .error (.productUnknown none)
  | some "" => .error (.productUnknown none)
  | some p => ofProductName (canonicalProduct p version)

/-! ## Connections -/

/-- The driver of a connection, and whether its server turned out to be MariaDB. -/
structure Connection where
  driver : String
  isMariaDb : Bool
deriving Repr, DecidableEq

def ofConnection (c : Connection) : Except Misconfiguration Dialect :=
  if c.driver = "mysql" && c.isMariaDb then .ok mariadb
  else
    match ofDriver? c.driver with
    | some d => .ok d
    | none => .error (.driverUnknown c.driver)

/-- The connection that a database URL asks for: the driver is named before `+` or `:`. -/
def Connection.ofUrl (url : String) : Connection :=
  ⟨String.ofList (url.toList.takeWhile fun c => c ≠ '+' && c ≠ ':'), false⟩

end RunLedger.Dialect

namespace RunLedger

/-- A dialect as a caller declares it: itself, or by a name. -/
inductive DialectChoice where
  | dialect (d : Dialect)
  | named (name : Option String)
deriving Repr, DecidableEq

def DialectChoice.resolve : DialectChoice → Except Misconfiguration Dialect
  | dialect d => .ok d
  | named name => Dialect.resolve name

/-- The dialect to use: a declared one wins over that of a connection. -/
def Dialect.settle (declared : Option DialectChoice) (connection : Option Dialect.Connection) :
    Except Misconfiguration Dialect :=
  match declared, connection with
  | some choice, _ => choice.resolve
  | none, some c => Dialect.ofConnection c
  | none, none => .error .dialectNotGiven

end RunLedger
