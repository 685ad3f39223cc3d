import RunLedger.Failure
import RunLedger.Text.Numeral

/-!
# Database URLs

A URL is a driver's name, then `://`, then perhaps a user with a password before `@`, a host with a
port behind `:`, and a path that ends at a question mark.  All but the driver's name may be missing.
The password may hold slashes, the user's name none; an `@` ends the last user's name that it can.
-/

namespace RunLedger

/-- The parts of a database URL; what is missing is empty. -/
structure DatabaseUrl where
  driver : String
  user : String
  password : String
  host : String
  port : String
  path : String
deriving Repr, DecidableEq

namespace DatabaseUrl

/-! ## Parts -/

def isDriverChar (c : Char) : Bool := c.isAlphanum || c = '_' || c = '+' || 0xC0 ≤ c.toNat

/-- The user and the rest of a text that has no colon before the `@`. -/
def readUser (cs : List Char) : List Char × List Char :=
  let run := cs.takeWhile fun c => c ≠ ':' && c ≠ '/'
  match run.reverse.dropWhile (· ≠ '@') with
  | _ :: user => (user.reverse, cs.drop (user.length + 1))
  | [] => ([], cs)

def readCredentials (cs : List Char) : List Char × List Char × List Char :=
  let isUser (c : Char) : Bool := c ≠ ':' && c ≠ '/'
  match cs.dropWhile isUser with
  | ':' :: behind =>
    match behind.dropWhile (· ≠ '@') with
    | _ :: rest => (cs.takeWhile isUser, behind.takeWhile (· ≠ '@'), rest)
    | [] => let (user, rest) := readUser cs; (user, [], rest)
  | _ => let (user, rest) := readUser cs; (user, [], rest)

/-- A host between brackets and the text after it. -/
def readBracketed? (cs : List Char) : Option (List Char × List Char) :=
  match cs with
  | '[' :: inside =>
    let run := inside.takeWhile fun c => c ≠ '/' && c ≠ '?'
    match run.reverse.dropWhile (· ≠ ']') with
    | _ :: c :: before => some ((c :: before).reverse, inside.drop (before.length + 2))
    | _ => none
  | _ => none

def readHost (cs : List Char) : List Char × List Char :=
  let isHost (c : Char) : Bool := c ≠ '/' && c ≠ ':' && c ≠ '?'
  (readBracketed? cs).getD (cs.takeWhile isHost, cs.dropWhile isHost)

def readPort (cs : List Char) : List Char × List Char :=
  let isPort (c : Char) : Bool := c ≠ '/' && c ≠ '?'
  match cs with
  | ':' :: rest => (rest.takeWhile isPort, rest.dropWhile isPort)
  | _ => ([], cs)

def readPath (cs : List Char) : List Char :=
  match cs with
  | '/' :: rest => rest.takeWhile (· ≠ '?')
  | _ => []

/-! ## Whole URLs -/

/-- The parts of a URL. -/
def ofText? (url : String) : Option DatabaseUrl :=
  let driver := url.toList.takeWhile isDriverChar
  if driver.isEmpty then none
  else
    match url.toList.drop driver.length with
    | ':' :: '/' :: '/' :: rest =>
      let (user, password, rest) := readCredentials rest
      let (host, rest) := readHost rest
      let (port, rest) := readPort rest
      some ⟨.ofList driver, .ofList user, .ofList password, .ofList host, .ofList port,
        .ofList (readPath rest)⟩
    | _ => none

/-- The number of the port, if there is one; zero counts as none. -/
def portNumber (u : DatabaseUrl) : Except Failure (Option Int) :=
  if u.port = "" then .ok none
  else
    match Text.readInt? u.port.toList with
    | some n => .ok (if n = 0 then none else some n)
    | none => .error (.badArgument (.numeralUnreadable u.port))

/-- The product whose driver is named. -/
def product (u : DatabaseUrl) : String := String.ofList (u.driver.toList.takeWhile (· ≠ '+'))

/-- Whether the URL names a user, a password or a host. -/
def namesServer (u : DatabaseUrl) : Bool := u.user ≠ "" || u.password ≠ "" || u.host ≠ ""

end DatabaseUrl

end RunLedger
