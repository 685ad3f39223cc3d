import RunLedger.Value.Basic

/-!
# Values as JSON text

One line, a blank after each comma and colon, entries in their own order.  The text is ASCII:
other characters are written as escapes of their UTF-16 units.
-/

namespace RunLedger.Value

/-- An escape for one UTF-16 unit. -/
def unitEscape (n : Nat) : List Char := '\\' :: 'u' :: Text.hexDigits 4 n

/-- The escapes of a code point outside ASCII: one unit, or a surrogate pair. -/
def codeEscape (n : Nat) : List Char :=
  if n < 0x10000 then unitEscape n
  else
    let v := n - 0x10000
    unitEscape (0xD800 + v / 0x400) ++ unitEscape (0xDC00 + v % 0x400)

def jsonChar (c : Char) : List Char :=
  if c = '"' || c = '\\' then ['\\', c]
  else if c = '\n' then ['\\', 'n']
  else if c = '\r' then ['\\', 'r']
  else if c = '\t' then ['\\', 't']
  else if c.toNat = 8 then ['\\', 'b']
  else if c.toNat = 12 then ['\\', 'f']
  else if 0x20 ≤ c.toNat && c.toNat < 0x7F then [c]
  else codeEscape c.toNat

def jsonText (s : String) : String :=
  String.ofList ('"' :: s.toList.flatMap jsonChar ++ ['"'])

mutual

def toJsonText : Value → String
  | .null => "null"
  | .bool b => if b then "true" else "false"
  | .int n => toString n
  | .real x => x.jsonText
  | .moment m => jsonText m.written
  | .text s => jsonText s
  | .list items => "[" ++ String.intercalate ", " (jsonItems items) ++ "]"
  | .map entries => "\x7b" ++ String.intercalate ", " (jsonEntries entries) ++ "\x7d"

def jsonItems : List Value → List String
  | [] => []
  | v :: vs => toJsonText v :: jsonItems vs

def jsonEntries : List (String × Value) → List String
  | [] => []
  | (k, v) :: rest => (jsonText k ++ ": " ++ toJsonText v) :: jsonEntries rest

end

end RunLedger.Value
