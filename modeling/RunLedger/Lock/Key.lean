import RunLedger.Lock.Md5
import RunLedger.Text.Quoted

/-!
# Lock keys

The key of a task name is its name-based identifier: the MD5 digest of the name's UTF-8 bytes with
version 3 and the RFC 4122 variant stamped in, written in hexadecimal in groups of 8, 4, 4, 4
and 12 digits.
-/

namespace RunLedger

/-- A digest with the version in the high half of byte 6 and the variant in the top bits of
byte 8. -/
def stampVersion3 (bytes : List UInt8) : List UInt8 :=
  let versioned := bytes.modify 6 fun b => (b &&& 0x0F) ||| 0x30
  versioned.modify 8 fun b => (b &&& 0x3F) ||| 0x80

def hexBytes (bytes : List UInt8) : List Char :=
  bytes.flatMap fun b => Text.hexDigits 2 b.toNat

/-- Sixteen bytes written as an identifier in five groups. -/
def identifierText (bytes : List UInt8) : List Char :=
  let group (start count : Nat) := hexBytes ((bytes.drop start).take count)
  group 0 4 ++ '-' :: group 4 2 ++ '-' :: group 6 2 ++ '-' :: group 8 2 ++ '-' :: group 10 6

/-- The key under which a task name is locked. -/
def lockKey (taskName : String) : String :=
  String.ofList (identifierText (stampVersion3 (Md5.digest taskName.toUTF8.toList)))

end RunLedger
