import RunLedger.Text.Blank
import RunLedger.Text.Case
import RunLedger.Value.Basic

/-!
# Merging mappings

Settings from several places are put together entry by entry.  A mapping that is put where a mapping
is already takes over the entries that it does not have itself; any other value takes the place of
what is there.  Keys of inner mappings match in any case, and the case that was there first stays.

    mergeValue v (.text s) = .text s                    (mergeValue_text)
-/

namespace RunLedger.Settings

/-- The key of a mapping that a key means: itself, or else the first one that differs from it in case
only. -/
def matchingKey? (key : String) (entries : List (String × Value)) : Option String :=
  if (entries.lookup key).isSome then some key
  else (entries.find? fun e => Text.lowered e.1 == Text.lowered key).map (·.1)

/-- New entries with a key written as in the old ones; an entry with a matching key goes to the
end. -/
def adoptKey (old new : List (String × Value)) (key : String) : List (String × Value) :=
  match matchingKey? key old, new.lookup key with
  | some k, some v => putEntry k v (new.filter fun e => e.1 ≠ key)
  | _, _ => new

/-- New entries with all keys written as in the old ones. -/
def adoptKeys (old new : List (String × Value)) : List (String × Value) :=
  (new.map (·.1)).foldl (adoptKey old) new

mutual

/-- The value that holds where a new value is put in place of an old one. -/
def mergeValue : (old new : Value) → Value
  | .map old, .map new => .map (mergeEntries old (adoptKeys old new))
  | _, new => new

/-- New entries together with the old ones that they do not have. -/
def mergeEntries : (old new : List (String × Value)) → List (String × Value)
  | [], new => new
  | (k, v) :: rest, new =>
    match new.lookup k with
    | some w => mergeEntries rest (putEntry k (mergeValue v w) new)
    | none => mergeEntries rest (new ++ [(k, v)])

end

/-- Entries with a value put behind a key, merged with what is there. -/
def assign (key : String) (v : Value) (entries : List (String × Value)) :
    List (String × Value) :=
  match entries.lookup key with
  | some old => putEntry key (mergeValue old v) entries
  | none => putEntry key v entries

/-! ## Names with several parts -/

/-- A name cut at each dot and each doubled underscore. -/
def cutName : (part : List Char) → List Char → List String
  | part, [] => [String.ofList part.reverse]
  | part, '_' :: '_' :: rest => String.ofList part.reverse :: cutName [] rest
  | part, c :: rest =>
    if c = '.' then String.ofList part.reverse :: cutName [] rest else cutName (c :: part) rest

/-- A value inside mappings of one entry each, one for every part of a name. -/
def nested : List String → Value → Value
  | [], v => v
  | k :: rest, v => .map [(k, nested rest v)]

/-- Entries with a value put where a name leads to.  The first part of the name is trimmed and in
upper case. -/
def put (name : String) (v : Value) (entries : List (String × Value)) : List (String × Value) :=
  match cutName [] name.toList with
  | [] => entries
  | k :: rest => assign (Text.uppered (Text.trimmed k)) (nested rest v) entries

/-! ## Lemmas -/

theorem mergeValue_text (v : Value) (s : String) : mergeValue v (.text s) = .text s := by
  cases v <;> simp [mergeValue]

end RunLedger.Settings
