import RunLedger.Value.Basic

/-!
# References to environment variables

Inside a text, `$` and a name in braces stands for the value of an environment variable; after the
name, `:-` and any text up to the brace give what stands for a variable that is not set.  A
reference without such a text to a variable that is not set stays as it is.  What is put in is not
read again.
-/

namespace RunLedger

/-- Environment variables and their values. -/
abbrev Environment := List (String × String)

/-- A reference to an environment variable. -/
structure Reference where
  name : List Char
  fallback : Option (List Char)
deriving Repr, DecidableEq

namespace Reference

/-- Whether a variable's name can begin with the character. -/
def isNameStart (c : Char) : Bool := c.isUpper || c = '_'

/-- Whether a variable's name can go on with the character. -/
def isNameRest (c : Char) : Bool := c.isUpper || c.isDigit || c = '_'

/-- The reference as it is written. -/
def written (r : Reference) : List Char :=
  let fallback := match r.fallback with
    | none => []
    | some f => ':' :: '-' :: f
  '$' :: '\x7b' :: (r.name ++ fallback ++ ['\x7d'])

/-- The text that stands for the reference. -/
def value (env : Environment) (r : Reference) : List Char :=
  match env.lookup (String.ofList r.name), r.fallback with
  | some v, _ => v.toList
  | none, some f => f
  | none, none => r.written

/-- What follows a reference's name, up to its closing brace. -/
def readEnd? (name : List Char) : List Char → Option (Reference × List Char)
  | '\x7d' :: rest => some (⟨name, none⟩, rest)
  | ':' :: '-' :: rest =>
    match rest.dropWhile (· ≠ '\x7d') with
    | _ :: after => some (⟨name, some (rest.takeWhile (· ≠ '\x7d'))⟩, after)
    | [] => none
  | _ => none

/-- The reference that a text begins with, and the text after it. -/
def read? : List Char → Option (Reference × List Char)
  | '$' :: '\x7b' :: c :: cs =>
    if isNameStart c then
      readEnd? (c :: cs.takeWhile isNameRest) (cs.dropWhile isNameRest)
    else none
  | _ => none

/-! ## Lemmas -/

theorem length_dropWhile_le (p : Char → Bool) (cs : List Char) :
    (cs.dropWhile p).length ≤ cs.length :=
  (List.dropWhile_sublist p).length_le

theorem readEnd?_length {name cs rest : List Char} {r : Reference}
    (h : readEnd? name cs = some (r, rest)) : rest.length < cs.length := by
  unfold readEnd? at h
  split at h
  · cases h; simp
  · next tail =>
    split at h
    · next d after hd =>
      cases h
      have := length_dropWhile_le (· ≠ '\x7d') tail
      rw [hd] at this
      simp only [List.length_cons] at this ⊢
      omega
    · cases h
  · cases h

theorem read?_length {cs rest : List Char} {r : Reference} (h : read? cs = some (r, rest)) :
    rest.length < cs.length := by
  unfold read? at h
  split at h
  · next c tail =>
    split at h
    · have h1 := readEnd?_length h
      have h2 := length_dropWhile_le isNameRest tail
      simp only [List.length_cons]
      omega
    · cases h
  · cases h

end Reference

/-- The text with its references replaced, from the left. -/
def expandText (env : Environment) (cs : List Char) : List Char :=
  match cs with
  | [] => []
  | c :: rest =>
    match _h : Reference.read? (c :: rest) with
    | some (r, after) => r.value env ++ expandText env after
    | none => c :: expandText env rest
termination_by cs.length
decreasing_by
  · exact Reference.read?_length _h
  · simp

namespace Value

mutual

/-- The value with the references in all its texts replaced. -/
def expand (env : Environment) : Value → Value
  | .text s => .text (String.ofList (expandText env s.toList))
  | .list items => .list (expandItems env items)
  | .map entries => .map (expandEntries env entries)
  | v => v

/-- The items of a list, each with its references replaced. -/
def expandItems (env : Environment) : List Value → List Value
  | [] => []
  | v :: vs => expand env v :: expandItems env vs

/-- The entries of a map, each with the references in its value replaced. -/
def expandEntries (env : Environment) : List (String × Value) → List (String × Value)
  | [] => []
  | (k, v) :: rest => (k, expand env v) :: expandEntries env rest

end

end Value

end RunLedger
