/-!
# Reading options

Arguments are read from the left.  An option has a long or a one-letter name; one-letter options
can stand together behind one dash.  A value stands behind `=`, directly behind a letter, or in the
next argument, whatever that looks like.  Two dashes end the options.
-/

namespace RunLedger.Command

/-- An option: the key it is known by, its names, and whether a value goes with it. -/
structure OptionSpec where
  key : String
  names : List String
  takesValue : Bool
deriving Repr, DecidableEq

/-- The options found, in order, and the arguments that are none. -/
structure Options where
  found : List (String × String)
  rest : List String
deriving Repr, DecidableEq

namespace Options

def has (o : Options) (key : String) : Bool := o.found.any fun f => f.1 == key

/-- The value that an option is given last. -/
def value? (o : Options) (key : String) : Option String := o.found.reverse.lookup key

end Options

def findOption (specs : List OptionSpec) (name : String) : Option OptionSpec :=
  specs.find? fun s => s.names.contains name

/-- The options of letters behind one dash, and the arguments left after them.  The first letter
whose option takes a value takes the letters behind it, or else the next argument. -/
def readLetters (specs : List OptionSpec) :
    List Char → (args : List String) → Option (List (String × String) × List String)
  | [], args => some ([], args)
  | c :: cs, args =>
    match findOption specs (String.ofList ['-', c]) with
    | none => none
    | some s =>
      if s.takesValue then
        match cs, args with
        | [], v :: after => some ([(s.key, v)], after)
        | [], [] => none
        | value, after => some ([(s.key, String.ofList value)], after)
      else
        match readLetters specs cs args with
        | some (found, after) => some ((s.key, "") :: found, after)
        | none => none

/-- The option that an argument with two dashes, or a word behind one, begins; and the arguments
left after it.  `none` if there is no such option, and `some none` if it is used wrongly. -/
def readLong (specs : List OptionSpec) (arg : String) (args : List String) :
    Option (Option ((String × String) × List String)) :=
  let cs := arg.toList
  let name := String.ofList (cs.takeWhile (· ≠ '='))
  let behind := cs.dropWhile (· ≠ '=')
  if name.length ≤ 2 then none
  else
    match findOption specs name with
    | none => none
    | some s =>
      some (match s.takesValue, behind, args with
        | true, _ :: v, args => some ((s.key, String.ofList v), args)
        | true, [], v :: args => some ((s.key, v), args)
        | true, [], [] => none
        | false, [], args => some ((s.key, ""), args)
        | false, _ :: _, _ => none)

/-- The options that one argument gives, and the arguments left after it. -/
def readOption (specs : List OptionSpec) (arg : String) (args : List String) :
    Option (List (String × String) × List String) :=
  match readLong specs arg args with
  | some (some (f, args)) => some ([f], args)
  | some none => none
  | none =>
    if "--".toList.isPrefixOf arg.toList then none else readLetters specs (arg.toList.drop 1) args

/-- Whether an argument is read as options. -/
def looksLikeOption (arg : String) : Bool :=
  match arg.toList with
  | '-' :: _ :: _ => true
  | _ => false

/-! ## Lemmas -/

theorem readLetters_length {specs : List OptionSpec} {cs : List Char} {args after : List String}
    {found : List (String × String)} (h : readLetters specs cs args = some (found, after)) :
    after.length ≤ args.length := by
  induction cs generalizing found with
  | nil =>
    simp only [readLetters, Option.some.injEq, Prod.mk.injEq] at h
    simp [← h.2]
  | cons c cs ih =>
    unfold readLetters at h
    split at h
    · cases h
    · split at h
      · split at h
        · simp only [Option.some.injEq, Prod.mk.injEq] at h
          simp [← h.2]
        · cases h
        · simp only [Option.some.injEq, Prod.mk.injEq] at h
          simp [← h.2]
      · split at h
        · next hr =>
          simp only [Option.some.injEq, Prod.mk.injEq] at h
          obtain ⟨-, rfl⟩ := h
          exact ih hr
        · cases h

theorem readLong_length {specs : List OptionSpec} {arg : String} {args after : List String}
    {f : String × String} (h : readLong specs arg args = some (some (f, after))) :
    after.length ≤ args.length := by
  unfold readLong at h
  simp only at h
  split at h
  · cases h
  · split at h
    · cases h
    · split at h <;> simp only [Option.some.injEq, Prod.mk.injEq, reduceCtorEq] at h <;>
        simp [← h.2]

theorem readOption_length {specs : List OptionSpec} {arg : String} {args after : List String}
    {found : List (String × String)} (h : readOption specs arg args = some (found, after)) :
    after.length ≤ args.length := by
  unfold readOption at h
  split at h
  · next hl =>
    simp only [Option.some.injEq, Prod.mk.injEq] at h
    exact h.2 ▸ readLong_length hl
  · cases h
  · split at h
    · cases h
    · exact readLetters_length h

/-- The options among arguments.  Where arguments may not stand between options, the first one
that is no option ends them.  `none` if an option is not known or used wrongly. -/
def readOptions (specs : List OptionSpec) (between : Bool) (args : List String) :
    Option Options :=
  match args with
  | [] => some ⟨[], []⟩
  | arg :: args =>
    -- behind two dashes nothing is an option any more
    if arg = "--" then some ⟨[], args⟩
    else if looksLikeOption arg then
      match _h : readOption specs arg args with
      | none => none
      | some (found, after) =>
        match readOptions specs between after with
        | some o => some ⟨found ++ o.found, o.rest⟩
        | none => none
    else if between then
      match readOptions specs between args with
      | some o => some ⟨o.found, arg :: o.rest⟩
      | none => none
    else some ⟨[], arg :: args⟩
termination_by args.length
decreasing_by
  · have := readOption_length _h
    simp only [List.length_cons]
    omega
  · simp

end RunLedger.Command
