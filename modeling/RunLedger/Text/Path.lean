/-!
# Paths

The plain form of a path has single slashes between the steps, none at the end, and no step that
stays where it is.  Two slashes at the beginning, and no more, are kept as they are.  In the resolved
form a step up also takes away the step before it; what is left of them stands at the beginning.

    stepUp ∉ steps → resolveSteps rooted steps = steps      (resolveSteps_of_not_mem)
-/

namespace RunLedger.Text

/-- The slashes that a plain path begins with. -/
def rootSlashes (path : List Char) : List Char :=
  match path with
  | '/' :: '/' :: '/' :: _ => ['/']
  | '/' :: '/' :: _ => ['/', '/']
  | '/' :: _ => ['/']
  | _ => []

def pathSteps (path : String) : List String :=
  (path.splitOn "/").filter fun step => step ≠ "" && step ≠ "."

/-- The path of the given slashes and steps; without any it is a dot. -/
def pathOf (root : List Char) (steps : List String) : String :=
  let path := String.ofList root ++ String.intercalate "/" steps
  if path = "" then "." else path

def plainPath (path : String) : String := pathOf (rootSlashes path.toList) (pathSteps path)

/-- The step to the directory above. -/
def stepUp : String := ".."

/-- The steps so far, in reverse, with one more.  There is nothing above the root. -/
def takeStep (rooted : Bool) (back : List String) (step : String) : List String :=
  if step = stepUp then
    match back with
    | [] => if rooted then [] else [stepUp]
    | last :: before => if last = stepUp then stepUp :: back else before
  else step :: back

/-- Steps with those taken back that a step up follows. -/
def resolveSteps (rooted : Bool) (steps : List String) : List String :=
  (steps.foldl (takeStep rooted) []).reverse

def resolvedPath (path : String) : String :=
  let root := rootSlashes path.toList
  pathOf root (resolveSteps (!root.isEmpty) (pathSteps path))

/-! ## Lemmas -/

theorem foldl_takeStep_of_not_mem {rooted : Bool} {steps : List String} (h : stepUp ∉ steps)
    (back : List String) : steps.foldl (takeStep rooted) back = steps.reverse ++ back := by
  induction steps generalizing back with
  | nil => rfl
  | cons step steps ih =>
    simp only [List.mem_cons, not_or] at h
    have hs : takeStep rooted back step = step :: back := by
      unfold takeStep
      rw [if_neg (Ne.symm h.1)]
    rw [List.foldl_cons, hs, ih h.2]
    simp

theorem resolveSteps_of_not_mem {rooted : Bool} {steps : List String} (h : stepUp ∉ steps) :
    resolveSteps rooted steps = steps := by
  simp [resolveSteps, foldl_takeStep_of_not_mem h]

end RunLedger.Text
