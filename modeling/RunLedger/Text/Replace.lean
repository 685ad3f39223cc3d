/-!
# Replacing a word in a text

Occurrences are taken from the left and do not overlap; what is put in is not searched again.

    contains word cs = true ↔ word <:+: cs                                         (contains_iff)
-/

namespace RunLedger.Text

/-- The rest of the text after a given beginning, if it begins so. -/
def afterPrefix? : (start cs : List Char) → Option (List Char)
  | [], cs => some cs
  | _ :: _, [] => none
  | a :: start, c :: cs => if a = c then afterPrefix? start cs else none

theorem afterPrefix?_eq_some_iff {start cs rest : List Char} :
    afterPrefix? start cs = some rest ↔ cs = start ++ rest := by
  induction start generalizing cs with
  | nil => simp [afterPrefix?, eq_comm]
  | cons a start ih =>
    cases cs with
    | nil => simp [afterPrefix?]
    | cons c cs =>
      by_cases h : a = c
      · subst h; simp [afterPrefix?, ih]
      · simp [afterPrefix?, h, eq_comm]

/-- Whether the first text stands somewhere inside the second. -/
def contains (word : List Char) : List Char → Bool
  | [] => word.isEmpty
  | c :: cs => (afterPrefix? word (c :: cs)).isSome || contains word cs

theorem contains_iff {word cs : List Char} : contains word cs = true ↔ word <:+: cs := by
  induction cs with
  | nil => rw [contains, List.isEmpty_iff, List.infix_nil]
  | cons c cs ih =>
    have hbegins : (afterPrefix? word (c :: cs)).isSome = true ↔ word <+: c :: cs := by
      rw [Option.isSome_iff_exists]
      exact exists_congr fun rest => afterPrefix?_eq_some_iff.trans eq_comm
    rw [contains, Bool.or_eq_true, hbegins, ih, List.infix_cons_iff]

/-- The text with every occurrence of `word` replaced; an empty word occurs nowhere. -/
def replaceAll (word new : List Char) (cs : List Char) : List Char :=
  match cs with
  | [] => []
  | c :: rest =>
    if word.isEmpty then c :: rest
    else
      match _h : afterPrefix? word (c :: rest) with
      | some after => new ++ replaceAll word new after
      | none => c :: replaceAll word new rest
termination_by cs.length
decreasing_by
  · have hcs := afterPrefix?_eq_some_iff.1 _h
    have hlen := congrArg List.length hcs
    have hpos : 0 < word.length := by
      cases word with
      | nil => simp_all
      | cons a w => simp
    simp only [List.length_cons, List.length_append] at hlen ⊢
    omega
  · simp

/-- The string with every occurrence of `word` replaced. -/
def replaced (word new s : String) : String :=
  String.ofList (replaceAll word.toList new.toList s.toList)

end RunLedger.Text
