import RunLedger.Proofs.Settings.Entries
import RunLedger.Proofs.Text.Case

/-!
# Where the names of settings lead

The name of an entry, in a file or among the variables, leads along a route: its parts, between dots
and doubled underscores, without regard to case.  What is collected from all entries for one field
is what the entries collect that lead to it or further.  Entries that lead into one mapping are
absorbed by it one after the other, and again the ones for one of its fields are all that count for
that field.

    route (Text.asciiLowered name) = route name                               (route_asciiLowered)
    under (leadsTo f) (es.foldl putRead m) =
      (es.filter (leadsTo f ∘ stem)).foldl putRead (under (leadsTo f) m)        (under_foldl_putRead)
    under (leadsTo g) (ts.foldl absorb m) = (under (leadsTo g) ts).foldl absorb (under (leadsTo g) m)
                                                                              (under_foldl_absorb)
-/

namespace RunLedger.Settings

/-! ## Routes -/

/-- The key that a name puts its value behind. -/
def stem (name : String) : String :=
  Text.uppered (Text.trimmed ((cutName [] name.toList).headD ""))

/-- The keys of the mappings inside that a name leads through. -/
def branches (name : String) : List String := (cutName [] name.toList).tail

/-- Where a name leads, part by part. -/
def route (name : String) : List String :=
  Text.lowered (stem name) :: (branches name).map Text.lowered

theorem cutName_ne_nil (part cs : List Char) : cutName part cs ≠ [] := by
  fun_induction cutName part cs with
  | case1 => exact List.cons_ne_nil _ _
  | case2 => exact List.cons_ne_nil _ _
  | case3 => exact List.cons_ne_nil _ _
  | case4 part c rest _ _ ih => exact ih

theorem put_eq (name : String) (v : Value) (m : List (String × Value)) :
    put name v m = assign (stem name) (nested (branches name) v) m := by
  unfold put stem branches
  cases hparts : cutName [] name.toList with
  | nil => exact absurd hparts (cutName_ne_nil _ _)
  | cons k rest => rfl

theorem cutName_map_toLower (part cs : List Char) :
    cutName (part.map Char.toLower) (cs.map Char.toLower) =
      (cutName part cs).map Text.asciiLowered := by
  have hunderscore : ∀ c : Char, c.toLower = '_' ↔ c = '_' := Text.toLower_eq_iff (by decide)
  have hdot : ∀ c : Char, c.toLower = '.' ↔ c = '.' := Text.toLower_eq_iff (by decide)
  have hpart : ∀ part : List Char, String.ofList (part.map Char.toLower).reverse =
      Text.asciiLowered (String.ofList part.reverse) := by
    intro part
    rw [Text.asciiLowered, String.toList_ofList, List.map_reverse]
  -- no doubled underscore comes about by lowering letters
  have hsingle : ∀ (c : Char) (rest : List Char),
      (∀ after, c = '_' → rest = '_' :: after → False) →
        ∀ after, c.toLower = '_' → rest.map Char.toLower = '_' :: after → False := by
    intro c rest hapart after hc hrest
    obtain ⟨d, tail, rfl, hd, -⟩ := List.map_eq_cons_iff.1 hrest
    obtain rfl := (hunderscore d).1 hd
    exact hapart tail ((hunderscore c).1 hc) rfl
  fun_induction cutName part cs with
  | case1 part => rw [List.map_nil, cutName, hpart, List.map_cons, List.map_nil]
  | case2 part rest ih =>
    rw [List.map_cons, List.map_cons, (hunderscore '_').2 rfl, cutName, hpart, List.map_cons]
    exact congrArg _ ih
  | case3 part rest hapart ih =>
    rw [List.map_cons, cutName, if_pos ((hdot '.').2 rfl), hpart, List.map_cons]
    · exact congrArg _ ih
    · exact hsingle '.' rest hapart
  | case4 part c rest hapart hc ih =>
    rw [List.map_cons, cutName, if_neg fun h => hc ((hdot c).1 h)]
    · exact ih
    · exact hsingle c rest hapart

/-- The case of the letters A to Z counts for nothing in a route. -/
theorem route_asciiLowered (name : String) : route (Text.asciiLowered name) = route name := by
  have hparts : cutName [] (Text.asciiLowered name).toList =
      (cutName [] name.toList).map Text.asciiLowered := by
    rw [Text.asciiLowered, String.toList_ofList]
    exact cutName_map_toLower [] name.toList
  unfold route stem branches
  rw [hparts]
  cases cutName [] name.toList with
  | nil => rfl
  | cons k rest =>
    have hlowered : Text.lowered ∘ Text.asciiLowered = Text.lowered :=
      funext Text.lowered_asciiLowered
    simp [Text.trimmed_asciiLowered, Text.uppered_asciiLowered, hlowered]

/-- Whether a key is a field's name in some case. -/
def leadsTo (field key : String) : Bool := Text.lowered key == field

theorem leadsTo_iff {field key : String} : leadsTo field key = true ↔ Text.lowered key = field :=
  beq_iff_eq

/-! ## Collecting entries -/

/-- An entry put where its name leads, with its marked texts read. -/
def putRead (m : List (String × Value)) (e : String × Value) : List (String × Value) :=
  put e.1 (castMarked e.2) m

theorem under_foldl_putRead (p : String → Bool) (es m : List (String × Value)) :
    under p (es.foldl putRead m) =
      (es.filter fun e => p (stem e.1)).foldl putRead (under p m) := by
  induction es generalizing m with
  | nil => rfl
  | cons e es ih =>
    rw [List.foldl_cons, ih, List.filter_cons, putRead, put_eq]
    cases h : p (stem e.1) with
    | true =>
      rw [if_pos rfl, List.foldl_cons, putRead, put_eq, under_assign_of_pos h]
    | false =>
      rw [under_assign_of_neg h]
      rfl

/-! ## Entries absorbed by a mapping -/

/-- A mapping with one new entry merged in. -/
def absorb (m : List (String × Value)) (e : String × Value) : List (String × Value) :=
  mergeEntries m [(adopted m e.1, e.2)]

/-- The entry that a name with several parts puts into the mapping that its first part names. -/
def twig (e : String × Value) : String × Value :=
  match branches e.1 with
  | [] => ("", castMarked e.2)
  | key :: rest => (key, nested rest (castMarked e.2))

theorem lowered_adopted (m : List (String × Value)) (key : String) :
    Text.lowered (adopted m key) = Text.lowered key := by
  unfold adopted matchingKey?
  split
  · rfl
  · cases hfound : m.find? fun e => Text.lowered e.1 == Text.lowered key with
    | none => rfl
    | some e => exact beq_iff_eq.1 (List.find?_some (p := fun e : String × Value =>
        Text.lowered e.1 == Text.lowered key) hfound)

/-- The key under which an entry is adopted is a matter of the entries of that name. -/
theorem adopted_under (m : List (String × Value)) (key : String) :
    adopted (under (leadsTo (Text.lowered key)) m) key = adopted m key := by
  have hself : leadsTo (Text.lowered key) key = true := leadsTo_iff.2 rfl
  have hfind : (under (leadsTo (Text.lowered key)) m).find?
      (fun e => Text.lowered e.1 == Text.lowered key) =
        m.find? fun e => Text.lowered e.1 == Text.lowered key := by
    rw [under, List.find?_filter]
    exact congrArg (List.find? · m) (funext fun e => by simp [leadsTo, Bool.beq_eq_decide_eq])
  rw [adopted, adopted, matchingKey?, matchingKey?, lookup_under hself, hfind]

theorem absorb_nil (e : String × Value) : absorb [] e = [e] := by
  unfold absorb adopted matchingKey?
  simp [mergeEntries]

theorem absorb_singleton {k key : String} (h : Text.lowered k = Text.lowered key) (v w : Value) :
    absorb [(k, v)] (key, w) = [(k, mergeValue v w)] := by
  have hadopted : adopted [(k, v)] key = k := by
    unfold adopted matchingKey?
    by_cases hkey : key = k
    · subst hkey
      simp
    · have hne : (key == k) = false := by simpa using hkey
      simp [List.lookup_cons, hne, h]
  simp [absorb, hadopted, mergeEntries, putEntry]

theorem under_absorb_of_pos {field : String} {e : String × Value} (h : leadsTo field e.1 = true)
    (m : List (String × Value)) :
    under (leadsTo field) (absorb m e) = absorb (under (leadsTo field) m) e := by
  obtain rfl := leadsTo_iff.1 h
  have hadopted : leadsTo (Text.lowered e.1) (adopted m e.1) = true :=
    leadsTo_iff.2 (lowered_adopted m e.1)
  rw [absorb, under_mergeEntries, under_cons_of_pos hadopted, under_nil, absorb, adopted_under]

theorem under_absorb_of_neg {field : String} {e : String × Value} (h : leadsTo field e.1 = false)
    {m : List (String × Value)} (hm : (under (leadsTo field) m).length ≤ 1) :
    under (leadsTo field) (absorb m e) = under (leadsTo field) m := by
  have hadopted : leadsTo field (adopted m e.1) = false := by
    rw [leadsTo, lowered_adopted]
    exact h
  rw [absorb, under_mergeEntries, under_cons_of_neg hadopted, under_nil]
  revert hm
  match under (leadsTo field) m with
  | [] => exact fun _ => by rw [mergeEntries]
  | [e] => exact fun _ => by simp [mergeEntries]
  | _ :: _ :: _ => exact fun h => absurd h (by simp)

/-- What is absorbed for a field is one entry, if there was one at most. -/
theorem length_under_absorb_le {field : String} {e : String × Value}
    (h : leadsTo field e.1 = true) {m : List (String × Value)}
    (hm : (under (leadsTo field) m).length ≤ 1) :
    (under (leadsTo field) (absorb m e)).length ≤ 1 := by
  rw [under_absorb_of_pos h]
  cases hold : under (leadsTo field) m with
  | nil =>
    rw [absorb_nil]
    exact Nat.le_refl 1
  | cons old rest =>
    rw [hold] at hm
    obtain rfl : rest = [] := List.eq_nil_of_length_eq_zero (by simpa using hm)
    obtain ⟨k, v⟩ := old
    have hmem : (k, v) ∈ under (leadsTo field) m := by simp [hold]
    have hk := leadsTo_iff.1 (List.mem_filter.1 hmem).2
    rw [absorb_singleton (hk.trans (leadsTo_iff.1 h).symm)]
    exact Nat.le_refl 1

theorem under_foldl_absorb {field : String} (ts : List (String × Value))
    {m : List (String × Value)} (hm : (under (leadsTo field) m).length ≤ 1) :
    under (leadsTo field) (ts.foldl absorb m) =
      (under (leadsTo field) ts).foldl absorb (under (leadsTo field) m) := by
  -- that there is one entry at most is kept, and needed for each value that is absorbed
  induction ts generalizing m with
  | nil => rfl
  | cons t ts ih =>
    rw [List.foldl_cons]
    cases h : leadsTo field t.1 with
    | true =>
      rw [ih (length_under_absorb_le h hm), under_cons_of_pos h, List.foldl_cons,
        under_absorb_of_pos h]
    | false =>
      have hsame := under_absorb_of_neg h hm
      rw [ih (hsame ▸ hm), hsame, under_cons_of_neg h]

/-- A name that leads into a mapping has its value absorbed by what is there under the same key. -/
theorem putRead_map {e : String × Value} {m : List (String × Value)} (h : branches e.1 ≠ []) :
    putRead [(stem e.1, .map m)] e = [(stem e.1, .map (absorb m (twig e)))] := by
  obtain ⟨key, rest, hbranches⟩ := List.exists_cons_of_ne_nil h
  have htwig : twig e = (key, nested rest (castMarked e.2)) := by
    rw [twig, hbranches]
  rw [putRead, put_eq, hbranches, nested, htwig, absorb, ← adoptKeys_singleton]
  simp [assign, putEntry, mergeValue]

theorem putRead_nil {e : String × Value} (h : branches e.1 ≠ []) :
    putRead [] e = [(stem e.1, .map (absorb [] (twig e)))] := by
  obtain ⟨key, rest, hbranches⟩ := List.exists_cons_of_ne_nil h
  have htwig : twig e = (key, nested rest (castMarked e.2)) := by
    rw [twig, hbranches]
  rw [putRead, put_eq, hbranches, nested, htwig, absorb_nil]
  rfl

/-- Names that lead into one mapping have their values absorbed by it one after the other. -/
theorem foldl_putRead_map {key : String} {es : List (String × Value)}
    (hes : ∀ e ∈ es, stem e.1 = key ∧ branches e.1 ≠ []) (m : List (String × Value)) :
    es.foldl putRead [(key, .map m)] = [(key, .map ((es.map twig).foldl absorb m))] := by
  induction es generalizing m with
  | nil => rfl
  | cons e es ih =>
    obtain ⟨⟨rfl, hbranches⟩, hes⟩ := List.forall_mem_cons.1 hes
    rw [List.foldl_cons, putRead_map hbranches, ih hes, List.map_cons, List.foldl_cons]

end RunLedger.Settings
