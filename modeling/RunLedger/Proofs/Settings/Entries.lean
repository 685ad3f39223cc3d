import RunLedger.Settings.Merge
import RunLedger.Settings.Source

/-!
# Merged mappings, some keys at a time

What is done to an ordered mapping entry by entry is done to the entries of some keys alone: taking
those entries out commutes with putting an entry in, with assigning, merging and lowering keys.  A
question about one field is thus a question about the few entries that can be it.

    p key = false → under p (putEntry key v m) = under p m                 (under_putEntry_of_neg)
    under p (mergeEntries old new) = mergeEntries (under p old) (under p new)   (under_mergeEntries)
    (ofEntries es).lookup key = ((under (· == key) es).getLast?).map (·.2)      (lookup_ofEntries)
-/

namespace RunLedger

section
variable {α : Type} {p : String → Bool} {key : String}

/-- The entries of which the keys have a property. -/
def under (p : String → Bool) (m : List (String × α)) : List (String × α) :=
  m.filter fun e => p e.1

@[simp] theorem under_nil : under p ([] : List (String × α)) = [] := rfl

theorem under_cons (e : String × α) (m : List (String × α)) :
    under p (e :: m) = if p e.1 = true then e :: under p m else under p m := List.filter_cons

theorem under_cons_of_pos {e : String × α} {m : List (String × α)} (h : p e.1 = true) :
    under p (e :: m) = e :: under p m := List.filter_cons_of_pos h

theorem under_cons_of_neg {e : String × α} {m : List (String × α)} (h : p e.1 = false) :
    under p (e :: m) = under p m := List.filter_cons_of_neg (by simp [h])

@[simp] theorem under_append (m n : List (String × α)) :
    under p (m ++ n) = under p m ++ under p n := List.filter_append ..

theorem lookup_under (h : p key = true) (m : List (String × α)) :
    (under p m).lookup key = m.lookup key := by
  induction m with
  | nil => rfl
  | cons e m ih =>
    obtain ⟨k, v⟩ := e
    by_cases hkey : key = k
    · subst hkey
      rw [under_cons_of_pos h, List.lookup_cons_self, List.lookup_cons_self]
    · have hne : (key == k) = false := by simpa using hkey
      rw [under_cons]
      split
      · rw [List.lookup_cons, List.lookup_cons, hne, ih]
      · rw [List.lookup_cons, hne, ih]

theorem under_putEntry_of_pos (h : p key = true) (v : α) (m : List (String × α)) :
    under p (putEntry key v m) = putEntry key v (under p m) := by
  induction m with
  | nil => rw [putEntry, under_cons_of_pos h, under_nil, putEntry]
  | cons e m ih =>
    obtain ⟨k, w⟩ := e
    by_cases hkey : k = key
    · subst hkey
      rw [putEntry, if_pos rfl, under_cons_of_pos h, under_cons_of_pos h, putEntry, if_pos rfl]
    · rw [putEntry, if_neg hkey, under_cons, under_cons]
      split
      · rw [putEntry, if_neg hkey, ih]
      · exact ih

theorem under_putEntry_of_neg (h : p key = false) (v : α) (m : List (String × α)) :
    under p (putEntry key v m) = under p m := by
  induction m with
  | nil => rw [putEntry, under_cons_of_neg h]
  | cons e m ih =>
    obtain ⟨k, w⟩ := e
    by_cases hkey : k = key
    · subst hkey
      rw [putEntry, if_pos rfl, under_cons_of_neg h, under_cons_of_neg h]
    · rw [putEntry, if_neg hkey, under_cons, under_cons, ih]

theorem under_ofEntries (p : String → Bool) (es : List (String × α)) :
    under p (ofEntries es) = ofEntries (under p es) := by
  have hgo : ∀ m : List (String × α),
      under p (es.foldl (fun m e => putEntry e.1 e.2 m) m) =
        (under p es).foldl (fun m e => putEntry e.1 e.2 m) (under p m) := by
    induction es with
    | nil => exact fun m => rfl
    | cons e es ih =>
      intro m
      rw [List.foldl_cons, ih]
      cases h : p e.1 with
      | true => rw [under_putEntry_of_pos h, under_cons_of_pos h, List.foldl_cons]
      | false => rw [under_putEntry_of_neg h, under_cons_of_neg h]
  exact hgo []

/-- What is found under a key in an ordered mapping is what came last for this key. -/
theorem lookup_ofEntries (key : String) (es : List (String × α)) :
    (ofEntries es).lookup key = ((under (· == key) es).getLast?).map (·.2) := by
  -- for any mapping to start from, as the fold hands one on
  have hgo : ∀ m : List (String × α),
      (es.foldl (fun m e => putEntry e.1 e.2 m) m).lookup key =
        (((under (· == key) es).getLast?).map (·.2)).or (m.lookup key) := by
    induction es with
    | nil => exact fun m => rfl
    | cons e es ih =>
      intro m
      obtain ⟨k, v⟩ := e
      rw [List.foldl_cons, ih]
      by_cases hkey : k = key
      · subst hkey
        rw [under_cons_of_pos (by simp), List.getLast?_cons, lookup_putEntry_self]
        cases (under (· == k) es).getLast? <;> rfl
      · rw [under_cons_of_neg (by simpa using hkey), lookup_putEntry_of_ne (Ne.symm hkey)]
  rw [ofEntries, hgo, List.lookup_nil, Option.or_none]

end

namespace Settings

variable {p : String → Bool} {key : String}

theorem under_mergeEntries (p : String → Bool) (old new : List (String × Value)) :
    under p (mergeEntries old new) = mergeEntries (under p old) (under p new) := by
  induction old generalizing new with
  | nil => rw [mergeEntries, under_nil, mergeEntries]
  | cons e old ih =>
    obtain ⟨k, v⟩ := e
    rw [mergeEntries]
    cases h : p k with
    | true =>
      rw [under_cons_of_pos h, mergeEntries, lookup_under h]
      split
      · rw [ih, under_putEntry_of_pos h]
      · rw [ih, under_append, under_cons_of_pos h, under_nil]
    | false =>
      rw [under_cons_of_neg h]
      split
      · rw [ih, under_putEntry_of_neg h]
      · rw [ih, under_append, under_cons_of_neg h, under_nil, List.append_nil]

theorem under_assign_of_pos (h : p key = true) (v : Value) (m : List (String × Value)) :
    under p (assign key v m) = assign key v (under p m) := by
  unfold assign
  rw [lookup_under h]
  split <;> rw [under_putEntry_of_pos h]

theorem under_assign_of_neg (h : p key = false) (v : Value) (m : List (String × Value)) :
    under p (assign key v m) = under p m := by
  unfold assign
  split <;> rw [under_putEntry_of_neg h]

/-- Lowering all keys and then looking at some is lowering those that come to be them. -/
theorem under_lowerEntries (p : String → Bool) (m : List (String × Value)) :
    under p (lowerEntries m) = lowerEntries (under (fun k => p (Text.lowered k)) m) := by
  induction m with
  | nil => rfl
  | cons e m ih =>
    obtain ⟨k, v⟩ := e
    rw [lowerEntries, under_cons, under_cons]
    dsimp only
    split
    · rw [lowerEntries, ih]
    · exact ih

/-! ## One new entry -/

/-- The key under which a new entry is put into a mapping. -/
def adopted (m : List (String × Value)) (key : String) : String := (matchingKey? key m).getD key

theorem adoptKeys_singleton (m : List (String × Value)) (key : String) (v : Value) :
    adoptKeys m [(key, v)] = [(adopted m key, v)] := by
  have hlookup : ([(key, v)] : List (String × Value)).lookup key = some v := by simp
  rw [adoptKeys, List.map_cons, List.map_nil, List.foldl_cons, List.foldl_nil, adoptKey, hlookup,
    adopted]
  cases matchingKey? key m with
  | none => rfl
  | some k => simp [putEntry]

end Settings

end RunLedger
