/-!
# Ordered mappings

A mapping from texts as a list of entries, in the order in which its keys came first.

    (putEntry k v m).lookup k = some v                  (lookup_putEntry_self)
    k ≠ j → (putEntry k v m).lookup j = m.lookup j      (lookup_putEntry_of_ne)
    putEntry k v (putEntry k w m) = putEntry k v m      (putEntry_putEntry_self)
-/

namespace RunLedger

variable {α : Type}

/-- An entry put into an ordered mapping: a key that is there keeps its place. -/
def putEntry (key : String) (value : α) : List (String × α) → List (String × α)
  | [] => [(key, value)]
  | (k, v) :: rest => if k = key then (k, value) :: rest else (k, v) :: putEntry key value rest

/-- The ordered mapping made from a list of entries: each key stands where it came first, with the
value that came last. -/
def ofEntries (entries : List (String × α)) : List (String × α) :=
  entries.foldl (fun m e => putEntry e.1 e.2 m) []

/-! ## Lemmas -/

theorem lookup_putEntry_self (key : String) (value : α) (m : List (String × α)) :
    (putEntry key value m).lookup key = some value := by
  induction m with
  | nil => simp [putEntry]
  | cons e rest ih =>
    obtain ⟨k, v⟩ := e
    by_cases h : k = key
    · simp [putEntry, h]
    · have h' : (key == k) = false := by simpa using Ne.symm h
      simp [putEntry, h, List.lookup_cons, h', ih]

theorem lookup_putEntry_of_ne {key other : String} (h : other ≠ key) (value : α)
    (m : List (String × α)) : (putEntry key value m).lookup other = m.lookup other := by
  have ho : (other == key) = false := by simpa using h
  induction m with
  | nil => simp [putEntry, List.lookup_cons, ho]
  | cons e rest ih =>
    obtain ⟨k, v⟩ := e
    by_cases hk : k = key
    · subst hk
      simp [putEntry, List.lookup_cons, ho]
    · simp [putEntry, hk, List.lookup_cons, ih]

section
variable {key other : String} {v w : α}

theorem putEntry_putEntry_self (m : List (String × α)) :
    putEntry key v (putEntry key w m) = putEntry key v m := by
  induction m with
  | nil => simp [putEntry]
  | cons e m ih =>
    obtain ⟨k, u⟩ := e
    by_cases hk : k = key
    · simp [putEntry, hk]
    · simp [putEntry, hk, ih]

/-- A key that is there keeps its place, so that it does not matter when it is put. -/
theorem putEntry_comm (hne : key ≠ other) {m : List (String × α)} (hkey : key ∈ m.map Prod.fst) :
    putEntry key v (putEntry other w m) = putEntry other w (putEntry key v m) := by
  induction m with
  | nil => cases hkey
  | cons e m ih =>
    obtain ⟨k, u⟩ := e
    by_cases hk : k = key
    · subst hk
      simp [putEntry, hne]
    · by_cases hother : k = other
      · subst hother
        simp [putEntry, hk]
      · have hrest : key ∈ m.map Prod.fst := by
          rw [List.map_cons, List.mem_cons] at hkey
          exact hkey.resolve_left (Ne.symm hk)
        simp [putEntry, hk, hother, ih hrest]

theorem mem_keys_putEntry_iff {m : List (String × α)} :
    other ∈ (putEntry key v m).map Prod.fst ↔ other = key ∨ other ∈ m.map Prod.fst := by
  induction m with
  | nil => simp [putEntry]
  | cons e m ih =>
    obtain ⟨k, u⟩ := e
    by_cases hk : k = key
    · subst hk
      simp [putEntry]
    · rw [putEntry, if_neg hk, List.map_cons, List.map_cons, List.mem_cons, List.mem_cons, ih]
      exact or_left_comm

theorem mem_keys_putEntry (m : List (String × α)) : key ∈ (putEntry key v m).map Prod.fst :=
  mem_keys_putEntry_iff.2 (.inl rfl)

theorem mem_keys_putEntry_of_mem {m : List (String × α)} (hkey : key ∈ m.map Prod.fst) :
    key ∈ (putEntry other w m).map Prod.fst :=
  mem_keys_putEntry_iff.2 (.inr hkey)

end

end RunLedger
