import RunLedger.Proofs.Settings.Entries

/-!
# What the check of settings looks at

The check looks at the fields alone, wherever they stand among other entries.  A mapping in the
place of a text, a number or a truth value is refused whatever it holds.  Two mappings that give
every field alike thus come to the same settings or the same errors.

    m.Reads given → n.Reads given → check m = check n                             (Reads.check_eq)
-/

namespace RunLedger

/-- The same value, or two mappings. -/
inductive Value.Alike : Value → Value → Prop where
  | refl (v : Value) : Alike v v
  | maps (m n : List (String × Value)) : Alike (.map m) (.map n)

namespace Settings

open Value

/-- The fields that hold single values. -/
def singleFields : List String :=
  ["url", "table_prefix", "database_type", "single_instance_enabled", "lock_region"]

def loggingFields : List String := ["json_output", "level"]

/-- The routes along which all fields are reached. -/
def fieldRoutes : List (List String) := singleFields.map ([·]) ++ loggingFields.map (["logging", ·])

theorem single_mem_fieldRoutes {f : String} (hf : f ∈ singleFields) : [f] ∈ fieldRoutes :=
  List.mem_append_left _ (List.mem_map_of_mem hf)

theorem inner_mem_fieldRoutes {g : String} (hg : g ∈ loggingFields) :
    ["logging", g] ∈ fieldRoutes :=
  List.mem_append_right _ (List.mem_map_of_mem hg)

/-- The entries about log lines. -/
def loggingEntries (m : List (String × Value)) : List (String × Value) :=
  match m.lookup "logging" with
  | some (.map n) => n
  | _ => []

/-- A mapping gives each field a value like the one that is given along its route, or none where
none is given; what it gives for log lines, if anything, is a mapping. -/
structure Reads (m : List (String × Value)) (given : List String → Option Value) : Prop where
  single : ∀ f ∈ singleFields, Option.Rel Alike (m.lookup f) (given [f])
  logging : ∀ v ∈ m.lookup "logging", ∃ n, v = .map n
  inner : ∀ g ∈ loggingFields, Option.Rel Alike ((loggingEntries m).lookup g) (given ["logging", g])

variable {m n : List (String × Value)} {given other : List String → Option Value}

theorem rel_symm {x y : Option Value} (h : Option.Rel Alike x y) : Option.Rel Alike y x := by
  cases h with
  | none => exact .none
  | some h =>
    cases h with
    | refl => exact .some (.refl _)
    | maps => exact .some (.maps _ _)

theorem rel_trans {x y z : Option Value} (h : Option.Rel Alike x y) (k : Option.Rel Alike y z) :
    Option.Rel Alike x z := by
  cases h with
  | none => exact k
  | some h =>
    cases k with
    | some k =>
      cases h with
      | refl => exact .some k
      | maps =>
        cases k with
        | refl => exact .some (.maps _ _)
        | maps => exact .some (.maps _ _)

theorem Reads.congr (h : Reads m given)
    (hsame : ∀ r ∈ fieldRoutes, Option.Rel Alike (given r) (other r)) : Reads m other where
  single f hf := rel_trans (h.single f hf) (hsame _ (single_mem_fieldRoutes hf))
  logging := h.logging
  inner g hg := rel_trans (h.inner g hg) (hsame _ (inner_mem_fieldRoutes hg))

/-! ## Reading fields -/

theorem field_congr {α : Type} {f : String} {o : Option Value} {absent : α}
    {read : Value → Checked α} (hread : ∀ m n, read (.map m) = read (.map n))
    (hm : Option.Rel Alike (m.lookup f) o) (hn : Option.Rel Alike (n.lookup f) o) :
    field m f absent read = field n f absent read := by
  have hone : ∀ {l : List (String × Value)}, Option.Rel Alike (l.lookup f) o →
      field l f absent read = match o with
        | none => .ok absent
        | some v => read v := by
    intro l h
    unfold field
    generalize l.lookup f = x at h
    cases h with
    | none => rfl
    | some h =>
      cases h with
      | refl v => rfl
      | maps m n => exact hread m n
  rw [hone hm, hone hn]

theorem field_logging (h : ∀ v ∈ m.lookup "logging", ∃ n, v = .map n) :
    field m "logging" LoggingSettings.default readLogging = readLogging (.map (loggingEntries m)) := by
  unfold field loggingEntries
  cases hlookup : m.lookup "logging" with
  | none => rfl
  | some v =>
    obtain ⟨n, rfl⟩ := h v hlookup
    rfl

theorem Reads.check_eq (hm : Reads m given) (hn : Reads n given) : check m = check n := by
  have hlogging : field m "logging" LoggingSettings.default readLogging =
      field n "logging" LoggingSettings.default readLogging := by
    rw [field_logging hm.logging, field_logging hn.logging, readLogging, readLogging,
      field_congr (fun _ _ => rfl) (hm.inner "json_output" (by simp [loggingFields]))
        (hn.inner "json_output" (by simp [loggingFields])),
      field_congr (fun _ _ => rfl) (hm.inner "level" (by simp [loggingFields]))
        (hn.inner "level" (by simp [loggingFields]))]
  have hsingle : ∀ {α : Type} {f : String} {absent : α} {read : Value → Checked α},
      f ∈ singleFields → (∀ m n, read (.map m) = read (.map n)) →
        field m f absent read = field n f absent read := by
    intro α f absent read hf hread
    exact field_congr hread (hm.single _ hf) (hn.single _ hf)
  unfold check
  rw [hlogging, hsingle (f := "url") (by simp [singleFields]) fun _ _ => rfl,
    hsingle (f := "table_prefix") (by simp [singleFields]) fun _ _ => rfl,
    hsingle (f := "database_type") (by simp [singleFields]) fun _ _ => rfl,
    hsingle (f := "single_instance_enabled") (by simp [singleFields]) fun _ _ => rfl,
    hsingle (f := "lock_region") (by simp [singleFields]) fun _ _ => rfl]

/-! ## References -/

theorem lookup_expandEntries (env : Environment) (m : List (String × Value)) (key : String) :
    (expandEntries env m).lookup key = (m.lookup key).map (expand env) := by
  induction m with
  | nil => rfl
  | cons e m ih =>
    obtain ⟨k, v⟩ := e
    rw [expandEntries, List.lookup_cons, List.lookup_cons]
    cases key == k with
    | true => rfl
    | false => exact ih

theorem rel_expand {env : Environment} {x y : Option Value} (h : Option.Rel Alike x y) :
    Option.Rel Alike (x.map (expand env)) (y.map (expand env)) := by
  cases h with
  | none => exact .none
  | some h =>
    refine .some ?_
    cases h with
    | refl v => exact .refl _
    | maps m n =>
      rw [expand, expand]
      exact .maps _ _

theorem loggingEntries_expand (env : Environment) (m : List (String × Value)) :
    loggingEntries (expandEntries env m) = expandEntries env (loggingEntries m) := by
  unfold loggingEntries
  rw [lookup_expandEntries]
  rcases m.lookup "logging" with _ | v
  · rfl
  · cases v <;> rfl

/-- What is given alike is given alike once references are replaced. -/
theorem Reads.expand (h : Reads m given) (env : Environment) :
    Reads (expandEntries env m) fun r => (given r).map (Value.expand env) where
  single f hf := by
    rw [lookup_expandEntries]
    exact rel_expand (h.single f hf)
  logging v hv := by
    rw [lookup_expandEntries, Option.mem_def, Option.map_eq_some_iff] at hv
    obtain ⟨w, hw, rfl⟩ := hv
    obtain ⟨n, rfl⟩ := h.logging w hw
    exact ⟨expandEntries env n, rfl⟩
  inner g hg := by
    rw [loggingEntries_expand, lookup_expandEntries]
    exact rel_expand (h.inner g hg)

end Settings

end RunLedger
