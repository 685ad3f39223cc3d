import RunLedger.Proofs.Settings.Keys

/-!
# The precedence of settings

Every field of the settings, also inside the mapping about log lines, independently takes the value
of the variable that leads to it, else what the file gives for it, else its default.  What a file
has for fields that variables give thus counts for nothing, nor does the case of its keys.

    precedence file env : the mapping of just these values
    load_precedence : settings load to what the check makes of this mapping once references are
      replaced
-/

namespace RunLedger.Settings

open Value

/-! ## The mapping of all values that hold -/

/-- The fields for which something holds along their routes, with what holds. -/
def givenFields (fields : List String) (given : String → Option Value) : List (String × Value) :=
  fields.filterMap fun f => (given f).map (f, ·)

/-- The mapping in which each field has what holds along its route. -/
def precedence (file : List (String × Value)) (env : Environment) : List (String × Value) :=
  givenFields singleFields (fun f => chosen file env [f]) ++
    [("logging", .map (givenFields loggingFields fun g => chosen file env ["logging", g]))]

theorem lookup_givenFields_of_notMem {fields : List String} (given : String → Option Value)
    {f : String} (hf : f ∉ fields) : (givenFields fields given).lookup f = none := by
  rw [List.lookup_eq_none_iff]
  intro e he
  obtain ⟨k, hk, hmap⟩ := List.mem_filterMap.1 he
  obtain ⟨v, -, rfl⟩ := Option.map_eq_some_iff.1 hmap
  refine bne_iff_ne.2 fun hsame => hf ?_
  rw [hsame]
  exact hk

theorem lookup_givenFields {fields : List String} (given : String → Option Value) {f : String}
    (hf : f ∈ fields) : (givenFields fields given).lookup f = given f := by
  induction fields with
  | nil => cases hf
  | cons k fields ih =>
    rw [givenFields, List.filterMap_cons]
    by_cases hkey : f = k
    · subst hkey
      cases hgiven : given f with
      | some v => exact List.lookup_cons_self
      | none =>
        -- a field that is not given is not found, whether it is listed once more or not
        by_cases hmem : f ∈ fields
        · exact (ih hmem).trans hgiven
        · exact lookup_givenFields_of_notMem given hmem
    · have hne : (f == k) = false := by simpa using hkey
      have hmem : f ∈ fields := (List.mem_cons.1 hf).resolve_left hkey
      cases given k with
      | none => exact ih hmem
      | some v =>
        dsimp only [Option.map_some]
        rw [List.lookup_cons, hne]
        exact ih hmem

variable {file other : List (String × Value)} {env : Environment}

theorem rel_refl (x : Option Value) : Option.Rel Alike x x := by
  cases x with
  | none => exact .none
  | some v => exact .some (.refl v)

theorem reads_precedence (file : List (String × Value)) (env : Environment) :
    Reads (precedence file env) (chosen file env) := by
  have hlogging : (precedence file env).lookup "logging" =
      some (.map (givenFields loggingFields fun g => chosen file env ["logging", g])) := by
    rw [precedence, List.lookup_append, lookup_givenFields_of_notMem _ (by decide)]
    rfl
  refine ⟨fun f hf => ?_, fun v hv => ?_, fun g hg => ?_⟩
  · rw [precedence, List.lookup_append, lookup_givenFields _ hf]
    have hother : ([("logging", .map (givenFields loggingFields fun g =>
        chosen file env ["logging", g]))] : List (String × Value)).lookup f = none := by
      have hne : f ≠ "logging" := by
        rintro rfl
        exact absurd hf (by decide)
      rw [List.lookup_cons, beq_eq_false_iff_ne.2 hne, List.lookup_nil]
    rw [hother, Option.or_none]
    exact rel_refl _
  · rw [hlogging] at hv
    exact ⟨_, (Option.some.inj hv).symm⟩
  · rw [loggingEntries, hlogging, lookup_givenFields _ hg]
    exact rel_refl _

/-! ## Loading -/

theorem load_some (path : String) (file : List (String × Value)) (env : Environment) :
    load path (some file) env = (ofSources file env).mapError .settingsInvalid := by
  rw [load]
  cases ofSources file env <;> rfl

theorem ofSources_eq (hfile : IsPlainFile file) (henv : IsPlainEnvironment env) :
    ofSources file env = check (expandEntries env (precedence file env)) :=
  ((reads_merged hfile henv).expand env).check_eq ((reads_precedence file env).expand env)

/-- Files that give alike what no variable gives are settings alike. -/
theorem ofSources_congr (hfile : IsPlainFile file) (hother : IsPlainFile other)
    (henv : IsPlainEnvironment env)
    (h : ∀ r ∈ fieldRoutes, valueAt r (overrides env) = none →
      Option.Rel Alike (fileValue file r) (fileValue other r)) :
    ofSources file env = ofSources other env := by
  have hchosen : ∀ r ∈ fieldRoutes,
      Option.Rel Alike (chosen other env r) (chosen file env r) := by
    intro r hr
    have hsame := h r hr
    unfold chosen
    cases hvalue : valueAt r (overrides env) with
    | some v => exact .some (.refl v)
    | none => exact rel_symm (hsame hvalue)
  have hreads := (reads_merged hother henv).congr hchosen
  exact ((reads_merged hfile henv).expand env).check_eq (hreads.expand env)

/-! ## Values without markers -/

mutual

/-- Whether no text of a value begins as a marker does. -/
def isUnmarked : Value → Bool
  | .text s => s.toList.head? != some '@'
  | .list items => areUnmarked items
  | .map entries => entriesUnmarked entries
  | _ => true

/-- Whether no text of some values begins as a marker does. -/
def areUnmarked : List Value → Bool
  | [] => true
  | v :: vs => isUnmarked v && areUnmarked vs

/-- Whether no text of the values of some entries begins as a marker does. -/
def entriesUnmarked : List (String × Value) → Bool
  | [] => true
  | e :: rest => isUnmarked e.2 && entriesUnmarked rest

end

theorem marked?_of_unmarked {s : String} (h : s.toList.head? ≠ some '@') : marked? s = none := by
  unfold marked?
  rw [Option.bind_eq_none_iff]
  intro m hm
  have hat : ∀ e ∈ markers, e.1.toList.head? = some '@' := by decide
  obtain ⟨pre, post, hmarkers, -⟩ := List.lookup_eq_some_iff.1 hm
  have hmem : (String.ofList (s.toList.takeWhile (· ≠ ' ')), m) ∈ markers := by
    rw [hmarkers]
    simp
  have hword := hat _ hmem
  rw [String.toList_ofList] at hword
  refine absurd ?_ h
  revert hword
  cases s.toList with
  | nil => exact id
  | cons c cs =>
    rw [List.takeWhile_cons]
    split
    · exact id
    · exact nofun

mutual

theorem castMarked_of_isUnmarked : ∀ {v : Value}, isUnmarked v = true → castMarked v = v
  | .text s, h => castMarked_of_unmarked (marked?_of_unmarked (bne_iff_ne.1 h))
  | .list items, h => by rw [castMarked, castItems_of_areUnmarked h]
  | .map entries, h => by rw [castMarked, castEntries_of_entriesUnmarked h]
  | .null, _ | .bool _, _ | .int _, _ | .real _, _ | .moment _, _ => rfl

theorem castItems_of_areUnmarked : ∀ {vs : List Value}, areUnmarked vs = true → castItems vs = vs
  | [], _ => rfl
  | v :: vs, h => by
    obtain ⟨hv, hvs⟩ := Bool.and_eq_true_iff.1 h
    rw [castItems, castMarked_of_isUnmarked hv, castItems_of_areUnmarked hvs]

theorem castEntries_of_entriesUnmarked :
    ∀ {m : List (String × Value)}, entriesUnmarked m = true → castEntries m = m
  | [], _ => rfl
  | (k, v) :: m, h => by
    obtain ⟨hv, hm⟩ := Bool.and_eq_true_iff.1 h
    rw [castEntries, castMarked_of_isUnmarked hv, castEntries_of_entriesUnmarked hm]

end

/-- A file without markers that names its fields gives what it has under their names. -/
theorem fileValue_of_unmarked (hnames : LeadsByNames file)
    (hunmarked : ∀ e ∈ file, isUnmarked e.2 = true) {f : String}
    (hf : f ∈ "logging" :: singleFields) :
    fileValue file [f] = (file.find? fun e => Text.asciiLowered e.1 == f).map (·.2) := by
  rw [fileValue_of_named hf (hnames.eq_of_route hf)]
  cases hfind : file.find? fun e => Text.asciiLowered e.1 == f with
  | none => rfl
  | some e =>
    rw [Option.map_some, Option.map_some,
      castMarked_of_isUnmarked (hunmarked e (List.mem_of_find?_eq_some hfind))]

theorem fileValue_logging_of_unmarked (hnames : LeadsByNames file)
    (hunmarked : ∀ e ∈ file, isUnmarked e.2 = true) {g : String} (hg : g ∈ loggingFields) :
    fileValue file ["logging", g] =
      (file.find? fun e => Text.asciiLowered e.1 == "logging").bind fun e =>
        match e.2 with
        | .map m => (m.find? fun d => Text.asciiLowered d.1 == g).map (·.2)
        | _ => none := by
  have hnamed : (fun d : String × Value => leadsTo g d.1) =
      fun d => Text.asciiLowered d.1 == g := funext fun d => leadsTo_loggingField hg d.1
  have hvalue := fileValue_of_unmarked hnames hunmarked (f := "logging") (List.mem_cons_self ..)
  rw [fileValue] at hvalue
  rw [fileValue, fileEntries, hvalue, hnamed]
  cases file.find? fun e => Text.asciiLowered e.1 == "logging" with
  | none => rfl
  | some e =>
    obtain ⟨k, v⟩ := e
    cases v <;> rfl

/-! ## Variables by name -/

/-- The variable that is named for the field at the end of a route. -/
def variableOf (r : List String) : String :=
  variableStart ++ String.intercalate "__" (r.map Text.uppered)

/-- A variable that is named for a field gives the field its value. -/
theorem valueAt_of_variable {r : List String} (hr : r ∈ fieldRoutes)
    (hone : OneAt r (overrides env)) {s : String} (hs : (variableOf r, s) ∈ env) :
    valueAt r (overrides env) = some (castMarked (variableValue s)) := by
  have hnames : ∀ r ∈ fieldRoutes, ∃ name,
      Text.afterPrefix? variableStart.toList (variableOf r).toList = some name ∧
        route (String.ofList name) = r := by
    intro r hr
    refine ⟨(variableOf r).toList.drop variableStart.length, ?_⟩
    revert r
    decide +kernel
  obtain ⟨name, hbehind, hroute⟩ := hnames r hr
  have hmem : (String.ofList name, variableValue s) ∈ overrides env := by
    refine List.mem_filterMap.2 ⟨_, hs, ?_⟩
    rw [override?, hbehind]
    rfl
  have hprefix : r.isPrefixOf (route (String.ofList name)) = true := by
    rw [hroute]
    exact List.isPrefixOf_iff_prefix.2 (List.prefix_refl r)
  have hfiltered : (String.ofList name, variableValue s) ∈
      (overrides env).filter fun e => r.isPrefixOf (route e.1) :=
    List.mem_filter.2 ⟨hmem, hprefix⟩
  -- no other variable leads to the field, so that the one that was found is this one
  rcases hone.cases with ⟨hnone, -⟩ | ⟨e, hsome, -, hvalue⟩
  · rw [hnone] at hfiltered
    cases hfiltered
  · rw [hsome] at hfiltered
    rw [hvalue, ← List.mem_singleton.1 hfiltered]

/-! ## The precedence of sources -/

/-- In an environment of which at most one variable leads to each field and none leads further,
settings from a file like that load to what the check makes of the mapping in which every field
independently has the value of the variable that leads to it, else what the file gives for it, once
references are replaced.  A variable that is named for a field leads to it.  What a file has for
fields that variables give counts for nothing, nor does the case of its keys.  Where a file without
markers names the fields that it has, in any case, and has no key twice, it is such a file and gives
what it has under their names. -/
theorem load_precedence (path : String) {env : Environment} (henv : IsPlainEnvironment env) :
    (∀ file, IsPlainFile file → load path (some file) env =
      (check (expandEntries env (precedence file env))).mapError .settingsInvalid) ∧
    (∀ r ∈ fieldRoutes, ∀ s, (variableOf r, s) ∈ env →
      valueAt r (overrides env) = some (castMarked (variableValue s))) ∧
    (∀ file other, IsPlainFile file → IsPlainFile other →
      (∀ r ∈ fieldRoutes, valueAt r (overrides env) = none →
        fileValue file r = fileValue other r) →
          load path (some file) env = load path (some other) env) ∧
    (∀ file other, IsPlainFile file → IsPlainFile other → Recased SameButKeys file other →
      load path (some file) env = load path (some other) env) ∧
    ∀ file, LeadsByNames file → (file.map fun e => Text.asciiLowered e.1).Nodup →
      (∀ e ∈ file, isUnmarked e.2 = true) → (∀ e ∈ file, Text.asciiLowered e.1 = "logging" →
        ∃ m, e.2 = .map m ∧ (m.map fun d => Text.asciiLowered d.1).Nodup) →
          IsPlainFile file ∧ (∀ f ∈ singleFields, fileValue file [f] =
            (file.find? fun e => Text.asciiLowered e.1 == f).map (·.2)) ∧
          ∀ g ∈ loggingFields, fileValue file ["logging", g] =
            (file.find? fun e => Text.asciiLowered e.1 == "logging").bind fun e =>
              match e.2 with
              | .map m => (m.find? fun d => Text.asciiLowered d.1 == g).map (·.2)
              | _ => none := by
  refine ⟨fun file hfile => ?_, fun r hr s hs => valueAt_of_variable hr (henv.fields r hr) hs,
    fun file other hfile hother hsame => ?_, fun file other hfile hother hsame => ?_,
    fun file hnames hkeys hunmarked hlogging => ⟨?_, fun f hf => ?_, fun g hg => ?_⟩⟩
  · rw [load_some, ofSources_eq hfile henv]
  · rw [load_some, load_some, ofSources_congr hfile hother henv fun r hr hnone => ?_]
    rw [hsame r hr hnone]
    exact rel_refl _
  · rw [load_some, load_some, ofSources_congr hfile hother henv fun r _ _ =>
      rel_fileValue_of_recased hsame r]
  · refine isPlainFile_of_names hnames hkeys fun e he hname => ?_
    rw [castMarked_of_isUnmarked (hunmarked e he)]
    exact hlogging e he hname
  · exact fileValue_of_unmarked hnames hunmarked (List.mem_cons_of_mem _ hf)
  · exact fileValue_logging_of_unmarked hnames hunmarked hg

/-- Variables give the URL and the level, the file gives the lock region by a reference and the
output of log lines; the keys of the file are in various cases. -/
theorem load_precedence_both :
    let file : List (String × Value) := [("URL", .text "a"), ("Lock_Region", .text "$\x7bAREA\x7d"),
      ("logging", .map [("Level", .text "debug"), ("json_OUTPUT", .bool true)])]
    let env : Environment := [("AREA", "eu"), ("TASKLEDGER_URL", "b"),
      ("TASKLEDGER_LOGGING__LEVEL", "error")]
    IsPlainEnvironment env ∧ IsPlainFile file ∧
      load "settings.json" (some file) env =
        .ok ⟨"b", "task_", none, false, "eu", ⟨true, .error⟩⟩ ∧
      fileValue file ["lock_region"] = some (.text "$\x7bAREA\x7d") ∧
      valueAt ["url"] (overrides env) = some (castMarked (variableValue "b")) := by
  intro file env
  have hleads : ∀ r ∈ fieldRoutes, (∀ e ∈ overrides env,
      r.isPrefixOf (route e.1) = true → route e.1 = r) ∧
        ((overrides env).filter fun e => route e.1 == r).length ≤ 1 := by decide +kernel
  have henv : IsPlainEnvironment env :=
    ⟨fun r hr => ⟨(hleads r hr).1, (hleads r hr).2⟩, by decide +kernel⟩
  obtain ⟨hload, hvariable, -, -, hfiles⟩ := load_precedence "settings.json" henv
  have hnames : LeadsByNames file := by
    unfold LeadsByNames
    decide +kernel
  obtain ⟨hplain, hvalues, -⟩ := hfiles file hnames (by decide +kernel) (by decide +kernel) (by
    intro e he hname
    simp only [file, List.mem_cons, List.not_mem_nil, or_false] at he
    rcases he with rfl | rfl | rfl
    · exact absurd hname (by decide +kernel)
    · exact absurd hname (by decide +kernel)
    · exact ⟨_, rfl, by decide +kernel⟩)
  refine ⟨henv, hplain, ?_, ?_, hvariable ["url"] (by decide) "b" (by decide +kernel)⟩
  · have hcheck : check (expandEntries env (precedence file env)) =
        .ok ⟨"b", "task_", none, false, "eu", ⟨true, .error⟩⟩ := by decide +kernel
    rw [hload file hplain, hcheck]
    rfl
  · rw [hvalues "lock_region" (by decide)]
    rfl

/-- A name that is no field's gives a value to a field: as a key, one that is the field's in upper
case alone, and as a variable, one that is not in upper case.  A variable that leads further than to
a field puts a mapping in its place. -/
theorem load_beyond_names :
    ((∀ f ∈ singleFields, Text.asciiLowered "\u017fingle_instance_enabled" ≠ f) ∧
      check [] = .ok Settings.default ∧
      load "settings.json" (some [("\u017fingle_instance_enabled", .bool true)]) [] =
        .ok { Settings.default with singleInstance := true }) ∧
    (variableOf ["logging", "level"] ≠ "TASKLEDGER_logging__Level" ∧
      load "settings.json" (some []) [("TASKLEDGER_logging__Level", "debug")] =
        .ok { Settings.default with logging := ⟨false, .debug⟩ }) ∧
    variableOf ["url"] ≠ "TASKLEDGER_URL__X" ∧
      load "settings.json" (some [("url", .text "a")]) [("TASKLEDGER_URL__X", "y")] =
        .error (.settingsInvalid [⟨["url"], .notText⟩]) := by
  have hkey : ofSources [("\u017fingle_instance_enabled", .bool true)] [] =
      .ok { Settings.default with singleInstance := true } := by decide +kernel
  have hvariable : ofSources [] [("TASKLEDGER_logging__Level", "debug")] =
      .ok { Settings.default with logging := ⟨false, .debug⟩ } := by decide +kernel
  have hfurther : ofSources [("url", .text "a")] [("TASKLEDGER_URL__X", "y")] =
      .error [⟨["url"], .notText⟩] := by decide +kernel
  refine ⟨⟨by decide +kernel, rfl, ?_⟩, ⟨by decide +kernel, ?_⟩, by decide +kernel, ?_⟩
  · rw [load_some, hkey]
    rfl
  · rw [load_some, hvariable]
    rfl
  · rw [load_some, hfurther]
    rfl

end RunLedger.Settings
