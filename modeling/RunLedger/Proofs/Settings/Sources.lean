import RunLedger.Proofs.Settings.Checking
import RunLedger.Proofs.Settings.Routes

/-!
# What a file and the environment give together

For each field the merged mapping holds what the one variable that leads to it gives, else what the
file gives, else nothing.  Here the file is one of which at most one key leads to each field and none
leads further; so are the variables, and none of them puts something in the place of the mapping
about log lines.

    IsPlainFile file → IsPlainEnvironment env →
      Reads (merged file env) (chosen file env)                                   (reads_merged)
-/

namespace RunLedger.Settings

open Value

/-! ## Entries that lead along a route -/

/-- The value of the entry that leads along a route, with its marked texts read. -/
def valueAt (r : List String) (es : List (String × Value)) : Option Value :=
  (es.find? fun e => route e.1 == r).map fun e => castMarked e.2

/-- At most one entry leads along the route, and none leads further. -/
structure OneAt (r : List String) (es : List (String × Value)) : Prop where
  none_further : ∀ e ∈ es, r.isPrefixOf (route e.1) = true → route e.1 = r
  once : (es.filter fun e => route e.1 == r).length ≤ 1

theorem OneAt.cases {r : List String} {es : List (String × Value)} (h : OneAt r es) :
    (es.filter (fun e => r.isPrefixOf (route e.1)) = [] ∧ valueAt r es = none) ∨
      ∃ e, es.filter (fun e => r.isPrefixOf (route e.1)) = [e] ∧ route e.1 = r ∧
        valueAt r es = some (castMarked e.2) := by
  -- nothing leads further, so that what leads into the place leads to it
  have hexact : es.filter (fun e => r.isPrefixOf (route e.1)) =
      es.filter fun e => route e.1 == r := by
    refine List.filter_congr fun e he => ?_
    rw [Bool.eq_iff_iff, beq_iff_eq]
    constructor
    · exact h.none_further e he
    · intro hroute
      rw [hroute]
      exact List.isPrefixOf_iff_prefix.2 (List.prefix_refl r)
  rw [hexact, valueAt, ← List.head?_filter]
  have honce := h.once
  cases hes : es.filter fun e => route e.1 == r with
  | nil => exact .inl ⟨rfl, rfl⟩
  | cons e rest =>
    rw [hes] at honce
    obtain rfl : rest = [] := List.eq_nil_of_length_eq_zero (by simpa using honce)
    have hmem : e ∈ es.filter fun e => route e.1 == r := by simp [hes]
    exact .inr ⟨e, rfl, beq_iff_eq.1 (List.mem_filter.1 hmem).2, rfl⟩

theorem isPrefixOf_route (f name : String) :
    [f].isPrefixOf (route name) = leadsTo f (stem name) := by
  rw [route, List.isPrefixOf_cons_cons, List.isPrefixOf_nil_left, Bool.and_true, leadsTo, Bool.beq_comm]

theorem under_stem (f : String) (es : List (String × Value)) :
    under (fun name => leadsTo f (stem name)) es =
      es.filter fun e => [f].isPrefixOf (route e.1) :=
  congrArg (List.filter · es) (funext fun e => (isPrefixOf_route f e.1).symm)

/-! ## The sources -/

/-- The entries of a file under the keys that they are put in with. -/
def folded (file : List (String × Value)) : List (String × Value) :=
  file.map fun e => (foldKey e.1, e.2)

/-- What the variables of an environment give. -/
def overrides (env : Environment) : List (String × Value) := env.filterMap override?

/-- What is collected from a file and an environment, before keys are lowered. -/
def collected (file : List (String × Value)) (env : Environment) : List (String × Value) :=
  (ofFile file ++ overrides env).foldl putRead []

theorem merged_eq (file : List (String × Value)) (env : Environment) :
    merged file env = ofEntries (lowerEntries (collected file env)) := rfl

/-- The entries about log lines that a file has. -/
def fileEntries (file : List (String × Value)) : List (String × Value) :=
  match valueAt ["logging"] (folded file) with
  | some (.map m) => m
  | _ => []

/-- What a file gives along a route. -/
def fileValue (file : List (String × Value)) : List String → Option Value
  | [f] => valueAt [f] (folded file)
  | ["logging", g] => ((fileEntries file).find? fun e => leadsTo g e.1).map (·.2)
  | _ => none

/-- What holds along a route: the value of a variable, else that of the file. -/
def chosen (file : List (String × Value)) (env : Environment) (r : List String) : Option Value :=
  (valueAt r (overrides env)).or (fileValue file r)

/-- A file of which at most one key leads to each field and none leads further; what it has for log
lines, if anything, is a mapping, of which again at most one key is each field's name. -/
structure IsPlainFile (file : List (String × Value)) : Prop where
  fields : ∀ f ∈ "logging" :: singleFields, OneAt [f] (folded file)
  logging : ∀ v ∈ valueAt ["logging"] (folded file), ∃ m, v = .map m
  inner : ∀ g ∈ loggingFields, (under (leadsTo g) (fileEntries file)).length ≤ 1

/-- An environment of which at most one variable leads to each field and none leads further, or to
the mapping about log lines as a whole. -/
structure IsPlainEnvironment (env : Environment) : Prop where
  fields : ∀ r ∈ fieldRoutes, OneAt r (overrides env)
  notWhole : ∀ e ∈ overrides env, route e.1 ≠ ["logging"]

variable {file : List (String × Value)} {env : Environment}

/-! ## Fields that hold single values -/

theorem lowerKeys_map (m : List (String × Value)) :
    lowerKeys (.map m) = .map (ofEntries (lowerEntries m)) := by
  rw [lowerKeys]

theorem alike_lowerKeys (v : Value) : Alike (lowerKeys v) v := by
  cases v with
  | map m =>
    rw [lowerKeys_map]
    exact .maps _ _
  | _ =>
    rw [lowerKeys]
    · exact .refl _
    · exact nofun

theorem alike_mergeValue (old new : Value) : Alike (mergeValue old new) new := by
  unfold mergeValue
  split
  · exact .maps _ _
  · exact .refl _

theorem alike_lowerKeys_mergeValue (old new : Value) :
    Alike (lowerKeys (mergeValue old new)) new := by
  have hlower := alike_lowerKeys (mergeValue old new)
  have hmerge := alike_mergeValue old new
  revert hlower
  generalize mergeValue old new = v at hmerge
  cases hmerge with
  | refl => exact id
  | maps m n =>
    intro _
    rw [lowerKeys_map]
    exact .maps _ _

theorem lowerEntries_eq_map (m : List (String × Value)) :
    lowerEntries m = m.map fun e => (Text.lowered e.1, lowerKeys e.2) := by
  induction m with
  | nil => rfl
  | cons e m ih =>
    obtain ⟨k, v⟩ := e
    rw [lowerEntries, ih, List.map_cons]

/-- A mapping with its keys in lower case has under a field's name what came last under it. -/
theorem lookup_lowered (f : String) (m : List (String × Value)) :
    (ofEntries (lowerEntries m)).lookup f =
      ((under (leadsTo f) m).getLast?).map fun e => lowerKeys e.2 := by
  rw [lookup_ofEntries, under_lowerEntries]
  have hunder : under (fun k => Text.lowered k == f) m = under (leadsTo f) m := rfl
  rw [hunder, lowerEntries_eq_map, List.getLast?_map, Option.map_map]
  rfl

theorem under_collected (f : String) (file : List (String × Value)) (env : Environment) :
    under (leadsTo f) (collected file env) =
      (ofEntries ((folded file).filter fun e => [f].isPrefixOf (route e.1)) ++
        (overrides env).filter fun e => [f].isPrefixOf (route e.1)).foldl putRead [] := by
  have hfile : under (fun name => leadsTo f (stem name)) (ofFile file) =
      ofEntries ((folded file).filter fun e => [f].isPrefixOf (route e.1)) := by
    rw [ofFile, under_ofEntries, ← under_stem]
    rfl
  rw [collected, under_foldl_putRead, List.filter_append, ← hfile, ← under_stem]
  rfl

theorem putRead_of_route {e : String × Value} {f : String} (h : route e.1 = [f])
    (m : List (String × Value)) : putRead m e = assign (stem e.1) (castMarked e.2) m := by
  have hbranches : branches e.1 = [] := by
    have htail := congrArg List.tail h
    simpa [route] using htail
  rw [putRead, put_eq, hbranches, nested]

/-- Of two entries for one field the second one holds, but for what a mapping takes over. -/
theorem getLast?_assign_singleton (k key : String) (old v : Value) :
    ∃ e, (assign key v [(k, old)]).getLast? = some e ∧ Alike (lowerKeys e.2) v := by
  by_cases hkey : key = k
  · subst hkey
    refine ⟨(key, mergeValue old v), ?_, alike_lowerKeys_mergeValue old v⟩
    simp [assign, putEntry]
  · have hne : (key == k) = false := by simpa using hkey
    refine ⟨(key, v), ?_, alike_lowerKeys v⟩
    simp [assign, List.lookup_cons, hne, putEntry, Ne.symm hkey]

theorem rel_merged_single {f : String} (hfile : OneAt [f] (folded file))
    (henv : OneAt [f] (overrides env)) :
    Option.Rel Alike ((merged file env).lookup f) (chosen file env [f]) := by
  rw [merged_eq, lookup_lowered, under_collected, chosen, fileValue]
  -- the file and the variables each have one entry for the field or none
  rcases hfile.cases with ⟨hfile, hvalue⟩ | ⟨e, hfile, hroute, hvalue⟩ <;>
    rcases henv.cases with ⟨henv, hnone⟩ | ⟨d, henv, hleads, hsome⟩
  · rw [hfile, hvalue, henv, hnone]
    exact .none
  · rw [hfile, hvalue, henv, hsome]
    have hput : (ofEntries [] ++ [d]).foldl putRead [] = [(stem d.1, castMarked d.2)] :=
      putRead_of_route hleads []
    rw [hput]
    exact .some (alike_lowerKeys _)
  · rw [hfile, hvalue, henv, hnone]
    have hput : (ofEntries [e] ++ []).foldl putRead [] = [(stem e.1, castMarked e.2)] :=
      putRead_of_route hroute []
    rw [hput]
    exact .some (alike_lowerKeys _)
  · rw [hfile, hvalue, henv, hsome]
    have hput : (ofEntries [e] ++ [d]).foldl putRead [] =
        assign (stem d.1) (castMarked d.2) [(stem e.1, castMarked e.2)] := by
      have hfirst : putRead [] e = [(stem e.1, castMarked e.2)] := putRead_of_route hroute []
      have hboth : (ofEntries [e] ++ [d]).foldl putRead [] = putRead (putRead [] e) d := rfl
      rw [hboth, hfirst, putRead_of_route hleads]
    obtain ⟨last, hlast, halike⟩ := getLast?_assign_singleton (stem e.1) (stem d.1)
      (castMarked e.2) (castMarked d.2)
    rw [hput, hlast]
    exact .some halike

/-! ## The mapping about log lines -/

theorem stem_eq_logging {name : String} (h : leadsTo "logging" (stem name) = true) :
    stem name = "LOGGING" := Text.uppered_eq_logging (leadsTo_iff.1 h)

/-- The variables that lead into the mapping about log lines. -/
def loggingOverrides (env : Environment) : List (String × Value) :=
  (overrides env).filter fun e => ["logging"].isPrefixOf (route e.1)

theorem stem_loggingOverrides (henv : ∀ e ∈ overrides env, route e.1 ≠ ["logging"]) :
    ∀ e ∈ loggingOverrides env, stem e.1 = "LOGGING" ∧ branches e.1 ≠ [] := by
  intro e he
  obtain ⟨hmem, hleads⟩ := List.mem_filter.1 he
  rw [isPrefixOf_route] at hleads
  refine ⟨stem_eq_logging hleads, fun hbranches => henv e hmem ?_⟩
  rw [route, leadsTo_iff.1 hleads, hbranches, List.map_nil]

/-- The mapping about log lines as the file has it absorbs what the variables put into it. -/
theorem under_collected_logging (hfile : IsPlainFile file)
    (henv : ∀ e ∈ overrides env, route e.1 ≠ ["logging"]) :
    let m := ((loggingOverrides env).map twig).foldl absorb (fileEntries file)
    under (leadsTo "logging") (collected file env) = [("LOGGING", .map m)] ∨
      under (leadsTo "logging") (collected file env) = [] ∧ m = [] := by
  intro m
  have hstems := stem_loggingOverrides henv
  have hoverrides : ((overrides env).filter fun e => ["logging"].isPrefixOf (route e.1)) =
      loggingOverrides env := rfl
  rw [under_collected, List.foldl_append, hoverrides]
  -- without a mapping in the file the first of the variables makes one, if there are any
  rcases (hfile.fields "logging" (List.mem_cons_self ..)).cases with
    ⟨hnone, hvalue⟩ | ⟨e, hone, hroute, hvalue⟩
  · have hentries : fileEntries file = [] := by rw [fileEntries, hvalue]
    have hstart : (ofEntries ([] : List (String × Value))).foldl putRead [] = [] := rfl
    rw [hnone, hstart]
    cases hover : loggingOverrides env with
    | nil =>
      refine .inr ⟨rfl, ?_⟩
      simp [m, hover, hentries]
    | cons e es =>
      rw [hover] at hstems
      obtain ⟨⟨hstem, hbranches⟩, hes⟩ := List.forall_mem_cons.1 hstems
      refine .inl ?_
      rw [List.foldl_cons, putRead_nil hbranches, hstem, foldl_putRead_map hes]
      simp [m, hover, hentries]
  · obtain ⟨n, hmap⟩ := hfile.logging _ hvalue
    have hentries : fileEntries file = n := by rw [fileEntries, hvalue, hmap]
    have hstem : stem e.1 = "LOGGING" := by
      refine stem_eq_logging ?_
      rw [← isPrefixOf_route, hroute]
      rfl
    have hput : (ofEntries [e]).foldl putRead [] = [("LOGGING", .map n)] := by
      rw [← hstem, ← hmap]
      exact putRead_of_route hroute []
    rw [hone, hput]
    refine .inl ?_
    rw [← hentries]
    exact foldl_putRead_map hstems _

theorem loggingEntries_merged (hfile : IsPlainFile file)
    (henv : ∀ e ∈ overrides env, route e.1 ≠ ["logging"]) :
    (∀ v ∈ (merged file env).lookup "logging", ∃ n, v = .map n) ∧
      loggingEntries (merged file env) = ofEntries (lowerEntries
        (((loggingOverrides env).map twig).foldl absorb (fileEntries file))) := by
  have hlookup := lookup_lowered "logging" (collected file env)
  rw [← merged_eq] at hlookup
  rcases under_collected_logging hfile henv with hunder | ⟨hunder, hnil⟩
  · rw [hunder] at hlookup
    unfold loggingEntries
    rw [hlookup]
    refine ⟨fun v hv => ?_, ?_⟩
    · obtain rfl := Option.some.inj hv
      exact ⟨_, lowerKeys_map _⟩
    · simp [lowerKeys_map]
  · rw [hunder] at hlookup
    unfold loggingEntries
    rw [hlookup, hnil]
    exact ⟨nofun, rfl⟩

/-- The entries that variables put under a field of the mapping are those that lead to it. -/
theorem under_twigs (henv : ∀ e ∈ overrides env, route e.1 ≠ ["logging"]) (g : String) :
    under (leadsTo g) ((loggingOverrides env).map twig) =
      ((overrides env).filter fun e => ["logging", g].isPrefixOf (route e.1)).map twig := by
  rw [under, List.filter_map, loggingOverrides, List.filter_filter]
  refine congrArg _ (List.filter_congr fun e he => ?_)
  have hwhole := henv e he
  cases hleads : ["logging"].isPrefixOf (route e.1) with
  | true =>
    rw [isPrefixOf_route, leadsTo_iff] at hleads
    cases hbranches : branches e.1 with
    | nil =>
      refine absurd ?_ hwhole
      rw [route, hleads, hbranches, List.map_nil]
    | cons key rest =>
      simp [route, hleads, hbranches, twig, leadsTo, List.isPrefixOf_cons_cons, Bool.beq_comm]
  | false =>
    rw [isPrefixOf_route, leadsTo, Bool.beq_comm] at hleads
    rw [route, List.isPrefixOf_cons_cons, hleads, Bool.false_and, Bool.and_false]

theorem twig_of_route {e : String × Value} {g : String} (h : route e.1 = ["logging", g]) :
    ∃ key, Text.lowered key = g ∧ twig e = (key, castMarked e.2) := by
  have hbranches : (branches e.1).map Text.lowered = [g] := congrArg List.tail h
  obtain ⟨key, rest, hcons, hkey, hrest⟩ := List.map_eq_cons_iff.1 hbranches
  obtain rfl := List.map_eq_nil_iff.1 hrest
  refine ⟨key, hkey, ?_⟩
  rw [twig, hcons]
  rfl

theorem rel_merged_inner (hfile : IsPlainFile file)
    (henv : ∀ e ∈ overrides env, route e.1 ≠ ["logging"]) {g : String} (hg : g ∈ loggingFields)
    (hone : OneAt ["logging", g] (overrides env)) :
    Option.Rel Alike ((loggingEntries (merged file env)).lookup g)
      (chosen file env ["logging", g]) := by
  have honce := hfile.inner g hg
  rw [(loggingEntries_merged hfile henv).2, lookup_lowered, under_foldl_absorb _ honce,
    under_twigs henv, chosen, fileValue, ← List.head?_filter]
  have hunder : (fileEntries file).filter (fun e => leadsTo g e.1) =
    under (leadsTo g) (fileEntries file) := rfl
  rw [hunder]
  -- what the file has for the field is merged with what a variable gives for it
  cases hold : under (leadsTo g) (fileEntries file) with
  | nil =>
    rcases hone.cases with ⟨henv, hvalue⟩ | ⟨e, henv, hroute, hvalue⟩
    · rw [henv, hvalue]
      exact .none
    · obtain ⟨key, -, htwig⟩ := twig_of_route hroute
      rw [henv, hvalue, List.map_cons, List.map_nil, List.foldl_cons, List.foldl_nil, absorb_nil,
        htwig]
      exact .some (alike_lowerKeys _)
  | cons old rest =>
    rw [hold] at honce
    obtain rfl : rest = [] := List.eq_nil_of_length_eq_zero (by simpa using honce)
    rcases hone.cases with ⟨henv, hvalue⟩ | ⟨e, henv, hroute, hvalue⟩
    · rw [henv, hvalue]
      exact .some (alike_lowerKeys _)
    · obtain ⟨key, hkey, htwig⟩ := twig_of_route hroute
      obtain ⟨k, v⟩ := old
      have hmem : (k, v) ∈ under (leadsTo g) (fileEntries file) := by simp [hold]
      have hk := leadsTo_iff.1 (List.mem_filter.1 hmem).2
      rw [henv, hvalue, List.map_cons, List.map_nil, List.foldl_cons, List.foldl_nil, htwig,
        absorb_singleton (hk.trans hkey.symm)]
      exact .some (alike_lowerKeys_mergeValue _ _)

/-- For each field the merged mapping holds what a variable gives, else what the file gives. -/
theorem reads_merged (hfile : IsPlainFile file) (henv : IsPlainEnvironment env) :
    Reads (merged file env) (chosen file env) where
  single f hf := rel_merged_single (hfile.fields f (List.mem_cons_of_mem _ hf))
    (henv.fields [f] (single_mem_fieldRoutes hf))
  logging := (loggingEntries_merged hfile henv.notWhole).1
  inner g hg := rel_merged_inner hfile henv.notWhole hg
    (henv.fields ["logging", g] (inner_mem_fieldRoutes hg))

end RunLedger.Settings
