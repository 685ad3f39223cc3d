import Mathlib.Data.List.Forall2
import RunLedger.Proofs.Settings.Sources

/-!
# The keys of settings files

The case of the letters A to Z in the keys of a file, and in those of a mapping in it, counts for
nothing.  A key that is a field's name in some case leads to the field; where no other key does, the
file gives for the field what it has under that name.  In the mapping about log lines no other key
can lead to a field.

    Recased SameButKeys file other → Option.Rel Alike (fileValue file r) (fileValue other r)
                                                                          (rel_fileValue_of_recased)
    fileValue file [f] = (file.find? fun e => Text.asciiLowered e.1 == f).map fun e => castMarked e.2
                                                                                 (fileValue_of_named)
    g ∈ loggingFields → leadsTo g k = (Text.asciiLowered k == g)                (leadsTo_loggingField)
-/

namespace RunLedger.Settings

open Value

/-! ## Folded keys -/

theorem stemLength_map_toLower (cs : List Char) :
    stemLength (cs.map Char.toLower) = stemLength cs := by
  have hunderscore : ∀ c : Char, c.toLower = '_' ↔ c = '_' := Text.toLower_eq_iff (by decide)
  fun_induction stemLength cs with
  | case1 => rfl
  | case2 rest => rw [List.map_cons, List.map_cons, (hunderscore '_').2 rfl, stemLength]
  | case3 c rest hapart ih =>
    rw [List.map_cons, stemLength, ih]
    intro after hc hrest
    obtain ⟨d, tail, rfl, hd, -⟩ := List.map_eq_cons_iff.1 hrest
    obtain rfl := (hunderscore d).1 hd
    exact hapart tail ((hunderscore c).1 hc) rfl

theorem asciiLowered_foldKey (k : String) :
    Text.asciiLowered (foldKey (Text.asciiLowered k)) = Text.asciiLowered (foldKey k) := by
  have hlower : Char.toLower ∘ Char.toLower = Char.toLower := funext Text.toLower_toLower
  unfold foldKey Text.asciiLowered
  simp only [String.toList_ofList, stemLength_map_toLower, ← List.map_take, ← List.map_drop,
    Text.upper_map_toLower, List.map_append, List.map_map, hlower]

/-- A key leads where it leads in any case of its letters A to Z. -/
theorem route_foldKey_congr {k j : String} (h : Text.asciiLowered k = Text.asciiLowered j) :
    route (foldKey k) = route (foldKey j) := by
  have hsame : ∀ k, route (foldKey (Text.asciiLowered k)) = route (foldKey k) := by
    intro k
    rw [← route_asciiLowered, asciiLowered_foldKey, route_asciiLowered]
  rw [← hsame k, h, hsame j]

theorem leadsTo_congr {k j : String} (h : Text.asciiLowered k = Text.asciiLowered j) (f : String) :
    leadsTo f k = leadsTo f j := by
  rw [leadsTo, leadsTo, ← Text.lowered_asciiLowered k, h, Text.lowered_asciiLowered]

/-! ## Files with keys in another case -/

/-- Entries with keys that differ in the case of letters A to Z alone, and with related values. -/
def Recased (same : Value → Value → Prop) (m n : List (String × Value)) : Prop :=
  List.Forall₂ (fun e d => Text.asciiLowered e.1 = Text.asciiLowered d.1 ∧ same e.2 d.2) m n

/-- The same value, or two mappings with keys that differ in case alone. -/
inductive SameButKeys : Value → Value → Prop where
  | refl (v : Value) : SameButKeys v v
  | maps {m n : List (String × Value)} (h : Recased Eq m n) : SameButKeys (.map m) (.map n)

theorem SameButKeys.alike {v w : Value} (h : SameButKeys v w) : Alike v w := by
  cases h with
  | refl => exact .refl v
  | maps => exact .maps _ _

theorem Recased.castEntries {m n : List (String × Value)} (h : Recased Eq m n) :
    Recased Eq (castEntries m) (castEntries n) := by
  induction h with
  | nil => exact .nil
  | @cons e d m n hhead htail ih =>
    obtain ⟨k, v⟩ := e
    obtain ⟨j, w⟩ := d
    obtain ⟨hkey, rfl⟩ := hhead
    exact .cons ⟨hkey, rfl⟩ ih

theorem SameButKeys.castMarked {v w : Value} (h : SameButKeys v w) :
    SameButKeys (castMarked v) (castMarked w) := by
  cases h with
  | refl => exact .refl _
  | maps h =>
    rw [Settings.castMarked, Settings.castMarked]
    exact .maps h.castEntries

theorem rel_find? {α β : Type} {R : α → β → Prop} {as : List α} {bs : List β} {p : α → Bool}
    {q : β → Bool} (h : List.Forall₂ R as bs) (hpq : ∀ a b, R a b → p a = q b) :
    Option.Rel R (as.find? p) (bs.find? q) := by
  induction h with
  | nil => exact .none
  | @cons a b as bs hhead htail ih =>
    rw [List.find?_cons, List.find?_cons, hpq a b hhead]
    cases q b with
    | true => exact .some hhead
    | false => exact ih

theorem rel_map {α β γ δ : Type} {R : α → β → Prop} {S : γ → δ → Prop} {x : Option α} {y : Option β}
    {f : α → γ} {g : β → δ} (h : Option.Rel R x y) (hfg : ∀ a b, R a b → S (f a) (g b)) :
    Option.Rel S (x.map f) (y.map g) := by
  cases h with
  | none => exact .none
  | some h => exact .some (hfg _ _ h)

variable {file other : List (String × Value)}

theorem rel_valueAt_folded (h : Recased SameButKeys file other) (r : List String) :
    Option.Rel SameButKeys (valueAt r (folded file)) (valueAt r (folded other)) := by
  have hfolded : List.Forall₂ (fun e d : String × Value => route e.1 = route d.1 ∧
      SameButKeys e.2 d.2) (folded file) (folded other) := by
    rw [folded, folded, List.forall₂_map_left_iff, List.forall₂_map_right_iff]
    exact h.imp fun e d hed => ⟨route_foldKey_congr hed.1, hed.2⟩
  have hfind := rel_find? (p := fun e => route e.1 == r) (q := fun e => route e.1 == r) hfolded
    fun e d hed => by rw [hed.1]
  exact rel_map hfind fun e d hed => hed.2.castMarked

theorem recased_fileEntries (h : Recased SameButKeys file other) :
    Recased Eq (fileEntries file) (fileEntries other) := by
  have hvalue := rel_valueAt_folded h ["logging"]
  have hrefl : ∀ m : List (String × Value), Recased Eq m m := fun m =>
    List.forall₂_same.2 fun e _ => ⟨rfl, rfl⟩
  unfold fileEntries
  generalize valueAt ["logging"] (folded file) = x at hvalue
  generalize valueAt ["logging"] (folded other) = y at hvalue
  cases hvalue with
  | none => exact hrefl _
  | some hvalue =>
    cases hvalue with
    | refl v => exact hrefl _
    | maps h => exact h

/-- What a file gives along a route is the same whatever the case of its keys. -/
theorem rel_fileValue_of_recased (h : Recased SameButKeys file other) (r : List String) :
    Option.Rel Alike (fileValue file r) (fileValue other r) := by
  unfold fileValue
  split
  · next f =>
    have halike := rel_map (f := id) (g := id) (rel_valueAt_folded h [f])
      fun v w hvw => hvw.alike
    rwa [Option.map_id_apply, Option.map_id_apply] at halike
  · next g =>
    have hfind := rel_find? (recased_fileEntries h) fun e d hed => leadsTo_congr hed.1 g
    refine rel_map hfind fun e d hed => ?_
    rw [hed.2]
    exact .refl _
  · exact .none

/-! ## Keys that are names -/

theorem route_foldKey_of_named {f k : String} (hf : f ∈ "logging" :: singleFields)
    (h : Text.asciiLowered k = f) : route (foldKey k) = [f] := by
  have hnames : ∀ f ∈ "logging" :: singleFields,
      Text.asciiLowered f = f ∧ route (foldKey f) = [f] := by decide +kernel
  obtain ⟨hlowered, hroute⟩ := hnames f hf
  rw [← hroute]
  exact route_foldKey_congr (h.trans hlowered.symm)

theorem filter_of_named {f : String} (hf : f ∈ "logging" :: singleFields)
    (h : ∀ e ∈ file, route (foldKey e.1) = [f] → Text.asciiLowered e.1 = f) :
    file.filter (fun e => route (foldKey e.1) == [f]) =
      file.filter fun e => Text.asciiLowered e.1 == f := by
  refine List.filter_congr fun e he => ?_
  rw [Bool.eq_iff_iff, beq_iff_eq, beq_iff_eq]
  exact ⟨h e he, route_foldKey_of_named hf⟩

/-- Only its name, in some case of the letters A to Z, leads to a field about log lines. -/
theorem leadsTo_loggingField {g : String} (hg : g ∈ loggingFields) (k : String) :
    leadsTo g k = (Text.asciiLowered k == g) := by
  have hplain : ∀ c ∈ g.toList, Text.IsPlain c.toNat := by
    simp only [loggingFields, List.mem_cons, List.not_mem_nil, or_false] at hg
    rcases hg with rfl | rfl <;> simp [Text.IsPlain, Text.IsSmall]
  have hlowered : ∀ g ∈ loggingFields, Text.lowered g = g := by decide +kernel
  rw [Bool.eq_iff_iff, leadsTo_iff, beq_iff_eq]
  constructor
  · exact Text.asciiLowered_of_lowered hplain
  · intro hk
    rw [← Text.lowered_asciiLowered, hk, hlowered g hg]

/-- Where no other key leads to a field, the file gives what it has under the field's name. -/
theorem fileValue_of_named {f : String} (hf : f ∈ "logging" :: singleFields)
    (h : ∀ e ∈ file, route (foldKey e.1) = [f] → Text.asciiLowered e.1 = f) :
    fileValue file [f] =
      (file.find? fun e => Text.asciiLowered e.1 == f).map fun e => castMarked e.2 := by
  rw [fileValue, valueAt, folded, List.find?_map, Option.map_map, ← List.head?_filter,
    ← List.head?_filter, ← filter_of_named hf h]
  rfl

theorem length_filter_le_one {α : Type} {k : α → String} {es : List α} (h : (es.map k).Nodup)
    (key : String) : (es.filter fun e => k e == key).length ≤ 1 := by
  have hcount := List.nodup_iff_count.1 h key
  rw [List.count, List.countP_map, List.countP_eq_length_filter] at hcount
  exact hcount

/-- The keys of a file that lead to a field or further are the field's names, in any case of the
letters A to Z. -/
def LeadsByNames (file : List (String × Value)) : Prop :=
  ∀ e ∈ file, ∀ f ∈ "logging" :: singleFields,
    [f].isPrefixOf (route (foldKey e.1)) = true → Text.asciiLowered e.1 = f

theorem LeadsByNames.eq_of_route (h : LeadsByNames file) {f : String}
    (hf : f ∈ "logging" :: singleFields) :
    ∀ e ∈ file, route (foldKey e.1) = [f] → Text.asciiLowered e.1 = f := by
  intro e he hroute
  refine h e he f hf ?_
  rw [hroute]
  exact List.isPrefixOf_iff_prefix.2 (List.prefix_refl [f])

/-- A file is plain where its keys lead to fields by their names alone, and are distinct in whatever
case, also those of the mapping about log lines. -/
theorem isPlainFile_of_names (hnames : LeadsByNames file)
    (hkeys : (file.map fun e => Text.asciiLowered e.1).Nodup)
    (hlogging : ∀ e ∈ file, Text.asciiLowered e.1 = "logging" →
      ∃ m, castMarked e.2 = .map m ∧ (m.map fun d => Text.asciiLowered d.1).Nodup) :
    IsPlainFile file := by
  have hmap : ∀ v ∈ valueAt ["logging"] (folded file),
      ∃ m, v = .map m ∧ (m.map fun d => Text.asciiLowered d.1).Nodup := by
    intro v hv
    have hvalue := fileValue_of_named (List.mem_cons_self ..)
      (hnames.eq_of_route (f := "logging") (List.mem_cons_self ..))
    rw [fileValue, hv] at hvalue
    obtain ⟨e, hfind, rfl⟩ := Option.map_eq_some_iff.1 hvalue.symm
    exact hlogging e (List.mem_of_find?_eq_some hfind)
      (beq_iff_eq.1 (List.find?_some (p := fun e : String × Value =>
        Text.asciiLowered e.1 == "logging") hfind))
  refine ⟨fun f hf => ⟨?_, ?_⟩, fun v hv => ?_, fun g hg => ?_⟩
  · intro e he hprefix
    obtain ⟨d, hd, rfl⟩ := List.mem_map.1 he
    exact route_foldKey_of_named hf (hnames d hd f hf hprefix)
  · rw [folded, List.filter_map, List.length_map]
    have hnamed := filter_of_named hf (hnames.eq_of_route hf)
    exact Nat.le_trans (Nat.le_of_eq (congrArg List.length hnamed)) (length_filter_le_one hkeys f)
  · obtain ⟨m, rfl, -⟩ := hmap v hv
    exact ⟨m, rfl⟩
  · unfold fileEntries
    split
    · next m hvalue =>
      obtain ⟨n, hn, hnodup⟩ := hmap _ hvalue
      cases hn
      have hnamed : under (leadsTo g) m = m.filter fun d => Text.asciiLowered d.1 == g :=
        congrArg (List.filter · m) (funext fun d => leadsTo_loggingField hg d.1)
      rw [hnamed]
      exact length_filter_le_one hnodup g
    · exact Nat.zero_le 1

end RunLedger.Settings
