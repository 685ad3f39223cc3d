import RunLedger.Settings.Expansion

/-!
# Replaced references

A text that is written from plain pieces and references is read back as these pieces, whatever
braces, colons and dashes they hold: a plain piece stays, and a reference gives way to the value of
its variable, else to its fallback, else it stays too.  What is put in is not read again.  In a
configuration the texts are replaced one by one, and all else stays as it is.

    Reference.read? (r.written ++ rest) = some (r, rest)                     (read?_written_append)
    expandText env (template ps) = ps.flatMap (TemplatePiece.value env)       (expandText_template)
    w = v.expand env ↔ w.frame = v.frame ∧ w.texts = v.texts.map (expandString env)
                                                                                (eq_expand_iff)
-/

namespace RunLedger

/-! ## Templates -/

def isVariableName : List Char → Bool
  | [] => false
  | c :: cs => Reference.isNameStart c && cs.all Reference.isNameRest

/-- A reference as it can be written: its name is one of a variable, and its fallback does not close
the braces. -/
structure Reference.IsWellFormed (r : Reference) : Prop where
  name : isVariableName r.name = true
  fallback : ∀ f ∈ r.fallback, '\x7d' ∉ f

/-- A piece of a template: text without a dollar sign, or a reference. -/
inductive TemplatePiece where
  | plain (text : List Char) (noDollar : '$' ∉ text)
  | reference (r : Reference) (wellFormed : r.IsWellFormed)

namespace TemplatePiece

/-- The piece as it is written. -/
def chars : TemplatePiece → List Char
  | plain text _ => text
  | reference r _ => r.written

/-- What stands for the piece: for a reference the value of its variable if that is set, else its
fallback if it has one, else the reference itself. -/
def value (env : Environment) : TemplatePiece → List Char
  | plain text _ => text
  | reference r _ =>
    match env.lookup (String.ofList r.name) with
    | some v => v.toList
    | none => r.fallback.getD r.written

end TemplatePiece

/-- The text that the pieces are written to. -/
def template (ps : List TemplatePiece) : List Char := ps.flatMap TemplatePiece.chars

/-! ## Reading a reference -/

section
variable {p : Char → Bool} {run : List Char} {c : Char}

theorem takeWhile_run (hrun : ∀ d ∈ run, p d = true) (hc : p c = false) (rest : List Char) :
    (run ++ c :: rest).takeWhile p = run := by
  rw [List.takeWhile_append_of_pos hrun, List.takeWhile_cons_of_neg (by simp [hc]),
    List.append_nil]

theorem dropWhile_run (hrun : ∀ d ∈ run, p d = true) (hc : p c = false) (rest : List Char) :
    (run ++ c :: rest).dropWhile p = c :: rest := by
  rw [List.dropWhile_append_of_pos hrun, List.dropWhile_cons_of_neg (by simp [hc])]

end

namespace Reference

variable {env : Environment} {r : Reference}

/-- What is written behind a reference's name. -/
def ending (r : Reference) : List Char :=
  match r.fallback with
  | none => ['\x7d']
  | some f => ':' :: '-' :: (f ++ ['\x7d'])

theorem written_eq (r : Reference) : r.written = '$' :: '\x7b' :: (r.name ++ r.ending) := by
  obtain ⟨name, fallback⟩ := r
  cases fallback with
  | none => simp [written, ending]
  | some f => simp [written, ending]

/-- A name ends where the ending begins. -/
theorem exists_ending_cons (r : Reference) :
    ∃ c cs, r.ending = c :: cs ∧ isNameRest c = false := by
  obtain ⟨name, fallback⟩ := r
  cases fallback with
  | none => exact ⟨_, _, rfl, by decide⟩
  | some f => exact ⟨_, _, rfl, by decide⟩

theorem readEnd?_ending_append (h : ∀ f ∈ r.fallback, '\x7d' ∉ f) (rest : List Char) :
    readEnd? r.name (r.ending ++ rest) = some (r, rest) := by
  obtain ⟨name, fallback⟩ := r
  cases fallback with
  | none => rfl
  | some f =>
    have hf : ∀ c ∈ f, decide (c ≠ '\x7d') = true := by
      intro c hc
      rw [decide_eq_true_eq]
      rintro rfl
      exact h f rfl hc
    have hbrace : decide ('\x7d' ≠ '\x7d') = false := by decide
    have hending : (⟨name, some f⟩ : Reference).ending ++ rest =
        ':' :: '-' :: (f ++ '\x7d' :: rest) := by simp [ending]
    rw [hending, readEnd?, dropWhile_run hf hbrace, takeWhile_run hf hbrace]

/-- A reference is read back from a text that begins with it. -/
theorem read?_written_append (h : r.IsWellFormed) (rest : List Char) :
    read? (r.written ++ rest) = some (r, rest) := by
  have hname := h.name
  have hend := readEnd?_ending_append h.fallback rest
  obtain ⟨d, ds, hending, hd⟩ := r.exists_ending_cons
  cases hcs : r.name with
  | nil =>
    rw [hcs] at hname
    cases hname
  | cons c cs =>
    rw [hcs, isVariableName, Bool.and_eq_true, List.all_eq_true] at hname
    rw [hcs, hending, List.cons_append] at hend
    have htext : r.written ++ rest = '$' :: '\x7b' :: c :: (cs ++ d :: (ds ++ rest)) := by
      rw [written_eq, hcs, hending]
      simp
    rw [htext, read?, if_pos hname.1, takeWhile_run hname.2 hd, dropWhile_run hname.2 hd, hend]

theorem read?_of_ne {c : Char} (hc : c ≠ '$') (rest : List Char) : read? (c :: rest) = none := by
  unfold read?
  split
  · next hcons => exact absurd (List.cons.inj hcons).1 hc
  · rfl

end Reference

/-! ## Replacing the references of a text -/

section
variable {env : Environment} {text rest : List Char} {r : Reference}

theorem expandText_of_read? (h : Reference.read? text = some (r, rest)) :
    expandText env text = r.value env ++ expandText env rest := by
  cases text with
  | nil => cases h
  | cons c cs =>
    rw [expandText]
    split
    · next r' rest' h' =>
      rw [h] at h'
      cases h'
      rfl
    · next h' =>
      rw [h] at h'
      cases h'

theorem expandText_plain_append (h : '$' ∉ text) (rest : List Char) :
    expandText env (text ++ rest) = text ++ expandText env rest := by
  induction text with
  | nil => rfl
  | cons c text ih =>
    have hc : c ≠ '$' := fun hc => h (hc ▸ List.mem_cons_self)
    have hread := Reference.read?_of_ne hc (text ++ rest)
    rw [List.cons_append, expandText]
    split
    · next h' =>
      rw [hread] at h'
      cases h'
    · rw [ih fun hmem => h (List.mem_cons_of_mem c hmem), List.cons_append]

theorem TemplatePiece.value_reference (h : r.IsWellFormed) :
    (reference r h).value env = r.value env := by
  rw [value, Reference.value]
  cases env.lookup (String.ofList r.name) with
  | some v => rfl
  | none => cases r.fallback <;> rfl

/-- A template is replaced piece by piece. -/
theorem expandText_template (env : Environment) (ps : List TemplatePiece) :
    expandText env (template ps) = ps.flatMap (TemplatePiece.value env) := by
  induction ps with
  | nil => rw [template, List.flatMap_nil, List.flatMap_nil, expandText]
  | cons piece ps ih =>
    rw [template] at ih
    rw [template, List.flatMap_cons, List.flatMap_cons, ← ih]
    cases piece with
    | plain text h => exact expandText_plain_append h _
    | reference r h =>
      rw [TemplatePiece.value_reference h]
      exact expandText_of_read? (Reference.read?_written_append h _)

end

/-! ## Configurations -/

def expandString (env : Environment) (s : String) : String :=
  String.ofList (expandText env s.toList)

namespace Value

mutual

/-- The value with all its texts emptied: its keys, the lengths of its lists and all else. -/
def frame : Value → Value
  | .text _ => .text ""
  | .list items => .list (itemFrames items)
  | .map entries => .map (entryFrames entries)
  | v => v

/-- The frames of the items of a list. -/
def itemFrames : List Value → List Value
  | [] => []
  | v :: vs => frame v :: itemFrames vs

/-- The entries of a map with the frames of their values. -/
def entryFrames : List (String × Value) → List (String × Value)
  | [] => []
  | (k, v) :: rest => (k, frame v) :: entryFrames rest

end

mutual

/-- The texts of a value, from left to right. -/
def texts : Value → List String
  | .text s => [s]
  | .list items => itemTexts items
  | .map entries => entryTexts entries
  | _ => []

/-- The texts of the items of a list. -/
def itemTexts : List Value → List String
  | [] => []
  | v :: vs => texts v ++ itemTexts vs

/-- The texts of the values of a map's entries. -/
def entryTexts : List (String × Value) → List String
  | [] => []
  | (_, v) :: rest => texts v ++ entryTexts rest

end

mutual

theorem frame_expand (env : Environment) : ∀ v : Value, (v.expand env).frame = v.frame
  | .text s => by rw [expand, frame, frame]
  | .list items => by rw [expand, frame, frame, itemFrames_expandItems env items]
  | .map entries => by rw [expand, frame, frame, entryFrames_expandEntries env entries]
  | .null | .bool _ | .int _ | .real _ | .moment _ => rfl

theorem itemFrames_expandItems (env : Environment) :
    ∀ vs : List Value, itemFrames (expandItems env vs) = itemFrames vs
  | [] => rfl
  | v :: vs => by
    rw [expandItems, itemFrames, itemFrames, frame_expand env v, itemFrames_expandItems env vs]

theorem entryFrames_expandEntries (env : Environment) :
    ∀ es : List (String × Value), entryFrames (expandEntries env es) = entryFrames es
  | [] => rfl
  | (k, v) :: es => by
    rw [expandEntries, entryFrames, entryFrames, frame_expand env v,
      entryFrames_expandEntries env es]

end

mutual

theorem texts_expand (env : Environment) :
    ∀ v : Value, (v.expand env).texts = v.texts.map (expandString env)
  | .text s => rfl
  | .list items => by rw [expand, texts, texts, itemTexts_expandItems env items]
  | .map entries => by rw [expand, texts, texts, entryTexts_expandEntries env entries]
  | .null | .bool _ | .int _ | .real _ | .moment _ => rfl

theorem itemTexts_expandItems (env : Environment) :
    ∀ vs : List Value, itemTexts (expandItems env vs) = (itemTexts vs).map (expandString env)
  | [] => rfl
  | v :: vs => by
    rw [expandItems, itemTexts, itemTexts, texts_expand env v, itemTexts_expandItems env vs,
      List.map_append]

theorem entryTexts_expandEntries (env : Environment) :
    ∀ es : List (String × Value),
      entryTexts (expandEntries env es) = (entryTexts es).map (expandString env)
  | [] => rfl
  | (k, v) :: es => by
    rw [expandEntries, entryTexts, entryTexts, texts_expand env v,
      entryTexts_expandEntries env es, List.map_append]

end

mutual

theorem length_texts_frame : ∀ v : Value, v.frame.texts.length = v.texts.length
  | .text _ => rfl
  | .list items => by rw [frame, texts, texts, length_itemTexts_itemFrames items]
  | .map entries => by rw [frame, texts, texts, length_entryTexts_entryFrames entries]
  | .null | .bool _ | .int _ | .real _ | .moment _ => rfl

theorem length_itemTexts_itemFrames :
    ∀ vs : List Value, (itemTexts (itemFrames vs)).length = (itemTexts vs).length
  | [] => rfl
  | v :: vs => by
    rw [itemFrames, itemTexts, itemTexts, List.length_append, List.length_append,
      length_texts_frame v, length_itemTexts_itemFrames vs]

theorem length_entryTexts_entryFrames :
    ∀ es : List (String × Value), (entryTexts (entryFrames es)).length = (entryTexts es).length
  | [] => rfl
  | (k, v) :: es => by
    rw [entryFrames, entryTexts, entryTexts, List.length_append, List.length_append,
      length_texts_frame v, length_entryTexts_entryFrames es]

end

theorem length_texts_of_frame {v w : Value} (h : v.frame = w.frame) :
    v.texts.length = w.texts.length := by
  rw [← length_texts_frame v, h, length_texts_frame w]

mutual

/-- A value is told by its frame and its texts. -/
theorem eq_of_frame_texts : ∀ {v w : Value}, v.frame = w.frame → v.texts = w.texts → v = w
  | .text s, w, hframe, htexts => by
    cases w with
    | text t => rw [List.singleton_inj.1 htexts]
    | _ => cases hframe
  | .list items, w, hframe, htexts => by
    cases w with
    | list others => rw [eq_of_itemFrames_itemTexts (Value.list.inj hframe) htexts]
    | _ => cases hframe
  | .map entries, w, hframe, htexts => by
    cases w with
    | map others => rw [eq_of_entryFrames_entryTexts (Value.map.inj hframe) htexts]
    | _ => cases hframe
  | .null, w, hframe, _ | .bool _, w, hframe, _ | .int _, w, hframe, _ | .real _, w, hframe, _
  | .moment _, w, hframe, _ => by
    cases w <;> cases hframe
    rfl

theorem eq_of_itemFrames_itemTexts : ∀ {vs ws : List Value},
    itemFrames vs = itemFrames ws → itemTexts vs = itemTexts ws → vs = ws
  | [], [], _, _ => rfl
  | v :: vs, w :: ws, hframe, htexts => by
    obtain ⟨hhead, htail⟩ := List.cons.inj hframe
    obtain ⟨hfirst, hrest⟩ := List.append_inj htexts (length_texts_of_frame hhead)
    rw [eq_of_frame_texts hhead hfirst, eq_of_itemFrames_itemTexts htail hrest]

theorem eq_of_entryFrames_entryTexts : ∀ {es ds : List (String × Value)},
    entryFrames es = entryFrames ds → entryTexts es = entryTexts ds → es = ds
  | [], [], _, _ => rfl
  | (k, v) :: es, (j, w) :: ds, hframe, htexts => by
    obtain ⟨hentry, htail⟩ := List.cons.inj hframe
    obtain ⟨hkey, hhead⟩ := Prod.mk.inj hentry
    obtain ⟨hfirst, hrest⟩ := List.append_inj htexts (length_texts_of_frame hhead)
    rw [hkey, eq_of_frame_texts hhead hfirst, eq_of_entryFrames_entryTexts htail hrest]

end

end Value

/-- In a configuration references are replaced text by text, whatever the environment: the result is
the one configuration with the same keys, lists of the same lengths and the same values other than
texts, in which each text is replaced by itself.  A text written from plain pieces and references is
replaced piece by piece, and what is put in for a reference is not read again. -/
theorem expand_faithful (env : Environment) :
    (∀ config other : List (String × Value), other = Value.expandEntries env config ↔
      (Value.map other).frame = (Value.map config).frame ∧
      (Value.map other).texts = (Value.map config).texts.map (expandString env)) ∧
    ∀ ps : List TemplatePiece, expandString env (String.ofList (template ps)) =
      String.ofList (ps.flatMap (TemplatePiece.value env)) := by
  refine ⟨fun config other => ?_, fun ps => ?_⟩
  · have hframe := Value.frame_expand env (.map config)
    have htexts := Value.texts_expand env (.map config)
    rw [Value.expand] at hframe htexts
    constructor
    · rintro rfl
      exact ⟨hframe, htexts⟩
    · rintro ⟨hsame, hreplaced⟩
      exact Value.map.inj
        (Value.eq_of_frame_texts (hsame.trans hframe.symm) (hreplaced.trans htexts.symm))
  · rw [expandString, String.toList_ofList, expandText_template]

/-- A plain piece, a reference to a variable that is set to a reference, and one with a fallback,
which its first closing brace ends. -/
theorem expand_faithful_pieces :
    let env : Environment := [("A", "$\x7bB\x7d")]
    let ps : List TemplatePiece := [
      .plain ['-'] (by decide),
      .reference ⟨['A'], none⟩ ⟨by decide, nofun⟩,
      .reference ⟨['C'], some ['$', '\x7b', 'B']⟩ ⟨by decide, by simp⟩]
    String.ofList (template ps) = "-$\x7bA\x7d$\x7bC:-$\x7bB\x7d" ∧
      expandString env (String.ofList (template ps)) = "-$\x7bB\x7d$\x7bB" := by
  intro env ps
  exact ⟨by decide +kernel, ((expand_faithful env).2 ps).trans (by decide +kernel)⟩

/-- A value that holds a reference, a variable that is set but empty, and a fallback that begins as
a reference does. -/
example :
    expandString [("A", "$\x7bB\x7d"), ("B", "")]
      "-$\x7bA\x7d$\x7bB:-b\x7d$\x7bC:-$\x7bB\x7d\x7d$\x7bC\x7d" =
      "-$\x7bB\x7d$\x7bB\x7d$\x7bC\x7d" := by
  decide +kernel

end RunLedger
