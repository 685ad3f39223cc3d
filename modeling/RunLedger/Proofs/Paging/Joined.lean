import RunLedger.Proofs.Paging.Placeholders
import RunLedger.Proofs.Sorted

/-!
# Queries put together

A query is put together from a text that a scan leaves outside quotes and another that begins with a
character that no placeholder goes on with.  Each keeps its placeholders: the positional ones add
up, and the second adds the names that the first does not have.

    placeholders (a ++ b) = placeholders a ++ placeholders b                  (placeholders_append)
    .named name ∈ placeholdersFrom .plain cs → IsParameterName name    (isParameterName_of_placed)
    placeholderNames (ps ++ qs) = placeholderNames ps ++
      (placeholderNames qs).filter (· ∉ placeholderNames ps)              (placeholderNames_append)
-/

namespace RunLedger

/-! ## Where placeholders end -/

/-- Whether a text ends the placeholder before it: it is empty, or begins with a blank or with a
separator of names other than the colon. -/
def endsPlaceholder : List Char → Bool
  | [] => true
  | c :: _ => Text.isBlank c || nameSeparators.contains c && c ≠ ':'

theorem not_isNameChar_of_endsPlaceholder {c : Char} {rest : List Char}
    (h : endsPlaceholder (c :: rest) = true) : isNameChar c = false ∧ c ≠ ':' := by
  rw [endsPlaceholder, Bool.or_eq_true, Bool.and_eq_true, decide_eq_true_eq] at h
  rcases h with hblank | ⟨hseparator, hcolon⟩
  · refine ⟨by rw [isNameChar, hblank]; rfl, ?_⟩
    rintro rfl
    exact absurd hblank (by decide)
  · exact ⟨by rw [isNameChar, hseparator, Bool.not_true, Bool.and_false], hcolon⟩

theorem placeholders_append {a b : String} (ha : endsUnquoted a.toList = true)
    (hb : endsPlaceholder b.toList = true) :
    placeholders (a ++ b) = placeholders a ++ placeholders b := by
  simp only [placeholders, String.toList_append]
  cases hlist : b.toList with
  | nil => exact (congrArg _ (List.append_nil _)).trans (List.append_nil _).symm
  | cons c rest =>
    rw [hlist] at hb
    obtain ⟨hname, hcolon⟩ := not_isNameChar_of_endsPlaceholder hb
    exact placeholdersFrom_append_anew ha hname hcolon rest

/-! ## Names of placeholders -/

/-- Whether a text can be the name of a placeholder. -/
structure IsParameterName (name : String) : Prop where
  nonempty : name ≠ ""
  plain : ∀ c ∈ name.toList, Text.isBlank c = false ∧ c ∉ nameSeparators

namespace ScanMode

/-- Whether the name that a scan is in, if it is in one, has begun and is free of blanks and
separators. -/
def NameIsPlain : ScanMode → Prop
  | name cs => cs ≠ [] ∧ ∀ c ∈ cs, isNameChar c = true
  | _ => True

variable {m : ScanMode} {c : Char} {name : String}

theorem nameIsPlain_fresh (c : Char) : (fresh c).NameIsPlain := by
  unfold fresh
  split
  · trivial
  · split
    · trivial
    · split <;> trivial

namespace NameIsPlain

theorem next (h : m.NameIsPlain) (c : Char) : (m.next c).NameIsPlain := by
  have hfresh := nameIsPlain_fresh c
  have hbegun (hc : isNameChar c = true) : (ScanMode.name [c]).NameIsPlain :=
    ⟨List.cons_ne_nil _ _, fun d hd => List.mem_singleton.1 hd ▸ hc⟩
  cases m with
  | plain => exact hfresh
  | quoted quote => rw [ScanMode.next]; split <;> trivial
  | colon =>
    rw [ScanMode.next]
    split
    · trivial
    · split
      · next hc => exact hbegun hc
      · exact hfresh
  | ampersand =>
    rw [ScanMode.next]
    split
    · next hc => exact hbegun hc
    · exact hfresh
  | name cs =>
    rw [ScanMode.next]
    split
    · next hc => exact ⟨List.cons_ne_nil _ _, List.forall_mem_cons.2 ⟨hc, h.2⟩⟩
    · exact hfresh

theorem isParameterName {cs : List Char} (h : (ScanMode.name cs).NameIsPlain) :
    IsParameterName (String.ofList cs.reverse) := by
  refine ⟨fun hempty => h.1 ?_, fun c hc => ?_⟩
  · rw [← String.toList_inj, String.toList_ofList] at hempty
    exact List.reverse_eq_nil_iff.1 hempty
  · rw [String.toList_ofList, List.mem_reverse] at hc
    simpa [isNameChar] using h.2 c hc

theorem single_not_named (c : Char) (name : String) : .named name ∉ single c := by
  unfold single
  split <;> simp

/-- Each name that the next character completes is one that a placeholder can have. -/
theorem isParameterName_of_emit (h : m.NameIsPlain) (hname : .named name ∈ m.emit c) :
    IsParameterName name := by
  have hsingle := single_not_named c name
  cases m with
  | plain => exact absurd hname hsingle
  | quoted quote => cases hname
  | colon | ampersand =>
    rw [ScanMode.emit] at hname
    split at hname
    · cases hname
    · exact absurd hname hsingle
  | name cs =>
    rw [ScanMode.emit] at hname
    split at hname
    · cases hname
    · rcases List.mem_cons.1 hname with hcs | hname
      · rw [Placeholder.named.inj hcs]
        exact h.isParameterName
      · exact absurd hname hsingle

theorem isParameterName_of_finish (h : m.NameIsPlain) (hname : .named name ∈ m.finish) :
    IsParameterName name := by
  cases m with
  | name cs =>
    rw [Placeholder.named.inj (List.mem_singleton.1 hname)]
    exact h.isParameterName
  | plain | quoted quote | colon | ampersand => cases hname

/-- Each name in a text that is read on from such a mode is one that a placeholder can have. -/
theorem isParameterName_of_placed (h : m.NameIsPlain) {cs : List Char}
    (hname : .named name ∈ placeholdersFrom m cs) : IsParameterName name := by
  -- that a name which was begun is plain is kept by each character
  induction cs generalizing m with
  | nil => exact h.isParameterName_of_finish hname
  | cons c cs ih =>
    rw [placeholdersFrom, List.mem_append] at hname
    rcases hname with hname | hname
    · exact h.isParameterName_of_emit hname
    · exact ih (h.next c) hname

end NameIsPlain

end ScanMode

theorem mem_placeholderNames {name : String} {ps : List Placeholder} :
    name ∈ placeholderNames ps ↔ .named name ∈ ps := by
  rw [placeholderNames, List.mem_eraseDups, List.mem_filterMap]
  constructor
  · rintro ⟨p, hp, hname⟩
    cases p with
    | positional => cases hname
    | named n =>
      cases hname
      exact hp
  · intro h
    exact ⟨_, h, rfl⟩

theorem placeholderNames_append (ps qs : List Placeholder) :
    placeholderNames (ps ++ qs) =
      placeholderNames ps ++ (placeholderNames qs).filter (· ∉ placeholderNames ps) := by
  rw [placeholderNames, List.filterMap_append, eraseDups_append_eq_filter]
  rfl

/-! ## Joined queries -/

/-- How many parameters of a query are positional: those that are not counted for a name. -/
def positionalCount (sql : String) : Int :=
  (parameterCount (placeholders sql) : Int) - (placeholderNames (placeholders sql)).length

theorem positionalCount_eq (sql : String) :
    positionalCount sql = (placeholders sql).count .positional := by
  rw [positionalCount, parameterCount]
  omega

/-- The parameters of a query that is put together from two texts are told by those of the texts:
the names are those of the first and then those of the second that the first does not have, and the
positional ones add up.  The first text has to leave a scan outside quotes, and the second to end
the placeholder before it.  No name is empty, has a blank or a separator in it or comes twice. -/
theorem parameters_joined :
    (∀ a b : String, endsUnquoted a.toList = true → endsPlaceholder b.toList = true →
      placeholderNames (placeholders (a ++ b)) = placeholderNames (placeholders a) ++
        (placeholderNames (placeholders b)).filter (· ∉ placeholderNames (placeholders a)) ∧
      positionalCount (a ++ b) = positionalCount a + positionalCount b) ∧
    ∀ sql : String, (placeholderNames (placeholders sql)).Nodup ∧
      ∀ name ∈ placeholderNames (placeholders sql), IsParameterName name := by
  refine ⟨fun a b ha hb => ?_, fun sql => ⟨nodup_eraseDups _, fun name hname => ?_⟩⟩
  · have hjoined := placeholders_append ha hb
    refine ⟨by rw [hjoined, placeholderNames_append], ?_⟩
    rw [positionalCount_eq, positionalCount_eq, positionalCount_eq, hjoined, List.count_append,
      Int.natCast_add]
  · have hplain : ScanMode.plain.NameIsPlain := trivial
    exact hplain.isParameterName_of_placed (mem_placeholderNames.1 hname)

/-- A lone colon and a quoted section before the place where the texts meet, and a name that the
first has already behind it. -/
theorem parameters_joined_repeated :
    let a := "? :x ':y' &z:"
    let b := "(:y ? &x"
    endsUnquoted a.toList = true ∧ endsPlaceholder b.toList = true ∧
      placeholderNames (placeholders a) = ["x", "z"] ∧
      placeholderNames (placeholders b) = ["y", "x"] ∧
      placeholderNames (placeholders (a ++ b)) = ["x", "z", "y"] ∧
      positionalCount (a ++ b) = 2 ∧
      ∀ name ∈ placeholderNames (placeholders b), IsParameterName name := by
  intro a b
  have ha : endsUnquoted a.toList = true := by decide
  have hb : endsPlaceholder b.toList = true := by decide
  have hnames : placeholderNames (placeholders a) = ["x", "z"] := by decide +kernel
  have hothers : placeholderNames (placeholders b) = ["y", "x"] := by decide +kernel
  have hpositional : positionalCount a = 1 ∧ positionalCount b = 1 := by decide +kernel
  obtain ⟨hjoined, hcount⟩ := parameters_joined.1 a b ha hb
  rw [hnames, hothers] at hjoined
  rw [hpositional.1, hpositional.2] at hcount
  exact ⟨ha, hb, hnames, hothers, hjoined, hcount, (parameters_joined.2 b).2⟩

end RunLedger
