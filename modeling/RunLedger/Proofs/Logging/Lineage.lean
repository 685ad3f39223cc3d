import Mathlib.Data.List.TakeWhile
import RunLedger.Logging.Loggers

/-!
# Names above a name

A logger is above another one if the other's name goes on behind its own with a dot.  Where a run
of several dots follows, names are cut from the end of the run on, and a dot right before a cut is
passed over.  Whether the cuts come to the base is told by the length of the run, and by the names
of the base and part of the run that were asked for; the rest of the name does not matter.

    base ∈ lineage asked name ↔ base = name ∨ below asked base name                (mem_lineage_iff)
    (∀ n, dotted base (n + 1) ∉ asked) → (below asked base name ↔
      ∃ n rest, name = dotted base n ++ rest ∧ rest.toList.head? ≠ some '.' ∧ n % 2 = 1)
                                                                               (below_iff_of_notMem)
    no two dots side by side → (below asked base name ↔ ∃ rest, name = base ++ "." ++ rest)
                                                                               (below_iff_of_spaced)
-/

namespace RunLedger

namespace Loggers

/-! ## Below a base -/

/-- A name with so many dots behind it. -/
def dotted (base : String) (n : Nat) : String := base ++ String.ofList (List.replicate n '.')

/-- Whether cuts from the end of a run of so many dots come to the base before it. -/
def reaches (asked : List String) (base : String) : Nat → Bool
  | 0 => false
  | 1 => true
  | n + 2 =>
    if dotted base (n + 1) ∈ asked then reaches asked base (n + 1) else reaches asked base n

/-- Whether a name lies below a base: it goes on behind the base with dots, and the cuts come to the
base. -/
def below (asked : List String) (base name : String) : Bool :=
  base.toList.isPrefixOf name.toList &&
    reaches asked base ((name.toList.drop base.toList.length).takeWhile (· = '.')).length

/-- A single dot is always cut. -/
theorem reaches_one (asked : List String) (base : String) : reaches asked base 1 = true := rfl

/-- As long as no logger is asked for that ends in the run, dots are passed over two by two. -/
theorem reaches_of_notMem {asked : List String} {base : String}
    (h : ∀ n, dotted base (n + 1) ∉ asked) : ∀ n, reaches asked base n = decide (n % 2 = 1)
  | 0 => rfl
  | 1 => rfl
  | n + 2 => by rw [reaches, if_neg (h n), reaches_of_notMem h n, Nat.add_mod_right]

section
variable {asked : List String} {b s : List Char} {c : Char}

/-! ## Cuts -/

theorem above_dot (asked : List String) (c : Char) (s : List Char) :
    above asked ('.' :: c :: s) =
      (c :: s) :: if String.ofList (c :: s).reverse ∈ asked then above asked (c :: s)
        else above asked s := by
  rw [above]

theorem above_cons_of_ne (hc : c ≠ '.') : above asked (c :: s) = above asked s := by
  rw [above]
  · rintro rfl
    exact absurd rfl hc
  · rintro _ _ rfl
    exact absurd rfl hc

/-- What is above a name is followed by a dot in it. -/
theorem exists_of_mem_above : ∀ {s : List Char}, b ∈ above asked s → ∃ t, s = t ++ '.' :: b
  | [], h => by cases h
  | [c], h => by
    by_cases hc : c = '.'
    · subst hc
      cases h
    · rw [above_cons_of_ne hc] at h
      cases h
  | c :: d :: s, h => by
    by_cases hc : c = '.'
    · subst hc
      rw [above_dot, List.mem_cons] at h
      rcases h with rfl | h
      · exact ⟨[], rfl⟩
      -- the search goes on behind one dot or behind two, and what it finds is an end in both cases
      · split at h
        · obtain ⟨t, ht⟩ := exists_of_mem_above h
          exact ⟨'.' :: t, by rw [ht, List.cons_append]⟩
        · obtain ⟨t, ht⟩ := exists_of_mem_above h
          exact ⟨'.' :: d :: t, by rw [ht, List.cons_append, List.cons_append]⟩
    · rw [above_cons_of_ne hc] at h
      obtain ⟨t, ht⟩ := exists_of_mem_above h
      exact ⟨c :: t, by rw [ht, List.cons_append]⟩

theorem length_lt_of_mem_above (h : b ∈ above asked s) : b.length < s.length := by
  obtain ⟨t, rfl⟩ := exists_of_mem_above h
  rw [List.length_append, List.length_cons]
  omega

/-- The names above a name become shorter and shorter. -/
theorem pairwise_above : ∀ s : List Char,
    (above asked s).Pairwise fun a b => b.length < a.length
  | [] => .nil
  | [c] => by
    by_cases hc : c = '.'
    · subst hc
      exact .nil
    · rw [above_cons_of_ne hc]
      exact .nil
  | c :: d :: s => by
    by_cases hc : c = '.'
    · subst hc
      rw [above_dot]
      split
      · exact (pairwise_above _).cons fun _ h => length_lt_of_mem_above h
      · exact (pairwise_above _).cons fun _ h =>
          (length_lt_of_mem_above h).trans (Nat.lt_succ_self _)
    · rw [above_cons_of_ne hc]
      exact pairwise_above _

/-- What stands behind the dots after a base does not matter for what is cut there. -/
theorem mem_above_append (hb : b.length ≤ s.length) : ∀ t : List Char, t.getLast? ≠ some '.' →
    (b ∈ above asked (t ++ s) ↔ b ∈ above asked s)
  | [], _ => Iff.rfl
  | [c], h => by
    have hc : c ≠ '.' := fun hdot => h (by rw [hdot]; rfl)
    rw [List.singleton_append, above_cons_of_ne hc]
  | c :: d :: t, h => by
    have hd : (d :: t).getLast? ≠ some '.' := by rwa [List.getLast?_cons_cons] at h
    by_cases hc : c = '.'
    · subst hc
      -- what is cut at this dot is longer than the base
      have hlong : b ≠ d :: (t ++ s) := by
        rintro rfl
        rw [List.length_cons, List.length_append] at hb
        omega
      have ht : t.getLast? ≠ some '.' := by
        cases t with
        | nil => exact nofun
        | cons e t => rwa [List.getLast?_cons_cons] at hd
      rw [List.cons_append, List.cons_append, above_dot, List.mem_cons, or_iff_right hlong]
      split
      · exact mem_above_append hb (d :: t) hd
      · exact mem_above_append hb t ht
    · rw [List.cons_append, above_cons_of_ne hc]
      exact mem_above_append hb (d :: t) hd

theorem ofList_dots (base : String) (n : Nat) :
    String.ofList (List.replicate n '.' ++ base.toList.reverse).reverse = dotted base n := by
  rw [← String.toList_inj, dotted, String.toList_append, String.toList_ofList, String.toList_ofList,
    List.reverse_append, List.reverse_reverse, List.reverse_replicate]

/-- Where nothing but dots stands behind a base, it is among the cuts if they come to it. -/
theorem mem_above_dots {base : String} (hbase : base ≠ "") : ∀ n : Nat,
    (base.toList.reverse ∈ above asked (List.replicate n '.' ++ base.toList.reverse) ↔
      reaches asked base n = true)
  | 0 => by
    rw [reaches, List.replicate_zero, List.nil_append]
    exact iff_of_false (fun h => absurd (length_lt_of_mem_above h) (Nat.lt_irrefl _)) nofun
  | 1 => by
    obtain ⟨c, cs, hcs⟩ : ∃ c cs, base.toList.reverse = c :: cs := by
      refine List.exists_cons_of_ne_nil fun hnil => hbase ?_
      rw [← String.toList_inj, List.reverse_eq_nil_iff.1 hnil]
      rfl
    rw [reaches_one, hcs, List.replicate_one, List.singleton_append, above_dot]
    exact iff_of_true List.mem_cons_self rfl
  | n + 2 => by
    have hlong : base.toList.reverse ≠ '.' :: (List.replicate n '.' ++ base.toList.reverse) := by
      intro h
      have hlength := congrArg List.length h
      rw [List.length_cons, List.length_append] at hlength
      omega
    have hname : '.' :: (List.replicate n '.' ++ base.toList.reverse) =
        List.replicate (n + 1) '.' ++ base.toList.reverse := rfl
    rw [reaches, List.replicate_succ, List.replicate_succ, List.cons_append, List.cons_append,
      above_dot, List.mem_cons, or_iff_right hlong, hname, ofList_dots]
    split
    · exact mem_above_dots hbase (n + 1)
    · exact mem_above_dots hbase n

end

section
variable {asked : List String} {base name : String}

theorem below_iff : below asked base name = true ↔ ∃ rest, name.toList = base.toList ++ rest ∧
    reaches asked base (rest.takeWhile (· = '.')).length = true := by
  rw [below, Bool.and_eq_true, List.isPrefixOf_iff_prefix]
  constructor
  · rintro ⟨⟨rest, hrest⟩, hreaches⟩
    rw [← hrest, List.drop_left] at hreaches
    exact ⟨rest, hrest.symm, hreaches⟩
  · rintro ⟨rest, hrest, hreaches⟩
    rw [hrest, List.drop_left]
    exact ⟨⟨rest, rfl⟩, hreaches⟩

theorem takeWhile_dots (rest : List Char) :
    rest.takeWhile (· = '.') = List.replicate (rest.takeWhile (· = '.')).length '.' :=
  List.eq_replicate_of_mem fun c hc => by simpa using List.mem_takeWhile_imp hc

theorem head?_dropWhile_dots (rest : List Char) :
    (rest.dropWhile (· = '.')).head? ≠ some '.' := by
  intro hdot
  have hfirst := List.head?_dropWhile_not (· = '.') rest
  rw [hdot] at hfirst
  exact absurd hfirst (by decide)

/-- A text read backwards ends in the run of dots that it begins with. -/
theorem reverse_eq_append_dots (rest : List Char) : rest.reverse =
    (rest.dropWhile (· = '.')).reverse ++
      List.replicate (rest.takeWhile (· = '.')).length '.' := by
  calc rest.reverse
      = (rest.takeWhile (· = '.') ++ rest.dropWhile (· = '.')).reverse := by
        rw [List.takeWhile_append_dropWhile]
    _ = (rest.dropWhile (· = '.')).reverse ++ (rest.takeWhile (· = '.')).reverse :=
        List.reverse_append
    _ = _ := by rw [takeWhile_dots rest, List.reverse_replicate, List.length_replicate]

theorem mem_above_iff_below (hbase : base ≠ "") :
    base.toList.reverse ∈ above asked name.toList.reverse ↔ below asked base name = true := by
  -- the rest behind the base falls into its dots and what follows them, where nothing is cut to it
  have hcut : ∀ rest, name.toList = base.toList ++ rest →
      (base.toList.reverse ∈ above asked name.toList.reverse ↔
        reaches asked base (rest.takeWhile (· = '.')).length = true) := by
    intro rest hrest
    have hend : (rest.dropWhile (· = '.')).reverse.getLast? ≠ some '.' := by
      rw [List.getLast?_reverse]
      exact head?_dropWhile_dots rest
    have hname : name.toList.reverse = (rest.dropWhile (· = '.')).reverse ++
        (List.replicate (rest.takeWhile (· = '.')).length '.' ++ base.toList.reverse) := by
      rw [hrest, List.reverse_append, reverse_eq_append_dots, List.append_assoc]
    rw [hname, mem_above_append _ _ hend, mem_above_dots hbase]
    rw [List.length_append]
    omega
  rw [below_iff]
  constructor
  · intro h
    obtain ⟨t, ht⟩ := exists_of_mem_above h
    have hrest : name.toList = base.toList ++ '.' :: t.reverse := by
      rw [← List.reverse_inj, ht]
      simp
    exact ⟨_, hrest, (hcut _ hrest).1 h⟩
  · rintro ⟨rest, hrest, hreaches⟩
    exact (hcut rest hrest).2 hreaches

/-- A logger is among a logger's lineage if it is that logger, or the logger lies below it. -/
theorem mem_lineage_iff (hbase : base ≠ "") :
    base ∈ lineage asked name ↔ base = name ∨ below asked base name = true := by
  rw [lineage, List.mem_cons, List.mem_map, ← mem_above_iff_below hbase]
  refine or_congr_right ⟨?_, fun h => ⟨_, h, ?_⟩⟩
  · rintro ⟨b, hb, rfl⟩
    rwa [String.toList_ofList, List.reverse_reverse]
  · rw [List.reverse_reverse, String.ofList_toList]

example : lineage [] "a..b" = ["a..b", "a."] ∧ lineage ["a."] "a..b" = ["a..b", "a.", "a"] := by
  decide +kernel

/-- The names of a lineage become shorter and shorter. -/
theorem pairwise_lineage (asked : List String) (name : String) :
    (lineage asked name).Pairwise fun a b => b.length < a.length := by
  have hlength : ∀ b : List Char, (String.ofList b.reverse).length = b.length := fun b => by
    rw [String.length_ofList, List.length_reverse]
  refine List.Pairwise.cons ?_ (List.pairwise_map.2 ?_)
  · intro a ha
    obtain ⟨b, hb, rfl⟩ := List.mem_map.1 ha
    have hlt := length_lt_of_mem_above hb
    rwa [List.length_reverse, String.length_toList, ← hlength b] at hlt
  · exact (pairwise_above _).imp fun h => by rwa [hlength, hlength]

/-- As long as no logger is asked for that ends in a run of dots behind the base, a name lies below
it if it goes on with dots odd in number. -/
theorem below_iff_of_notMem (h : ∀ n, dotted base (n + 1) ∉ asked) :
    below asked base name = true ↔
      ∃ n rest, name = dotted base n ++ rest ∧ rest.toList.head? ≠ some '.' ∧ n % 2 = 1 := by
  rw [below_iff]
  simp only [reaches_of_notMem h, decide_eq_true_eq]
  constructor
  · rintro ⟨rest, hrest, hodd⟩
    refine ⟨_, String.ofList (rest.dropWhile (· = '.')), ?_, ?_, hodd⟩
    · rw [← String.toList_inj, hrest, dotted, String.toList_append, String.toList_append,
        String.toList_ofList, String.toList_ofList, ← takeWhile_dots, List.append_assoc,
        List.takeWhile_append_dropWhile]
    · rw [String.toList_ofList]
      exact head?_dropWhile_dots rest
  · rintro ⟨n, rest, rfl, hrest, hodd⟩
    refine ⟨List.replicate n '.' ++ rest.toList, ?_, ?_⟩
    · rw [dotted, String.toList_append, String.toList_append, String.toList_ofList,
        List.append_assoc]
    · have hdots : (List.replicate n '.' ++ rest.toList).takeWhile (· = '.') =
          List.replicate n '.' := by
        rw [List.takeWhile_append_of_pos (by simp)]
        cases hcs : rest.toList with
        | nil => simp
        | cons c cs =>
          have hc : c ≠ '.' := by
            rintro rfl
            exact hrest (by rw [hcs]; rfl)
          rw [List.takeWhile_cons_of_neg (by simpa using hc), List.append_nil]
      rwa [hdots, List.length_replicate]

/-- A name without two dots side by side lies below what stands before any of its dots. -/
theorem below_iff_of_spaced (hspaced : ¬ ['.', '.'] <:+: name.toList) :
    below asked base name = true ↔ ∃ rest, name = base ++ "." ++ rest := by
  rw [below_iff]
  constructor
  · rintro ⟨rest, hrest, hreaches⟩
    cases rest with
    | nil => exact absurd hreaches nofun
    | cons c cs =>
      by_cases hc : c = '.'
      · subst hc
        refine ⟨String.ofList cs, ?_⟩
        rw [← String.toList_inj, hrest]
        simp
      · rw [List.takeWhile_cons_of_neg (by simpa using hc)] at hreaches
        exact absurd hreaches nofun
  · rintro ⟨rest, rfl⟩
    refine ⟨'.' :: rest.toList, by simp, ?_⟩
    cases hrest : rest.toList with
    | nil => rfl
    | cons c cs =>
      have hc : c ≠ '.' := by
        rintro rfl
        exact hspaced ⟨base.toList, cs, by simp [hrest]⟩
      rw [List.takeWhile_cons_of_pos rfl, List.takeWhile_cons_of_neg (by simpa using hc)]
      rfl

end

end Loggers

end RunLedger
