import RunLedger.Text.Blank
import RunLedger.Text.Case

/-!
# Case and the letters A to Z

Upper and lower case of a text are the same whatever the case of its letters A to Z.  A word of
letters a to z and underscores, without the letter k, is the lower case of no other texts than those
that it is when their letters A to Z alone are lowered; the letter k is also the lower case of the
Kelvin sign.  A text in upper case has no letter a to z, so that there is just one for such a word.
A text begins with such a word in lower case just where lowering its letters A to Z alone makes it
do so, if the word has no letter i, which also begins the lower case of the capital with a dot.

    lowered (asciiLowered s) = lowered s                                    (lowered_asciiLowered)
    uppered (asciiLowered s) = uppered s                                    (uppered_asciiLowered)
    lowered s = w → asciiLowered s = w                                   (asciiLowered_of_lowered)
    lowered (uppered s) = "logging" → uppered s = "LOGGING"                  (uppered_eq_logging)
    ws <+: lower cs ↔ ws <+: cs.map Char.toLower                         (isPrefix_lowerAfter_iff)
-/

namespace RunLedger.Text

/-! ## The letters A to Z -/

theorem toNat_toLower_of_capital {c : Char} (h : 65 ≤ c.toNat ∧ c.toNat ≤ 90) :
    c.toLower.toNat = c.toNat + 32 := by
  have hletter : c.val ≥ 'A'.val ∧ c.val ≤ 'Z'.val := by
    simp only [ge_iff_le, UInt32.le_iff_toNat_le, UInt32.reduceToNat, Char.reduceVal]
    exact h
  have hval : c.toLower.val = c.val + ('a'.val - 'A'.val) := congrArg Char.val (dif_pos hletter)
  have hadd := congrArg UInt32.toNat hval
  simp only [UInt32.toNat_add, UInt32.toNat_sub, UInt32.reduceToNat, Char.reduceVal] at hadd
  simp only [Char.toNat] at h ⊢
  omega

theorem toLower_of_not_capital {c : Char} (h : ¬ (65 ≤ c.toNat ∧ c.toNat ≤ 90)) :
    c.toLower = c := by
  refine dif_neg fun hletter => h ?_
  simp only [ge_iff_le, UInt32.le_iff_toNat_le, UInt32.reduceToNat, Char.reduceVal] at hletter
  exact hletter

/-- A character and what lowering it makes of it: another one only where it is a letter A to Z. -/
theorem toLower_cases {P : Char → Char → Prop} (hsame : ∀ c, c.toLower = c → P c c)
    (hletter : ∀ n, n < 26 → P (Char.ofNat (65 + n)) (Char.ofNat (97 + n))) (c : Char) :
    P c c.toLower := by
  by_cases h : 65 ≤ c.toNat ∧ c.toNat ≤ 90
  · have hnat := toNat_toLower_of_capital h
    have hletter := hletter (c.toNat - 65) (by omega)
    have hupper : 65 + (c.toNat - 65) = c.toNat := by omega
    have hlower : 97 + (c.toNat - 65) = c.toLower.toNat := by omega
    rwa [hupper, hlower, Char.ofNat_toNat, Char.ofNat_toNat] at hletter
  · have hkept := toLower_of_not_capital h
    rw [hkept]
    exact hsame c hkept

/-- Two characters that no case tells apart, the second of them in lower case. -/
structure SameLetter (c d : Char) : Prop where
  toLower : d.toLower = d
  upper : upperChar d = upperChar c
  lower : lowerChar d = lowerChar c
  blank : isBlank d = isBlank c
  ignorable : isCaseIgnorable d = isCaseIgnorable c
  cased : inRanges casedRanges d.toNat = inRanges casedRanges c.toNat

instance (c d : Char) : Decidable (SameLetter c d) :=
  decidable_of_iff (d.toLower = d ∧ upperChar d = upperChar c ∧ lowerChar d = lowerChar c ∧
      isBlank d = isBlank c ∧ isCaseIgnorable d = isCaseIgnorable c ∧
      inRanges casedRanges d.toNat = inRanges casedRanges c.toNat)
    ⟨fun ⟨ha, hb, hc, hd, he, hf⟩ => ⟨ha, hb, hc, hd, he, hf⟩,
      fun ⟨ha, hb, hc, hd, he, hf⟩ => ⟨ha, hb, hc, hd, he, hf⟩⟩

theorem sameLetter_toLower (c : Char) : SameLetter c c.toLower :=
  toLower_cases (fun _ hsame => ⟨hsame, rfl, rfl, rfl, rfl, rfl⟩) (by decide +kernel) c

theorem toLower_toLower (c : Char) : c.toLower.toLower = c.toLower := (sameLetter_toLower c).toLower

/-- A character that is no letter is not the lower case of another one. -/
theorem toLower_eq_iff {d : Char} (hd : ∀ n, n < 26 → Char.ofNat (65 + n) ≠ d ∧
    Char.ofNat (97 + n) ≠ d) (c : Char) : c.toLower = d ↔ c = d :=
  toLower_cases (P := fun c e => e = d ↔ c = d) (fun _ _ => Iff.rfl)
    (fun n hn => iff_of_false (hd n hn).2 (hd n hn).1) c

/-! ## Texts -/

theorem asciiLowered_append (s t : String) :
    asciiLowered (s ++ t) = asciiLowered s ++ asciiLowered t := by
  simp [asciiLowered]

theorem asciiLowered_idem (s : String) : asciiLowered (asciiLowered s) = asciiLowered s := by
  have hmap : (s.toList.map Char.toLower).map Char.toLower = s.toList.map Char.toLower := by
    rw [List.map_map]
    exact List.map_congr_left fun c _ => toLower_toLower c
  rw [asciiLowered, asciiLowered, String.toList_ofList, hmap]

theorem upper_map_toLower (cs : List Char) : upper (cs.map Char.toLower) = upper cs := by
  rw [upper, upper, List.flatMap_map]
  exact congrArg (List.flatMap · cs) (funext fun c => (sameLetter_toLower c).upper)

theorem meetsCased_map_toLower (cs : List Char) :
    meetsCased (cs.map Char.toLower) = meetsCased cs := by
  have hignore : isCaseIgnorable ∘ Char.toLower = isCaseIgnorable :=
    funext fun c => (sameLetter_toLower c).ignorable
  unfold meetsCased
  rw [List.dropWhile_map, hignore]
  cases cs.dropWhile isCaseIgnorable with
  | nil => rfl
  | cons c rest => exact (sameLetter_toLower c).cased

theorem lowerAfter_map_toLower (before cs : List Char) :
    lowerAfter (before.map Char.toLower) (cs.map Char.toLower) = lowerAfter before cs := by
  induction cs generalizing before with
  | nil => rfl
  | cons c cs ih =>
    -- what stands around a sigma has case or not whether it is lowered or not
    have hsigma : c.toLower = 'Σ' ↔ c = 'Σ' := toLower_eq_iff (by decide) c
    rw [List.map_cons, lowerAfter, lowerAfter, ← List.map_cons, ih, meetsCased_map_toLower,
      meetsCased_map_toLower, (sameLetter_toLower c).lower]
    simp only [hsigma]

theorem lower_map_toLower (cs : List Char) : lower (cs.map Char.toLower) = lower cs :=
  lowerAfter_map_toLower [] cs

theorem uppered_asciiLowered (s : String) : uppered (asciiLowered s) = uppered s := by
  rw [uppered, asciiLowered, String.toList_ofList, upper_map_toLower, uppered]

theorem lowered_asciiLowered (s : String) : lowered (asciiLowered s) = lowered s := by
  rw [lowered, asciiLowered, String.toList_ofList, lower_map_toLower, lowered]

theorem trim_map_toLower (cs : List Char) :
    trim (cs.map Char.toLower) = (trim cs).map Char.toLower := by
  have hblank : isBlank ∘ Char.toLower = isBlank := funext fun c => (sameLetter_toLower c).blank
  rw [trim, trim, trimLeft, trimLeft, trimRight, trimRight, List.dropWhile_map, hblank,
    ← List.map_reverse, List.dropWhile_map, hblank, List.map_reverse]

theorem trimmed_asciiLowered (s : String) : trimmed (asciiLowered s) = asciiLowered (trimmed s) := by
  rw [trimmed, asciiLowered, asciiLowered, trimmed, String.toList_ofList, String.toList_ofList,
    trim_map_toLower]

/-! ## Texts in upper case -/

/-- Whether a code point is that of a letter a to z. -/
def IsSmall (n : Nat) : Prop := 0x61 ≤ n ∧ n ≤ 0x7A

theorem shiftCase_cases (runs : List CaseRun) (n : Nat) :
    (∃ r ∈ runs, r.covers n = true ∧ shiftCase runs n = (n + r.shift).toNat) ∨
      (∀ r ∈ runs, r.covers n = false) ∧ shiftCase runs n = n := by
  unfold shiftCase
  split
  · next r hfound =>
    have hcovers := List.find?_some (p := fun r : CaseRun => r.covers n) hfound
    exact .inl ⟨r, List.mem_of_find?_eq_some hfound, hcovers, rfl⟩
  · next hnone => exact .inr ⟨fun r hr => by simpa using List.find?_eq_none.1 hnone r hr, rfl⟩

theorem CaseRun.covers_iff {r : CaseRun} {n : Nat} :
    r.covers n = true ↔ r.first ≤ n ∧ n ≤ r.last ∧ (n - r.first) % r.step = 0 := by
  simp [covers, and_assoc]

theorem toNat_ofNat_of_pos {n : Nat} (h : 0 < (Char.ofNat n).toNat) :
    (Char.ofNat n).toNat = n := by
  by_cases hn : n.isValidChar
  · have hchar : Char.ofNat n = Char.ofNatAux n hn := dif_pos hn
    rw [hchar]
    rfl
  · have hnull : (Char.ofNat n).toNat = 0 := congrArg Char.toNat (dif_neg hn)
    omega

/-- Nothing in the tables for upper case is turned into a letter a to z. -/
theorem upperTables_apart :
    (∀ r ∈ upperRuns, r.last + r.shift < 0x61 ∨ 0x7A < r.first + r.shift) ∧
      ∀ e ∈ upperExpansions, ∀ code ∈ e.2, ¬ IsSmall (Char.ofNat code).toNat := by
  unfold IsSmall
  decide +kernel

theorem not_isSmall_shiftCase_upperRuns (n : Nat) : ¬ IsSmall (shiftCase upperRuns n) := by
  rcases shiftCase_cases upperRuns n with ⟨r, hr, hcovers, hshift⟩ | ⟨hnone, hsame⟩
  · obtain ⟨hfirst, hlast, -⟩ := CaseRun.covers_iff.1 hcovers
    rw [hshift]
    rintro ⟨hleast, hmost⟩
    rcases upperTables_apart.1 r hr with h | h <;> omega
  · rw [hsame]
    rintro ⟨hleast, hmost⟩
    have hcovered : CaseRun.covers ⟨0x61, 0x7A, 1, -32⟩ n = true :=
      CaseRun.covers_iff.2 ⟨hleast, hmost, Nat.mod_one _⟩
    rw [hnone _ List.mem_cons_self] at hcovered
    cases hcovered

/-- No character in upper case is a letter a to z. -/
theorem not_isSmall_upperChar {c d : Char} (h : d ∈ upperChar c) : ¬ IsSmall d.toNat := by
  unfold upperChar convertCase at h
  split at h
  · next codes hcodes =>
    obtain ⟨pre, post, hlist, -⟩ := List.lookup_eq_some_iff.1 hcodes
    obtain ⟨code, hcode, rfl⟩ := List.mem_map.1 h
    have hmem : (c.toNat, codes) ∈ upperExpansions := by
      rw [hlist]
      simp
    exact upperTables_apart.2 _ hmem code hcode
  · obtain rfl := List.mem_singleton.1 h
    intro hsmall
    rw [toNat_ofNat_of_pos (by unfold IsSmall at hsmall; omega)] at hsmall
    exact not_isSmall_shiftCase_upperRuns _ hsmall

/-- A text without letters a to z is made up of the capitals of what lowering it gives. -/
theorem eq_map_of_map_toLower {cs ws : List Char} (hcs : ∀ c ∈ cs, ¬ IsSmall c.toNat)
    (hws : ∀ c ∈ ws, IsSmall c.toNat) (h : cs.map Char.toLower = ws) :
    cs = ws.map fun c => Char.ofNat (c.toNat - 32) := by
  subst h
  have hback : ∀ c ∈ cs, Char.ofNat (c.toLower.toNat - 32) = c := by
    intro c hc
    by_cases hcapital : 65 ≤ c.toNat ∧ c.toNat ≤ 90
    · rw [toNat_toLower_of_capital hcapital, Nat.add_sub_cancel, Char.ofNat_toNat]
    · have hsmall := hws _ (List.mem_map_of_mem hc)
      rw [toLower_of_not_capital hcapital] at hsmall
      exact absurd hsmall (hcs c hc)
  rw [List.map_map]
  exact ((List.map_congr_left hback).trans (List.map_id' cs)).symm

/-! ## Words in lower case -/

/-- Whether a code point is that of an underscore or of a letter a to z other than k. -/
def IsPlain (n : Nat) : Prop := n = 0x5F ∨ IsSmall n ∧ n ≠ 0x6B

theorem lowerRuns_apart : ∀ r ∈ lowerRuns, r = ⟨0x41, 0x5A, 1, 32⟩ ∨
    r.last + r.shift < 0x5F ∨ 0x7A < r.first + r.shift ∨
      (r.first + r.shift = 0x6B ∧ r.last + r.shift = 0x6B) := by
  decide +kernel

theorem lowerExpansions_apart {e : Nat × List Nat} (he : e ∈ lowerExpansions) :
    ∃ code ∈ e.2, ¬ IsPlain (Char.ofNat code).toNat := by
  obtain rfl := List.mem_singleton.1 he
  exact ⟨0x307, List.mem_cons_of_mem _ List.mem_cons_self, by unfold IsPlain IsSmall; decide⟩

/-- Only letters A to Z come to be plain characters in lower case, and those that are. -/
theorem toNat_toLower_of_plain {c : Char} (h : IsPlain (shiftCase lowerRuns c.toNat)) :
    c.toLower.toNat = shiftCase lowerRuns c.toNat := by
  unfold IsPlain IsSmall at h
  rcases shiftCase_cases lowerRuns c.toNat with ⟨r, hr, hcovers, hshift⟩ | ⟨-, hsame⟩
  · obtain ⟨hfirst, hlast, -⟩ := CaseRun.covers_iff.1 hcovers
    rcases lowerRuns_apart r hr with rfl | hbelow | habove | ⟨hleast, hmost⟩
    · rw [hshift]
      exact toNat_toLower_of_capital ⟨hfirst, hlast⟩
    · omega
    · omega
    · omega
  · rw [hsame] at h ⊢
    rw [toLower_of_not_capital (by omega)]

/-- Plain characters that a character is turned into in lower case are one, that of lowering the
letters A to Z alone. -/
theorem lowerChar_of_plain {c : Char} (h : ∀ d ∈ lowerChar c, IsPlain d.toNat) :
    lowerChar c = [c.toLower] := by
  unfold lowerChar convertCase at h ⊢
  split
  · next codes hcodes =>
    rw [hcodes] at h
    obtain ⟨pre, post, hlist, -⟩ := List.lookup_eq_some_iff.1 hcodes
    have hmem : (c.toNat, codes) ∈ lowerExpansions := by
      rw [hlist]
      simp
    obtain ⟨code, hcode, hapart⟩ := lowerExpansions_apart hmem
    exact absurd (h _ (List.mem_map.2 ⟨code, hcode, rfl⟩)) hapart
  · next hcodes =>
    rw [hcodes] at h
    have hplain := h _ (List.mem_singleton_self _)
    have hnat := toNat_ofNat_of_pos (n := shiftCase lowerRuns c.toNat)
      (by unfold IsPlain IsSmall at hplain; omega)
    rw [hnat] at hplain
    rw [← toNat_toLower_of_plain hplain, Char.ofNat_toNat]

theorem map_toLower_of_lowerAfter {before cs ws : List Char} (hws : ∀ c ∈ ws, IsPlain c.toNat)
    (h : lowerAfter before cs = ws) : cs.map Char.toLower = ws := by
  induction cs generalizing before ws with
  | nil => exact h
  | cons c cs ih =>
    rw [lowerAfter] at h
    subst h
    rw [List.forall_mem_append] at hws
    obtain ⟨hhere, hrest⟩ := hws
    -- neither of the small letters that a capital sigma is lowered to is plain
    have hsigma : c ≠ 'Σ' := by
      rintro rfl
      rw [if_pos rfl] at hhere
      split at hhere
      · exact absurd (hhere _ (List.mem_singleton_self _)) (by unfold IsPlain IsSmall; decide)
      · exact absurd (hhere _ (List.mem_singleton_self _)) (by unfold IsPlain IsSmall; decide)
    rw [if_neg hsigma] at hhere ⊢
    rw [lowerChar_of_plain hhere, List.map_cons, ih hrest rfl, List.singleton_append]

/-- A text of which a plain word is the lower case is the word in some case of its letters. -/
theorem asciiLowered_of_lowered {s w : String} (hw : ∀ c ∈ w.toList, IsPlain c.toNat)
    (h : lowered s = w) : asciiLowered s = w := by
  subst h
  rw [lowered, String.toList_ofList] at hw
  rw [asciiLowered, map_toLower_of_lowerAfter hw rfl, lowered, lower]

/-- The one text in upper case of which the lower case is `logging`. -/
theorem uppered_eq_logging {s : String} (h : lowered (uppered s) = "logging") :
    uppered s = "LOGGING" := by
  have hlower : (upper s.toList).map Char.toLower = "logging".toList := by
    have hplain := asciiLowered_of_lowered (by simp [IsPlain, IsSmall]) h
    rw [← hplain, asciiLowered, uppered, String.toList_ofList, String.toList_ofList]
  have hcapitals := eq_map_of_map_toLower (fun c hc => ?_) (by simp [IsSmall]) hlower
  · rw [uppered, hcapitals]
    rfl
  · obtain ⟨d, -, hd⟩ := List.mem_flatMap.1 hc
    exact not_isSmall_upperChar hd

/-! ## Beginnings of texts in lower case -/

/-- Whether a character is a space, or a plain one other than i: nothing but itself and its capital
comes to be such a character in lower case. -/
def IsLone (d : Char) : Prop := d = ' ' ∨ IsPlain d.toNat ∧ d ≠ 'i'

instance (d : Char) : Decidable (IsLone d) :=
  inferInstanceAs (Decidable (d = ' ' ∨
    (d.toNat = 0x5F ∨ (0x61 ≤ d.toNat ∧ d.toNat ≤ 0x7A) ∧ d.toNat ≠ 0x6B) ∧ d ≠ 'i'))

theorem IsLone.not_sigma {d : Char} (hd : IsLone d) : d ≠ 'Σ' ∧ d ≠ 'σ' ∧ d ≠ 'ς' := by
  refine ⟨?_, ?_, ?_⟩ <;> rintro rfl <;> exact absurd hd (by unfold IsLone IsPlain IsSmall; decide)

theorem lowerRuns_above : ∀ r ∈ lowerRuns, (0x20 : Int) < r.first + r.shift := by
  decide +kernel

theorem shiftCase_eq_space {n : Nat} (h : shiftCase lowerRuns n = 0x20) : n = 0x20 := by
  rcases shiftCase_cases lowerRuns n with ⟨r, hr, hcovers, hshift⟩ | ⟨-, hsame⟩
  · obtain ⟨hfirst, -, -⟩ := CaseRun.covers_iff.1 hcovers
    have habove := lowerRuns_above r hr
    omega
  · exact hsame.symm.trans h

theorem codes_of_lookup {n : Nat} {codes : List Nat} (h : lowerExpansions.lookup n = some codes) :
    codes = [0x69, 0x307] := by
  obtain ⟨pre, post, hlist, -⟩ := List.lookup_eq_some_iff.1 h
  have hmem : (n, codes) ∈ lowerExpansions := by
    rw [hlist]
    simp
  exact congrArg Prod.snd (List.mem_singleton.1 hmem)

theorem IsLone.toLower_eq {c d : Char} (hd : IsLone d) (h : d ∈ lowerChar c) : c.toLower = d := by
  unfold lowerChar convertCase at h
  split at h
  · next codes hcodes =>
    -- of the characters that are lowered to several, none comes to be a lone one
    have hdots : d = 'i' ∨ d = '\u0307' := by simpa [codes_of_lookup hcodes] using h
    rcases hdots with rfl | rfl
    · exact absurd hd (by simp [IsLone])
    · exact absurd hd (by unfold IsLone IsPlain IsSmall; decide)
  · rw [List.mem_singleton] at h
    have hpos : 0 < d.toNat := by
      unfold IsLone IsPlain IsSmall at hd
      rcases hd with rfl | ⟨hplain, -⟩
      · decide
      · omega
    have hnat : shiftCase lowerRuns c.toNat = d.toNat := by
      rw [h] at hpos ⊢
      exact (toNat_ofNat_of_pos hpos).symm
    rcases hd with rfl | ⟨hplain, -⟩
    · have hc : c = ' ' := Char.toNat_inj.1 (shiftCase_eq_space hnat)
      rw [hc]
      rfl
    · rw [← hnat] at hplain
      exact Char.toNat_inj.1 ((toNat_toLower_of_plain hplain).trans hnat)

theorem lowerChar_of_ascii : ∀ n, n < 128 → ¬ (65 ≤ n ∧ n ≤ 90) →
    lowerChar (Char.ofNat n) = [Char.ofNat n] := by
  decide +kernel

theorem IsLone.lowerChar_eq {d : Char} (hd : IsLone d) : lowerChar d = [d] := by
  have hd' : d.toNat < 128 ∧ ¬ (65 ≤ d.toNat ∧ d.toNat ≤ 90) := by
    unfold IsLone IsPlain IsSmall at hd
    rcases hd with rfl | ⟨hplain, -⟩
    · decide
    · omega
  have hself := lowerChar_of_ascii d.toNat hd'.1 hd'.2
  rwa [Char.ofNat_toNat] at hself

theorem lowerChar_ne_nil (c : Char) : lowerChar c ≠ [] := by
  unfold lowerChar convertCase
  split
  · next codes hcodes =>
    rw [codes_of_lookup hcodes]
    exact List.cons_ne_nil _ _
  · exact List.cons_ne_nil _ _

/-- A text in lower case begins with lone characters just where it does so when its letters A to Z
alone are lowered. -/
theorem isPrefix_lowerAfter_iff {ws : List Char} (hws : ∀ d ∈ ws, IsLone d)
    (before cs : List Char) : ws <+: lowerAfter before cs ↔ ws <+: cs.map Char.toLower := by
  induction ws generalizing before cs with
  | nil => exact iff_of_true List.nil_prefix List.nil_prefix
  | cons d ws ih =>
    obtain ⟨hd, hws⟩ := List.forall_mem_cons.1 hws
    cases cs with
    | nil => exact Iff.rfl
    | cons c cs =>
      rw [lowerAfter, List.map_cons, List.cons_prefix_cons]
      -- the capital sigma is lowered by what stands around it, but never to a lone character
      by_cases hsigma : c = 'Σ'
      · subst hsigma
        have hnone : ('Σ' : Char).toLower = 'Σ' := by decide
        rw [if_pos rfl, hnone]
        refine iff_of_false ?_ fun h => hd.not_sigma.1 h.1
        split
        · exact fun h => hd.not_sigma.2.2 (List.cons_prefix_cons.1 h).1
        · exact fun h => hd.not_sigma.2.1 (List.cons_prefix_cons.1 h).1
      · rw [if_neg hsigma]
        by_cases hc : c.toLower = d
        · have hlower : lowerChar c = [d] := by
            rw [← (sameLetter_toLower c).lower, hc, hd.lowerChar_eq]
          rw [hlower, List.singleton_append, List.cons_prefix_cons, ih hws, hc]
        · refine iff_of_false (fun h => hc (hd.toLower_eq ?_)) fun h => hc h.1.symm
          cases hlower : lowerChar c with
          | nil => exact absurd hlower (lowerChar_ne_nil c)
          | cons e es =>
            rw [hlower] at h
            rw [(List.cons_prefix_cons.1 h).1]
            exact List.mem_cons_self

theorem lowerAfter_of_lone {ws : List Char} (hws : ∀ d ∈ ws, IsLone d) (before : List Char) :
    lowerAfter before ws = ws := by
  induction ws generalizing before with
  | nil => rfl
  | cons d ws ih =>
    obtain ⟨hd, hws⟩ := List.forall_mem_cons.1 hws
    rw [lowerAfter, if_neg hd.not_sigma.1, hd.lowerChar_eq, ih hws, List.singleton_append]

end RunLedger.Text
