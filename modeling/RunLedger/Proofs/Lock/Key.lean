import RunLedger.Lock.Holding

/-!
# Lock keys as identifiers

A key is written as an identifier of version 3: thirty-two hexadecimal digits in groups with hyphens
between them.  It is the digest of the task's name but for the six bits that the version and the
variant take, so that two names share a lock just where their digests agree in all other bits.

    identifierText xs = identifierText ys → xs = ys, for sixteen bytes       (identifierText_inj)
    stampVersion3 xs = stampVersion3 ys ↔ AgreeUnstamped xs ys               (stampVersion3_inj_iff)
    lockKey a = lockKey b ↔
      AgreeUnstamped (Md5.digest a.toUTF8.toList) (Md5.digest b.toUTF8.toList)   (lockKey_inj_iff)
-/

namespace RunLedger

/-! ## Identifiers -/

def identifierDigits : List Char := "0123456789abcdef".toList

/-- Where the hyphens of an identifier stand. -/
def hyphenPlaces : List Nat := [8, 13, 18, 23]

/-- Whether a text is the canonical text of an identifier of version 3. -/
structure IsVersion3Text (text : List Char) : Prop where
  length : text.length = 36
  hyphens : ∀ place, text[place]? = some '-' ↔ place ∈ hyphenPlaces
  digits : ∀ c ∈ text, c = '-' ∨ c ∈ identifierDigits
  version : text[14]? = some '3'
  variant : ∃ d ∈ "89ab".toList, text[19]? = some d

/-- The bits that the version and the variant take: which byte, and which bit of it from the lowest
on. -/
def stampedBits : List (Nat × Nat) := [(6, 4), (6, 5), (6, 6), (6, 7), (8, 6), (8, 7)]

/-- Whether two digests agree in all bits but these. -/
def AgreeUnstamped (xs ys : List UInt8) : Prop :=
  ∀ i < 16, ∀ j < 8, (i, j) ∉ stampedBits →
    (xs.getD i 0).toNat.testBit j = (ys.getD i 0).toNat.testBit j

/-! ## Bytes in hexadecimal -/

section
variable {b : UInt8} {bytes xs ys : List UInt8} {t group : List Char}

theorem hexDigit_mem (n : Nat) : Text.hexDigit n ∈ identifierDigits := by
  have hdigits : ∀ d < 16, Text.hexDigit d ∈ identifierDigits := by decide
  have hlast : Text.hexDigit n = Text.hexDigit (n % 16) := by
    rw [Text.hexDigit, Text.hexDigit, Nat.mod_mod]
  rw [hlast]
  exact hdigits _ (Nat.mod_lt n (by decide))

theorem hexBytes_cons (b : UInt8) (bytes : List UInt8) :
    hexBytes (b :: bytes) =
      Text.hexDigit (b.toNat / 16) :: Text.hexDigit b.toNat :: hexBytes bytes := rfl

theorem length_hexBytes (bytes : List UInt8) : (hexBytes bytes).length = 2 * bytes.length := by
  induction bytes with
  | nil => rfl
  | cons b bytes ih =>
    rw [hexBytes_cons, List.length_cons, List.length_cons, ih, List.length_cons]
    omega

theorem mem_hexBytes {c : Char} (h : c ∈ hexBytes bytes) : c ∈ identifierDigits := by
  induction bytes with
  | nil => cases h
  | cons b bytes ih =>
    rw [hexBytes_cons, List.mem_cons, List.mem_cons] at h
    rcases h with rfl | rfl | h
    · exact hexDigit_mem _
    · exact hexDigit_mem _
    · exact ih h

theorem hyphen_not_mem_hexBytes (bytes : List UInt8) : '-' ∉ hexBytes bytes := fun h =>
  absurd (mem_hexBytes h) (by decide)

theorem hexDigit_inj {m n : Nat} (h : Text.hexDigit m = Text.hexDigit n) : m % 16 = n % 16 := by
  have hvalue := congrArg Text.hexValue? h
  rwa [Text.hexValue?_hexDigit, Text.hexValue?_hexDigit, Option.some.injEq] at hvalue

/-- Bytes are told by their digits. -/
theorem hexBytes_inj (h : hexBytes xs = hexBytes ys) : xs = ys := by
  induction xs generalizing ys with
  | nil =>
    cases ys with
    | nil => rfl
    | cons y ys => cases h
  | cons x xs ih =>
    cases ys with
    | nil => cases h
    | cons y ys =>
      rw [hexBytes_cons, hexBytes_cons, List.cons.injEq, List.cons.injEq] at h
      obtain ⟨hhigh, hlow, hrest⟩ := h
      have hbyte : x.toNat = y.toNat := by
        have hhigh := hexDigit_inj hhigh
        have hlow := hexDigit_inj hlow
        have hx := x.toNat_lt
        have hy := y.toNat_lt
        omega
      rw [UInt8.toNat_inj.1 hbyte, ih hrest]

/-! ## Groups -/

/-- A hyphen before a group of digits is the last one. -/
theorem getElem?_append_group (h : '-' ∉ group) (place : Nat) :
    (t ++ '-' :: group)[place]? = some '-' ↔ t[place]? = some '-' ∨ place = t.length := by
  rcases Nat.lt_trichotomy place t.length with hlt | rfl | hgt
  · rw [List.getElem?_append_left hlt]
    exact (or_iff_left (Nat.ne_of_lt hlt)).symm
  · rw [List.getElem?_append_right (Nat.le_refl _), Nat.sub_self]
    exact iff_of_true rfl (.inr rfl)
  · obtain ⟨k, rfl⟩ := Nat.exists_eq_add_of_lt hgt
    rw [List.getElem?_append_right (by omega), List.getElem?_eq_none (l := t) (by omega)]
    refine iff_of_false (fun hplace => h (List.mem_of_getElem? (i := k) ?_))
      (not_or.2 ⟨nofun, by omega⟩)
    have hbehind : t.length + k + 1 - t.length = k + 1 := by omega
    rwa [hbehind, List.getElem?_cons_succ] at hplace

/-- The digits of some bytes, as one group of an identifier. -/
def digitGroup (bytes : List UInt8) (start count : Nat) : List Char :=
  hexBytes ((bytes.drop start).take count)

theorem identifierText_eq (bytes : List UInt8) :
    identifierText bytes =
      digitGroup bytes 0 4 ++ '-' :: digitGroup bytes 4 2 ++ '-' :: digitGroup bytes 6 2 ++
        '-' :: digitGroup bytes 8 2 ++ '-' :: digitGroup bytes 10 6 := rfl

theorem hyphen_not_mem_digitGroup (bytes : List UInt8) (start count : Nat) :
    '-' ∉ digitGroup bytes start count := hyphen_not_mem_hexBytes _

theorem length_digitGroup {start count : Nat} (h : start + count ≤ bytes.length) :
    (digitGroup bytes start count).length = 2 * count := by
  rw [digitGroup, length_hexBytes, List.length_take, List.length_drop]
  omega

/-- A group and the digits behind it. -/
theorem digitGroup_append (bytes : List UInt8) (start count : Nat) :
    digitGroup bytes start count ++ hexBytes (bytes.drop (start + count)) =
      hexBytes (bytes.drop start) := by
  rw [digitGroup, ← List.drop_drop, hexBytes, hexBytes, ← List.flatMap_append,
    List.take_append_drop]
  rfl

theorem length_identifierText (h : bytes.length = 16) : (identifierText bytes).length = 36 := by
  simp [identifierText_eq, length_digitGroup, h]

theorem getElem?_identifierText_hyphen (h : bytes.length = 16) (place : Nat) :
    (identifierText bytes)[place]? = some '-' ↔ place ∈ hyphenPlaces := by
  have hfirst : ¬ (digitGroup bytes 0 4)[place]? = some '-' := fun hplace =>
    hyphen_not_mem_digitGroup _ _ _ (List.mem_of_getElem? hplace)
  rw [identifierText_eq, getElem?_append_group (hyphen_not_mem_digitGroup _ _ _),
    getElem?_append_group (hyphen_not_mem_digitGroup _ _ _),
    getElem?_append_group (hyphen_not_mem_digitGroup _ _ _),
    getElem?_append_group (hyphen_not_mem_digitGroup _ _ _)]
  simp [hfirst, hyphenPlaces, length_digitGroup, h, or_assoc]

/-- Without its hyphens an identifier is the digits of its bytes. -/
theorem filter_identifierText (h : bytes.length = 16) :
    (identifierText bytes).filter (· ≠ '-') = hexBytes bytes := by
  have hgroup (start count : Nat) :
      (digitGroup bytes start count).filter (· ≠ '-') = digitGroup bytes start count := by
    refine List.filter_eq_self.2 fun c hc => ?_
    rw [decide_eq_true_eq]
    rintro rfl
    exact hyphen_not_mem_digitGroup _ _ _ hc
  have hend : bytes.drop 16 = [] := List.drop_of_length_le (by omega)
  have hgroups : digitGroup bytes 0 4 ++ (digitGroup bytes 4 2 ++ (digitGroup bytes 6 2 ++
      (digitGroup bytes 8 2 ++ (digitGroup bytes 10 6 ++ hexBytes (bytes.drop 16))))) =
      hexBytes bytes := by
    rw [digitGroup_append, digitGroup_append, digitGroup_append, digitGroup_append,
      digitGroup_append, List.drop_zero]
  have hhyphen (t : List Char) : ('-' :: t).filter (· ≠ '-') = t.filter (· ≠ '-') :=
    List.filter_cons_of_neg (by decide)
  rw [← hgroups, hend]
  simp only [identifierText_eq, List.filter_append, hhyphen, hgroup, List.append_assoc]
  rw [hexBytes, List.flatMap_nil, List.append_nil]

theorem mem_identifierText (h : bytes.length = 16) {c : Char} (hc : c ∈ identifierText bytes) :
    c = '-' ∨ c ∈ identifierDigits := by
  by_cases hhyphen : c = '-'
  · exact .inl hhyphen
  · have hdigit : c ∈ (identifierText bytes).filter (· ≠ '-') :=
      List.mem_filter.2 ⟨hc, decide_eq_true hhyphen⟩
    rw [filter_identifierText h] at hdigit
    exact .inr (mem_hexBytes hdigit)

theorem identifierText_inj (hx : xs.length = 16) (hy : ys.length = 16)
    (h : identifierText xs = identifierText ys) : xs = ys := by
  refine hexBytes_inj ?_
  rw [← filter_identifierText hx, ← filter_identifierText hy, h]

/-- The digits that the version and the variant take. -/
theorem getElem?_identifierText_stamped (h : bytes.length = 16) :
    ∃ b c, bytes[6]? = some b ∧ bytes[8]? = some c ∧
      (identifierText bytes)[14]? = some (Text.hexDigit (b.toNat / 16)) ∧
      (identifierText bytes)[19]? = some (Text.hexDigit (c.toNat / 16)) := by
  -- with its bytes written out an identifier computes
  match bytes, h with
  | [_, _, _, _, _, _, b, _, c, _, _, _, _, _, _, _], _ => exact ⟨b, c, rfl, rfl, rfl, rfl⟩

/-! ## Version and variant -/

/-- The bits of a byte that stamping keeps. -/
def keptBits (place : Nat) : UInt8 := if place = 6 then 0x0F else if place = 8 then 0x3F else 0xFF

/-- The bits of a byte that stamping sets. -/
def setBits (place : Nat) : UInt8 := if place = 6 then 0x30 else if place = 8 then 0x80 else 0

/-- All bits are kept but those that version and variant take, and none of the kept is set. -/
theorem testBit_keptBits : ∀ i < 16, ∀ j < 8,
    ((keptBits i).toNat.testBit j = true ↔ (i, j) ∉ stampedBits) ∧
      ((keptBits i).toNat.testBit j = true → (setBits i).toNat.testBit j = false) := by
  decide

theorem getElem?_stampVersion3 (bytes : List UInt8) (i : Nat) :
    (stampVersion3 bytes)[i]? = bytes[i]?.map fun b => (b &&& keptBits i) ||| setBits i := by
  have hkept (b : UInt8) : (b &&& 0xFF) ||| 0 = b := by
    have hall : (0xFF : UInt8) = -1 := rfl
    rw [hall, UInt8.and_neg_one, UInt8.or_zero]
  simp only [stampVersion3, List.getElem?_modify, keptBits, setBits]
  cases bytes[i]? with
  | none => rfl
  | some b =>
    by_cases h6 : i = 6
    · subst h6
      rfl
    · by_cases h8 : i = 8
      · subst h8
        rfl
      · simp [h6, h8, Ne.symm h6, Ne.symm h8, hkept]

/-- Bytes of which some bits are kept and some are set are told by those that are kept and not
set. -/
theorem masked_eq_iff {keep set b c : UInt8} :
    (b &&& keep) ||| set = (c &&& keep) ||| set ↔
      ∀ j < 8, keep.toNat.testBit j = true → set.toNat.testBit j = false →
        b.toNat.testBit j = c.toNat.testBit j := by
  have hbit (b : UInt8) (j : Nat) : ((b &&& keep) ||| set).toNat.testBit j =
      (b.toNat.testBit j && keep.toNat.testBit j || set.toNat.testBit j) := by
    rw [UInt8.toNat_or, UInt8.toNat_and, Nat.testBit_or, Nat.testBit_and]
  constructor
  · intro h j _ hkeep hset
    have hj := congrArg (fun x : UInt8 => x.toNat.testBit j) h
    simpa only [hbit, hkeep, hset, Bool.and_true, Bool.or_false] using hj
  · intro h
    refine UInt8.toNat_inj.1 (Nat.eq_of_testBit_eq fun j => ?_)
    rw [hbit, hbit]
    -- a byte has no bits from the eighth on
    by_cases hj : j < 8
    · cases hkeep : keep.toNat.testBit j with
      | false => rw [Bool.and_false, Bool.and_false]
      | true =>
        cases hset : set.toNat.testBit j with
        | true => rw [Bool.or_true, Bool.or_true]
        | false => rw [h j hj hkeep hset]
    · have hhigh (x : UInt8) : x.toNat.testBit j = false :=
        Nat.testBit_lt_two_pow (Nat.lt_of_lt_of_le x.toNat_lt (Nat.pow_le_pow_right (by decide)
          (Nat.le_of_not_lt hj)))
      rw [hhigh b, hhigh c]

/-- Stamping makes digests the same just where they agree in all other bits. -/
theorem stampVersion3_inj_iff (hx : xs.length = 16) (hy : ys.length = 16) :
    stampVersion3 xs = stampVersion3 ys ↔ AgreeUnstamped xs ys := by
  have hget {zs : List UInt8} (hz : zs.length = 16) {i : Nat} (hi : i < 16) :
      zs[i]? = some (zs.getD i 0) := by
    rw [List.getD_eq_getElem?_getD, List.getElem?_eq_getElem (by omega)]
    rfl
  -- byte by byte, by the bits that are kept and not set; behind the sixteenth there is nothing
  have hplace {i : Nat} (hi : i < 16) :
      (stampVersion3 xs)[i]? = (stampVersion3 ys)[i]? ↔
        ∀ j < 8, (i, j) ∉ stampedBits →
          (xs.getD i 0).toNat.testBit j = (ys.getD i 0).toNat.testBit j := by
    rw [getElem?_stampVersion3, getElem?_stampVersion3, hget hx hi, hget hy hi, Option.map_some,
      Option.map_some, Option.some.injEq, masked_eq_iff]
    refine forall_congr' fun j => forall_congr' fun hj => ?_
    obtain ⟨hkept, hset⟩ := testBit_keptBits i hi j hj
    rw [← hkept]
    exact ⟨fun h hkeep => h hkeep (hset hkeep), fun h hkeep _ => h hkeep⟩
  constructor
  · intro h i hi
    exact (hplace hi).1 (by rw [h])
  · intro h
    refine List.ext_getElem? fun i => ?_
    by_cases hi : i < 16
    · exact (hplace hi).2 (h i hi)
    · rw [getElem?_stampVersion3, getElem?_stampVersion3, List.getElem?_eq_none (by omega),
        List.getElem?_eq_none (by omega)]

/-- Every byte writes the version's digit and one of the variant's once it is stamped. -/
theorem hexDigit_stamped (b : UInt8) :
    Text.hexDigit (((b &&& keptBits 6) ||| setBits 6).toNat / 16) = '3' ∧
      Text.hexDigit (((b &&& keptBits 8) ||| setBits 8).toNat / 16) ∈ "89ab".toList := by
  have hbytes : ∀ n < 256,
      Text.hexDigit (((UInt8.ofNat n &&& keptBits 6) ||| setBits 6).toNat / 16) = '3' ∧
        Text.hexDigit (((UInt8.ofNat n &&& keptBits 8) ||| setBits 8).toNat / 16) ∈
          "89ab".toList := by
    decide +kernel
  have hb := hbytes b.toNat b.toNat_lt
  rwa [UInt8.ofNat_toNat] at hb

theorem length_stampVersion3 (bytes : List UInt8) :
    (stampVersion3 bytes).length = bytes.length := by
  rw [stampVersion3, List.length_modify, List.length_modify]

theorem isVersion3Text_identifierText (h : bytes.length = 16) :
    IsVersion3Text (identifierText (stampVersion3 bytes)) := by
  have hlength : (stampVersion3 bytes).length = 16 := by rw [length_stampVersion3, h]
  obtain ⟨b, c, hb, hc, hversion, hvariant⟩ := getElem?_identifierText_stamped hlength
  rw [getElem?_stampVersion3, Option.map_eq_some_iff] at hb hc
  obtain ⟨b, -, rfl⟩ := hb
  obtain ⟨c, -, rfl⟩ := hc
  rw [(hexDigit_stamped b).1] at hversion
  exact ⟨length_identifierText hlength, getElem?_identifierText_hyphen hlength,
    fun _ => mem_identifierText hlength, hversion, _, (hexDigit_stamped c).2, hvariant⟩

end

/-! ## Keys -/

theorem lockKey_inj_iff (a b : String) :
    lockKey a = lockKey b ↔
      AgreeUnstamped (Md5.digest a.toUTF8.toList) (Md5.digest b.toUTF8.toList) := by
  have hlength (s : String) : (Md5.digest s.toUTF8.toList).length = 16 := Md5.length_digest _
  have hstamped (s : String) : (stampVersion3 (Md5.digest s.toUTF8.toList)).length = 16 := by
    rw [length_stampVersion3, hlength]
  rw [← stampVersion3_inj_iff (hlength a) (hlength b), lockKey, lockKey, String.ofList_inj]
  exact ⟨identifierText_inj (hstamped a) (hstamped b), congrArg identifierText⟩

/-- A task's lock is known by the canonical text of an identifier of version 3, whatever the task's
name.  Two names have the same key, and the row that is put in for one is the lock of the other in
its region, just where the digests of their names agree in all bits but those of the version and the
variant. -/
theorem lockKey_identifies :
    (∀ taskName, IsVersion3Text (lockKey taskName).toList) ∧
    ∀ a b, (lockKey a = lockKey b ↔
        AgreeUnstamped (Md5.digest a.toUTF8.toList) (Md5.digest b.toUTF8.toList)) ∧
      ∀ stamp region clientId,
        Lock.isFor (lockKey a) region (Lock.heldRow stamp region b clientId) = true ↔
          AgreeUnstamped (Md5.digest a.toUTF8.toList) (Md5.digest b.toUTF8.toList) := by
  refine ⟨fun taskName => ?_, fun a b => ⟨lockKey_inj_iff a b, fun stamp region clientId => ?_⟩⟩
  · rw [lockKey, String.toList_ofList]
    exact isVersion3Text_identifierText (Md5.length_digest _)
  · rw [← lockKey_inj_iff, Lock.isFor, Bool.and_eq_true, beq_iff_eq, beq_iff_eq]
    exact ⟨fun h => h.1.symm, fun h => ⟨h.symm, rfl⟩⟩

example : lockKey "job-x" = "e084e9b1-a485-360a-8936-fd19a184083e" := by decide +kernel

end RunLedger
