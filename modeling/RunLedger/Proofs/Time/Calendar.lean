import Mathlib
import RunLedger.Time.Calendar

/-!
# Dates and day numbers

The day numbers count the dates of the calendar: from 0 on each belongs to one date, and a later
date has a greater one.

    d.isValid → ofDayNumber d.dayNumber = d                             (ofDayNumber_dayNumber)
    n < calendarDays → (ofDayNumber n).isValid ∧ (ofDayNumber n).dayNumber = n
                                                                        (dayNumber_ofDayNumber)
    a.fields < b.fields → a.dayNumber < b.dayNumber                     (dayNumber_lt_of_fields_lt)
-/

namespace RunLedger.Date

/-! ## Years -/

def yearLength (year : Nat) : Nat := if isLeap year then 366 else 365

theorem isLeap_iff {year : Nat} :
    isLeap year = true ↔ year % 4 = 0 ∧ (year % 100 ≠ 0 ∨ year % 400 = 0) := by
  simp [isLeap]

/-- The years come in cycles of 400, of which each has cycles of 100, of 4 and of 1. -/
theorem exists_cycles {year : Nat} (h : 1 ≤ year) :
    ∃ a b c d, b ≤ 3 ∧ c ≤ 24 ∧ d ≤ 3 ∧ year = 400 * a + 100 * b + 4 * c + d + 1 :=
  ⟨(year - 1) / 400, (year - 1) % 400 / 100, (year - 1) % 100 / 4, (year - 1) % 4, by omega,
    by omega, by omega, by omega⟩

section
variable {a b c d : Nat}

theorem daysBeforeYear_cycles (hb : b ≤ 3) (hc : c ≤ 24) (hd : d ≤ 3) :
    daysBeforeYear (400 * a + 100 * b + 4 * c + d + 1) =
      146097 * a + 36524 * b + 1461 * c + 365 * d := by
  have hyears : daysBeforeYear (400 * a + 100 * b + 4 * c + d + 1) =
      (400 * a + 100 * b + 4 * c + d) * 365 + (400 * a + 100 * b + 4 * c + d) / 4 -
        (400 * a + 100 * b + 4 * c + d) / 100 + (400 * a + 100 * b + 4 * c + d) / 400 := rfl
  have h4 : (400 * a + 100 * b + 4 * c + d) / 4 = 100 * a + 25 * b + c := by omega
  have h100 : (400 * a + 100 * b + 4 * c + d) / 100 = 4 * a + b := by omega
  have h400 : (400 * a + 100 * b + 4 * c + d) / 400 = a := by omega
  rw [hyears, h4, h100, h400]
  omega

/-- The last year of a cycle of 4 is a leap year, but for the last one of a cycle of 100 that is not
the last one of a cycle of 400. -/
theorem isLeap_cycles (hb : b ≤ 3) (hc : c ≤ 24) (hd : d ≤ 3) :
    isLeap (400 * a + 100 * b + 4 * c + d + 1) = true ↔ d = 3 ∧ (c < 24 ∨ b = 3) := by
  have h4 : (400 * a + 100 * b + 4 * c + d + 1) % 4 = (d + 1) % 4 := by omega
  have h100 : (400 * a + 100 * b + 4 * c + d + 1) % 100 = (4 * c + d + 1) % 100 := by omega
  have h400 : (400 * a + 100 * b + 4 * c + d + 1) % 400 = (100 * b + 4 * c + d + 1) % 400 := by
    omega
  rw [isLeap_iff, h4, h100, h400]
  omega

end

theorem daysBeforeYear_succ {year : Nat} (h : 1 ≤ year) :
    daysBeforeYear (year + 1) = daysBeforeYear year + yearLength year := by
  obtain ⟨a, b, c, d, hb, hc, hd, rfl⟩ := exists_cycles h
  have hleap := isLeap_cycles (a := a) hb hc hd
  rw [daysBeforeYear_cycles hb hc hd, yearLength]
  -- the next year is one on in the innermost cycle that has not ended
  by_cases hd' : d < 3
  · rw [if_neg (mt hleap.1 (by omega)), Nat.add_assoc _ d 1, daysBeforeYear_cycles hb hc hd']
    omega
  obtain rfl : d = 3 := by omega
  by_cases hc' : c < 24
  · have hnext : 400 * a + 100 * b + 4 * c + 3 + 1 = 400 * a + 100 * b + 4 * (c + 1) + 0 := by omega
    rw [if_pos (hleap.2 ⟨rfl, .inl hc'⟩), hnext, daysBeforeYear_cycles hb hc' (Nat.zero_le 3)]
    omega
  obtain rfl : c = 24 := by omega
  by_cases hb' : b < 3
  · have hnext : 400 * a + 100 * b + 4 * 24 + 3 + 1 = 400 * a + 100 * (b + 1) + 4 * 0 + 0 := by
      omega
    rw [if_neg (mt hleap.1 (by omega)), hnext,
      daysBeforeYear_cycles hb' (Nat.zero_le 24) (Nat.zero_le 3)]
    omega
  obtain rfl : b = 3 := by omega
  have hnext : 400 * a + 100 * 3 + 4 * 24 + 3 + 1 = 400 * (a + 1) + 100 * 0 + 4 * 0 + 0 := by omega
  rw [if_pos (hleap.2 ⟨rfl, .inr rfl⟩), hnext,
    daysBeforeYear_cycles (Nat.zero_le 3) (Nat.zero_le 24) (Nat.zero_le 3)]
  omega

theorem daysBeforeYear_add_length_le {a b : Nat} (ha : 1 ≤ a) (h : a < b) :
    daysBeforeYear a + yearLength a ≤ daysBeforeYear b := by
  induction b with
  | zero => exact absurd h (Nat.not_lt_zero a)
  | succ b ih =>
    rw [← daysBeforeYear_succ ha]
    rcases Nat.lt_succ_iff_lt_or_eq.1 h with hlt | rfl
    · have hle := ih hlt
      rw [← daysBeforeYear_succ ha] at hle
      rw [daysBeforeYear_succ (by omega : 1 ≤ b)]
      omega
    · exact Nat.le_refl _

/-- What is left of one cycle is counted in the next smaller one. -/
theorem ofDayNumber_cycles {a b c d r : Nat}
    (hb : 36524 * b + (1461 * c + (365 * d + r)) < 146097)
    (hc : 1461 * c + (365 * d + r) < 36524) (hd : 365 * d + r < 1461) (hr : r < 365) :
    ofDayNumber (146097 * a + (36524 * b + (1461 * c + (365 * d + r)))) =
      if d = 4 ∨ b = 4 then ⟨a * 400 + b * 100 + c * 4 + d, 12, 31⟩
      else ⟨a * 400 + b * 100 + c * 4 + d + 1,
        (monthAndDay (monthLengths (a * 400 + b * 100 + c * 4 + d + 1)) 1 r).1,
        (monthAndDay (monthLengths (a * 400 + b * 100 + c * 4 + d + 1)) 1 r).2⟩ := by
  have hcycle {m q s : Nat} (hm : 0 < m) (hs : s < m) : (m * q + s) / m = q ∧ (m * q + s) % m = s :=
    ⟨by rw [Nat.mul_add_div hm, Nat.div_eq_of_lt hs, Nat.add_zero],
      by rw [Nat.mul_add_mod, Nat.mod_eq_of_lt hs]⟩
  unfold ofDayNumber
  simp only [hcycle (by decide) hb, hcycle (by decide) hc, hcycle (by decide) hd,
    hcycle (by decide) hr, Bool.or_eq_true, decide_eq_true_eq, Nat.add_sub_cancel]

/-- The last day of a leap year is told apart, as the day on which a cycle has a year too many. -/
theorem ofDayNumber_lastLeapDay {year : Nat} (hyear : 1 ≤ year) (hleap : isLeap year = true) :
    ofDayNumber (daysBeforeYear year + 365) = ⟨year, 12, 31⟩ := by
  obtain ⟨a, b, c, d, hb, hc, hd, rfl⟩ := exists_cycles hyear
  obtain ⟨rfl, hcycle⟩ := (isLeap_cycles hb hc hd).1 hleap
  rw [daysBeforeYear_cycles hb hc hd]
  by_cases hc' : c < 24
  · have hn : 146097 * a + 36524 * b + 1461 * c + 365 * 3 + 365 =
        146097 * a + (36524 * b + (1461 * c + (365 * 4 + 0))) := by omega
    rw [hn, ofDayNumber_cycles (by omega) (by omega) (by omega) (by omega), if_pos (.inl rfl)]
    congr 1
    omega
  · obtain rfl : c = 24 := by omega
    obtain rfl : b = 3 := hcycle.resolve_left hc'
    have hn : 146097 * a + 36524 * 3 + 1461 * 24 + 365 * 3 + 365 =
        146097 * a + (36524 * 4 + (1461 * 0 + (365 * 0 + 0))) := by omega
    rw [hn, ofDayNumber_cycles (by omega) (by omega) (by omega) (by omega), if_pos (.inr rfl)]
    congr 1
    omega

/-- Taking off whole cycles leads to the year and to the day of the year. -/
theorem ofDayNumber_eq {year r : Nat} (hyear : 1 ≤ year) (hr : r < yearLength year) :
    ofDayNumber (daysBeforeYear year + r) =
      ⟨year, (monthAndDay (monthLengths year) 1 r).1, (monthAndDay (monthLengths year) 1 r).2⟩ := by
  by_cases hcommon : r < 365
  · obtain ⟨a, b, c, d, hb, hc, hd, rfl⟩ := exists_cycles hyear
    have hn : 146097 * a + 36524 * b + 1461 * c + 365 * d + r =
        146097 * a + (36524 * b + (1461 * c + (365 * d + r))) := by omega
    rw [daysBeforeYear_cycles hb hc hd, hn,
      ofDayNumber_cycles (by omega) (by omega) (by omega) hcommon, if_neg (by omega),
      Nat.mul_comm a, Nat.mul_comm b, Nat.mul_comm c]
  · have hleap : isLeap year = true := by
      rw [yearLength] at hr
      split at hr
      · assumption
      · omega
    have hlast : r = 365 := by
      rw [yearLength, if_pos hleap] at hr
      omega
    rw [hlast, ofDayNumber_lastLeapDay hyear hleap, monthLengths, if_pos hleap]
    rfl

/-- Every day lies in a year. -/
theorem exists_year (n : Nat) :
    ∃ year r, 1 ≤ year ∧ r < yearLength year ∧ n = daysBeforeYear year + r := by
  induction n with
  | zero => exact ⟨1, 0, Nat.le_refl 1, by decide, rfl⟩
  | succ n ih =>
    obtain ⟨year, r, hyear, hr, rfl⟩ := ih
    -- the next day is in the same year, or the first one of the next
    by_cases hlast : r + 1 < yearLength year
    · exact ⟨year, r + 1, hyear, hlast, by omega⟩
    · refine ⟨year + 1, 0, by omega, ?_, ?_⟩
      · unfold yearLength
        split <;> omega
      · rw [daysBeforeYear_succ hyear]
        omega

/-! ## Months -/

theorem sum_monthLengths (year : Nat) : (monthLengths year).sum = yearLength year := by
  unfold monthLengths yearLength
  split <;> rfl

theorem monthAndDay_sum_take {lengths : List Nat} {k j : Nat} (hk : k < lengths.length)
    (hj : j < lengths[k]) (month : Nat) :
    monthAndDay lengths month ((lengths.take k).sum + j) = (month + k, j + 1) := by
  induction lengths generalizing month k with
  | nil => exact absurd hk (Nat.not_lt_zero k)
  | cons length rest ih =>
    cases k with
    | zero =>
      have hfirst : j < length := hj
      rw [List.take_zero, List.sum_nil, Nat.zero_add, monthAndDay, if_pos hfirst]
      rfl
    | succ k =>
      rw [List.take_succ_cons, List.sum_cons, monthAndDay, if_neg (by omega)]
      have hrest : length + (rest.take k).sum + j - length = (rest.take k).sum + j := by omega
      rw [hrest, ih (Nat.lt_of_succ_lt_succ hk) hj]
      congr 1
      omega

/-- Every day of a year lies in a month. -/
theorem exists_month {lengths : List Nat} {n : Nat} (h : n < lengths.sum) :
    ∃ k j, ∃ hk : k < lengths.length, j < lengths[k] ∧ n = (lengths.take k).sum + j := by
  induction lengths generalizing n with
  | nil => exact absurd h (Nat.not_lt_zero n)
  | cons length rest ih =>
    by_cases hfirst : n < length
    · exact ⟨0, n, Nat.succ_pos _, hfirst, by simp⟩
    · rw [List.sum_cons] at h
      obtain ⟨k, j, hk, hj, hn⟩ := ih (n := n - length) (by omega)
      refine ⟨k + 1, j, Nat.succ_lt_succ hk, hj, ?_⟩
      rw [List.take_succ_cons, List.sum_cons]
      omega

theorem sum_take_le {lengths : List Nat} {k m : Nat} (hk : k < lengths.length) (hm : k < m) :
    (lengths.take k).sum + lengths[k] ≤ (lengths.take m).sum := by
  induction lengths generalizing k m with
  | nil => exact absurd hk (Nat.not_lt_zero k)
  | cons length rest ih =>
    obtain ⟨m, rfl⟩ : ∃ n, m = n + 1 := ⟨m - 1, by omega⟩
    rw [List.take_succ_cons, List.sum_cons]
    cases k with
    | zero => simp
    | succ k =>
      rw [List.take_succ_cons, List.sum_cons, List.getElem_cons_succ]
      have hle := ih (Nat.lt_of_succ_lt_succ hk) (Nat.lt_of_succ_lt_succ hm)
      omega

/-! ## Dates -/

section
variable {year k j : Nat}

theorem dayNumber_mk :
    dayNumber ⟨year, k + 1, j + 1⟩ =
      daysBeforeYear year + (((monthLengths year).take k).sum + j) := by
  rw [dayNumber, Nat.add_sub_cancel, Nat.add_sub_cancel, List.sum_eq_foldl, Nat.add_assoc]

theorem isValid_mk_iff :
    isValid ⟨year, k + 1, j + 1⟩ = true ↔ (1 ≤ year ∧ year ≤ 9999) ∧
      ∃ hk : k < (monthLengths year).length, j < (monthLengths year)[k] := by
  have hlength : (monthLengths year).length = 12 := rfl
  simp only [isValid, Bool.and_eq_true, decide_eq_true_eq, Nat.add_sub_cancel]
  constructor
  · rintro ⟨⟨⟨⟨⟨hfirst, hlast⟩, -⟩, hmonth⟩, -⟩, hday⟩
    have hk : k < (monthLengths year).length := by omega
    rw [List.getD_eq_getElem?_getD, List.getElem?_eq_getElem hk, Option.getD_some] at hday
    exact ⟨⟨hfirst, hlast⟩, hk, hday⟩
  · rintro ⟨⟨hfirst, hlast⟩, hk, hj⟩
    rw [List.getD_eq_getElem?_getD, List.getElem?_eq_getElem hk, Option.getD_some]
    exact ⟨⟨⟨⟨⟨hfirst, hlast⟩, by omega⟩, by omega⟩, by omega⟩, hj⟩

end

/-- A date with its month and its day counted from 0. -/
theorem exists_mk_of_isValid {d : Date} (h : d.isValid = true) :
    ∃ year k j, d = ⟨year, k + 1, j + 1⟩ ∧ (1 ≤ year ∧ year ≤ 9999) ∧
      ∃ hk : k < (monthLengths year).length, j < (monthLengths year)[k] := by
  obtain ⟨year, month, day⟩ := d
  obtain ⟨⟨k, rfl⟩, j, rfl⟩ : (∃ k, month = k + 1) ∧ ∃ j, day = j + 1 := by
    simp only [isValid, Bool.and_eq_true, decide_eq_true_eq] at h
    exact ⟨⟨month - 1, by omega⟩, day - 1, by omega⟩
  exact ⟨year, k, j, rfl, isValid_mk_iff.1 h⟩

theorem dayOfYear_lt {year k j : Nat} (hk : k < (monthLengths year).length)
    (hj : j < (monthLengths year)[k]) :
    ((monthLengths year).take k).sum + j < yearLength year := by
  have hle := sum_take_le hk hk
  rw [List.take_length, sum_monthLengths] at hle
  omega

/-- The day number of a date leads back to the date. -/
theorem ofDayNumber_dayNumber {d : Date} (h : d.isValid = true) : ofDayNumber d.dayNumber = d := by
  obtain ⟨year, k, j, rfl, ⟨hyear, -⟩, hk, hj⟩ := exists_mk_of_isValid h
  rw [dayNumber_mk, ofDayNumber_eq hyear (dayOfYear_lt hk hj), monthAndDay_sum_take hk hj,
    Nat.add_comm 1 k]

/-- The day numbers of the calendar are those of its dates. -/
theorem dayNumber_ofDayNumber {n : Nat} (h : n < calendarDays) :
    (ofDayNumber n).isValid = true ∧ (ofDayNumber n).dayNumber = n := by
  obtain ⟨year, r, hyear, hr, rfl⟩ := exists_year n
  obtain ⟨k, j, hk, hj, rfl⟩ := exists_month (by rwa [sum_monthLengths year])
  have hlast : year ≤ 9999 := by
    refine Nat.le_of_not_lt fun hlater => ?_
    have hle := daysBeforeYear_add_length_le (by decide : 1 ≤ 9999) hlater
    have hend : daysBeforeYear 9999 + yearLength 9999 = calendarDays := by decide
    omega
  rw [ofDayNumber_eq hyear hr, monthAndDay_sum_take hk hj, Nat.add_comm 1 k]
  exact ⟨isValid_mk_iff.2 ⟨⟨hyear, hlast⟩, hk, hj⟩, dayNumber_mk⟩

theorem dayNumber_lt_calendarDays {d : Date} (h : d.isValid = true) :
    d.dayNumber < calendarDays := by
  obtain ⟨year, k, j, rfl, ⟨hyear, hlast⟩, hk, hj⟩ := exists_mk_of_isValid h
  have hday := dayOfYear_lt hk hj
  have hend : daysBeforeYear 10000 = calendarDays := by decide
  have hle := daysBeforeYear_add_length_le hyear (by omega : year < 10000)
  rw [dayNumber_mk]
  omega

/-! ## Order -/

/-- Year, month and day, in this order. -/
def fields (d : Date) : List Nat := [d.year, d.month, d.day]

/-- A date whose year, month and day come first has the lesser day number. -/
theorem dayNumber_lt_of_fields_lt {a b : Date} (ha : a.isValid = true) (hb : b.isValid = true)
    (h : a.fields < b.fields) : a.dayNumber < b.dayNumber := by
  obtain ⟨year, k, j, rfl, ⟨hyear, -⟩, hk, hj⟩ := exists_mk_of_isValid ha
  obtain ⟨year', k', j', rfl, -, hk', hj'⟩ := exists_mk_of_isValid hb
  rw [dayNumber_mk, dayNumber_mk]
  simp only [fields, List.cons_lt_cons_iff] at h
  rcases h with hyears | ⟨rfl, hmonths | ⟨hmonth, hdays | ⟨-, hnone⟩⟩⟩
  · have hday := dayOfYear_lt hk hj
    have hle := daysBeforeYear_add_length_le hyear hyears
    omega
  · have hle := sum_take_le hk (by omega : k < k')
    omega
  · obtain rfl : k = k' := by omega
    omega
  · exact absurd hnone (List.not_lt_nil _)

end RunLedger.Date
