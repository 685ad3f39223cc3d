import RunLedger.Proofs.Time.Calendar
import RunLedger.Time.Timestamp

/-!
# Timestamps in UTC

What clocks show is compared field by field, from the year down to the microsecond; this is the
order of the distances from the start of year 1.  A timestamp has a reading in UTC unless its offset
carries it out of the calendar.  That reading is what a column without offsets keeps of it and what
is read back, it shows the same instant, and readings in UTC stand in the order of their instants.

    f.isValid → ofWall f.wall = f                                       (ofWall_wall)
    wall < calendarMicros → (ofWall wall).isValid ∧ (ofWall wall).wall = wall
                                                                        (wall_ofWall)
    a.wall ≤ b.wall ↔ a ≤ b                                             (wall_le_wall_iff)
-/

namespace RunLedger

/-! ## Clock faces -/

namespace ClockFace

theorem isValid_iff {f : ClockFace} :
    f.isValid = true ↔ f.date.isValid = true ∧ f.hour < 24 ∧ f.minute < 60 ∧ f.second < 60 ∧
      f.micro < 1000000 := by
  simp [isValid, and_assoc]

/-- The distance of what a clock shows leads back to it. -/
theorem ofWall_wall {f : ClockFace} (h : f.isValid = true) : ofWall f.wall = f := by
  obtain ⟨date, hour, minute, second, micro⟩ := f
  obtain ⟨hdate, hhour, hminute, hsecond, hmicro⟩ := isValid_iff.1 h
  simp only [] at hhour hminute hsecond hmicro
  have hday : (wall ⟨date, hour, minute, second, micro⟩) / microsPerDay = date.dayNumber := by
    simp only [wall, microsPerDay]
    omega
  have hseconds : (wall ⟨date, hour, minute, second, micro⟩) % microsPerDay / 1000000 =
      (hour * 60 + minute) * 60 + second := by
    simp only [wall, microsPerDay]
    omega
  have hrest : (wall ⟨date, hour, minute, second, micro⟩) % 1000000 = micro := by
    simp only [wall, microsPerDay]
    omega
  rw [ofWall, hday, hseconds, hrest, Date.ofDayNumber_dayNumber hdate]
  simp only [ClockFace.mk.injEq, true_and, and_true]
  omega

/-- Every distance inside the calendar is one of what a clock can show. -/
theorem wall_ofWall {w : Nat} (h : w < calendarMicros) :
    (ofWall w).isValid = true ∧ (ofWall w).wall = w := by
  simp only [calendarMicros, microsPerDay] at h
  obtain ⟨hvalid, hday⟩ := Date.dayNumber_ofDayNumber (n := w / microsPerDay) (by
    simp only [microsPerDay]
    omega)
  constructor
  · have hhour : w % microsPerDay / 1000000 / 3600 < 24 := by
      simp only [microsPerDay]
      omega
    rw [isValid_iff]
    exact ⟨hvalid, hhour, Nat.mod_lt _ (by decide), Nat.mod_lt _ (by decide),
      Nat.mod_lt _ (by decide)⟩
  · simp only [wall, ofWall, hday]
    simp only [microsPerDay]
    omega

theorem wall_lt {f : ClockFace} (h : f.isValid = true) : f.wall < calendarMicros := by
  obtain ⟨hdate, hhour, hminute, hsecond, hmicro⟩ := isValid_iff.1 h
  have hday := Date.dayNumber_lt_calendarDays hdate
  simp only [wall, calendarMicros, microsPerDay]
  omega

/-- Year, month, day, hour, minute, second and microsecond, in this order. -/
def fields (f : ClockFace) : List Nat := f.date.fields ++ [f.hour, f.minute, f.second, f.micro]

/-- What clocks show is compared by the first field that differs. -/
instance : LE ClockFace := ⟨fun a b => ¬ b.fields < a.fields⟩

instance (a b : ClockFace) : Decidable (a ≤ b) :=
  inferInstanceAs (Decidable (¬ b.fields < a.fields))

theorem fields_injective {a b : ClockFace} (h : a.fields = b.fields) : a = b := by
  obtain ⟨⟨year, month, day⟩, hour, minute, second, micro⟩ := a
  obtain ⟨⟨year', month', day'⟩, hour', minute', second', micro'⟩ := b
  simpa [fields, Date.fields, and_assoc] using h

theorem fields_lt_iff {a b : ClockFace} :
    a.fields < b.fields ↔ a.date.fields < b.date.fields ∨ a.date = b.date ∧
      [a.hour, a.minute, a.second, a.micro] < [b.hour, b.minute, b.second, b.micro] := by
  obtain ⟨⟨year, month, day⟩, hour, minute, second, micro⟩ := a
  obtain ⟨⟨year', month', day'⟩, hour', minute', second', micro'⟩ := b
  simp only [fields, Date.fields, List.cons_append, List.nil_append, List.cons_lt_cons_iff,
    List.not_lt_nil, and_false, or_false, Date.mk.injEq]
  omega

theorem wall_lt_of_fields_lt {a b : ClockFace} (ha : a.isValid = true) (hb : b.isValid = true)
    (h : a.fields < b.fields) : a.wall < b.wall := by
  obtain ⟨hdate, hhour, hminute, hsecond, hmicro⟩ := isValid_iff.1 ha
  obtain ⟨hdate', -, -, -, -⟩ := isValid_iff.1 hb
  simp only [wall, microsPerDay]
  rcases fields_lt_iff.1 h with hdates | ⟨hsame, htimes⟩
  · have hdays := Date.dayNumber_lt_of_fields_lt hdate hdate' hdates
    omega
  · simp only [List.cons_lt_cons_iff, List.not_lt_nil, and_false, or_false] at htimes
    rw [hsame]
    omega

/-- The order of the fields is that of the distances from the start of year 1. -/
theorem wall_le_wall_iff {a b : ClockFace} (ha : a.isValid = true) (hb : b.isValid = true) :
    a.wall ≤ b.wall ↔ a ≤ b := by
  have hforward {a b : ClockFace} (ha : a.isValid = true) (hb : b.isValid = true)
      (h : a.wall ≤ b.wall) : a ≤ b :=
    fun hlt => absurd (wall_lt_of_fields_lt hb ha hlt) (Nat.not_lt.2 h)
  refine ⟨hforward ha hb, fun h => Nat.le_of_not_lt fun hlt => ?_⟩
  have hsame : a = b := fields_injective (List.le_antisymm h (hforward hb ha (Nat.le_of_lt hlt)))
  rw [hsame] at hlt
  exact Nat.lt_irrefl _ hlt

end ClockFace

/-! ## Timestamps -/

namespace Timestamp

section
variable {t t' : Timestamp}

theorem isValid_face (t : Timestamp) : t.face.isValid = true := (ClockFace.wall_ofWall t.wall_lt).1

theorem wall_face (t : Timestamp) : t.face.wall = t.wall := (ClockFace.wall_ofWall t.wall_lt).2

/-- Each date and time of day, without an offset or with one of less than a day, makes a
timestamp. -/
theorem existsUnique_face {f : ClockFace} {offset : Option Int} (hf : f.isValid = true)
    (ho : ∀ o ∈ offset, -(microsPerDay : Int) < o ∧ o < microsPerDay) :
    ∃ t : Timestamp, (t.face = f ∧ t.offset = offset) ∧
      ∀ t' : Timestamp, t'.face = f ∧ t'.offset = offset → t' = t := by
  refine ⟨⟨f.wall, offset, ClockFace.wall_lt hf, ho⟩, ⟨ClockFace.ofWall_wall hf, rfl⟩, ?_⟩
  rintro ⟨wall, offset', hwall, ho'⟩ ⟨hface, hoffset⟩
  have hsame := wall_face ⟨wall, offset', hwall, ho'⟩
  rw [hface] at hsame
  simp only [Timestamp.mk.injEq]
  exact ⟨hsame.symm, hoffset⟩

/-- The distance of the instant from the start of year 1, in microseconds: what the clock shows,
less the clock's own distance from UTC. -/
def utcMicros (t : Timestamp) : Int := t.face.wall - t.offset.getD 0

/-- Whether a clock that runs on UTC can show the instant. -/
def HasUtcFace (t : Timestamp) : Prop :=
  ∃ f : ClockFace, f.isValid = true ∧ (f.wall : Int) = t.utcMicros

theorem hasUtcFace_iff : t.HasUtcFace ↔ 0 ≤ t.utcMicros ∧ t.utcMicros < calendarMicros := by
  constructor
  · rintro ⟨f, hf, hwall⟩
    have hlt := ClockFace.wall_lt hf
    omega
  · rintro ⟨hfirst, hlast⟩
    obtain ⟨hvalid, hwall⟩ := ClockFace.wall_ofWall (w := t.utcMicros.toNat) (by omega)
    exact ⟨_, hvalid, by omega⟩

theorem hasUtcFace_of_naive (h : t.offset = none) : t.HasUtcFace :=
  ⟨t.face, t.isValid_face, by simp [utcMicros, h]⟩

theorem micros_eq_of_toInstant {i : Instant} (h : t.toInstant = .ok i) :
    (i.micros : Int) = t.utcMicros := by
  rw [utcMicros, wall_face]
  exact toInstant_eq_ok_iff.1 h

/-- The instant of a timestamp is told wherever a clock on UTC can show it. -/
theorem toInstant_of_hasUtcFace (h : t.HasUtcFace) : ∃ i, t.toInstant = .ok i := by
  obtain ⟨hfirst, hlast⟩ := hasUtcFace_iff.1 h
  refine ⟨⟨t.utcMicros.toNat, by omega⟩, toInstant_eq_ok_iff.2 ?_⟩
  rw [utcMicros, wall_face] at hfirst
  show ((t.utcMicros.toNat : Nat) : Int) = _
  rw [utcMicros, wall_face]
  exact Int.toNat_of_nonneg hfirst

theorem toInstant_of_not_hasUtcFace (h : ¬ t.HasUtcFace) : t.toInstant = .error .outOfRange := by
  cases hi : t.toInstant with
  | error e => cases e; rfl
  | ok i =>
    have hmicros := micros_eq_of_toInstant hi
    have hlt := i.micros_lt
    exact absurd (hasUtcFace_iff.2 ⟨by omega, by omega⟩) h

theorem toInstant_error_iff :
    t.toInstant = .error .outOfRange ↔ (∃ o, t.offset = some o) ∧ ¬ t.HasUtcFace := by
  constructor
  · intro h
    have hnone : ¬ t.HasUtcFace := by
      intro hface
      obtain ⟨i, hi⟩ := toInstant_of_hasUtcFace hface
      rw [hi] at h
      cases h
    refine ⟨?_, hnone⟩
    cases hoffset : t.offset with
    | none => exact absurd (hasUtcFace_of_naive hoffset) hnone
    | some o => exact ⟨o, rfl⟩
  · rintro ⟨-, hnone⟩
    exact toInstant_of_not_hasUtcFace hnone

theorem map_error_iff {f : Instant → Timestamp} :
    t.toInstant.map f = .error .outOfRange ↔ t.toInstant = .error .outOfRange := by
  cases t.toInstant with
  | error e => cases e; exact ⟨fun _ => rfl, fun _ => rfl⟩
  | ok i => exact ⟨nofun, nofun⟩

theorem map_ok_iff {f : Instant → Timestamp} {u : Timestamp} :
    t.toInstant.map f = .ok u ↔ ∃ i, t.toInstant = .ok i ∧ u = f i := by
  cases t.toInstant with
  | error e => exact ⟨nofun, nofun⟩
  | ok i =>
    constructor
    · intro h
      exact ⟨i, rfl, (Except.ok.inj h).symm⟩
    · rintro ⟨j, hj, rfl⟩
      cases hj
      rfl

/-- Readings of two instants, with or without the mark of UTC, stand in the order of the
instants. -/
theorem face_le_iff {f : Instant → Timestamp} (hf : ∀ i, (f i).wall = i.micros) {u u' : Timestamp}
    (h : t.toInstant.map f = .ok u) (h' : t'.toInstant.map f = .ok u') :
    u.face ≤ u'.face ↔ t.utcMicros ≤ t'.utcMicros := by
  obtain ⟨i, hi, rfl⟩ := map_ok_iff.1 h
  obtain ⟨i', hi', rfl⟩ := map_ok_iff.1 h'
  rw [← ClockFace.wall_le_wall_iff (isValid_face _) (isValid_face _), wall_face, wall_face, hf, hf,
    ← micros_eq_of_toInstant hi, ← micros_eq_of_toInstant hi', Int.ofNat_le]

end

/-- A timestamp is read in UTC and kept without an offset unless it has an offset that carries it
out of the calendar.  What is kept is read back as the reading in UTC, which shows the same instant
and is its own reading in UTC; and both kinds of readings of any two timestamps are ordered, field
by field, as their instants are. -/
theorem utc_faithful (t t' : Timestamp) :
    (t.asUtc = .error .outOfRange ↔ (∃ o, t.offset = some o) ∧ ¬ t.HasUtcFace) ∧
    (t.toStored = .error .outOfRange ↔ (∃ o, t.offset = some o) ∧ ¬ t.HasUtcFace) ∧
    (t.asUtc ≠ .error .outOfRange → ∃ kept u, t.toStored = .ok kept ∧ kept.offset = none ∧
      t.asUtc = .ok u ∧ u.offset = some 0 ∧ kept.ofStored = .ok u ∧ u.asUtc = .ok u ∧
      u.utcMicros = t.utcMicros) ∧
    (∀ u u', t.asUtc = .ok u → t'.asUtc = .ok u' →
      (u.face ≤ u'.face ↔ t.utcMicros ≤ t'.utcMicros)) ∧
    ∀ kept kept', t.toStored = .ok kept → t'.toStored = .ok kept' →
      (kept.face ≤ kept'.face ↔ t.utcMicros ≤ t'.utcMicros) := by
  simp only [asUtc_eq_map, toStored_eq_map, ofStored, ne_eq, map_error_iff]
  refine ⟨toInstant_error_iff, toInstant_error_iff, fun hok => ?_,
    fun u u' => face_le_iff fun _ => rfl, fun kept kept' => face_le_iff fun _ => rfl⟩
  cases hi : t.toInstant with
  | error e => cases e; exact absurd hi hok
  | ok i =>
    have hnaive : i.toNaive.toInstant = .ok i := by simp [toInstant_eq_ok_iff, Instant.toNaive]
    refine ⟨i.toNaive, i.toUtc, rfl, rfl, rfl, rfl, ?_, ?_, ?_⟩
    · rw [hnaive]
      rfl
    · rw [toInstant_toUtc]
      rfl
    · rw [← micros_eq_of_toInstant hi, ← micros_eq_of_toInstant (toInstant_toUtc i)]

theorem utc_faithful_leapDay :
    let t : Timestamp := ⟨ClockFace.wall ⟨⟨2024, 3, 1⟩, 0, 30, 0, 0⟩, some 86399999999,
      by decide +kernel, by decide⟩
    let t' : Timestamp := ⟨ClockFace.wall ⟨⟨2024, 2, 29⟩, 0, 30, 0, 2⟩, none, by decide +kernel,
      by decide⟩
    ∃ u u', t.asUtc = .ok u ∧ t'.asUtc = .ok u' ∧ u.face ≤ u'.face := by
  intro t t'
  have hread {t : Timestamp} (h : t.asUtc.toOption.isSome = true) :
      t.asUtc ≠ .error .outOfRange := by
    intro hout
    rw [hout] at h
    cases h
  obtain ⟨_, u, -, -, hu, -⟩ := (utc_faithful t t').2.2.1 (hread (by decide +kernel))
  obtain ⟨_, u', -, -, hu', -⟩ := (utc_faithful t' t).2.2.1 (hread (by decide +kernel))
  exact ⟨u, u', hu, hu', ((utc_faithful t t').2.2.2.1 u u' hu hu').2 (by decide +kernel)⟩

/-- A clock just less than a day east of UTC, on the day after a 29th of February. -/
example : ((ofText? "2024-03-01T00:30:00+23:59:59.999999").bind (·.asUtc.toOption)).map toText =
    some "2024-02-29T00:30:00.000001+00:00" := by
  decide +kernel

end Timestamp

end RunLedger
