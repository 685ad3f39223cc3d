import RunLedger.Time.Clock

/-!
# Timestamps and instants

A timestamp is what a clock on a wall shows, to the microsecond, with or without the clock's
distance from UTC.  An instant is a point in time, kept as its UTC reading.  A timestamp without
an offset is read as UTC.  Only an offset can carry a reading out of the years 1 to 9999.

    toInstant t = .ok i ↔ i.micros = t.wall - offset            (toInstant_eq_ok_iff)
    asUtc t = (toInstant t).map toUtc                           (asUtc_eq_map)
    toStored t = (toInstant t).map toNaive                      (toStored_eq_map)
-/

namespace RunLedger

/-- A point in time: microseconds since the start of year 1, in UTC. -/
structure Instant where
  micros : Nat
  micros_lt : micros < calendarMicros
deriving Repr, DecidableEq

/-- A clock reading: microseconds since the start of year 1 on the clock, and the clock's distance
east of UTC in microseconds, less than a day, if it shows one. -/
structure Timestamp where
  wall : Nat
  offset : Option Int
  wall_lt : wall < calendarMicros
  offset_lt : ∀ o ∈ offset, -(microsPerDay : Int) < o ∧ o < microsPerDay
deriving DecidableEq

theorem zero_offset_lt : ∀ o ∈ some (0 : Int), -(microsPerDay : Int) < o ∧ o < microsPerDay := by
  simp [microsPerDay]

/-- A conversion left the years 1 to 9999. -/
inductive TimeFault where
  | outOfRange
deriving Repr, DecidableEq

namespace Instant

instance : LE Instant := ⟨fun a b => a.micros ≤ b.micros⟩
instance : LT Instant := ⟨fun a b => a.micros < b.micros⟩
instance (a b : Instant) : Decidable (a ≤ b) := inferInstanceAs (Decidable (a.micros ≤ b.micros))
instance (a b : Instant) : Decidable (a < b) := inferInstanceAs (Decidable (a.micros < b.micros))

/-- The start of year 1. -/
def first : Instant := ⟨0, by decide⟩

/-- The instant at a signed distance from the start of year 1, inside the calendar. -/
def ofMicros? (n : Int) : Except TimeFault Instant :=
  if h : 0 ≤ n ∧ n < calendarMicros then
    .ok ⟨n.toNat, by omega⟩
  else .error .outOfRange

/-- The reading of a clock that runs on UTC and says so. -/
def toUtc (i : Instant) : Timestamp where
  wall := i.micros
  offset := some 0
  wall_lt := i.micros_lt
  offset_lt := zero_offset_lt

/-- The reading of a clock that runs on UTC and does not say so. -/
def toNaive (i : Instant) : Timestamp where
  wall := i.micros
  offset := none
  wall_lt := i.micros_lt
  offset_lt := by simp

end Instant

namespace Timestamp

/-- The clock a second later; it does not leave the last second of the calendar. -/
def nextSecond (t : Timestamp) : Timestamp :=
  if h : t.wall + 1000000 < calendarMicros then ⟨t.wall + 1000000, t.offset, h, t.offset_lt⟩ else t

/-- The instant of a reading; a reading without an offset is taken as UTC. -/
def toInstant (t : Timestamp) : Except TimeFault Instant :=
  match t.offset with
  | none => .ok ⟨t.wall, t.wall_lt⟩
  | some o => Instant.ofMicros? (t.wall - o)

/-- The same instant read in UTC: a reading without an offset is marked as UTC, any other one is
moved by its offset. -/
def asUtc (t : Timestamp) : Except TimeFault Timestamp :=
  match t.offset with
  | none => .ok ⟨t.wall, some 0, t.wall_lt, zero_offset_lt⟩
  | some o => (Instant.ofMicros? (t.wall - o)).map Instant.toUtc

/-- What a column without offsets keeps of a timestamp: a reading without an offset as it is, any
other one as the UTC reading. -/
def toStored (t : Timestamp) : Except TimeFault Timestamp :=
  match t.offset with
  | none => .ok t
  | some o => (Instant.ofMicros? (t.wall - o)).map Instant.toNaive

/-- A timestamp read back from a column: in UTC, and marked so. -/
def ofStored (t : Timestamp) : Except TimeFault Timestamp := t.asUtc

/-! ## Text -/

/-- Hours and minutes of a distance from UTC, and seconds and microseconds where there are any. -/
def offsetText (o : Int) : String :=
  let seconds := o.natAbs / 1000000
  let micros := o.natAbs % 1000000
  let short := (if o < 0 then "-" else "+") ++ Text.zeroPadded 2 (seconds / 3600) ++ ":" ++
    Text.zeroPadded 2 (seconds / 60 % 60)
  if seconds % 60 = 0 && micros = 0 then short
  else short ++ ":" ++ Text.zeroPadded 2 (seconds % 60) ++ ClockFace.fractionText micros

/-- What the clock shows. -/
def face (t : Timestamp) : ClockFace := .ofWall t.wall

/-- The timestamp in ISO 8601 form. -/
def toText (t : Timestamp) : String :=
  t.face.toText ++ (t.offset.map offsetText).getD ""

/-- A number of exactly the given count of digits, and the text after it. -/
def readDigits? : (count : Nat) → (acc : Nat) → List Char → Option (Nat × List Char)
  | 0, acc, cs => some (acc, cs)
  | _ + 1, _, [] => none
  | count + 1, acc, c :: cs =>
    if c.isDigit then readDigits? count (10 * acc + (c.toNat - 48)) cs else none

/-- The text after an expected character. -/
def readMark? (mark : Char) : List Char → Option (List Char)
  | c :: cs => if c = mark then some cs else none
  | [] => none

/-- A fraction of a second in microseconds, and the text after it. -/
def readFraction (cs : List Char) : Nat × List Char :=
  match cs with
  | '.' :: rest =>
    let digits := rest.takeWhile Char.isDigit
    let six := (digits ++ List.replicate 6 '0').take 6
    (six.foldl (fun n c => 10 * n + (c.toNat - 48)) 0, rest.dropWhile Char.isDigit)
  | _ => (0, cs)

/-- A distance from UTC, `±hh:mm` or `±hh:mm:ss`, the seconds also with a fraction. -/
def readOffset? (cs : List Char) : Option (Option Int) := do
  match cs with
  | [] => pure none
  | ['Z'] => pure (some 0)
  | sign :: rest =>
    if sign ≠ '+' && sign ≠ '-' then none
    let (hours, rest) ← readDigits? 2 0 rest
    let rest ← readMark? ':' rest
    let (minutes, rest) ← readDigits? 2 0 rest
    let (seconds, micros) ← match rest with
      | [] => pure (0, 0)
      | rest => do
        let rest ← readMark? ':' rest
        let (seconds, rest) ← readDigits? 2 0 rest
        let (micros, rest) := readFraction rest
        if rest.isEmpty then pure (seconds, micros) else none
    let distance : Int := (hours * 3600 + minutes * 60 + seconds) * 1000000 + micros
    pure (some (if sign = '-' then -distance else distance))

/-- The timestamp with the given reading and offset, if both are in range. -/
def ofParts? (wall : Nat) (offset : Option Int) : Option Timestamp :=
  if hw : wall < calendarMicros then
    if ho : ∀ o ∈ offset, -(microsPerDay : Int) < o ∧ o < microsPerDay then
      some ⟨wall, offset, hw, ho⟩
    else none
  else none

def ofText? (s : String) : Option Timestamp := do
  let (year, cs) ← readDigits? 4 0 s.toList
  let cs ← readMark? '-' cs
  let (month, cs) ← readDigits? 2 0 cs
  let cs ← readMark? '-' cs
  let (day, cs) ← readDigits? 2 0 cs
  let cs ← readMark? 'T' cs
  let (hour, cs) ← readDigits? 2 0 cs
  let cs ← readMark? ':' cs
  let (minute, cs) ← readDigits? 2 0 cs
  let cs ← readMark? ':' cs
  let (second, cs) ← readDigits? 2 0 cs
  let (micros, cs) := readFraction cs
  let offset ← readOffset? cs
  let face : ClockFace := ⟨⟨year, month, day⟩, hour, minute, second, micros⟩
  if face.isValid then ofParts? face.wall offset else none

/-! ## Lemmas -/

theorem toInstant_eq_ok_iff {t : Timestamp} {i : Instant} :
    t.toInstant = .ok i ↔ (i.micros : Int) = t.wall - t.offset.getD 0 := by
  obtain ⟨wall, offset, hw, ho⟩ := t
  obtain ⟨m, hm⟩ := i
  cases offset with
  | none =>
    simp only [toInstant, Except.ok.injEq, Instant.mk.injEq, Option.getD_none]
    omega
  | some o =>
    simp only [toInstant, Instant.ofMicros?, Option.getD_some]
    split
    · simp only [Except.ok.injEq, Instant.mk.injEq]; omega
    · simp only [reduceCtorEq, false_iff]; omega

@[simp] theorem toInstant_toUtc (i : Instant) : i.toUtc.toInstant = .ok i := by
  simp [toInstant_eq_ok_iff, Instant.toUtc]

theorem asUtc_eq_map (t : Timestamp) : t.asUtc = t.toInstant.map Instant.toUtc := by
  obtain ⟨wall, offset, hw, ho⟩ := t
  cases offset <;> rfl

theorem toStored_eq_map (t : Timestamp) : t.toStored = t.toInstant.map Instant.toNaive := by
  obtain ⟨wall, offset, hw, ho⟩ := t
  cases offset <;> rfl

end Timestamp

/-- The instant in ISO 8601 form, as a UTC reading. -/
def Instant.toText (i : Instant) : String := i.toUtc.toText

end RunLedger
