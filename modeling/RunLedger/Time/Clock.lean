import RunLedger.Text.Column
import RunLedger.Time.Calendar

/-!
# What a clock shows

A clock shows a date and the time of day to the microsecond.  What it shows is told by its distance
from the start of year 1, as if all days were equally long.
-/

namespace RunLedger

def microsPerDay : Nat := 86400000000

/-- Microseconds in the years 1 to 9999. -/
def calendarMicros : Nat := calendarDays * microsPerDay

/-- A date and a time of day. -/
structure ClockFace where
  date : Date
  hour : Nat
  minute : Nat
  second : Nat
  micro : Nat
deriving Repr, DecidableEq

namespace ClockFace

/-- Whether a clock can show it. -/
def isValid (f : ClockFace) : Bool :=
  f.date.isValid && f.hour < 24 && f.minute < 60 && f.second < 60 && f.micro < 1000000

/-- The microseconds since the start of year 1. -/
def wall (f : ClockFace) : Nat :=
  f.date.dayNumber * microsPerDay + ((f.hour * 60 + f.minute) * 60 + f.second) * 1000000 + f.micro

/-- What a clock shows at a distance from the start of year 1. -/
def ofWall (wall : Nat) : ClockFace :=
  let seconds := wall % microsPerDay / 1000000
  ⟨Date.ofDayNumber (wall / microsPerDay), seconds / 3600, seconds / 60 % 60, seconds % 60,
    wall % 1000000⟩

/-- Six digits after a point, or nothing for a whole second. -/
def fractionText (micro : Nat) : String :=
  if micro = 0 then "" else "." ++ Text.zeroPadded 6 micro

/-- Date and time of day in ISO 8601 form. -/
def toText (f : ClockFace) : String :=
  Text.zeroPadded 4 f.date.year ++ "-" ++ Text.zeroPadded 2 f.date.month ++ "-" ++
    Text.zeroPadded 2 f.date.day ++ "T" ++ Text.zeroPadded 2 f.hour ++ ":" ++
    Text.zeroPadded 2 f.minute ++ ":" ++ Text.zeroPadded 2 f.second ++ fractionText f.micro

end ClockFace

end RunLedger
