import Confluence.Time.Calendar
import Confluence.Time.Timestamp

/-!
Calendar dates and times of day in universal time, and their text in the format of RFC 3339. The
calendar covers the years from -262143 to 262142; a timestamp outside them has no date, and is
shown as a bare count of milliseconds.
-/

set_option autoImplicit false

namespace Confluence

structure DateTime where
  date : Date
  hour : Int
  minute : Int
  second : Int
  millisecond : Int
  deriving DecidableEq

namespace DateTime

def firstYear : Int := -262143

def lastYear : Int := 262142

def ofTimestamp? (time : Timestamp) : Option DateTime :=
  let seconds := time.millis / 1000
  let date := Date.ofEpochDay (seconds / 86400)
  if firstYear ≤ date.year ∧ date.year ≤ lastYear then
    some
      { date
        hour := seconds % 86400 / 3600
        minute := seconds % 3600 / 60
        second := seconds % 60
        millisecond := time.millis % 1000 }
  else none

def toMillis (time : DateTime) : Int :=
  (((time.date.toEpochDay * 24 + time.hour) * 60 + time.minute) * 60 + time.second) * 1000 +
    time.millisecond

def padded (width : Nat) (count : Nat) : String :=
  let digits := Nat.toDigits 10 count
  String.ofList (List.replicate (width - digits.length) '0' ++ digits)

/-- A year has at least four digits; one that is negative or has more takes a sign. -/
def yearText (year : Int) : String :=
  if year < 0 then "-" ++ padded 4 year.natAbs
  else if 9999 < year then "+" ++ padded 4 year.natAbs
  else padded 4 year.natAbs

/-- The RFC 3339 text with the offset of universal time. A fraction that is zero is left out. -/
def toRfc3339 (time : DateTime) : String :=
  let fraction :=
    if time.millisecond = 0 then "" else "." ++ padded 3 time.millisecond.toNat
  yearText time.date.year ++ "-" ++ padded 2 time.date.month.toNat ++ "-" ++
    padded 2 time.date.day.toNat ++ "T" ++ padded 2 time.hour.toNat ++ ":" ++
    padded 2 time.minute.toNat ++ ":" ++ padded 2 time.second.toNat ++ fraction ++ "+00:00"

end DateTime

namespace Timestamp

/-- Why a timestamp has no date: its year is outside the calendar. -/
structure OutOfCalendar where
  time : Timestamp

def OutOfCalendar.message (error : OutOfCalendar) : String :=
  "invalid timestamp: " ++ error.time.millis.repr ++ " ms out of range"

def toDateTime (time : Timestamp) : Except OutOfCalendar DateTime :=
  match DateTime.ofTimestamp? time with
  | some date => .ok date
  | none => .error ⟨time⟩

instance : ToString Timestamp where
  toString time :=
    match DateTime.ofTimestamp? time with
    | some date => date.toRfc3339
    | none => time.millis.repr ++ "ms"

end Timestamp

end Confluence
