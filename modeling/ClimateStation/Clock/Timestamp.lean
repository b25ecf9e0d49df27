import ClimateStation.Clock.Calendar
import ClimateStation.Text.Decimal

/-! Timestamps as the clock keeps them: seven bytes, with the year counted from 2000 and the weekday
from 1 for Monday. A timestamp need not be a date of the calendar; `Timestamp.moment?` tells whether
it is, and `withTime` and `withDate` only make sound changes. -/
namespace ClimateStation.Clock

structure Timestamp where
  year : UInt8
  month : UInt8
  day : UInt8
  weekday : UInt8
  hour : UInt8
  minute : UInt8
  second : UInt8
  deriving DecidableEq, Repr, Inhabited

namespace Timestamp
open Text

/-- The stored order runs from the second up to the year. -/
def toBytes (t : Timestamp) : List UInt8 :=
  [t.second, t.minute, t.hour, t.weekday, t.day, t.month, t.year]

/-- The timestamp stored in seven bytes; missing bytes count as zero. -/
def ofBytes (b : List UInt8) : Timestamp :=
  { second := b.getD 0 0, minute := b.getD 1 0, hour := b.getD 2 0, weekday := b.getD 3 0,
    day := b.getD 4 0, month := b.getD 5 0, year := b.getD 6 0 }

@[simp] theorem length_toBytes (t : Timestamp) : t.toBytes.length = 7 := rfl

theorem ofBytes_toBytes_append (t : Timestamp) (rest : List UInt8) :
    ofBytes (t.toBytes ++ rest) = t := rfl

def fullYear (t : Timestamp) : Nat := 2000 + t.year.toNat

/-- The date as `yyyy/mm/dd`. -/
def dateText (t : Timestamp) : String :=
  padded 4 t.fullYear ++ "/" ++ padded 2 t.month.toNat ++ "/" ++ padded 2 t.day.toNat

/-- The time of day as `hh:mm:ss`. -/
def timeText (t : Timestamp) : String :=
  padded 2 t.hour.toNat ++ ":" ++ padded 2 t.minute.toNat ++ ":" ++ padded 2 t.second.toNat

def text (t : Timestamp) : String := t.dateText ++ " " ++ t.timeText

/-- The moment a timestamp names, if the calendar has it. The weekday is not looked at. -/
def moment? (t : Timestamp) : Option Moment :=
  let m : Moment := ⟨t.fullYear, t.month.toNat, t.day.toNat, t.hour.toNat, t.minute.toNat,
    t.second.toNat⟩
  if m.Valid then some m else none

end Timestamp

/-- The timestamp of a moment: the year is held between 2000 and 2099, and the weekday is that of
the moment itself. -/
def Moment.timestamp (m : Moment) : Timestamp :=
  { year := UInt8.ofNat (min (m.year - 2000).toNat 99)
    month := UInt8.ofNat m.month
    day := UInt8.ofNat m.day
    weekday := UInt8.ofNat (Clock.weekday m.year m.month m.day)
    hour := UInt8.ofNat m.hour
    minute := UInt8.ofNat m.minute
    second := UInt8.ofNat m.second }

/-- The moment as `yyyy-mm-dd hh:mm:ss`, for years from 0 to 9999. -/
def Moment.text (m : Moment) : String :=
  Text.padded 4 m.year.toNat ++ "-" ++ Text.padded 2 m.month ++ "-" ++ Text.padded 2 m.day ++ " "
    ++ Text.padded 2 m.hour ++ ":" ++ Text.padded 2 m.minute ++ ":" ++ Text.padded 2 m.second

/-- A refused time or date, as it would have been set. -/
structure InvalidTimestamp where
  candidate : Timestamp
  deriving DecidableEq, Repr

def InvalidTimestamp.message (e : InvalidTimestamp) : String :=
  "Invalid Date-Time: " ++ e.candidate.text

namespace Timestamp

def withTime (base : Timestamp) (hour minute second : UInt8) :
    Except InvalidTimestamp Timestamp :=
  let t := { base with hour, minute, second }
  if hour < 24 ∧ minute < 60 ∧ second < 60 then .ok t else .error ⟨t⟩

/-- Replaces the date, whose year runs from 1 to 99, and the weekday with it. A refused date keeps
the weekday that was there. -/
def withDate (base : Timestamp) (year month day : UInt8) : Except InvalidTimestamp Timestamp :=
  let t := { base with year, month, day }
  if 1 ≤ year ∧ year ≤ 99 ∧ isDate t.fullYear month.toNat day.toNat = true then
    .ok { t with weekday := UInt8.ofNat (Clock.weekday t.fullYear month.toNat day.toNat) }
  else .error ⟨t⟩

end Timestamp

end ClimateStation.Clock
