/-! The Gregorian calendar, extended to all years. Days are numbered so that 1 January of the year
1, a Monday, is day 1. -/
namespace ClimateStation.Clock

/-- A year divisible by 4 has a leap day, except for centuries that 400 does not divide. -/
def isLeap (year : Int) : Bool := year % 4 == 0 && (year % 100 != 0 || year % 400 == 0)

/-- The length of a month; there is none outside 1 to 12. -/
def daysInMonth (year : Int) : Nat → Nat
  | 1 | 3 | 5 | 7 | 8 | 10 | 12 => 31
  | 4 | 6 | 9 | 11 => 30
  | 2 => if isLeap year then 29 else 28
  | _ => 0

def isDate (year : Int) (month day : Nat) : Bool := 1 ≤ day && day ≤ daysInMonth year month

def daysBefore (year : Int) : Nat → Nat
  | 0 => 0
  | month + 1 => daysBefore year month + daysInMonth year month

/-- The number of a day. -/
def dayNumber (year : Int) (month day : Nat) : Int :=
  let past := year - 1
  365 * past + past / 4 - past / 100 + past / 400 + daysBefore year month + day

/-- The day of the week, from 1 for Monday to 7 for Sunday. -/
def weekday (year : Int) (month day : Nat) : Nat :=
  ((dayNumber year month day - 1) % 7).toNat + 1

example : dayNumber 1 1 1 = 1 ∧ weekday 1 1 1 = 1 := by decide
example : weekday 2024 2 29 = 4 ∧ weekday 2000 1 1 = 6 ∧ weekday (-5) 3 1 = 3 := by decide
example : isDate 2000 2 29 = true ∧ isDate 2100 2 29 = false ∧ isDate 2024 13 1 = false := by
  decide

/-- A moment of civil time, to the second. -/
structure Moment where
  year : Int
  month : Nat
  day : Nat
  hour : Nat
  minute : Nat
  second : Nat
  deriving DecidableEq, Repr

namespace Moment

/-- The date exists and the time of day is below 24:00:00. -/
def Valid (m : Moment) : Prop :=
  isDate m.year m.month m.day = true ∧ m.hour < 24 ∧ m.minute < 60 ∧ m.second < 60

instance (m : Moment) : Decidable m.Valid := by unfold Valid; infer_instance

/-- The seconds since the start of day 0. -/
def seconds (m : Moment) : Int :=
  dayNumber m.year m.month m.day * 86400 + (m.hour * 3600 + m.minute * 60 + m.second : Nat)

/-- The date of a day. Years are counted from 1 March, in cycles of 400 years or 146097 days, so
that the leap day is the last of its year. -/
def dateOfDay (number : Int) : Int × Nat × Nat :=
  let sinceMarch := number + 305
  let cycle := sinceMarch / 146097
  let day := (sinceMarch % 146097).toNat
  let year := (day - day / 1460 + day / 36524 - day / 146096) / 365
  let dayOfYear := day - (365 * year + year / 4 - year / 100)
  let month := (5 * dayOfYear + 2) / 153
  let dayOfMonth := dayOfYear - (153 * month + 2) / 5 + 1
  if month < 10 then (cycle * 400 + year, month + 3, dayOfMonth)
  else (cycle * 400 + year + 1, month - 9, dayOfMonth)

/-- The moment that lies the given number of seconds after the start of day 0. -/
def ofSeconds (total : Int) : Moment :=
  let (year, month, day) := dateOfDay (total / 86400)
  let rest := (total % 86400).toNat
  ⟨year, month, day, rest / 3600, rest / 60 % 60, rest % 60⟩

example : ofSeconds (seconds ⟨2024, 2, 29, 23, 59, 58⟩) = ⟨2024, 2, 29, 23, 59, 58⟩ := by decide
example : ofSeconds (seconds ⟨2000, 3, 1, 0, 0, 0⟩ - 1) = ⟨2000, 2, 29, 23, 59, 59⟩ := by decide

end Moment

end ClimateStation.Clock
