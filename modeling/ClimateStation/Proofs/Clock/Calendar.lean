import ClimateStation.Clock.Calendar
import Mathlib.Tactic.IntervalCases
import Mathlib.Tactic.Lemma

/-! Days and dates. Years that begin on 1 March have their leap day at the end, so that the days before
a year and the days before a month of a year are simple sums. The calendar finds the date of a day by
dividing with these, and it finds the date that the day was numbered from. -/
namespace ClimateStation.Clock

/-! ## Leap days -/

/-- One for a year that has a leap day, and otherwise zero. -/
def leapDays (year : Int) : Nat := if isLeap year then 1 else 0

lemma leapDays_cases (year : Int) :
    leapDays year = 1 ∧ year % 4 = 0 ∧ (year % 100 ≠ 0 ∨ year % 400 = 0) ∨
    leapDays year = 0 ∧ (year % 4 ≠ 0 ∨ year % 100 = 0 ∧ year % 400 ≠ 0) := by
  have leap : isLeap year = true ↔ year % 4 = 0 ∧ (year % 100 ≠ 0 ∨ year % 400 = 0) := by
    simp [isLeap]
  unfold leapDays
  by_cases h : isLeap year = true
  · left
    exact ⟨if_pos h,leap.mp h⟩
  · right
    refine ⟨if_neg h,?_⟩
    rw [leap] at h
    omega

/-! ## Years from March -/

/-- The days from 1 March of the year 0 to 1 March of a year. -/
def daysToMarch (year : Int) : Int := 365 * year + year / 4 - year / 100 + year / 400

/-- The days from 1 March to the first of a later month. March is month 0. -/
def daysFromMarch (month : Nat) : Nat := (153 * month + 2) / 5

lemma daysToMarch_eq (year : Int) :
    daysToMarch year = daysToMarch (year - 1) + 365 + leapDays year := by
  have leap := leapDays_cases year
  unfold daysToMarch
  omega

lemma daysFromMarch_iff (day month : Nat) : (5 * day + 2) / 153 = month ↔
    daysFromMarch month ≤ day ∧ day < daysFromMarch (month + 1) := by
  unfold daysFromMarch
  omega

/-- The year that a month belongs to if years begin in March. -/
def marchYear (year : Int) (month : Nat) : Int := if month ≤ 2 then year - 1 else year

def marchMonth (month : Nat) : Nat := if month ≤ 2 then month + 9 else month - 3

/-! ## Dates -/

lemma isDate_iff (year : Int) (month day : Nat) : isDate year month day = true ↔
    (1 ≤ month ∧ month ≤ 12) ∧ 1 ≤ day ∧ day ≤ daysInMonth year month := by
  have months : daysInMonth year month ≠ 0 → 1 ≤ month ∧ month ≤ 12 := by
    intro days
    unfold daysInMonth at days
    split at days <;> omega
  simp only [isDate, Bool.and_eq_true, decide_eq_true_eq]
  omega

lemma isDate_bounds {year : Int} {month day : Nat} (date : isDate year month day = true) :
    month ≤ 12 ∧ day ≤ 31 := by
  obtain ⟨⟨first,last⟩,-,days⟩ := (isDate_iff ..).mp date
  have longest : daysInMonth year month ≤ 31 := by
    by_cases leap : isLeap year = true <;> interval_cases month <;> simp [daysInMonth,leap]
  exact ⟨last,Nat.le_trans days longest⟩

lemma daysInMonth_le (year : Int) {month : Nat} (first : 1 ≤ month) (last : month ≤ 12) :
    daysFromMarch (marchMonth month) + daysInMonth year month ≤
      daysFromMarch (marchMonth month + 1) := by
  by_cases leap : isLeap year = true <;> interval_cases month <;>
    simp [daysFromMarch,marchMonth,daysInMonth,leap]

/-- The year ends with February and its leap day. -/
lemma daysInMonth_le_year (year : Int) {month : Nat} (first : 1 ≤ month) (last : month ≤ 12) :
    daysFromMarch (marchMonth month) + daysInMonth year month ≤
      365 + leapDays (marchYear year month + 1) := by
  by_cases early : month ≤ 2
  · by_cases leap : isLeap year = true <;> interval_cases month <;>
      simp [daysFromMarch,marchMonth,marchYear,daysInMonth,leapDays,leap]
  · have within := daysInMonth_le year first last
    have december : daysFromMarch (marchMonth month + 1) ≤ daysFromMarch 10 := by
      simp only [daysFromMarch, marchMonth, early, if_false]
      omega
    have december : daysFromMarch (marchMonth month + 1) ≤ 306 := december
    omega

lemma daysBefore_of_le_two (year : Int) {month : Nat} (first : 1 ≤ month) (early : month ≤ 2) :
    daysBefore year month + 306 = daysFromMarch (month + 9) := by
  interval_cases month <;> simp [daysBefore,daysInMonth,daysFromMarch]

lemma daysBefore_of_three_le (year : Int) {month : Nat} (late : 3 ≤ month) (last : month ≤ 12) :
    daysBefore year month = 59 + leapDays year + daysFromMarch (month - 3) := by
  by_cases leap : isLeap year = true <;> interval_cases month <;>
    simp [daysBefore,daysInMonth,daysFromMarch,leapDays,leap]

lemma dayNumber_eq {year : Int} {month day : Nat} (date : isDate year month day = true) :
    dayNumber year month day + 305 = daysToMarch (marchYear year month) +
      (daysFromMarch (marchMonth month) + (day - 1) : Nat) := by
  obtain ⟨⟨first,last⟩,some,-⟩ := (isDate_iff ..).mp date
  have past : dayNumber year month day =
      daysToMarch (year - 1) + daysBefore year month + day := rfl
  by_cases early : month ≤ 2
  · have before := daysBefore_of_le_two year first early
    simp only [marchYear, marchMonth, early, if_true]
    omega
  · have before := daysBefore_of_three_le year (Nat.lt_of_not_le early) last
    have step := daysToMarch_eq year
    simp only [marchYear, marchMonth, early, if_false]
    omega

/-! ## The date of a day -/

/-- The days of a year are told apart by dividing, although years have different lengths: years of
centuries, years of four and single years are counted. -/
lemma year_of_day (century four single dayOfYear day : Nat) (centuries : century ≤ 3)
    (fours : four ≤ 24) (singles : single ≤ 3) (within : dayOfYear ≤ 365)
    (leap : dayOfYear = 365 → single = 3 ∧ (four ≠ 24 ∨ century = 3))
    (h : day = 36524 * century + 1461 * four + 365 * single + dayOfYear) :
    (day - day / 1460 + day / 36524 - day / 146096) / 365 = 100 * century + 4 * four + single := by
  have passed : day / 1460 =
      25 * century + four + (24 * century + four + 365 * single + dayOfYear) / 1460 := by omega
  have few : (24 * century + four + 365 * single + dayOfYear) / 1460 ≤ dayOfYear := by omega
  by_cases last : day = 146096
  · subst last
    omega
  · have hundreds : day / 36524 = century := by omega
    have none : day / 146096 = 0 := by omega
    rw [hundreds,none,passed]
    omega

namespace Moment

lemma dateOfDay_eq {number year : Int} {dayOfYear : Nat}
    (h : number + 305 = daysToMarch year + dayOfYear)
    (within : dayOfYear < 365 + leapDays (year + 1)) :
    dateOfDay number =
      let month := (5 * dayOfYear + 2) / 153
      let day := dayOfYear - daysFromMarch month + 1
      if month < 10 then (year, month + 3, day) else (year + 1, month - 9, day) := by
  obtain ⟨old,cycle⟩ : ∃ old : Nat, year = 400 * (year / 400) + old ∧ old < 400 :=
    ⟨(year % 400).toNat,by omega,by omega⟩
  have leap := leapDays_cases (year + 1)
  set day := 365 * old + old / 4 - old / 100 + dayOfYear with hday
  have total : number + 305 = 146097 * (year / 400) + day := by
    unfold daysToMarch at h
    omega
  have small : day < 146097 := by omega
  have found : (day - day / 1460 + day / 36524 - day / 146096) / 365 = old := by
    have parts := year_of_day (old / 100) (old % 100 / 4) (old % 4) dayOfYear day (by omega)
      (by omega) (by omega) (by omega) (by omega) (by omega)
    omega
  have quotient : (number + 305) / 146097 = year / 400 := by omega
  have rest : ((number + 305) % 146097).toNat = day := by omega
  have rest' : day - (365 * old + old / 4 - old / 100) = dayOfYear := by omega
  have back : year / 400 * 400 + (old : Int) = year := by omega
  simp only [dateOfDay, quotient, rest, found, rest', back, daysFromMarch]

/-- The date of a day is the date that the day is numbered from. -/
theorem dateOfDay_dayNumber {year : Int} {month day : Nat} (date : isDate year month day = true) :
    dateOfDay (dayNumber year month day) = (year, month, day) := by
  obtain ⟨⟨first,last⟩,some,days⟩ := (isDate_iff ..).mp date
  have inMonth := daysInMonth_le year first last
  have inYear := daysInMonth_le_year year first last
  have found : (5 * (daysFromMarch (marchMonth month) + (day - 1)) + 2) / 153 = marchMonth month := by
    rw [daysFromMarch_iff]
    omega
  have rest : daysFromMarch (marchMonth month) + (day - 1) - daysFromMarch (marchMonth month) + 1 =
      day := by omega
  rw [dateOfDay_eq (dayNumber_eq date) (by omega)]
  simp only [found, rest]
  by_cases early : month ≤ 2
  · have winter : ¬month + 9 < 10 := by omega
    simp only [marchMonth, marchYear, early, if_true, winter, if_false, Int.sub_add_cancel,
      Nat.add_sub_cancel]
  · have spring : month - 3 < 10 := by omega
    have back : month - 3 + 3 = month := by omega
    simp only [marchMonth, marchYear, early, if_false, spring, if_true, back]

/-- Counting seconds loses nothing of a moment. -/
theorem ofSeconds_seconds {m : Moment} (valid : m.Valid) : ofSeconds m.seconds = m := by
  obtain ⟨date,hour,minute,second⟩ := valid
  obtain ⟨rest,total⟩ : ∃ rest : Nat, rest = m.hour * 3600 + m.minute * 60 + m.second ∧
      m.seconds = dayNumber m.year m.month m.day * 86400 + rest := ⟨_,rfl,rfl⟩
  have day : m.seconds / 86400 = dayNumber m.year m.month m.day := by omega
  have time : (m.seconds % 86400).toNat = rest := by omega
  have hours : rest / 3600 = m.hour := by omega
  have minutes : rest / 60 % 60 = m.minute := by omega
  have seconds : rest % 60 = m.second := by omega
  simp only [ofSeconds, day, time, dateOfDay_dayNumber date, hours, minutes, seconds]

end Moment
end ClimateStation.Clock
