import ClimateStation.Clock.Shifted
import ClimateStation.Proofs.Clock.Calendar

/-! Changes of the time of day and of the date. A timestamp that the calendar has, weekday included,
is that of a moment, and a clock can be set to it. Changes that are possible keep it so, and the
others are refused. -/
namespace ClimateStation.Clock

/-! ## Timestamps of moments -/

namespace Timestamp

/-- The moment that the parts of a timestamp spell. -/
def spelled (t : Timestamp) : Moment :=
  ⟨t.fullYear,t.month.toNat,t.day.toNat,t.hour.toNat,t.minute.toNat,t.second.toNat⟩

/-- The timestamp is that of a moment between 2000 and 2099. -/
structure Sound (t : Timestamp) : Prop where
  year : t.year.toNat ≤ 99
  date : isDate t.fullYear t.month.toNat t.day.toNat = true
  weekday : t.weekday = UInt8.ofNat (Clock.weekday t.fullYear t.month.toNat t.day.toNat)
  hour : t.hour.toNat < 24
  minute : t.minute.toNat < 60
  second : t.second.toNat < 60

namespace Sound
variable {t : Timestamp} (sound : t.Sound)
include sound

lemma valid : t.spelled.Valid := ⟨sound.date,sound.hour,sound.minute,sound.second⟩

theorem moment?_eq : t.moment? = some t.spelled := if_pos sound.valid

theorem timestamp_spelled : t.spelled.timestamp = t := by
  have year : min ((t.fullYear : Int) - 2000).toNat 99 = t.year.toNat := by
    have late := sound.year
    unfold fullYear
    omega
  simp only [Moment.timestamp, spelled, year, UInt8.ofNat_toNat, ← sound.weekday]

lemma weekday_eq : t.weekday.toNat = Clock.weekday t.fullYear t.month.toNat t.day.toNat := by
  have small : Clock.weekday t.fullYear t.month.toNat t.day.toNat < 256 := by
    unfold Clock.weekday
    omega
  rw [sound.weekday,UInt8.toNat_ofNat_of_lt' small]

/-- A clock that is set to it shows it, however far the reference is away. -/
theorem now_set (clock : Shifted) (reference : Moment) :
    (clock.set reference t).now reference = t := by
  have set : clock.set reference t = ⟨t.spelled.seconds - reference.seconds⟩ := by
    simp only [Shifted.set, sound.moment?_eq]
  have back : reference.seconds + (t.spelled.seconds - reference.seconds) = t.spelled.seconds := by
    omega
  rw [set,Shifted.now]
  dsimp only
  rw [back,Moment.ofSeconds_seconds sound.valid,sound.timestamp_spelled]

end Sound
end Timestamp

namespace Moment
variable {m : Moment} (valid : m.Valid) (early : 2000 ≤ m.year) (late : m.year ≤ 2099)
include valid early late

lemma spelled_timestamp : m.timestamp.spelled = m := by
  obtain ⟨date,hour,minute,second⟩ := valid
  obtain ⟨month,day⟩ := isDate_bounds date
  have byte {n : Nat} (small : n < 256) : (UInt8.ofNat n).toNat = n := UInt8.toNat_ofNat_of_lt' small
  have year : ((2000 + (UInt8.ofNat (min (m.year - 2000).toNat 99)).toNat : Nat) : Int) = m.year := by
    rw [byte (by omega)]
    omega
  simp only [Timestamp.spelled, Timestamp.fullYear, timestamp, year, byte (show m.month < 256 by omega),
    byte (show m.day < 256 by omega), byte (show m.hour < 256 by omega),
    byte (show m.minute < 256 by omega), byte (show m.second < 256 by omega)]

theorem sound_timestamp : m.timestamp.Sound := by
  have spelled := spelled_timestamp valid early late
  have same : m.timestamp.spelled.Valid := by rwa [spelled]
  obtain ⟨date,hour,minute,second⟩ := same
  refine ⟨?_,date,?_,hour,minute,second⟩
  · have year : (m.timestamp.fullYear : Int) = m.year := congrArg Moment.year spelled
    unfold Timestamp.fullYear at year
    omega
  · have weekday : m.timestamp.weekday =
        UInt8.ofNat (Clock.weekday m.year m.month m.day) := rfl
    rw [weekday]
    nth_rewrite 1 2 3 [← spelled]
    rfl

end Moment

/-! ## Updates -/

/-- A change of the time of day or of the date. -/
inductive Update
  | time (hour minute second : UInt8)
  | date (year month day : UInt8)
  deriving DecidableEq, Repr

namespace Update

def attempt (u : Update) (base : Timestamp) : Except InvalidTimestamp Timestamp :=
  match u with
  | time hour minute second => base.withTime hour minute second
  | date year month day => base.withDate year month day

/-- What an update asks for; the weekday is left alone. -/
def requested (u : Update) (base : Timestamp) : Timestamp :=
  match u with
  | time hour minute second => { base with hour, minute, second }
  | date year month day => { base with year, month, day }

/-- There is such a time of day, or such a date from 2001 to 2099. -/
def Possible : Update → Prop
  | time hour minute second => hour ≤ 23 ∧ minute ≤ 59 ∧ second ≤ 59
  | date year month day =>
    1 ≤ year ∧ year ≤ 99 ∧ isDate (2000 + year.toNat) month.toNat day.toNat = true

/-- What a possible update leads to: a date comes with its weekday. -/
def granted (u : Update) (base : Timestamp) : Timestamp :=
  match u with
  | time _ _ _ => u.requested base
  | date year month day => { u.requested base with
      weekday := UInt8.ofNat (weekday (2000 + year.toNat) month.toNat day.toNat) }

/-- A refused update changes nothing. -/
def carryOut (u : Update) (base : Timestamp) : Timestamp :=
  match u.attempt base with
  | .ok t => t
  | .error _ => base

variable {u : Update} (base : Timestamp)

lemma possible_time_iff (hour minute second : UInt8) :
    (time hour minute second).Possible ↔ hour < 24 ∧ minute < 60 ∧ second < 60 := by
  simp only [Possible, UInt8.le_iff_toNat_le, UInt8.lt_iff_toNat_lt]
  exact Iff.and Nat.lt_succ_iff.symm (Iff.and Nat.lt_succ_iff.symm Nat.lt_succ_iff.symm)

lemma attempt_of_possible (possible : u.Possible) : u.attempt base = .ok (u.granted base) := by
  cases u with
  | time hour minute second => exact if_pos ((possible_time_iff ..).mp possible)
  | date year month day => exact if_pos possible

lemma attempt_of_impossible (impossible : ¬u.Possible) :
    u.attempt base = .error ⟨u.requested base⟩ := by
  cases u with
  | time hour minute second => exact if_neg fun fits => impossible ((possible_time_iff ..).mpr fits)
  | date year month day => exact if_neg impossible

lemma granted_weekday (u : Update) : { u.granted base with weekday := base.weekday } =
    u.requested base := by
  cases u <;> rfl

end Update

namespace Timestamp

/-- The timestamp after some updates, each of the last that was not refused. -/
def after (t : Timestamp) (updates : List Update) : Timestamp :=
  updates.foldl (fun t u => u.carryOut t) t

namespace Sound
variable {t : Timestamp}

lemma granted (sound : t.Sound) {u : Update} (possible : u.Possible) : (u.granted t).Sound := by
  cases u with
  | time hour minute second =>
    obtain ⟨hours,minutes,seconds⟩ := (Update.possible_time_iff ..).mp possible
    exact ⟨sound.year,sound.date,sound.weekday,hours,minutes,seconds⟩
  | date year month day =>
    obtain ⟨-,late,date⟩ := possible
    exact ⟨UInt8.le_iff_toNat_le.mp late,date,rfl,sound.hour,sound.minute,sound.second⟩

lemma carryOut (sound : t.Sound) (u : Update) : (u.carryOut t).Sound := by
  by_cases possible : u.Possible
  · simp only [Update.carryOut, Update.attempt_of_possible t possible]
    exact sound.granted possible
  · simp only [Update.carryOut, Update.attempt_of_impossible t possible]
    exact sound

theorem after (sound : t.Sound) (updates : List Update) : (t.after updates).Sound := by
  induction updates generalizing t with
  | nil => exact sound
  | cons u updates ih => exact ih (sound.carryOut u)

end Sound
end Timestamp

/-- A timestamp that began as that of a moment between 2000 and 2099 and was then updated, again and
again, is always that of a moment. It has the weekday of its date, and a clock that is set to it
shows it. The next update is made exactly if it is possible, and changes nothing but what it asks for
and the weekday; otherwise it is refused with what it asked for. -/
theorem updates_stay_on_calendar {m : Moment} (valid : m.Valid) (early : 2000 ≤ m.year)
    (late : m.year ≤ 2099) (updates : List Update) :
    let t := m.timestamp.after updates
    (∃ now : Moment, t.moment? = some now ∧ now.timestamp = t) ∧
    t.weekday.toNat = weekday t.fullYear t.month.toNat t.day.toNat ∧
    (∀ (clock : Shifted) (reference : Moment), (clock.set reference t).now reference = t) ∧
    ∀ u : Update,
      match u.attempt t with
      | .ok next => u.Possible ∧ { next with weekday := t.weekday } = u.requested t
      | .error refused => ¬u.Possible ∧ refused.candidate = u.requested t := by
  intro t
  have sound : t.Sound := (Moment.sound_timestamp valid early late).after updates
  refine ⟨⟨t.spelled,sound.moment?_eq,sound.timestamp_spelled⟩,sound.weekday_eq,sound.now_set,?_⟩
  intro u
  by_cases possible : u.Possible
  · rw [Update.attempt_of_possible t possible]
    exact ⟨possible,u.granted_weekday t⟩
  · rw [Update.attempt_of_impossible t possible]
    exact ⟨possible,rfl⟩

/-- From a leap day: a date that the next year does not have is refused, and the end of the century
is reached. -/
theorem updates_stay_on_calendar_leapDay :
    let m : Moment := ⟨2024,2,29,23,59,58⟩
    let updates := [Update.date 25 2 29, Update.time 24 0 0, Update.date 99 12 31]
    let t := m.timestamp.after updates
    m.Valid ∧ 2000 ≤ m.year ∧ m.year ≤ 2099 ∧ t = ⟨99,12,31,4,23,59,58⟩ ∧
    (∃ now : Moment, t.moment? = some now ∧ now.timestamp = t) ∧
    (Shifted.level.set m t).now m = t := by
  intro m updates t
  have valid : m.Valid := by decide
  obtain ⟨moment,-,clock,-⟩ := updates_stay_on_calendar valid (by decide) (by decide) updates
  exact ⟨valid,by decide,by decide,by decide,moment,clock Shifted.level m⟩

end ClimateStation.Clock
