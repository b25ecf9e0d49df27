import ClimateStation.Proofs.Clock.Calendar
import ClimateStation.Proofs.Datagram.Reply
import ClimateStation.Proofs.Log.Queue
import ClimateStation.Proofs.Text.Size
import ClimateStation.Station.Answer

/-! What a listing of the log shows, and how many bytes it takes. Whatever fails, it shows the first
entries of the log. The text of a date on the calendar is always as long, so the lines differ only in
the digits of temperature and humidity, and the widest are known. The listing of a full log of such
lines takes 1025 bytes, and every other listing takes fewer. -/
namespace ClimateStation
open Storage Text Datagram

namespace Clock

namespace Timestamp
variable {t : Timestamp}

/-- The calendar has the date, and the year has two digits. -/
def OnCalendar (t : Timestamp) : Prop := t.year ≤ 99 ∧ t.moment?.isSome = true

instance (t : Timestamp) : Decidable t.OnCalendar := by unfold OnCalendar; infer_instance

lemma OnCalendar.utf8ByteSize_text (dated : t.OnCalendar) : t.text.utf8ByteSize = 19 := by
  obtain ⟨year,moment⟩ := dated
  have valid : Moment.Valid ⟨t.fullYear,t.month.toNat,t.day.toNat,t.hour.toNat,t.minute.toNat,
      t.second.toNat⟩ := by
    unfold moment? at moment
    dsimp only at moment
    by_contra invalid
    rw [if_neg invalid] at moment
    exact nomatch moment
  obtain ⟨date,hour,minute,second⟩ := valid
  obtain ⟨month,day⟩ := isDate_bounds date
  dsimp only at month day hour minute second
  have year : t.fullYear < 10 ^ 4 := by
    have late := UInt8.le_iff_toNat_le.mp year
    change t.year.toNat ≤ 99 at late
    unfold fullYear
    omega
  have two {n : Nat} (small : n < 100) : (padded 2 n).utf8ByteSize = 2 :=
    utf8ByteSize_padded_eq (by decide) small
  unfold text dateText timeText
  simp only [String.utf8ByteSize_append, utf8ByteSize_padded_eq (by decide) year,
    two (show t.month.toNat < 100 by omega), two (show t.day.toNat < 100 by omega),
    two (show t.hour.toNat < 100 by omega), two (show t.minute.toNat < 100 by omega),
    two (show t.second.toNat < 100 by omega)]
  decide

end Timestamp
end Clock

namespace Climate

lemma utf8ByteSize_degreesText (scale : Scale) (degrees : Int) :
    (degreesText scale degrees).utf8ByteSize = (integer degrees).utf8ByteSize + 3 := by
  have unit : scale.unit.utf8ByteSize = 3 := by cases scale <;> decide
  rw [degreesText,String.utf8ByteSize_append,unit]

lemma utf8ByteSize_humidityText (percent : Int) :
    (humidityText percent).utf8ByteSize = (integer percent).utf8ByteSize + 3 := by
  have unit : "%RH".utf8ByteSize = 3 := by decide
  rw [humidityText,String.utf8ByteSize_append,unit]

end Climate

namespace Log

/-- The line of the entry has as many digits as any: its humidity has three, and its temperature has
three behind a minus. -/
def Entry.Wide (scale : Climate.Scale) (e : Entry) : Prop :=
  100 ≤ e.humidity ∧ match scale with
    | .celsius => e.temperature ≤ -100
    | .fahrenheit => e.temperature ≤ -74

instance (scale : Climate.Scale) (e : Entry) : Decidable (e.Wide scale) := by
  unfold Entry.Wide
  cases scale <;> infer_instance

/-- A full log of wide entries. -/
def Overfull (scale : Climate.Scale) (es : List Entry) : Prop :=
  es.length = Ring.capacity ∧ ∀ e ∈ es, e.Wide scale

instance (scale : Climate.Scale) (es : List Entry) : Decidable (Overfull scale es) := by
  unfold Overfull
  infer_instance

/-- Four characters at most, and four only with a minus and three digits. -/
lemma utf8ByteSize_wholeTemperatureText (scale : Climate.Scale) (celsius : Int8) :
    (Climate.wholeTemperatureText scale celsius).utf8ByteSize ≤ 7 ∧
      ((Climate.wholeTemperatureText scale celsius).utf8ByteSize = 7 ↔ match scale with
        | .celsius => celsius ≤ -100
        | .fahrenheit => celsius ≤ -74) := by
  have low := celsius.le_toInt
  have high := celsius.toInt_lt
  have text (degrees : Int) (small : -200 < degrees ∧ degrees < 1000) :
      (Climate.degreesText scale degrees).utf8ByteSize ≤ 7 ∧
        ((Climate.degreesText scale degrees).utf8ByteSize = 7 ↔ degrees ≤ -100) := by
    have four := utf8ByteSize_integer_le_iff degrees 3
    have three := utf8ByteSize_integer_le_iff degrees 2
    rw [Climate.utf8ByteSize_degreesText]
    omega
  unfold Climate.wholeTemperatureText
  cases scale with
  | celsius =>
    have cold : celsius ≤ -100 ↔ celsius.toInt ≤ -100 := Int8.le_iff_toInt_le
    dsimp only
    rw [cold]
    exact text celsius.toInt (by omega)
  | fahrenheit =>
    have cold : celsius ≤ -74 ↔ celsius.toInt ≤ -74 := Int8.le_iff_toInt_le
    have degrees : Int.tdiv (celsius.toInt * 9 + 160) 5 =
        if 0 ≤ celsius.toInt * 9 + 160 then (celsius.toInt * 9 + 160) / 5
        else -((-(celsius.toInt * 9 + 160)) / 5) := by
      split
      · next warm => exact Int.tdiv_eq_ediv_of_nonneg warm
      · next below =>
        rw [← Int.tdiv_eq_ediv_of_nonneg (by omega),Int.neg_tdiv,Int.neg_neg]
    have range := text (Int.tdiv (celsius.toInt * 9 + 160) 5)
    dsimp only
    rw [cold]
    split at degrees <;> omega

lemma utf8ByteSize_humidityText_byte (percent : UInt8) :
    (Climate.humidityText percent.toNat).utf8ByteSize ≤ 6 ∧
      ((Climate.humidityText percent.toNat).utf8ByteSize = 6 ↔ 100 ≤ percent) := by
  have high := percent.toNat_lt
  have humid : 100 ≤ percent ↔ 100 ≤ percent.toNat := UInt8.le_iff_toNat_le
  have three := utf8ByteSize_integer_le_iff percent.toNat 2
  have two := utf8ByteSize_integer_le_iff percent.toNat 1
  rw [Climate.utf8ByteSize_humidityText,humid]
  omega

lemma Entry.utf8ByteSize_line {e : Entry} (scale : Climate.Scale) (dated : e.timestamp.OnCalendar) :
    (e.line scale).utf8ByteSize ≤ 35 ∧ ((e.line scale).utf8ByteSize = 35 ↔ e.Wide scale) := by
  obtain ⟨temperature,cold⟩ := utf8ByteSize_wholeTemperatureText scale e.temperature
  obtain ⟨humidity,humid⟩ := utf8ByteSize_humidityText_byte e.humidity
  have size : (e.line scale).utf8ByteSize =
      (Climate.wholeTemperatureText scale e.temperature).utf8ByteSize +
        (Climate.humidityText e.humidity.toNat).utf8ByteSize + 22 := by
    have tab : "\t".utf8ByteSize = 1 := by decide
    have comma : ", ".utf8ByteSize = 2 := by decide
    simp only [Entry.line, String.utf8ByteSize_append, dated.utf8ByteSize_text, tab, comma]
    omega
  unfold Entry.Wide
  rw [← cold,← humid,size]
  omega

/-! ## Listings -/

lemma utf8ByteSize_lines (scale : Climate.Scale) {es : List Entry}
    (dated : ∀ e ∈ es, e.timestamp.OnCalendar) :
    let size := (Reply.linesText (es.map (Entry.line scale))).utf8ByteSize
    size ≤ 37 * es.length ∧ (size = 37 * es.length ↔ ∀ e ∈ es, e.Wide scale) := by
  induction es with
  | nil => exact ⟨Nat.le_refl 0,by simp [Reply.linesText]⟩
  | cons e es ih =>
    obtain ⟨first,rest⟩ := List.forall_mem_cons.mp dated
    obtain ⟨line,wide⟩ := Entry.utf8ByteSize_line scale first
    obtain ⟨lines,all⟩ := ih rest
    rw [List.map_cons,Reply.utf8ByteSize_linesText_cons,List.length_cons,List.forall_mem_cons,← wide,
      ← all]
    dsimp only
    omega

/-- A listing of at most 27 entries fits into a datagram, unless all 27 are wide; and then it is one
byte too long. -/
theorem utf8ByteSize_listing {scale : Climate.Scale} {es : List Entry}
    (few : es.length ≤ Ring.capacity) (dated : ∀ e ∈ es, e.timestamp.OnCalendar) :
    (Reply.linesText (listing scale es)).utf8ByteSize ≤ replyLimit + 1 ∧
      (replyLimit < (Reply.linesText (listing scale es)).utf8ByteSize ↔ Overfull scale es) := by
  obtain ⟨lines,all⟩ := utf8ByteSize_lines scale dated
  have header : "Date\tTime\tTemp, Humidity".utf8ByteSize = 24 := by decide
  have limit : replyLimit = 1024 := rfl
  rw [Ring.capacity_eq] at few
  unfold Overfull
  rw [listing,Reply.utf8ByteSize_linesText_cons,header,limit,Ring.capacity_eq,← all]
  omega

namespace Ring
variable {place : Place} {r : Ring} {d : Device}

lemma readableAt_cons (r : Ring) (place : Place) (i : Nat) (is : List Nat) (d : Device) :
    r.readableAt place (i :: is) d = match r.entryAt place i d with
      | (.ok e,d') => (e :: (r.readableAt place is d').1,(r.readableAt place is d').2)
      | (.error _,d') => ([],d') := by
  have first : (r.entryAt place i).run d = r.entryAt place i d := rfl
  rw [readableAt]
  simp only [bind, StateT.bind]
  rw [first]
  rcases r.entryAt place i d with ⟨cause | e,d'⟩ <;> rfl

/-- Reading ends where the device fails, and what was read is what is stored. -/
lemma readableAt_prefix (fits : place.Fits regionSize d.size) (sound : r.Sound) {is : List Nat}
    (within : ∀ i ∈ is, i < r.count) : (r.readableAt place is d).1 <+:
      is.map fun i => (r.contents (place.view d.bytes)).getD i default := by
  induction is generalizing d with
  | nil => exact List.prefix_refl _
  | cons i is ih =>
    obtain ⟨first,rest⟩ := List.forall_mem_cons.mp within
    rw [readableAt_cons,entryAt_cases fits sound first]
    cases d.plan.read d.reads with
    | true => exact List.nil_prefix
    | false => exact List.cons_prefix_cons.mpr ⟨rfl,ih (d := d.afterRead) fits rest⟩

theorem readable_prefix (fits : place.Fits regionSize d.size) (sound : r.Sound) :
    (r.readable place d).1 <+: r.contents (place.view d.bytes) := by
  rw [← sound.map_range_getD]
  exact readableAt_prefix fits sound fun i within => List.mem_range.mp within

end Ring
end Log
end ClimateStation
