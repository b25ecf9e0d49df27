import ClimateStation.Proofs.Station.Entries

/-! How long an answer can be. Whatever a station holds, every answer but the listing of the log is a
few short lines, and the listing has at most 27 of them behind its header. So an answer fits into a
datagram, unless it lists a full log of wide entries. -/
namespace ClimateStation
open Storage Text Datagram

/-- A few short lines. -/
structure Brief (lines : List String) : Prop where
  few : lines.length ≤ 12
  short : ∀ line ∈ lines, line.utf8ByteSize ≤ 64

lemma Brief.single {line : String} (short : line.utf8ByteSize ≤ 64) : Brief [line] :=
  ⟨Nat.le_of_ble_eq_true rfl,List.forall_mem_singleton.mpr short⟩

lemma Brief.pair {line next : String} (first : line.utf8ByteSize ≤ 64)
    (second : next.utf8ByteSize ≤ 64) : Brief [line,next] :=
  ⟨Nat.le_of_ble_eq_true rfl,
    List.forall_mem_cons.mpr ⟨first,List.forall_mem_singleton.mpr second⟩⟩

lemma Brief.fits {lines : List String} (brief : Brief lines) :
    (Reply.linesText lines).utf8ByteSize ≤ replyLimit := by
  obtain ⟨few,short⟩ := brief
  have all : (Reply.linesText lines).utf8ByteSize ≤ 66 * lines.length := by
    clear few
    induction lines with
    | nil => exact Nat.le_refl 0
    | cons line lines ih =>
      obtain ⟨first,rest⟩ := List.forall_mem_cons.mp short
      have others := ih rest
      rw [Reply.utf8ByteSize_linesText_cons,List.length_cons]
      omega
  have limit : replyLimit = 1024 := rfl
  omega

namespace Light.Bank

lemma rateLine_short (rate : UInt16) : (rateLine rate).utf8ByteSize ≤ 64 := by
  have number := utf8ByteSize_natural_word rate
  unfold rateLine
  simp only [String.utf8ByteSize_append]
  change 12 + _ ≤ 64
  omega

lemma statusLine_short {number : Nat} (small : number < 10) (l : Light) :
    (statusLine number l).utf8ByteSize ≤ 64 := by
  have label : l.mode.label.utf8ByteSize ≤ 5 := by cases l.mode <;> decide
  have digit := (utf8ByteSize_natural_le_iff (k := 1) (by decide)).mpr small
  have red := utf8ByteSize_natural_byte l.shown.red
  have green := utf8ByteSize_natural_byte l.shown.green
  have blue := utf8ByteSize_natural_byte l.shown.blue
  unfold statusLine
  simp only [String.utf8ByteSize_append]
  change 6 + _ + 8 + _ + 15 + _ + 2 + _ + 2 + _ + 1 ≤ 64
  omega

lemma statusLines_brief (b : Bank) : Brief b.statusLines := by
  refine ⟨?_,fun line member => ?_⟩
  · simp [statusLines]
  · rcases List.mem_append.mp member with light | rate
    · obtain ⟨⟨l,number⟩,placed,rfl⟩ := List.mem_map.mp light
      have small := List.snd_lt_of_mem_zipIdx placed
      rw [Vector.length_toList] at small
      exact statusLine_short (by omega) l
    · rw [List.mem_singleton.mp rate]
      exact rateLine_short b.rate

end Light.Bank

namespace Climate

lemma utf8ByteSize_degreesText_word (scale : Scale) (degrees : Int16) :
    (degreesText scale degrees.toInt).utf8ByteSize ≤ 9 := by
  rw [utf8ByteSize_degreesText]
  exact Nat.add_le_add_right (utf8ByteSize_integer_word degrees) 3

lemma latestText_short (d : Display) : d.latestText.utf8ByteSize ≤ 64 := by
  have temperature : (temperatureText d.scale d.latest.temperature).utf8ByteSize ≤ 9 := by
    unfold temperatureText
    cases d.scale <;> exact utf8ByteSize_degreesText_word ..
  have humidity := utf8ByteSize_integer_word d.latest.humidity.toModel.toInt16
  rw [Display.latestText,Reading.text,String.utf8ByteSize_append,String.utf8ByteSize_append,
    utf8ByteSize_humidityText]
  change _ + 2 + (_ + 3) ≤ 64
  omega

lemma Scale.line_short (scale : Scale) : scale.line.utf8ByteSize ≤ 64 := by
  cases scale <;> decide

end Climate

namespace Clock.Timestamp

lemma utf8ByteSize_dateText_le (t : Timestamp) : t.dateText.utf8ByteSize ≤ 12 := by
  have year : (natural t.fullYear).utf8ByteSize ≤ 4 := by
    have early := t.year.toNat_lt
    refine (utf8ByteSize_natural_le_iff (by decide)).mpr ?_
    unfold fullYear
    omega
  have month := utf8ByteSize_natural_byte t.month
  have day := utf8ByteSize_natural_byte t.day
  unfold dateText
  simp only [String.utf8ByteSize_append, utf8ByteSize_padded]
  change _ + 1 + _ + 1 + _ ≤ 12
  omega

lemma utf8ByteSize_timeText_le (t : Timestamp) : t.timeText.utf8ByteSize ≤ 11 := by
  have hour := utf8ByteSize_natural_byte t.hour
  have minute := utf8ByteSize_natural_byte t.minute
  have second := utf8ByteSize_natural_byte t.second
  unfold timeText
  simp only [String.utf8ByteSize_append, utf8ByteSize_padded]
  change _ + 1 + _ + 1 + _ ≤ 11
  omega

lemma utf8ByteSize_text_le (t : Timestamp) : t.text.utf8ByteSize ≤ 24 := by
  have date := t.utf8ByteSize_dateText_le
  have time := t.utf8ByteSize_timeText_le
  rw [text,String.utf8ByteSize_append,String.utf8ByteSize_append]
  change _ + 1 + _ ≤ 24
  omega

end Clock.Timestamp

lemma Clock.InvalidTimestamp.message_short (e : InvalidTimestamp) : e.message.utf8ByteSize ≤ 64 := by
  have text := e.candidate.utf8ByteSize_text_le
  unfold message
  simp only [String.utf8ByteSize_append]
  change 19 + _ ≤ 64
  omega

namespace Log

lemma Extremes.lines_short (scale : Climate.Scale) (x : Extremes) :
    ∀ line ∈ x.lines scale, line.utf8ByteSize ≤ 64 := by
  have temperature {words : String} (few : words.utf8ByteSize ≤ 17) (t : Int8) :
      (words ++ Climate.wholeTemperatureText scale t).utf8ByteSize ≤ 64 := by
    have degrees := (utf8ByteSize_wholeTemperatureText scale t).1
    rw [String.utf8ByteSize_append]
    omega
  have humidity {words : String} (few : words.utf8ByteSize ≤ 17) (h : UInt8) :
      (words ++ Climate.humidityText h.toNat).utf8ByteSize ≤ 64 := by
    have percent := (utf8ByteSize_humidityText_byte h).1
    rw [String.utf8ByteSize_append]
    omega
  simp only [lines, List.forall_mem_cons]
  exact ⟨temperature (by decide) _,temperature (by decide) _,humidity (by decide) _,
    humidity (by decide) _,nofun⟩

lemma Ring.Sound.summary_short {r : Ring} (sound : r.Sound) : r.summary.utf8ByteSize ≤ 64 := by
  obtain ⟨-,-,next,count,-⟩ := sound
  rw [capacity_eq] at count
  rw [regionSize_eq,width_eq] at next
  have entries : (natural r.count).utf8ByteSize ≤ 2 :=
    (utf8ByteSize_natural_le_iff (by decide)).mpr (by omega)
  have address : (natural r.next).utf8ByteSize ≤ 3 :=
    (utf8ByteSize_natural_le_iff (by decide)).mpr (by omega)
  rw [summary,String.utf8ByteSize_append,String.utf8ByteSize_append]
  change _ + 51 + _ ≤ 64
  omega

end Log

namespace Alarm.Gates

lemma line_short (g : Gates) : g.line.utf8ByteSize ≤ 64 := by
  have first := utf8ByteSize_integer_word g.majorUnder
  have second := utf8ByteSize_integer_word g.minorUnder
  have third := utf8ByteSize_integer_word g.comfortable
  have fourth := utf8ByteSize_integer_word g.minorOver
  have written : g.line = "Alarm gates: " ++ (integer g.majorUnder.toInt ++ ", " ++
      integer g.minorUnder.toInt ++ ", " ++ integer g.comfortable.toInt ++ ", " ++
      integer g.minorOver.toInt) := rfl
  rw [written]
  simp only [String.utf8ByteSize_append]
  change 13 + (_ + 2 + _ + 2 + _ + 2 + _) ≤ 64
  omega

lemma changeLines_brief (g : Gates) (index : UInt8) (value : UInt16) :
    Brief (g.changeLines index.toNat value.toNat) := by
  have change : ("Alarm Gate " ++ natural index.toNat ++ ": " ++
      natural value.toNat).utf8ByteSize ≤ 64 := by
    have index := utf8ByteSize_natural_byte index
    have value := utf8ByteSize_natural_word value
    simp only [String.utf8ByteSize_append]
    change 11 + _ + 2 + _ ≤ 64
    omega
  unfold changeLines
  split
  · exact .single change
  · exact .pair change (by decide)

end Alarm.Gates

lemma Command.CommandError.report_brief (cause : CommandError) : Brief cause.report := by
  have unknown : unknownCommand.utf8ByteSize ≤ 64 := by decide
  cases cause with
  | malformed fault =>
    have named : fault.message.utf8ByteSize ≤ 64 := by
      cases fault with
      | numeral cause => cases cause <;> exact Nat.le_of_ble_eq_true rfl
      | _ => exact Nat.le_of_ble_eq_true rfl
    exact .pair named unknown
  | _ => exact .single unknown

namespace Site
variable (s : Site)

lemma answerLogInfo_brief (sound : s.station.log.Sound) : Brief s.answerLogInfo.1 := by
  unfold answerLogInfo
  rcases read : s.station.log.extremes [Layout.log] s.device with ⟨cause | found,device⟩
  · rw [s.access_eq read]
    exact .single sound.summary_short
  · rw [s.access_eq read]
    cases found with
    | none => exact .single sound.summary_short
    | some x =>
      exact ⟨Nat.le_of_ble_eq_true rfl,List.forall_mem_cons.mpr ⟨sound.summary_short,x.lines_short _⟩⟩

lemma answerClock_brief {word : String} (short : word.utf8ByteSize ≤ 9)
    (change : Except Clock.InvalidTimestamp Clock.Timestamp) :
    Brief (s.answerClock word change).1 := by
  cases change with
  | ok t =>
    have text := t.utf8ByteSize_text_le
    refine .single ?_
    rw [String.utf8ByteSize_append,String.utf8ByteSize_append]
    change _ + 8 + _ ≤ 64
    omega
  | error e => exact .single e.message_short

lemma answerGate_brief (index : UInt8) (value : UInt16) : Brief (s.answerGate index value).1 := by
  unfold answerGate
  split
  · exact .single (by decide)
  · split
    · exact .single (by decide)
    · split
      · exact .single (by decide)
      · exact Alarm.Gates.changeLines_brief ..

/-- Every command but the listing of the log is answered in brief. -/
theorem carryOut_brief (sound : s.station.log.Sound) {c : Command} (other : c ≠ .logDump) :
    Brief (s.carryOut c).1 := by
  cases c with
  | logDump => exact absurd rfl other
  | lightStatus => exact s.station.lights.statusLines_brief
  | lightMode | lightColour => exact ⟨Nat.zero_le _,nofun⟩
  | climateStatus => exact .pair (Climate.latestText_short _) (Climate.Scale.line_short _)
  | climateMonitor =>
    unfold carryOut answerMonitor
    dsimp only
    split
    · exact .single (by decide)
    · exact .single (by decide)
  | logInfo => exact s.answerLogInfo_brief sound
  | logClear =>
    unfold carryOut answerLogClear
    dsimp only
    split
    · exact .single (by decide)
    · exact .single (by decide)
  | alarmStatus =>
    have state (level : Alarm.Level) : ("Alarm state: " ++ level.description).utf8ByteSize ≤ 64 := by
      cases level <;> decide
    exact .pair (Alarm.Gates.line_short _) (state _)
  | clockStatus =>
    have date := s.clock.utf8ByteSize_dateText_le
    have time := s.clock.utf8ByteSize_timeText_le
    refine .pair ?_ ?_
    · rw [String.utf8ByteSize_append]
      change 19 + _ ≤ 64
      omega
    · rw [String.utf8ByteSize_append]
      change 17 + _ ≤ 64
      omega
  | setTime => exact s.answerClock_brief (by decide) _
  | setDate => exact s.answerClock_brief (by decide) _
  | setBlinkRate rate =>
    unfold carryOut answerBlinkRate
    dsimp only
    split
    · exact .single (Light.Bank.rateLine_short rate)
    · exact .single (by decide)
  | setScale flag =>
    unfold carryOut answerScale
    dsimp only
    split
    · exact .single (Climate.Scale.line_short _)
    · exact .single (by decide)
  | setGate index value => exact s.answerGate_brief index value
  | version => exact .single (by decide)
  | help =>
    have short : ∀ line ∈ helpLines, line.utf8ByteSize ≤ 64 := by decide
    exact ⟨Nat.le_of_ble_eq_true rfl,short⟩

/-! ## The listing of the log -/

/-- The entries that a listing of the log would show. -/
def listed : List Log.Entry := (s.station.log.readable [Layout.log] s.device).1

/-- The text stands for listing the log, and that is full of wide entries. -/
def ListsOverfull (meaning : Except Command.CommandError Command) : Prop :=
  meaning = .ok .logDump ∧ Log.Overfull s.station.display.scale s.listed

instance (meaning : Except Command.CommandError Command) : Decidable (s.ListsOverfull meaning) := by
  unfold ListsOverfull
  infer_instance

lemma obey_logDump (channel : Channel) : (s.obey channel (.ok .logDump)).1 =
    if s.station.log.isEmpty then ["No logs."]
    else Log.listing s.station.display.scale s.listed := by
  rw [s.obey_ok channel rfl]
  unfold carryOut answerLogDump
  dsimp only
  split <;> rfl

lemma obey_monitor_datagram : (s.obey .datagram (.ok .climateMonitor)).1 =
    ["DHT MONITOR is only available on the local console."] := rfl

variable {s} {config : Config}

lemma obey_brief (sound : s.station.log.Sound) (channel : Channel)
    {meaning : Except Command.CommandError Command} (other : meaning ≠ .ok .logDump) :
    Brief (s.obey channel meaning).1 := by
  cases meaning with
  | error cause => exact cause.report_brief
  | ok c =>
    unfold obey answer
    dsimp only
    split
    · exact .single (by decide)
    · exact s.carryOut_brief sound fun same => other (congrArg Except.ok same)

namespace Dated

lemma strictness (h : s.Dated config) :
    s.station.strictness = if config.lenient then .lenient else .strict := by
  have same : s.station.config = config := h.inStep.config
  rw [Station.strictness,same]

/-- No more entries are listed than are in the log. -/
lemma listed_prefix (h : s.Dated config) : s.listed <+: s.held.entries :=
  Log.Ring.readable_prefix (Layout.fits_log h.inStep.size) h.inStep.log.sound

theorem utf8ByteSize_obey (h : s.Dated config) (channel : Channel)
    (meaning : Except Command.CommandError Command) :
    let size := (Reply.linesText (s.obey channel meaning).1).utf8ByteSize
    size ≤ replyLimit + 1 ∧ (replyLimit < size ↔ s.ListsOverfull meaning) := by
  have sound : s.station.log.Sound := h.inStep.log.sound
  have count : s.listed.length ≤ s.station.log.count :=
    Nat.le_trans h.listed_prefix.length_le (Nat.le_of_eq (sound.length_contents _))
  have full : s.station.log.count ≤ Log.Ring.capacity := sound.2.2.2.1
  have brief {lines : List String} (brief : Brief lines) (not : ¬s.ListsOverfull meaning) :
      (Reply.linesText lines).utf8ByteSize ≤ replyLimit + 1 ∧
        (replyLimit < (Reply.linesText lines).utf8ByteSize ↔ s.ListsOverfull meaning) :=
    ⟨Nat.le_succ_of_le brief.fits,iff_of_false (Nat.not_lt.mpr brief.fits) not⟩
  by_cases dump : meaning = .ok .logDump
  · have overfull : s.ListsOverfull meaning ↔ Log.Overfull s.station.display.scale s.listed :=
      and_iff_right dump
    subst dump
    rw [obey_logDump]
    by_cases blank : s.station.log.isEmpty = true
    · rw [if_pos blank]
      refine brief (.single (by decide)) fun ⟨_,all,_⟩ => ?_
      have none : s.station.log.count = 0 := eq_of_beq blank
      rw [Log.Ring.capacity_eq] at all
      omega
    · rw [if_neg blank,overfull]
      exact Log.utf8ByteSize_listing (Nat.le_trans count full) fun e member =>
        h.entries e (h.listed_prefix.subset member)
  · exact brief (obey_brief sound channel dump) fun lists => dump lists.1

end Dated
end Site

/-- Let a station be started on a memory that was never written to, with a clock that keeps to the
calendar. Whatever the sensor measures, whatever fails and in either scale, the answer to a datagram
goes out in full, save one: the listing of a full log of wide entries has one byte more than a
datagram holds, and goes out without its last character. The answer is what the console would print
in the same place; only monitoring is for the console alone. -/
theorem reply_complete_unless_overfull (c : Config) (device : Device) (clock : Clock.Timestamp)
    (passes : List Surroundings) (around : Surroundings) (d : Datagram)
    (blank : ∀ b ∈ device.bytes, b = erased)
    (started : (Site.initial c device clock).start.1 = .ok ())
    (dated : ∀ seen ∈ around :: passes, seen.clock.OnCalendar)
    (came : (((Site.initial c device clock).start.2.run passes).beforeNetwork around).datagram?
      around = some d) :
    let s := (Site.initial c device clock).start.2.run passes
    let asked := ((s.beforeNetwork around).looked around).heard d
    let meaning := Command.ofText s.station.strictness (d.payload.take Station.datagramLimit)
    let lines := (asked.obey .datagram meaning).1
    let text := Reply.linesText lines
    let reply := (Reply.ofLines lines).text
    let console := asked.obey .console meaning
    (s.pass around).mail.record = s.mail.record ++ s.announced around ++ [.received d] ++
      s.mail.lesson d.sender ++ Site.replies d lines (around.accepts .reply) ∧
    (¬asked.ListsOverfull meaning → text.utf8ByteSize ≤ replyLimit ∧ reply = text) ∧
    (asked.ListsOverfull meaning →
      text.utf8ByteSize = replyLimit + 1 ∧ reply.push '\n' = text) ∧
    (meaning ≠ .ok .climateMonitor →
      (console.1.foldl Site.printLine console.2).printed = asked.printed ++ text) ∧
    (meaning = .ok .climateMonitor →
      lines = ["DHT MONITOR is only available on the local console."]) := by
  intro s asked meaning lines text reply console
  have datedNow := (List.forall_mem_cons.mp dated).1
  have ran : s.Dated c :=
    (Site.start_dated started blank).run (List.forall_mem_cons.mp dated).2
  have h : asked.Dated c := ((ran.beforeNetwork datedNow).looked around).heard d
  obtain ⟨most,long⟩ := h.utf8ByteSize_obey .datagram meaning
  have holds : (Reply.ofLines lines).Holds text := Reply.holds_ofLines lines
  refine ⟨?_,fun fits => ?_,fun overfull => ?_,fun other => ?_,fun monitor => ?_⟩
  · rw [(Site.pass_with_datagram came).2,Mail.record_foldl_add,Mail.receive,
      Mail.record_foldl_add,Mail.lesson_foldl_add,List.append_cons]
  · have small : text.utf8ByteSize ≤ replyLimit := Nat.not_lt.mp (mt long.mp fits)
    exact ⟨small,holds.text_eq small⟩
  · have size : text.utf8ByteSize = replyLimit + 1 := Nat.le_antisymm most (long.mpr overfull)
    have some : lines ≠ [] := by
      intro none
      have zero : text.utf8ByteSize = 0 := by
        unfold text
        rw [none]
        rfl
      omega
    obtain ⟨front,last⟩ := Reply.linesText_eq_push some
    have whole : text = front.push '\n' := last
    rw [whole] at holds size
    refine ⟨whole ▸ size,?_⟩
    rw [whole,show reply = front from holds.text_eq_of_push size]
  · have agree : asked.Agree console (asked.obey .datagram meaning) := Site.obey_agree other
    rw [(console.2.foldl_printLine_prints console.1).printed,agree.silent,← agree.lines]
  · unfold lines
    rw [monitor]
    exact asked.obey_monitor_datagram

/-- Of 27 entries all but one are wide. -/
theorem reply_complete_nearly_overfull :
    let c : Config := { Config.default with
      samplePeriod := 1
      logPeriod := 1
      networkPeriod := 1
      fahrenheit := false }
    let device := Device.blank 281
    let clock : Clock.Timestamp := ⟨24,2,29,4,23,59,58⟩
    let d : Datagram := ⟨⟨⟨10,0,0,5⟩,4000⟩,bytesOf ['d','h','t',' ','l','o','g']⟩
    let around (time : Nat) (humidity : Float32) (datagram : Option Datagram) : Surroundings :=
      { time := time
        clock := clock
        keys := []
        localEcho := false
        sensor := .ok ⟨-100,humidity⟩
        linkUp := true
        datagram := datagram
        accepts := fun _ => true }
    let passes := (List.range 26).map fun i => around (i + 1) 100 none
    let last := around 27 99 (some d)
    let s₀ := (Site.initial c device clock).start.2
    let s := s₀.run passes
    let asked := ((s.beforeNetwork last).looked last).heard d
    let lines := (asked.obey .datagram (.ok .logDump)).1
    (Site.initial c device clock).start.1 = .ok () ∧
    (s.beforeNetwork last).datagram? last = some d ∧
    asked.listed.length = 27 ∧ ¬asked.ListsOverfull (.ok .logDump) ∧
    (Reply.linesText lines).utf8ByteSize ≤ replyLimit ∧
    (Reply.ofLines lines).text = Reply.linesText lines := by
  intro c device clock d around passes last s₀ s asked lines
  have started : (Site.initial c device clock).start.1 = .ok () := by decide +kernel
  have found : ((s.beforeNetwork last).station.networkTimer.poll last.time).1 = true ∧
      Command.ofText s.station.strictness (d.payload.take Station.datagramLimit) = .ok .logDump ∧
      asked.listed.length = 27 ∧ ¬asked.ListsOverfull (.ok .logDump) := by
    decide +kernel
  obtain ⟨due,meaning,full,fits⟩ := found
  have came : (s.beforeNetwork last).datagram? last = some d := if_pos ⟨due,rfl⟩
  have blank : ∀ b ∈ device.bytes, b = erased := fun b member => List.eq_of_mem_replicate member
  have dated : ∀ seen ∈ last :: passes, seen.clock.OnCalendar := by
    have calendar : clock.OnCalendar := by decide
    refine List.forall_mem_cons.mpr ⟨calendar,fun seen member => ?_⟩
    obtain ⟨i,-,rfl⟩ := List.mem_map.mp member
    exact calendar
  obtain ⟨-,complete,-⟩ :=
    reply_complete_unless_overfull c device clock passes last d blank started dated came
  rw [meaning] at complete
  exact ⟨started,came,full,fits,complete fits⟩

/-- The humidity of the last entry is one percent higher, and the answer is cut. Monitoring is
answered in another way than on the console. -/
theorem wide_listing_cut :
    let c : Config := { Config.default with
      samplePeriod := 1
      logPeriod := 1
      networkPeriod := 1
      fahrenheit := false }
    let device := Device.blank 281
    let clock : Clock.Timestamp := ⟨24,2,29,4,23,59,58⟩
    let d : Datagram := ⟨⟨⟨10,0,0,5⟩,4000⟩,bytesOf ['d','h','t',' ','l','o','g']⟩
    let around (time : Nat) (datagram : Option Datagram) : Surroundings :=
      { time := time
        clock := clock
        keys := []
        localEcho := false
        sensor := .ok ⟨-100,100⟩
        linkUp := true
        datagram := datagram
        accepts := fun _ => true }
    let passes := (List.range 26).map fun i => around (i + 1) none
    let last := around 27 (some d)
    let s₀ := (Site.initial c device clock).start.2
    let s := s₀.run passes
    let asked := ((s.beforeNetwork last).looked last).heard d
    let lines := (asked.obey .datagram (.ok .logDump)).1
    (Site.initial c device clock).start.1 = .ok () ∧ clock.OnCalendar ∧
    (s.beforeNetwork last).datagram? last = some d ∧
    Command.ofText s.station.strictness (d.payload.take Station.datagramLimit) = .ok .logDump ∧
    replyLimit < (Reply.linesText lines).utf8ByteSize ∧
    (Reply.ofLines lines).text ≠ Reply.linesText lines ∧
    (asked.obey .datagram (.ok .climateMonitor)).1 ≠
      (asked.obey .console (.ok .climateMonitor)).1 := by
  intro c device clock d around passes last s₀ s asked lines
  have calendar : clock.OnCalendar := by decide
  have started : (Site.initial c device clock).start.1 = .ok () := by decide +kernel
  have found : ((s.beforeNetwork last).station.networkTimer.poll last.time).1 = true ∧
      asked.ListsOverfull (.ok .logDump) ∧ (asked.obey .console (.ok .climateMonitor)).1 =
        ["DHT readings will now be printed."] := by
    decide +kernel
  obtain ⟨due,overfull,console⟩ := found
  have blank : ∀ b ∈ device.bytes, b = erased := fun b member => List.eq_of_mem_replicate member
  have dated : ∀ seen ∈ passes, seen.clock.OnCalendar := by
    intro seen member
    obtain ⟨i,-,rfl⟩ := List.mem_map.mp member
    exact calendar
  have ran : s.Dated c := (Site.start_dated started blank).run dated
  have answered : asked.Dated c := ((ran.beforeNetwork calendar).looked last).heard d
  have meaning : Command.ofText s.station.strictness (d.payload.take Station.datagramLimit) =
      .ok .logDump := by
    rw [ran.strictness]
    decide
  have long : replyLimit < (Reply.linesText lines).utf8ByteSize :=
    (answered.utf8ByteSize_obey .datagram (.ok .logDump)).2.mpr overfull
  refine ⟨started,calendar,if_pos ⟨due,rfl⟩,meaning,long,fun whole => ?_,?_⟩
  · have fits := (Reply.holds_ofLines lines).longestBeginning.fits
    rw [whole] at fits
    exact absurd long (Nat.not_lt.mpr fits)
  · rw [console,asked.obey_monitor_datagram]
    decide

end ClimateStation
