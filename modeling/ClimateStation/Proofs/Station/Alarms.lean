import ClimateStation.Proofs.Light.Bank
import ClimateStation.Proofs.Station.Course
import Mathlib.Data.List.Destutter

/-! The alarm of a running station. Only a sample has to do with it: it compares the temperature with
the gates that are in force, and if that leads to another level, the alarm light is set, the
destination is notified and the level is reported, once each. Everything else that a pass does
leaves the level, the latest reading, the alarm light and the record of alarms as they are. So the
reports of a run are its levels without repetitions. -/
namespace ClimateStation
open Storage

/-- A sample, or what comes of its level. -/
def Effect.isAlarm : Effect → Bool
  | .sample _ | .report (.alarmChanged ..) | .send .alarm .. => true
  | _ => false

/-- The level that is reported. -/
def Effect.level? : Effect → Option Alarm.Level
  | .report (.alarmChanged level _) => some level
  | _ => none

/-- What a site shows of its alarm. -/
structure Watch where
  level : Alarm.Level
  latest : Climate.Reading
  light : Light
  /-- The samples and what came of their levels. -/
  record : List Effect

namespace Site

def watch (s : Site) : Watch :=
  { level := s.station.level
    latest := s.station.display.latest
    light := s.station.lights.light .alarm
    record := s.effects.filter Effect.isAlarm }

/-- The levels that were reported. -/
def alarms (s : Site) : List Alarm.Level := s.effects.filterMap Effect.level?

/-- What the sensor answers in a pass, if it is read. -/
def sample? (s : Site) (around : Surroundings) :
    Option (Except Climate.SensorError Climate.Reading) :=
  if (s.station.sampleTimer.poll around.time).1 then some around.sensor else none

/-- The level of a reading by the gates in force. -/
def levelOf (s : Site) (r : Climate.Reading) : Alarm.Level :=
  .classify (Climate.wholeFahrenheit r.temperature) s.station.gates

/-- The levels of the readings that are taken in a run, each by the gates in force at its sample. -/
def levels (s : Site) : List Surroundings → List Alarm.Level
  | [] => []
  | around :: passes =>
    match s.sample? around with
    | some (.ok r) => s.levelOf r :: (s.pass around).levels passes
    | _ => (s.pass around).levels passes

/-- What another level brings about: a notification if there is a destination, and a report. -/
def announcements (s : Site) (r : Climate.Reading) (level : Alarm.Level) (accepted : Bool) :
    List Effect :=
  let line := alarmLine level { s.station.display with latest := r }
  (s.station.link.settings.destination.toList.map fun peer =>
    .send .alarm peer (Datagram.Reply.empty.writeLine line).text accepted) ++
      [.report (.alarmChanged level (Climate.wholeFahrenheit r.temperature))]

/-- What a site shows of its alarm once the sensor was read. An answer that is no reading is
only recorded; a reading is kept, and what else follows depends on whether its level is another one. -/
def afterSample (s : Site) (outcome : Except Climate.SensorError Climate.Reading)
    (accepted : Bool) : Watch :=
  let record := s.watch.record ++ [.sample outcome]
  match outcome with
  | .error _ => { s.watch with record }
  | .ok r =>
    let level := s.levelOf r
    if level = s.station.level then { s.watch with latest := r, record }
    else
      { level
        latest := r
        light := (s.watch.light.paint level.colour).switch level.urgency.lightMode
        record := record ++ s.announcements r level accepted }

variable (s : Site)

lemma alarms_eq : s.alarms = s.watch.record.filterMap Effect.level? := by
  rw [alarms,watch,List.filterMap_filter]
  congr 1
  funext e
  cases e with
  | report event => cases event <;> rfl
  | send purpose => cases purpose <;> rfl
  | _ => rfl

lemma levels_announcements (r : Climate.Reading) (level : Alarm.Level) (accepted : Bool) :
    (s.announcements r level accepted).filterMap Effect.level? = [level] := by
  unfold announcements
  cases s.station.link.settings.destination <;> rfl

/-! ## Everything else -/

lemma watch_note_alarm {e : Effect} (alarm : e.isAlarm = true) :
    (s.note e).watch = { s.watch with record := s.watch.record ++ [e] } := by
  unfold watch note
  rw [List.filter_append,List.filter_cons_of_pos alarm]
  rfl

lemma watch_note {e : Effect} (other : e.isAlarm = false) : (s.note e).watch = s.watch := by
  unfold watch note
  rw [List.filter_append,List.filter_cons_of_neg (Bool.eq_false_iff.mp other),List.filter_nil,
    List.append_nil]

lemma watch_setLights {lights : Light.Bank}
    (same : lights.light .alarm = s.station.lights.light .alarm) :
    (s.setLights lights).watch = s.watch :=
  congrArg (fun light => { s.watch with light }) same

lemma watch_print (text : String) : (s.print text).watch = s.watch :=
  keeps_print (fun u _ => u.watch_note rfl) s text

lemma watch_refresh : s.refresh.watch = s.watch := by
  unfold refresh
  split
  · exact watch_note _ rfl
  · rfl

lemma watch_observeLink (up : Bool) : (s.observeLink up).watch = s.watch := by
  unfold observeLink
  split
  · rfl
  · refine (watch_note _ rfl).trans (s.watch_setLights ?_)
    rw [Light.Bank.paint_eq,Light.Bank.light_put]
    rfl

lemma watch_reply (peer : Network.Endpoint) (text : Datagram.Reply) (accepted : Bool) :
    (s.send .reply peer text accepted).watch = s.watch := by
  unfold send
  dsimp only
  split
  · exact s.watch_note rfl
  · exact s.watch_note rfl

lemma watch_learnDestination (peer : Network.Endpoint) :
    (s.learnDestination peer).watch = s.watch :=
  keeps_learnDestination (fun u _ => u.watch_note rfl) (fun _ _ _ _ => rfl) s peer

variable {s} {t : Site}

/-- No command has to do with it. -/
lemma Outcome.watch {c : Command} (h : s.Outcome c t) : t.watch = s.watch := by
  cases h with
  | lightMode mode =>
    apply s.watch_setLights
    rw [Light.Bank.switch_eq,Light.Bank.light_put]
    rfl
  | lightColour colour =>
    apply s.watch_setLights
    rw [Light.Bank.paint_eq,Light.Bank.light_put]
    rfl
  | @blinkRate rate lights set =>
    apply s.watch_setLights
    unfold Light.Bank.setRate? at set
    split at set
    · exact nomatch set
    · cases set
      rfl
  | logClear | time | date => exact watch_note _ rfl
  | _ => rfl

variable (s) in
lemma watch_dispatch (channel : Channel) (input : List UInt8) :
    (s.dispatch channel input).2.watch = s.watch := by
  rw [dispatch_eq]
  cases Command.ofText s.station.strictness input with
  | error e => exact s.watch_note rfl
  | ok c => exact (s.answer_outcome channel c).watch

lemma Move.watch (move : Move s t) : t.watch = s.watch := by
  cases move with
  | print text => exact s.watch_print text
  | edit => rfl
  | submit line => exact (watch_dispatch ..).trans (s.watch_note rfl)
  | dismiss => exact watch_note _ rfl
  | poll => rfl
  | link up => exact s.watch_observeLink up
  | hear d =>
    exact ((watch_dispatch ..).trans (watch_learnDestination ..)).trans (s.watch_note rfl)
  | reply peer text accepted => exact s.watch_reply peer text accepted
  | refresh => exact s.watch_refresh

/-! ## Samples -/

variable (s)

/-- Bringing the lights up to date switches the alarm light over, if it blinks. -/
lemma watch_tickLights (time : Nat) : (s.tickLights time).watch = s.watch ∨
    (s.tickLights time).watch = { s.watch with light := s.watch.light.flip } := by
  have ticked := s.station.lights.light_tick .alarm time
  split at ticked
  · exact .inr (congrArg (fun light => { s.watch with light }) ticked)
  · exact .inl (congrArg (fun light => { s.watch with light }) ticked)

lemma watch_pass (around : Surroundings) :
    (s.pass around).watch = (s.beforeKeys around).watch :=
  (s.pass_moves around).keeps fun _ _ move => move.watch

lemma watch_printMonitored (line : String) : (s.printMonitored line).watch = s.watch :=
  keeps_printMonitored (fun u _ => u.watch_note rfl) s line

lemma watch_logIfDue (time : Nat) (r : Climate.Reading) :
    (s.logIfDue time r).watch = s.watch :=
  keeps_logIfDue (fun u _ => u.watch_note rfl) (fun u _ _ => u.watch_note rfl)
    (fun _ _ _ _ => rfl) s time r

lemma watch_notify (peer : Network.Endpoint) (text : Datagram.Reply) (accepted : Bool) :
    (s.send .alarm peer text accepted).watch =
      { s.watch with record := s.watch.record ++ [.send .alarm peer text.text accepted] } := by
  unfold send
  dsimp only
  split
  · exact s.watch_note_alarm rfl
  · exact s.watch_note_alarm rfl

lemma watch_enterLevel (level : Alarm.Level) (accepted : Bool) :
    (s.enterLevel level accepted).watch =
      { level
        latest := s.station.display.latest
        light := (s.watch.light.paint level.colour).switch level.urgency.lightMode
        record := s.watch.record ++ s.announcements s.station.display.latest level accepted } := by
  have lit : ((s.station.lights.paint .alarm level.colour).switch .alarm
      level.urgency.lightMode).light .alarm =
        (s.watch.light.paint level.colour).switch level.urgency.lightMode := by
    rw [Light.Bank.switch_eq,Light.Bank.light_put_self,Light.Bank.paint_eq,
      Light.Bank.light_put_self]
    rfl
  have entered : { s with
      station.level := level
      station.lights := (s.station.lights.paint .alarm level.colour).switch .alarm
        level.urgency.lightMode
      station.stale := true }.watch =
        { level
          latest := s.station.display.latest
          light := (s.watch.light.paint level.colour).switch level.urgency.lightMode
          record := s.watch.record } :=
    congrArg (fun light => Watch.mk level s.station.display.latest light s.watch.record) lit
  unfold enterLevel announcements
  dsimp only
  cases s.station.link.settings.destination with
  | none =>
    dsimp only
    rw [report,watch_note_alarm _ rfl,entered]
    rfl
  | some peer =>
    dsimp only
    rw [report,watch_note_alarm _ rfl,watch_notify,entered,(send_outward ..).display]
    dsimp only
    rw [List.append_assoc]
    rfl

lemma checkAlarm_eq (accepted : Bool) : s.checkAlarm accepted =
    let level := s.levelOf s.station.display.latest
    if level = s.station.level then s else s.enterLevel level accepted := by
  have found : s.station.level.change? s.station.display.alarmInput s.station.gates =
      if s.levelOf s.station.display.latest = s.station.level then none
      else some (s.levelOf s.station.display.latest) := rfl
  unfold checkAlarm
  rw [found]
  by_cases same : s.levelOf s.station.display.latest = s.station.level
  · rw [if_pos same]
    exact (if_pos same).symm
  · rw [if_neg same]
    exact (if_neg same).symm

lemma watch_takeSample (around : Surroundings) :
    (s.takeSample around).watch = s.afterSample around.sensor (around.accepts .alarm) := by
  unfold takeSample afterSample
  dsimp only
  cases around.sensor with
  | error e =>
    dsimp only
    rw [report,watch_note _ rfl,watch_printMonitored,watch_note_alarm _ rfl]
  | ok r =>
    dsimp only
    have read : { s.note (.sample (.ok r)) with station.display.latest := r }.watch =
        { s.watch with latest := r, record := s.watch.record ++ [.sample (.ok r)] } :=
      congrArg (fun w : Watch => { w with latest := r }) (s.watch_note_alarm rfl)
    have level : { s.note (.sample (.ok r)) with station.display.latest := r }.levelOf r =
        s.levelOf r := rfl
    have said (level : Alarm.Level) (accepted : Bool) :
        { s.note (.sample (.ok r)) with station.display.latest := r }.announcements r level
          accepted = s.announcements r level accepted := rfl
    rw [watch_logIfDue,watch_printMonitored,checkAlarm_eq]
    dsimp only
    rw [level]
    by_cases same : s.levelOf r = s.station.level
    · rw [if_pos same]
      exact (congrArg watch (if_pos same)).trans read
    · rw [if_neg same]
      refine (congrArg watch (if_neg same)).trans ?_
      rw [watch_enterLevel,read]
      dsimp only
      rw [said]

/-- A pass has to do with the alarm only by its sample. -/
theorem watch_pass_eq (around : Surroundings) : (s.pass around).watch =
    match s.sample? around with
    | none => (s.tickLights around.time).watch
    | some outcome =>
      (s.tickLights around.time).afterSample outcome (around.accepts .alarm) := by
  rw [watch_pass]
  unfold beforeKeys sampleIfDue sample?
  dsimp only
  change (if (s.station.sampleTimer.poll around.time).1 = true then _ else _ : Site).watch = _
  split
  · rw [watch_takeSample]
    rfl
  · rfl

/-! ## Runs -/

variable {s} {around : Surroundings}

/-- Without a reading, the level and the reports stay. -/
lemma pass_without_reading (without : ∀ r, s.sample? around ≠ some (.ok r)) :
    (s.pass around).station.level = s.station.level ∧ (s.pass around).alarms = s.alarms := by
  have passed := s.watch_pass_eq around
  rw [alarms_eq,alarms_eq]
  cases sample : s.sample? around with
  | none =>
    rw [sample] at passed
    exact ⟨congrArg Watch.level passed,congrArg (·.record.filterMap Effect.level?) passed⟩
  | some outcome =>
    cases outcome with
    | ok r => exact absurd sample (without r)
    | error e =>
      rw [sample] at passed
      refine ⟨congrArg Watch.level passed,?_⟩
      rw [passed]
      exact (List.filterMap_append ..).trans (List.append_nil _)

/-- With one, the level is that of the reading, and it is reported if it is another one. -/
lemma pass_with_reading {r : Climate.Reading} (sample : s.sample? around = some (.ok r)) :
    (s.pass around).station.level = s.levelOf r ∧ (s.pass around).alarms =
      s.alarms ++ if s.levelOf r = s.station.level then [] else [s.levelOf r] := by
  have passed := s.watch_pass_eq around
  rw [sample] at passed
  rw [alarms_eq,alarms_eq]
  by_cases same : s.levelOf r = s.station.level
  · have kept : (s.pass around).watch = { (s.tickLights around.time).watch with
        latest := r, record := s.watch.record ++ [.sample (.ok r)] } := passed.trans (if_pos same)
    refine ⟨(congrArg Watch.level kept).trans same.symm,?_⟩
    rw [kept,if_pos same]
    exact List.filterMap_append
  · have entered := passed.trans (if_neg same)
    refine ⟨congrArg Watch.level entered,?_⟩
    have record : (s.tickLights around.time).watch.record = s.watch.record := rfl
    rw [entered,if_neg same]
    dsimp only
    rw [List.filterMap_append,List.filterMap_append,levels_announcements,record]
    exact congrArg (· ++ [s.levelOf r]) (List.append_nil _)

variable (s) {passes : List Surroundings}

lemma levels_without_reading (without : ∀ r, s.sample? around ≠ some (.ok r)) :
    s.levels (around :: passes) = (s.pass around).levels passes := by
  rw [levels]
  split
  · next r sample => exact absurd sample (without r)
  · rfl

lemma levels_with_reading {r : Climate.Reading} (sample : s.sample? around = some (.ok r)) :
    s.levels (around :: passes) = s.levelOf r :: (s.pass around).levels passes := by
  rw [levels,sample]

/-- The level is that of the latest reading. -/
theorem run_level (passes : List Surroundings) :
    (s.run passes).station.level = (s.levels passes).getLastD s.station.level := by
  induction passes generalizing s with
  | nil => rfl
  | cons around passes ih =>
    refine (ih (s.pass around)).trans ?_
    by_cases reading : ∃ r, s.sample? around = some (.ok r)
    · obtain ⟨r,sample⟩ := reading
      rw [s.levels_with_reading sample,List.getLastD_cons,(pass_with_reading sample).1]
    · have without := not_exists.mp reading
      rw [s.levels_without_reading without,(pass_without_reading without).1]

/-- After the level at first, the reports of a run are its levels without repetitions. -/
theorem run_alarms (passes : List Surroundings) :
    ∃ reported, (s.run passes).alarms = s.alarms ++ reported ∧
      s.station.level :: reported =
        (s.station.level :: s.levels passes).destutter (· ≠ ·) := by
  -- What is left of the list begins with the level that the station is at, so the next one is kept
  -- if and only if it is reported.
  induction passes generalizing s with
  | nil => exact ⟨[],(List.append_nil _).symm,rfl⟩
  | cons around passes ih =>
    obtain ⟨reported,alarms,changes⟩ := ih (s.pass around)
    have ran : (s.run (around :: passes)).alarms = (s.pass around).alarms ++ reported := alarms
    by_cases reading : ∃ r, s.sample? around = some (.ok r)
    · obtain ⟨r,sample⟩ := reading
      obtain ⟨level,now⟩ := pass_with_reading sample
      rw [level] at changes
      rw [ran,now,s.levels_with_reading sample,List.destutter_cons_cons]
      by_cases same : s.levelOf r = s.station.level
      · rw [same] at changes
        rw [if_pos same,List.append_nil,if_neg (not_not.mpr same.symm)]
        exact ⟨reported,rfl,changes⟩
      · rw [if_neg same,if_pos (Ne.symm same),List.append_assoc]
        exact ⟨_,rfl,congrArg (s.station.level :: ·) changes⟩
    · have without := not_exists.mp reading
      obtain ⟨level,now⟩ := pass_without_reading without
      rw [level] at changes
      rw [ran,now,s.levels_without_reading without]
      exact ⟨reported,rfl,changes⟩

/-! ## From the start -/

lemma watch_loadMemory : s.loadMemory.2.watch = s.watch := by
  obtain ⟨log,gates,settings,device,same⟩ := s.loadMemory_same
  rw [same]
  rfl

/-- A start colours the alarm light and does nothing else to the alarm. -/
lemma watch_start : ∃ light, s.start.2.watch = { s.watch with light } := by
  have loaded := s.watch_loadMemory
  unfold start
  split
  · exact ⟨s.watch.light,rfl⟩
  · rcases h : s.loadMemory with ⟨e | _,t⟩
    · rw [h] at loaded
      exact ⟨s.watch.light,loaded⟩
    · rw [h] at loaded
      dsimp only
      have lit : t.lightUp.watch = { t.watch with light := t.lightUp.watch.light } := rfl
      refine ⟨t.lightUp.watch.light,?_⟩
      rw [printPrompt,watch_print,watch_print,report,watch_note _ rfl,watch_refresh,lit,← loaded]

end Site

/-- Whatever comes in and whatever fails, the reports of a run are the levels of its readings, each by
the gates in force when it was taken, without repetitions and without the comfortable level at the
start; and the level is that of the latest reading. In a pass, only the sample has to do with the
alarm, besides the blinking of its light: a failed one changes neither the level nor the reading, and
a reading sets the light, notifies the destination if there is one and makes a report, each once, if
its level is another one, and does none of it otherwise. -/
theorem alarms_are_level_changes (c : Config) (device : Device) (clock : Clock.Timestamp)
    (passes : List Surroundings) :
    let s₀ := (Site.initial c device clock).start.2
    let s := s₀.run passes
    let levels := s₀.levels passes
    .comfortable :: s.alarms = (.comfortable :: levels).destutter (· ≠ ·) ∧
    s.station.level = levels.getLastD .comfortable ∧
    (∀ around : Surroundings, (s.pass around).watch =
      match s.sample? around with
      | none => (s.tickLights around.time).watch
      | some outcome =>
        (s.tickLights around.time).afterSample outcome (around.accepts .alarm)) ∧
    ∀ time, (s.tickLights time).watch = s.watch ∨
      (s.tickLights time).watch = { s.watch with light := s.watch.light.flip } := by
  intro s₀ s levels
  obtain ⟨light,started⟩ := (Site.initial c device clock).watch_start
  have level : s₀.station.level = .comfortable := congrArg Watch.level started
  have none : s₀.alarms = [] := by
    rw [Site.alarms_eq,started]
    rfl
  refine ⟨?_,?_,s.watch_pass_eq,s.watch_tickLights⟩
  · obtain ⟨reported,alarms,changes⟩ := s₀.run_alarms passes
    rw [level] at changes
    rw [none,List.nil_append] at alarms
    rw [alarms]
    exact changes
  · have last := s₀.run_level passes
    rw [level] at last
    exact last

end ClimateStation
