import ClimateStation.Proofs.Station.Cadence
import ClimateStation.Proofs.Station.Footprint
import ClimateStation.Proofs.Station.Restart

/-! What the log of a running station holds. On a memory that does not fail, every entry that is given
to the log is kept and every command that clears it is carried out, while storing the destination or
the gates leaves it alone. So the log ends with the last entries of a history that the record of the
station tells. -/
namespace ClimateStation
open Storage

/-- The entries in the log, oldest first. -/
def Held.entries (h : Held) : List Log.Entry :=
  h.log.contents (Place.view [Layout.log] h.device.bytes)

/-- A history of the log goes on: an entry is given to it, or a text stands for clearing it. -/
def Effect.remember (mode : Command.Strictness) (es : List Log.Entry) : Effect → List Log.Entry
  | .logAttempt entry => es ++ [entry]
  | .submitted line => if Command.ofText mode line = .ok .logClear then [] else es
  | .received d =>
    if Command.ofText mode (d.payload.take Station.datagramLimit) = .ok .logClear then [] else es
  | _ => es

/-- The entries that the log was given since it was cleared last, or, if it never was, after those
that were found at first. -/
def Site.history (s : Site) (found : List Log.Entry) : List Log.Entry :=
  s.effects.foldl (Effect.remember s.station.strictness) found

lemma Effect.foldl_remember {seen : List Effect} (outward : ∀ e ∈ seen, e.isOutward = true)
    (mode : Command.Strictness) (es : List Log.Entry) :
    seen.foldl (Effect.remember mode) es = es := by
  induction seen with
  | nil => rfl
  | cons e seen ih =>
    obtain ⟨first,rest⟩ := List.forall_mem_cons.mp outward
    have same : Effect.remember mode es e = es := by
      cases e <;> first | rfl | exact nomatch first
    rw [List.foldl_cons,same]
    exact ih rest

namespace Log.Ring

/-- Entries are what they were if nothing was written before the end of the log. -/
lemma contents_of_sameOutside {start stop : Nat} {old new : List UInt8}
    (same : SameOutside start stop old new) (behind : Layout.network.base ≤ start) (r : Ring) :
    r.contents (Place.view [Layout.log] new) = r.contents (Place.view [Layout.log] old) := by
  have slots : slots (Place.view [Layout.log] new) = slots (Place.view [Layout.log] old) := by
    refine List.map_congr_left fun k within => ?_
    have inside : Place.base [Layout.log] + (headerSize + k * Entry.width) + Entry.width ≤ start := by
      have last := List.mem_range.mp within
      have base : Place.base [Layout.log] = 0 := rfl
      have stop : Layout.network.base = 247 := rfl
      rw [capacity_eq] at last
      rw [base,headerSize_eq,width_eq]
      omega
    exact congrArg Entry.ofBytes (same.slice_view_eq (.inl inside))
  unfold contents
  rw [slots]

lemma keeps_plan_clear (place : Place) : Keeps Device.plan (clear place) :=
  (place.keeps_plan_write _ _).bind fun _ => Keeps.pure empty

/-- A log never has more entries than its region has room for. -/
lemma Describes.rtake_contents {bytes : List UInt8} {r : Ring} (h : Describes bytes r) :
    (r.contents bytes).rtake capacity = r.contents bytes := by
  have few : (r.contents bytes).length ≤ capacity := by
    rw [h.sound.length_contents]
    exact h.sound.2.2.2.1
  rw [List.rtake,Nat.sub_eq_zero_of_le few,List.drop_zero]

end Log.Ring

lemma Alarm.Gates.keeps_plan_load (place : Place) (defaults : Gates) :
    Keeps Device.plan (load place defaults) := by
  refine Keeps.bind (place.keeps_plan_read _ _) fun bytes => ?_
  split
  · exact Keeps.bind (place.keeps_plan_write _ _) fun _ => Keeps.pure _
  · exact Keeps.pure _

lemma Network.Settings.keeps_plan_load (place : Place) : Keeps Device.plan (load place) :=
  (place.keeps_plan_read _ _).bind fun bytes => Keeps.pure (ofRegion bytes)

namespace Held
variable {h h' : Held}

lemma entries_of_bytes (log : h'.log = h.log) (bytes : h'.device.bytes = h.device.bytes) :
    h'.entries = h.entries := by
  unfold entries
  rw [log,bytes]

lemma entries_of_sameOutside {start stop : Nat} (log : h'.log = h.log)
    (same : SameOutside start stop h.device.bytes h'.device.bytes)
    (behind : Layout.network.base ≤ start) : h'.entries = h.entries := by
  unfold entries
  rw [log]
  exact Log.Ring.contents_of_sameOutside same behind _

variable {c : Config}

/-- Learning a destination leaves the log alone. -/
lemma InStep.entries_learn (inStep : h.InStep c) (peer : Network.Endpoint) :
    (h.learn peer).entries = h.entries := by
  unfold Held.learn
  split
  · rfl
  · split
    · rfl
    · exact entries_of_sameOutside rfl (Network.Settings.store_sameOutside
        { h.settings with target := peer } (Layout.fits_network inStep.size)) (by decide)

lemma plan_learn (h : Held) (peer : Network.Endpoint) :
    (h.learn peer).device.plan = h.device.plan := by
  unfold Held.learn
  split
  · rfl
  · split
    · rfl
    · exact Place.keeps_plan_write _ _ _ _

end Held

namespace Site
variable {s t : Site} {c : Command}

/-! ## Commands -/

lemma plan_of_access {α : Type} {a : StateM Device α} {x : α} (kept : Keeps Device.plan a)
    (reached : s.access a = (x,t)) : t.device.plan = s.device.plan :=
  (congrArg (·.2.device.plan) reached).symm.trans (kept s.device)

variable (s) in
/-- Nothing that is done to the device changes which calls fail. -/
lemma carryOut_plan (c : Command) : (s.carryOut c).2.device.plan = s.device.plan := by
  have clock (word : String) (change : Except Clock.InvalidTimestamp Clock.Timestamp) :
      (s.answerClock word change).2.device.plan = s.device.plan := by
    cases change <;> rfl
  cases c with
  | climateMonitor =>
    unfold carryOut answerMonitor
    dsimp only
    split <;> rfl
  | logDump =>
    unfold carryOut answerLogDump
    dsimp only
    split
    · rfl
    · exact Log.Ring.keeps_readableAt (Place.keeps_plan_read _) _ _
  | logInfo =>
    unfold carryOut answerLogInfo
    dsimp only
    split
    · next found =>
      exact plan_of_access (Log.Ring.keeps_extremes (Place.keeps_plan_read _)) found
    · next found =>
      exact plan_of_access (Log.Ring.keeps_extremes (Place.keeps_plan_read _)) found
  | logClear =>
    unfold carryOut answerLogClear
    dsimp only
    split
    · next cleared =>
      have kept := plan_of_access (Log.Ring.keeps_plan_clear _) cleared
      exact kept
    · next failed => exact plan_of_access (Log.Ring.keeps_plan_clear _) failed
  | setTime hour minute second => exact clock ..
  | setDate year month day => exact clock ..
  | setBlinkRate rate =>
    unfold carryOut answerBlinkRate
    dsimp only
    split <;> rfl
  | setScale flag =>
    unfold carryOut answerScale
    dsimp only
    split <;> rfl
  | setGate index value =>
    unfold carryOut answerGate
    dsimp only
    split
    · rfl
    · split
      · rfl
      · split
        · next failed => exact plan_of_access (Place.keeps_plan_write _ _ _) failed
        · next stored =>
          have kept := plan_of_access (Place.keeps_plan_write _ _ _) stored
          exact kept
  | _ => rfl

variable (s) in
lemma dispatch_plan (channel : Channel) (input : List UInt8) :
    (s.dispatch channel input).2.device.plan = s.device.plan := by
  rw [dispatch_eq]
  cases Command.ofText s.station.strictness input with
  | error e => rfl
  | ok c =>
    unfold obey answer
    dsimp only
    split
    · rfl
    · exact s.carryOut_plan c

/-- Only clearing changes what is in the log. -/
lemma Outcome.entries {config : Config} (h : s.Outcome c t) (other : c ≠ .logClear)
    (inStep : s.held.InStep config) : t.held.entries = s.held.entries := by
  cases h with
  | answer bytes => exact Held.entries_of_bytes rfl bytes
  | logClear => exact absurd rfl other
  | @gate _ _ gates device _ _ stored =>
    have same : SameOutside _ _ s.device.bytes (gates.store [Layout.gates] s.device).2.bytes :=
      gates.store_sameOutside (Layout.fits_gates inStep.size)
    rw [stored] at same
    exact Held.entries_of_sameOutside rfl same (by decide)
  | _ => rfl

/-- On a memory that does not fail, clearing leaves nothing. -/
lemma answerLogClear_entries {config : Config} (inStep : s.held.InStep config)
    (sound : s.device.plan = .sound) : s.answerLogClear.2.held.entries = [] := by
  have cleared : Log.Ring.clear [Layout.log] s.device = _ :=
    Log.Ring.clear_eq (Layout.fits_log inStep.size)
  rw [sound] at cleared
  unfold answerLogClear
  rw [s.access_eq (cleared.trans (if_neg Bool.false_ne_true))]
  exact Log.Ring.contents_empty _

lemma dispatch_entries {config : Config} {channel : Channel} {input : List UInt8}
    (inStep : s.held.InStep config) (sound : s.device.plan = .sound) :
    (s.dispatch channel input).2.held.entries =
      if Command.ofText s.station.strictness input = .ok .logClear then [] else s.held.entries := by
  rw [dispatch_eq]
  cases Command.ofText s.station.strictness input with
  | error e => rfl
  | ok c =>
    by_cases clears : c = .logClear
    · subst clears
      have reached : (s.obey channel (.ok .logClear)).2 = s.answerLogClear.2.markStale :=
        congrArg (·.2.markStale) (s.answer_both channel rfl)
      rw [if_pos rfl,reached,(markStale_outward _).held]
      exact answerLogClear_entries inStep sound
    · rw [if_neg fun same => clears (Except.ok.inj same)]
      exact (s.answer_outcome channel c).entries clears inStep

/-! ## The history -/

variable {found : List Log.Entry}

lemma history_note (s : Site) (e : Effect) (found : List Log.Entry) :
    (s.note e).history found = e.remember s.station.strictness (s.history found) := by
  unfold history note
  rw [List.foldl_append]
  rfl

lemma Outward.history (h : s.Outward t) : t.history found = s.history found := by
  obtain ⟨seen,effects,outward⟩ := h.effects
  have mode : t.station.strictness = s.station.strictness := strictness_of_held (by rw [h.held])
  rw [Site.history,effects,mode,List.foldl_append,Effect.foldl_remember outward,Site.history]

lemma Outcome.history (h : s.Outcome c t) : t.history found = s.history found := by
  cases h with
  | logClear | time | date => exact history_note ..
  | _ => rfl

lemma dispatch_history (channel : Channel) (input : List UInt8) :
    (s.dispatch channel input).2.history found = s.history found := by
  rw [dispatch_eq]
  cases Command.ofText s.station.strictness input with
  | error e => exact s.history_note _ _
  | ok c => exact (s.answer_outcome channel c).history

lemma heard_history (s : Site) (d : Datagram) (found : List Log.Entry) :
    (s.heard d).history found =
      (Effect.received d).remember s.station.strictness (s.history found) := by
  have learned (u : Site) (peer : Network.Endpoint) :
      (u.learnDestination peer).history found = u.history found :=
    @keeps_learnDestination _ (fun u => u.history found) (fun u _ => u.history_note _ _)
      (fun _ _ _ _ => rfl) u peer
  exact (learned ..).trans (s.history_note (.received d) found)

lemma logReading_history (s : Site) (r : Climate.Reading) (found : List Log.Entry) :
    (s.logReading r).history found = s.history found ++ [entryOf s.clock r] := by
  have noted : (s.note (.logAttempt (entryOf s.clock r))).history found = _ := s.history_note _ _
  rcases s.logReading_cases r with ⟨e,device,-,reached⟩ | ⟨log,device,-,reached⟩
  · rw [reached]
    exact noted
  · rw [reached]
    exact (history_note ..).trans noted

/-- The memory does not fail, and the log holds the last of its history. -/
structure Remembers (config : Config) (found : List Log.Entry) (s : Site) : Prop where
  inStep : s.held.InStep config
  sound : s.device.plan = .sound
  entries : s.held.entries = (s.history found).rtake Log.Ring.capacity

namespace Remembers
variable {config : Config}

lemma of_same (h : s.Remembers config found) (held : t.held = s.held)
    (history : t.history found = s.history found) : t.Remembers config found := by
  refine ⟨held ▸ h.inStep,(congrArg (·.device.plan) held).trans h.sound,?_⟩
  rw [held,history]
  exact h.entries

lemma outward (h : s.Remembers config found) (outward : s.Outward t) : t.Remembers config found :=
  h.of_same outward.held outward.history

/-- A text is carried out, once the history tells that it has come. -/
lemma dispatch (es : List Log.Entry) {channel : Channel} {input : List UInt8}
    (inStep : s.held.InStep config) (sound : s.device.plan = .sound)
    (entries : s.held.entries = es.rtake Log.Ring.capacity)
    (history : s.history found =
      if Command.ofText s.station.strictness input = .ok .logClear then [] else es) :
    (s.dispatch channel input).2.Remembers config found := by
  refine ⟨inStep.step (s.dispatch_step channel input),(s.dispatch_plan _ _).trans sound,?_⟩
  rw [dispatch_entries inStep sound,dispatch_history,history,entries]
  split
  · rfl
  · rfl

lemma move (h : s.Remembers config found) (move : Move s t) : t.Remembers config found := by
  cases move with
  | print text => exact h.outward (s.print_outward text)
  | edit => exact h.of_same rfl rfl
  | submit line => exact dispatch _ h.inStep h.sound h.entries (s.history_note _ _)
  | dismiss => exact h.of_same rfl (history_note ..)
  | poll => exact h.of_same rfl rfl
  | link up => exact h.outward (s.observeLink_outward up)
  | hear d =>
    refine dispatch (s.history found) (s.heard_held d ▸ h.inStep.learn d.sender) ?_ ?_ ?_
    · exact (congrArg (·.device.plan) (s.heard_held d)).trans ((s.held.plan_learn _).trans h.sound)
    · rw [s.heard_held d,h.inStep.entries_learn]
      exact h.entries
    · rw [heard_strictness]
      exact s.heard_history d found
  | reply peer text accepted => exact h.outward (s.send_outward _ peer text accepted)
  | refresh => exact h.outward s.refresh_outward

/-- A reading that is given to the log is kept. -/
lemma logReading (h : s.Remembers config found) (r : Climate.Reading) :
    (s.logReading r).Remembers config found := by
  have inStep := h.inStep.step (s.logReading_step r)
  have fits := Layout.fits_log h.inStep.size
  obtain ⟨device,kept,-,plan,-,appended⟩ :=
    (Log.Operation.append (entryOf s.clock r)).step_of_healthy fits h.sound h.inStep.log
  have reached : (s.logReading r).device.plan = .sound ∧ (s.logReading r).held.entries =
      (s.held.entries ++ [entryOf s.clock r]).rtake Log.Ring.capacity := by
    rcases s.logReading_cases r with ⟨e,device',failed,-⟩ | ⟨log,device',ok,reached⟩
    · exact nomatch failed.symm.trans kept
    · obtain ⟨same,rfl⟩ := Prod.mk.inj (ok.symm.trans kept)
      obtain rfl := Except.ok.inj same
      rw [reached]
      exact ⟨plan,appended⟩
  refine ⟨inStep,reached.1,?_⟩
  rw [reached.2,logReading_history,h.entries,Log.Ring.capacity_eq,List.rtake_concat_succ,
    List.rtake_concat_succ,Log.Ring.rtake_rtake _ (by decide)]

lemma beforeKeys (h : s.Remembers config found) (around : Surroundings) :
    (s.beforeKeys around).Remembers config found := by
  have logged {u : Site} (time : Nat) (r : Climate.Reading) (h : u.Remembers config found) :
      (u.logIfDue time r).Remembers config found := by
    unfold logIfDue
    dsimp only
    split
    · refine logReading ?_ r
      exact h.of_same rfl rfl
    · exact h.of_same rfl rfl
  have taken {u : Site} (h : u.Remembers config found) :
      (u.takeSample around).Remembers config found := by
    have noted : (u.note (.sample around.sensor)).Remembers config found :=
      h.of_same rfl (history_note ..)
    unfold takeSample
    dsimp only
    split
    · exact noted.outward ((printMonitored_outward ..).trans (report_outward ..))
    · next r _ =>
      refine logged _ r (outward ?_ ((checkAlarm_outward ..).trans (printMonitored_outward ..)))
      exact noted.of_same rfl rfl
  have ready : (s.beforeSample around).Remembers config found := h.of_same rfl rfl
  rw [beforeKeys_eq]
  split
  · exact taken ready
  · exact ready

lemma pass (h : s.Remembers config found) (around : Surroundings) :
    (s.pass around).Remembers config found :=
  (s.pass_moves around).preserves (h.beforeKeys around) fun _ _ last h => h.move last

theorem run (h : s.Remembers config found) (passes : List Surroundings) :
    (s.run passes).Remembers config found := by
  induction passes generalizing s with
  | nil => exact h
  | cons around passes ih => exact ih (h.pass around)

/-- What the memory holds of the log can be read back. -/
lemma presents (h : s.Remembers config found) : s.station.log.Presents [Layout.log] s.device
    ((s.history found).rtake Log.Ring.capacity) := by
  rw [← h.entries]
  exact Log.Ring.presents_contents (Layout.fits_log h.inStep.size) h.sound h.inStep.log

end Remembers

/-! ## From the start -/

/-- A start finds the entries and does not change them. -/
lemma Loads.entries {h : Held} (loads : s.Loads h) :
    h.device.plan = s.device.plan ∧
      h.entries = Log.Ring.found (Place.view [Layout.log] s.device.bytes) := by
  obtain @⟨log,gates,settings,d₁,d₂,d₃,loadLog,loadGates,loadSettings⟩ := loads
  obtain ⟨size,size₁⟩ := used_le_of_load loadLog loadGates
  obtain ⟨plan₁,-,-,contents⟩ := Log.Ring.load_ok (Layout.fits_log size) loadLog
  obtain ⟨-,-,same⟩ := Alarm.Gates.load_ok (Layout.fits_gates size₁) loadGates
  have plan₂ := Alarm.Gates.keeps_plan_load [Layout.gates] s.station.config.defaultGates d₁
  have plan₃ := Network.Settings.keeps_plan_load [Layout.network] d₂
  have bytes₃ := Network.Settings.keeps_load [Layout.network] d₂
  rw [loadGates] at plan₂
  rw [loadSettings] at plan₃ bytes₃
  refine ⟨plan₃.trans (plan₂.trans plan₁),?_⟩
  rw [← contents]
  unfold Held.entries
  dsimp only at bytes₃ ⊢
  rw [bytes₃]
  exact Log.Ring.contents_of_sameOutside same (by decide) log

lemma start_remembers (started : s.start.1 = .ok ()) (sound : s.device.plan = .sound)
    (new : s.effects = []) : s.start.2.Remembers s.station.config
      (Log.Ring.found (Place.view [Layout.log] s.device.bytes)) := by
  obtain ⟨valid,loads⟩ := start_ok_iff.mp ⟨started,rfl⟩
  obtain ⟨inStep,-⟩ := loads.inStep
  obtain ⟨plan,entries⟩ := loads.entries
  obtain ⟨t,loaded,shown⟩ := start_outward started
  obtain ⟨log,gates,settings,device,same⟩ := s.loadMemory_same
  rw [loaded] at same
  dsimp only at same
  have history (found : List Log.Entry) : s.start.2.history found = found := by
    rw [shown.history,same,history,new]
    rfl
  refine ⟨inStep,plan.trans sound,?_⟩
  rw [history,← entries]
  exact inStep.log.rtake_contents.symm

end Site

/-- Whatever comes in, an entry is given to the log only in a pass that takes a reading, and it is
that reading with the clock of the moment; a failed sample leaves the timer of the log alone. Up to
any moment the log is given at most one entry more than its periods fit into the time, and every
reading is given to it or comes less than a period after one that was. If the memory does not fail,
the log then holds the last 27 entries that it was given since it was cleared last, or, if it never
was, of those that were found at the start and all that it was given. -/
theorem log_keeps_pace (c : Config) (device : Device) (clock : Clock.Timestamp)
    (passes : List Surroundings) (started : (Site.initial c device clock).start.1 = .ok ())
    (ordered : passes.Pairwise fun earlier later => earlier.time ≤ later.time)
    (room : ∀ around ∈ passes, around.time + c.logPeriod.toNat ≤ endOfTime) :
    let period := c.logPeriod.toNat
    let s₀ := (Site.initial c device clock).start.2
    let s := s₀.run passes
    (∀ around, (s.pass around).diary = match s.reading? around with
      | some r => s.diary.read around.time
        ⟨around.clock, r.temperature.toModel.toInt8, r.humidity.toUInt8⟩
      | none => s.diary) ∧
    s.attempts = (s₀.givenIn passes).map Prod.snd ∧
    (∀ limit, ((s₀.givenIn passes).filter (·.1 ≤ limit)).length ≤ limit / period + 1) ∧
    (∀ before around after r, passes = before ++ around :: after →
      (s₀.run before).reading? around = some r →
        ∃ attempt ∈ s₀.givenIn (before ++ [around]),
          attempt.1 ≤ around.time ∧ around.time < attempt.1 + period) ∧
    (device.plan = .sound → s.station.log.Presents [Layout.log] s.device
      ((s.history (Log.Ring.found (Place.view [Layout.log] device.bytes))).rtake 27)) := by
  intro period s₀ s
  have positive : 0 < period := Config.logPeriod_pos (Site.start_ok_iff.mp ⟨started,rfl⟩).1
  have diary₀ : s₀.diary = ⟨.every period,[]⟩ := Site.diary_start started
  have paced₀ : s₀.station.logTimer.Paced period [] := by
    have timer : s₀.station.logTimer = .every period := congrArg Diary.timer diary₀
    rw [timer]
    exact Timer.paced_every positive
  refine ⟨s.pass_diary,?_,fun limit => ?_,?_,fun sound => ?_⟩
  · have given : s.attempts = s₀.attempts ++ (s₀.givenIn passes).map Prod.snd := s₀.run_attempts passes
    have none : s₀.attempts = [] := congrArg Diary.attempts diary₀
    rw [given,none,List.nil_append]
  · have sparse := (Site.run_paced paced₀ positive room).sparse limit
    rw [List.nil_append,List.filter_map,List.length_map] at sparse
    exact sparse
  · rintro before around after r rfl reading
    have inOrder := (List.pairwise_append.mp ordered).2.2
    rw [List.append_cons] at room
    obtain ⟨attempt,given,near⟩ := Site.given_near_reading paced₀ positive
      (List.forall_mem_append.mp room).1 reading
    refine ⟨attempt,given,?_,near⟩
    obtain ⟨around',member,time⟩ := s₀.time_of_mem_givenIn given
    rw [time]
    rcases List.mem_append.mp member with earlier | now
    · exact inOrder around' earlier around List.mem_cons_self
    · rw [List.mem_singleton.mp now]
  · exact ((Site.start_remembers started sound rfl).run passes).presents

/-- The first sample fails, so the second is the first that is logged, on a log that was never used:
twenty-one degrees of 21.5, with the day and the time of the clock. -/
theorem log_keeps_pace_after_failure :
    let device := Device.blank 281
    let clock : Clock.Timestamp := ⟨24,2,29,4,23,59,58⟩
    let around (time : Nat) (sensor : Except Climate.SensorError Climate.Reading) : Surroundings :=
      { time := time
        clock := clock
        keys := []
        localEcho := false
        sensor := sensor
        linkUp := false
        datagram := none
        accepts := fun _ => true }
    let r : Climate.Reading := ⟨21.5,40⟩
    let failing := around 0 (.error .timeout)
    let reading := around 5000 (.ok r)
    let s₀ := (Site.initial .default device clock).start.2
    let s := s₀.run [failing,reading]
    (Site.initial .default device clock).start.1 = .ok () ∧
    (s₀.run [failing]).reading? reading = some r ∧ (s₀.run [failing]).attempts = [] ∧
    s.attempts = [⟨⟨24,2,29,4,23,59,58⟩,21,40⟩] ∧
    (∃ attempt ∈ s₀.givenIn [failing,reading],
      attempt.1 ≤ 5000 ∧ 5000 < attempt.1 + Config.default.logPeriod.toNat) ∧
    s.station.log.Presents [Layout.log] s.device [⟨⟨24,2,29,4,23,59,58⟩,21,40⟩] := by
  intro device clock around r failing reading s₀ s
  have started : (Site.initial .default device clock).start.1 = .ok () := by
    decide +kernel
  have due : ((s₀.run [failing]).station.sampleTimer.poll reading.time).1 = true := by
    decide +kernel
  have read : (s₀.run [failing]).reading? reading = some r := if_pos due
  have none : (s₀.run [failing]).attempts = [] := by decide +kernel
  have ordered : [failing,reading].Pairwise fun earlier later => earlier.time ≤ later.time := by
    simp [failing, reading, around]
  have room : ∀ around ∈ [failing,reading],
      around.time + Config.default.logPeriod.toNat ≤ endOfTime := by
    have late : reading.time + Config.default.logPeriod.toNat ≤ endOfTime := by decide
    exact List.forall_mem_cons.mpr ⟨Nat.le_trans (by decide) late,List.forall_mem_singleton.mpr late⟩
  obtain ⟨-,given,-,near,presents⟩ :=
    log_keeps_pace .default device clock [failing,reading] started ordered room
  have healthy : device.plan = .sound := rfl
  have entry : (s₀.givenIn [failing,reading]).map Prod.snd = [⟨clock,21,40⟩] := by decide +kernel
  have history : (s.history (Log.Ring.found (Place.view [Layout.log] device.bytes))).rtake 27 =
      [⟨clock,21,40⟩] := by decide +kernel
  refine ⟨started,read,none,given.trans entry,near [failing] reading [] r rfl read,?_⟩
  have held := presents healthy
  dsimp only [s,s₀] at history ⊢
  rw [history] at held
  exact held

end ClimateStation
