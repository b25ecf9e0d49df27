import ClimateStation.Proofs.Station.Course
import ClimateStation.Proofs.Timer

/-! When a running station gives an entry to the log. Its timer is asked at readings only, so a failed
sample does not use up a moment to log; and whatever else a pass does leaves the timer alone and
gives nothing to the log. So a run logs as often as the timer is due, and no reading is a whole
period away from the entry before it. -/
namespace ClimateStation
open Storage

/-- The entry that is given to the log. -/
def Effect.attempt? : Effect → Option Log.Entry
  | .logAttempt entry => some entry
  | _ => none

lemma Effect.attempt?_of_isOutward {e : Effect} (h : e.isOutward = true) : e.attempt? = none := by
  cases e <;> first | rfl | exact nomatch h

/-- The timer of the log, with the entries that the log was given. -/
structure Diary where
  timer : Timer
  attempts : List Log.Entry

/-- A reading comes, which is given to the log if the timer is due. -/
def Diary.read (d : Diary) (time : Nat) (entry : Log.Entry) : Diary :=
  { timer := (d.timer.poll time).2
    attempts := d.attempts ++ if (d.timer.poll time).1 = true then [entry] else [] }

namespace Site

/-- The entries that were given to the log so far, whether or not it kept them. -/
def attempts (s : Site) : List Log.Entry := s.effects.filterMap Effect.attempt?

def diary (s : Site) : Diary := ⟨s.station.logTimer,s.attempts⟩

/-- The reading that a pass takes: none, if it is not time for a sample or the sample fails. -/
def reading? (s : Site) (around : Surroundings) : Option Climate.Reading :=
  if (s.station.sampleTimer.poll around.time).1 = true then around.sensor.toOption else none

/-- What a pass gives to the log, if it is time to log: the clock with its reading, which loses its
fractions. -/
def given (s : Site) (around : Surroundings) : List Log.Entry :=
  match s.reading? around with
  | some r =>
    if (s.station.logTimer.poll around.time).1 = true then
      [⟨around.clock, r.temperature.toModel.toInt8, r.humidity.toUInt8⟩]
    else []
  | none => []

/-- What a run gives to the log, with the time of each pass that does. -/
def givenIn (s : Site) : List Surroundings → List (Nat × Log.Entry)
  | [] => []
  | around :: passes =>
    (s.given around).map (around.time,·) ++ (s.pass around).givenIn passes

variable (s : Site)

/-! ## Everything else -/

lemma diary_note {e : Effect} (other : e.attempt? = none) : (s.note e).diary = s.diary := by
  have same : (s.note e).attempts = s.attempts := by simp [attempts,note,other]
  unfold diary
  rw [same]
  rfl

lemma Outward.diary {s t : Site} (h : s.Outward t) : t.diary = s.diary := by
  have given : t.attempts = s.attempts := by
    obtain ⟨seen,effects,outward⟩ := h.effects
    have nothing : seen.filterMap Effect.attempt? = [] :=
      List.filterMap_eq_nil_iff.mpr fun e member =>
        Effect.attempt?_of_isOutward (outward e member)
    rw [attempts,effects,List.filterMap_append,nothing,List.append_nil,attempts]
  unfold Site.diary
  rw [given,h.same]

lemma diary_learnDestination (peer : Network.Endpoint) :
    (s.learnDestination peer).diary = s.diary :=
  keeps_learnDestination (fun u _ => u.diary_note rfl) (fun _ _ _ _ => rfl) s peer

variable {s} {t : Site}

/-- No command has to do with it, and clearing the log no more than others. -/
lemma Outcome.diary {c : Command} (h : s.Outcome c t) : t.diary = s.diary := by
  cases h with
  | logClear | time | date => exact diary_note _ rfl
  | _ => rfl

variable (s) in
lemma diary_dispatch (channel : Channel) (input : List UInt8) :
    (s.dispatch channel input).2.diary = s.diary := by
  rw [dispatch_eq]
  cases Command.ofText s.station.strictness input with
  | error e => exact s.diary_note rfl
  | ok c => exact (s.answer_outcome channel c).diary

lemma Move.diary (move : Move s t) : t.diary = s.diary := by
  cases move with
  | print text => exact (s.print_outward text).diary
  | edit => rfl
  | submit line => exact (diary_dispatch ..).trans (s.diary_note rfl)
  | dismiss => exact diary_note _ rfl
  | poll => rfl
  | link up => exact (s.observeLink_outward up).diary
  | hear d =>
    exact ((diary_dispatch ..).trans (diary_learnDestination ..)).trans (s.diary_note rfl)
  | reply peer text accepted => exact (s.send_outward _ peer text accepted).diary
  | refresh => exact s.refresh_outward.diary

/-! ## Samples -/

variable (s)

lemma diary_logReading (r : Climate.Reading) : (s.logReading r).diary =
    ⟨s.station.logTimer,s.attempts ++ [entryOf s.clock r]⟩ := by
  have noted : (s.note (.logAttempt (entryOf s.clock r))).diary =
      ⟨s.station.logTimer,s.attempts ++ [entryOf s.clock r]⟩ := by
    simp [diary, attempts, note, Effect.attempt?]
  rcases s.logReading_cases r with ⟨e,device,-,reached⟩ | ⟨log,device,-,reached⟩
  · rw [reached]
    exact noted
  · rw [reached]
    exact (diary_note _ rfl).trans noted

lemma diary_logIfDue (time : Nat) (r : Climate.Reading) :
    (s.logIfDue time r).diary = s.diary.read time (entryOf s.clock r) := by
  unfold logIfDue Diary.read diary
  dsimp only
  split
  · exact diary_logReading _ r
  · rw [List.append_nil]
    rfl

lemma diary_takeSample (around : Surroundings) : (s.takeSample around).diary =
    match around.sensor with
    | .error _ => s.diary
    | .ok r => s.diary.read around.time (entryOf s.clock r) := by
  unfold takeSample
  dsimp only
  cases around.sensor with
  | error e =>
    exact ((printMonitored_outward ..).trans (report_outward ..)).diary.trans (s.diary_note rfl)
  | ok r =>
    dsimp only
    have read : { s.note (.sample (.ok r)) with station.display.latest := r }.diary = s.diary :=
      s.diary_note rfl
    rw [diary_logIfDue,(printMonitored_outward ..).diary,(printMonitored_outward ..).clock,
      (checkAlarm_outward ..).diary,(checkAlarm_outward ..).clock,read]
    rfl

/-- A pass asks the timer and gives an entry to the log only when it takes a reading. -/
theorem pass_diary (around : Surroundings) : (s.pass around).diary =
    match s.reading? around with
    | some r => s.diary.read around.time
      ⟨around.clock, r.temperature.toModel.toInt8, r.humidity.toUInt8⟩
    | none => s.diary := by
  have sampled : (s.pass around).diary = (s.beforeKeys around).diary :=
    (s.pass_moves around).keeps fun _ _ move => move.diary
  rw [sampled,beforeKeys_eq]
  unfold reading?
  split
  · rw [diary_takeSample]
    cases around.sensor <;> rfl
  · rfl

lemma pass_attempts (around : Surroundings) :
    (s.pass around).attempts = s.attempts ++ s.given around := by
  have passed := congrArg Diary.attempts (s.pass_diary around)
  unfold given
  cases reading : s.reading? around with
  | some r =>
    rw [reading] at passed
    exact passed
  | none =>
    rw [reading] at passed
    rw [List.append_nil]
    exact passed

/-! ## Runs -/

theorem run_attempts (passes : List Surroundings) :
    (s.run passes).attempts = s.attempts ++ (s.givenIn passes).map Prod.snd := by
  induction passes generalizing s with
  | nil => exact (List.append_nil _).symm
  | cons around passes ih =>
    have one : ((s.given around).map (around.time,·)).map Prod.snd = s.given around := by
      rw [List.map_map]
      exact List.map_id _
    refine (ih (s.pass around)).trans ?_
    rw [pass_attempts,givenIn,List.map_append,one,List.append_assoc]

lemma givenIn_append (before after : List Surroundings) :
    s.givenIn (before ++ after) = s.givenIn before ++ (s.run before).givenIn after := by
  induction before generalizing s with
  | nil => rfl
  | cons around before ih =>
    rw [List.cons_append,givenIn,givenIn,ih,List.append_assoc]
    rfl

/-- An entry is given to the log in one of the passes. -/
lemma time_of_mem_givenIn {passes : List Surroundings} {attempt : Nat × Log.Entry}
    (given : attempt ∈ s.givenIn passes) : ∃ around ∈ passes, attempt.1 = around.time := by
  induction passes generalizing s with
  | nil => exact nomatch given
  | cons around passes ih =>
    rcases List.mem_append.mp given with now | later
    · obtain ⟨entry,-,rfl⟩ := List.mem_map.mp now
      exact ⟨around,List.mem_cons_self,rfl⟩
    · obtain ⟨around',member,time⟩ := ih _ later
      exact ⟨around',List.mem_cons_of_mem _ member,time⟩

variable {s} {period : Nat} {ticks : List Nat}

/-- What a pass does to the timer of the log. If it takes a reading, the timer was due less than a
period ago, at the latest just now. -/
lemma pass_paced (paced : s.station.logTimer.Paced period ticks) (positive : 0 < period)
    {around : Surroundings} (room : around.time + period ≤ endOfTime) :
    let ticks' := ticks ++ (s.givenIn [around]).map Prod.fst
    (s.pass around).station.logTimer.Paced period ticks' ∧
      ∀ r, s.reading? around = some r → ∃ tick ∈ ticks', around.time < tick + period := by
  have passed := congrArg Diary.timer (s.pass_diary around)
  have polled := paced.poll positive room
  have given : (s.givenIn [around]).map Prod.fst = (s.given around).map fun _ => around.time := by
    simp [givenIn, Function.comp_def]
  rw [given]
  unfold Site.given
  cases reading : s.reading? around with
  | some r =>
    rw [reading] at passed
    have timer : (s.pass around).station.logTimer = (s.station.logTimer.poll around.time).2 := passed
    rw [timer]
    have same (entry : Log.Entry) :
        ((if (s.station.logTimer.poll around.time).1 = true then [entry] else []).map
          fun _ => around.time) =
          if (s.station.logTimer.poll around.time).1 = true then [around.time] else [] := by
      split <;> rfl
    dsimp only
    rw [same]
    exact ⟨polled.1,fun _ _ => polled.2⟩
  | none =>
    rw [reading] at passed
    have timer : (s.pass around).station.logTimer = s.station.logTimer := passed
    rw [timer]
    dsimp only
    rw [List.map_nil,List.append_nil]
    exact ⟨paced,nofun⟩

/-- The timer of the log is due exactly when an entry is given to the log. -/
theorem run_paced (paced : s.station.logTimer.Paced period ticks) (positive : 0 < period)
    {passes : List Surroundings} (room : ∀ around ∈ passes, around.time + period ≤ endOfTime) :
    (s.run passes).station.logTimer.Paced period (ticks ++ (s.givenIn passes).map Prod.fst) := by
  induction passes generalizing s ticks with
  | nil =>
    rw [givenIn,List.map_nil,List.append_nil]
    exact paced
  | cons around passes ih =>
    obtain ⟨now,later⟩ := List.forall_mem_cons.mp room
    have ran := ih (pass_paced paced positive now).1 later
    rw [← List.singleton_append,givenIn_append,List.map_append,← List.append_assoc]
    exact ran

/-- No reading is a whole period away from what the log was given before it. -/
lemma given_near_reading (paced : s.station.logTimer.Paced period []) (positive : 0 < period)
    {before : List Surroundings} {around : Surroundings} {r : Climate.Reading}
    (room : ∀ around' ∈ before ++ [around], around'.time + period ≤ endOfTime)
    (reading : (s.run before).reading? around = some r) :
    ∃ attempt ∈ s.givenIn (before ++ [around]), around.time < attempt.1 + period := by
  obtain ⟨earlier,now⟩ := List.forall_mem_append.mp room
  have ran := run_paced paced positive earlier
  obtain ⟨tick,member,near⟩ :=
    (pass_paced ran positive (now around (List.mem_singleton_self _))).2 r reading
  rw [List.nil_append,← List.map_append,← givenIn_append] at member
  obtain ⟨attempt,given,rfl⟩ := List.mem_map.mp member
  exact ⟨attempt,given,near⟩

/-! ## From the start -/

/-- Once the memory was read, a start only lets things be seen. -/
lemma start_outward (started : s.start.1 = .ok ()) :
    ∃ t, s.loadMemory = (.ok (),t) ∧ t.Outward s.start.2 := by
  unfold start at started ⊢
  cases valid : s.station.config.validate with
  | error e =>
    rw [valid] at started
    exact nomatch started
  | ok _ =>
    rw [valid] at started
    rcases loaded : s.loadMemory with ⟨e | _,t⟩
    · rw [loaded] at started
      exact nomatch started
    · refine ⟨t,rfl,?_⟩
      have lit := t.lightUp_outward.trans (refresh_outward _)
      exact (lit.trans (report_outward ..)).trans ((print_outward ..).trans (printPrompt_outward _))

lemma diary_start (started : s.start.1 = .ok ()) : s.start.2.diary = s.diary := by
  obtain ⟨t,loaded,shown⟩ := start_outward started
  obtain ⟨log,gates,settings,device,same⟩ := s.loadMemory_same
  rw [loaded] at same
  dsimp only at same
  rw [shown.diary,same]
  rfl

end Site

/-- A configuration that passes its checks leaves some time between two entries. -/
lemma Config.logPeriod_pos {c : Config} (valid : c.validate = .ok ()) : 0 < c.logPeriod.toNat := by
  have none : c.violation? = none := by
    unfold validate at valid
    split at valid
    · exact nomatch valid
    · assumption
  have sound := c.violation?_eq_none_iff.mp none
  have sampled : c.samplePeriod ≠ 0 := sound .samplePeriodZero
  have long : ¬c.logPeriod < c.samplePeriod := sound .logPeriodTooShort
  rw [UInt32.lt_iff_toNat_lt] at long
  have positive : c.samplePeriod.toNat ≠ 0 := fun zero => sampled (UInt32.toNat_inj.mp zero)
  omega

end ClimateStation
