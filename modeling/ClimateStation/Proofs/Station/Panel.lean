import ClimateStation.Light.Strip
import ClimateStation.Proofs.Station.Course
import ClimateStation.Proofs.Station.Parts

/-! The lights of a running station. Blinking, another alarm level, a command and the link are all
that can change them. Commands have the first light to themselves, so the others always tell what
they stand for; and whatever changes a light asks for the strip to be brought up to date, which the
pass does before it ends. -/
namespace ClimateStation

/-- A light that is on in a colour. -/
def Light.steady (c : Colour) : Light := ⟨.on,c,c⟩

namespace Alarm.Level

/-- The light of the alarm as it has to be at a level. -/
structure ShownBy (level : Level) (l : Light) : Prop where
  remembered : l.remembered = level.colour
  calm : level = .comfortable → l.mode = .on ∧ l.shown = level.colour
  alert : level ≠ .comfortable → l.mode = .blink ∧ (l.shown = level.colour ∨ l.shown = .black)

variable {level : Level} {l : Light}

lemma ShownBy.flip (shown : level.ShownBy l) : level.ShownBy l.flip := by
  unfold Light.flip
  split
  · next blinks =>
    refine ⟨shown.remembered,fun calm => ?_,fun _ => ⟨blinks,?_⟩⟩
    · exact nomatch blinks.symm.trans (shown.calm calm).1
    · dsimp only
      split
      · exact .inr rfl
      · exact .inl shown.remembered
  · exact shown

variable (level l)

/-- Entering a level leaves nothing of what the light was before. -/
lemma shownBy_entered : level.ShownBy ((l.paint level.colour).switch level.urgency.lightMode) := by
  cases level with
  | comfortable => exact ⟨rfl,fun _ => ⟨rfl,rfl⟩,fun other => absurd rfl other⟩
  | _ => exact ⟨rfl,nofun,fun _ => ⟨rfl,.inl rfl⟩⟩

end Alarm.Level

namespace Light
variable {c : Colour}

lemma flip_steady (c : Colour) : (steady c).flip = steady c := rfl

lemma paint_steady (c : Colour) {new : Colour} (bright : 1 < new.brightness) :
    (steady c).paint new = steady new := by
  unfold paint
  rw [if_pos bright]
  rfl

namespace Strip

lemma latch_frame (strip frame : Frame) : latch strip frame.toList = frame := by
  ext i hi
  simp [latch]

end Strip

namespace Bank
variable {b : Bank} {role : Role}

lemma light_initial (rate : UInt16) (role : Role) : (initial rate).light role = .initial :=
  Vector.getElem_replicate ..

lemma light_tick_steady (time : Nat) (on : b.light role = steady c) :
    (b.tick time).light role = steady c := by
  rw [light_tick,on,flip_steady,ite_self]

end Bank
end Light

/-- The lights of a station, what they stand for, and the colours that were latched last. -/
@[ext]
structure Panel where
  lights : Light.Bank
  level : Alarm.Level
  up : Bool
  stale : Bool
  latched : Option Frame

lemma Command.eq_user_of_touches {c : Command} {role : Light.Role}
    (touches : c.Touches (.light role)) : role = .user := by
  cases c with
  | lightMode | lightColour => exact touches
  | _ => exact touches.elim

namespace Panel

/-- At a station that was not started yet. -/
def initial (rate : UInt16) : Panel := ⟨.initial rate,.comfortable,false,true,none⟩

/-- Something that is done to the lights. -/
inductive Step (p : Panel) : Panel → Prop
  | tick (time : Nat) : Step p { p with
      lights := p.lights.tick time
      stale := p.stale || p.lights.changes time }
  | level (level : Alarm.Level) : Step p { p with
      level
      lights := (p.lights.paint .alarm level.colour).switch .alarm level.urgency.lightMode
      stale := true }
  /-- A command has the user's light to itself. -/
  | command {lights : Light.Bank} (others : ∀ role, role ≠ .user →
      lights.light role = p.lights.light role) : Step p { p with lights, stale := true }
  | link (up : Bool) : Step p { p with
      up
      lights := p.lights.paint .network (Station.linkColour up)
      stale := true }
  | refresh : Step p { p with stale := false, latched := some p.lights.frame }

abbrev Steps : Panel → Panel → Prop := Relation.ReflTransGen Step

/-- The lights beside the user's tell the state of the station. -/
structure Truthful (p : Panel) : Prop where
  power : p.lights.light .power = .steady ⟨0,50,0⟩
  alarm : p.level.ShownBy (p.lights.light .alarm)
  network : p.lights.light .network = .steady (if p.up then ⟨0,50,0⟩ else ⟨50,0,0⟩)

/-- If the strip is not said to be behind, the lights are what was latched last. -/
def Current (p : Panel) : Prop := p.stale = false → p.latched = some p.lights.frame

variable {p q : Panel}

theorem Step.truthful (step : Step p q) (truthful : p.Truthful) : q.Truthful := by
  obtain ⟨power,alarm,network⟩ := truthful
  cases step with
  | tick time =>
    refine ⟨Light.Bank.light_tick_steady time power,?_,Light.Bank.light_tick_steady time network⟩
    dsimp only
    rw [Light.Bank.light_tick]
    split
    · exact alarm.flip
    · exact alarm
  | level level =>
    refine ⟨?_,?_,?_⟩
    · simpa [Light.Bank.light_switch, Light.Bank.light_paint] using power
    · simpa [Light.Bank.light_switch, Light.Bank.light_paint] using level.shownBy_entered _
    · simpa [Light.Bank.light_switch, Light.Bank.light_paint] using network
  | command others =>
    exact ⟨(others .power nofun).trans power,others .alarm nofun ▸ alarm,
      (others .network nofun).trans network⟩
  | link up =>
    refine ⟨?_,?_,?_⟩
    · simpa [Light.Bank.light_paint] using power
    · simpa [Light.Bank.light_paint] using alarm
    · have bright : 1 < (Station.linkColour up).brightness := by cases up <;> decide
      rw [Light.Bank.light_paint,if_pos rfl,network,Light.paint_steady _ bright]
      rfl
  | refresh => exact ⟨power,alarm,network⟩

theorem Step.current (step : Step p q) (current : p.Current) : q.Current := by
  cases step with
  | tick time =>
    intro fresh
    obtain ⟨still,same⟩ := Bool.or_eq_false_iff.mp fresh
    rw [current still]
    exact congrArg some ((p.lights.changes_eq_false_iff time).mp same).symm
  | level | command | link => exact nofun
  | refresh => exact fun _ => rfl

theorem Steps.truthful (steps : Steps p q) (truthful : p.Truthful) : q.Truthful := by
  induction steps with
  | refl => exact truthful
  | tail _ step ih => exact step.truthful ih

theorem Steps.current (steps : Steps p q) (current : p.Current) : q.Current := by
  induction steps with
  | refl => exact current
  | tail _ step ih => exact step.current ih

end Panel

/-- The colours that are latched. -/
def Effect.frame? : Effect → Option Frame
  | .show frame => some frame
  | _ => none

namespace Site

/-- The frames that were latched so far. -/
def frames (s : Site) : List Frame := s.effects.filterMap Effect.frame?

/-- What the strip shows, after all that was latched onto it. -/
def strip (s : Site) : Frame :=
  s.frames.foldl (fun strip frame => Light.Strip.latch strip frame.toList) Light.Strip.dark

def panel (s : Site) : Panel :=
  { lights := s.station.lights
    level := s.station.level
    up := s.station.link.up
    stale := s.station.stale
    latched := s.frames.getLast? }

variable (s : Site)

/-- Each frame covers the whole strip. -/
lemma strip_eq : s.strip = s.frames.getLast?.getD Light.Strip.dark := by
  have covers (strip : Frame) (frames : List Frame) :
      frames.foldl (fun strip frame => Light.Strip.latch strip frame.toList) strip =
        frames.getLast?.getD strip := by
    induction frames generalizing strip with
    | nil => rfl
    | cons frame frames ih =>
      rw [List.foldl_cons,Light.Strip.latch_frame,ih,List.getLast?_cons,Option.getD_some]
  exact covers _ _

/-! ## Everything else -/

lemma panel_note {e : Effect} (other : e.frame? = none) : (s.note e).panel = s.panel := by
  have same : (s.note e).frames = s.frames := by
    simp [frames,note,other]
  unfold panel
  rw [same]
  rfl

lemma panel_print (text : String) : (s.print text).panel = s.panel :=
  keeps_print (fun u _ => u.panel_note rfl) s text

lemma panel_printMonitored (line : String) : (s.printMonitored line).panel = s.panel :=
  keeps_printMonitored (fun u _ => u.panel_note rfl) s line

lemma panel_send (purpose : Purpose) (peer : Network.Endpoint) (text : Datagram.Reply)
    (accepted : Bool) : (s.send purpose peer text accepted).panel = s.panel := by
  unfold send
  dsimp only
  split
  · exact s.panel_note rfl
  · exact s.panel_note rfl

lemma panel_learnDestination (peer : Network.Endpoint) :
    (s.learnDestination peer).panel = s.panel :=
  keeps_learnDestination (fun u _ => u.panel_note rfl) (fun _ _ _ _ => rfl) s peer

lemma panel_logIfDue (time : Nat) (r : Climate.Reading) : (s.logIfDue time r).panel = s.panel :=
  keeps_logIfDue (fun u _ => u.panel_note rfl) (fun u _ _ => u.panel_note rfl)
    (fun _ _ _ _ => rfl) s time r

/-! ## What is done to the lights -/

variable {s} {t : Site} in
lemma Outcome.frames {c : Command} (h : s.Outcome c t) : t.frames = s.frames := by
  cases h with
  | logClear | time | date => exact List.filterMap_append.trans (List.append_nil _)
  | _ => rfl

/-- Whatever a text is taken for, on either channel. -/
lemma dispatch_light (channel : Channel) (input : List UInt8) {role : Light.Role}
    (ne : role ≠ .user) :
    (s.dispatch channel input).2.station.lights.light role = s.station.lights.light role := by
  cases meaning : Command.ofText s.station.strictness input with
  | error e =>
    rw [dispatch_rejected meaning]
    rfl
  | ok c =>
    exact dispatch_frame (p := .light role) meaning fun touches =>
      ne (Command.eq_user_of_touches touches)

lemma dispatch_panel (channel : Channel) (input : List UInt8) :
    Panel.Steps s.panel (s.dispatch channel input).2.panel := by
  cases meaning : Command.ofText s.station.strictness input with
  | error e =>
    rw [dispatch_rejected meaning,report,panel_note _ rfl]
  | ok c =>
    have level : (s.dispatch channel input).2.station.level = s.station.level :=
      dispatch_frame (p := .level) meaning (by cases c <;> exact id)
    have link : (s.dispatch channel input).2.station.link = s.station.link :=
      dispatch_frame (p := .link) meaning (by cases c <;> exact id)
    have understood : (s.dispatch channel input).2 = (s.answer channel c).2.markStale :=
      dispatch_understood meaning
    have frames : (s.dispatch channel input).2.frames = s.frames := by
      rw [understood]
      exact (s.answer_outcome channel c).frames
    have reached : (s.dispatch channel input).2.panel = { s.panel with
        lights := (s.dispatch channel input).2.station.lights
        stale := true } := by
      refine Panel.ext rfl level (congrArg Link.up link) ?_ (congrArg List.getLast? frames)
      rw [understood]
      rfl
    rw [reached]
    exact .single (.command fun _ ne => s.dispatch_light channel input ne)

lemma observeLink_panel (up : Bool) : Panel.Steps s.panel (s.observeLink up).panel := by
  unfold observeLink
  split
  · exact .refl
  · rw [report,panel_note _ rfl]
    exact .single (.link up)

lemma refresh_panel : Panel.Steps s.panel s.refresh.panel := by
  unfold refresh
  split
  · have reached : ({ s with station.stale := false }.note (.show s.station.lights.frame)).panel =
        { s.panel with stale := false, latched := some s.station.lights.frame } := by
      simp [panel, frames, note, Effect.frame?]
    rw [reached]
    exact .single .refresh
  · exact .refl

lemma stale_refresh : s.refresh.station.stale = false := by
  unfold refresh
  split
  · rfl
  · next fresh => exact Bool.eq_false_iff.mpr fresh

lemma checkAlarm_panel (accepted : Bool) : Panel.Steps s.panel (s.checkAlarm accepted).panel := by
  unfold checkAlarm
  split
  · next level _ =>
    have entered : (s.enterLevel level accepted).panel = { s.panel with
        level
        lights := (s.station.lights.paint .alarm level.colour).switch .alarm
          level.urgency.lightMode
        stale := true } := by
      unfold enterLevel
      dsimp only
      rw [report,panel_note _ rfl]
      split
      · rw [panel_send]
        rfl
      · rfl
    rw [entered]
    exact .single (.level level)
  · exact .refl

lemma takeSample_panel (around : Surroundings) :
    Panel.Steps s.panel (s.takeSample around).panel := by
  have noted : (s.note (.sample around.sensor)).panel = s.panel := s.panel_note rfl
  unfold takeSample
  dsimp only
  split
  · rw [report,panel_note _ rfl,panel_printMonitored,noted]
  · next r _ =>
    rw [panel_logIfDue,panel_printMonitored]
    refine .trans ?_ (checkAlarm_panel _ _)
    exact noted ▸ .refl

lemma beforeKeys_panel (around : Surroundings) :
    Panel.Steps s.panel (s.beforeKeys around).panel := by
  have ticked : Panel.Step s.panel (s.beforeSample around).panel := .tick around.time
  rw [beforeKeys_eq]
  split
  · exact .head ticked (takeSample_panel ..)
  · exact .single ticked

lemma Move.panel_steps {s t : Site} (move : Move s t) : Panel.Steps s.panel t.panel := by
  cases move with
  | print text => rw [panel_print]
  | edit => exact .refl
  | submit line =>
    rw [← s.panel_note (e := .submitted line) rfl]
    exact dispatch_panel ..
  | dismiss =>
    rw [panel_note _ rfl]
    exact .refl
  | poll => exact .refl
  | link up => exact s.observeLink_panel up
  | hear d =>
    have heard : (s.heard d).panel = s.panel :=
      (panel_learnDestination ..).trans (s.panel_note rfl)
    rw [← heard]
    exact dispatch_panel ..
  | reply => rw [panel_send]
  | refresh => exact s.refresh_panel

/-- Whatever comes in during a pass, this is all that is done to the lights. -/
theorem pass_panel (around : Surroundings) : Panel.Steps s.panel (s.pass around).panel :=
  (s.pass_moves around).preserves (s.beforeKeys_panel around)
    fun _ _ move steps => Relation.ReflTransGen.trans steps move.panel_steps

theorem run_panel (passes : List Surroundings) : Panel.Steps s.panel (s.run passes).panel := by
  induction passes generalizing s with
  | nil => exact .refl
  | cons around passes ih => exact (s.pass_panel around).trans (ih _)

variable {s} in
/-- The last thing a pass does is to bring the strip up to date. -/
lemma stale_run (shown : s.station.stale = false) (passes : List Surroundings) :
    (s.run passes).station.stale = false := by
  induction passes generalizing s with
  | nil => exact shown
  | cons around passes ih => exact ih (stale_refresh _)

/-! ## From the start -/

lemma panel_loadMemory : s.loadMemory.2.panel = s.panel := by
  obtain ⟨log,gates,settings,device,same⟩ := s.loadMemory_same
  rw [same]
  rfl

variable {s}

lemma lightUp_truthful {rate : UInt16} (new : s.panel = .initial rate) : s.lightUp.panel.Truthful := by
  have lit : s.lightUp.panel = { s.panel with
      lights := ((s.panel.lights.paint .power Station.powerColour).paint .alarm
        s.panel.level.colour).paint .network Station.linkDownColour } := rfl
  rw [lit,new]
  refine ⟨?_,?_,?_⟩ <;> simp only [Panel.initial, Light.Bank.light_paint, Light.Bank.light_initial,
    reduceCtorEq, if_false, if_true]
  · rfl
  · exact Alarm.Level.shownBy_entered .comfortable .initial
  · rfl

/-- A start that succeeds lights up and brings the strip up to date. -/
lemma start_panel {rate : UInt16} (new : s.panel = .initial rate) (started : s.start.1 = .ok ()) :
    s.start.2.panel.Truthful ∧ s.start.2.panel.Current ∧ s.start.2.panel.stale = false := by
  have loaded := s.panel_loadMemory
  unfold start at started ⊢
  cases valid : s.station.config.validate with
  | error e =>
    rw [valid] at started
    cases started
  | ok _ =>
    rw [valid] at started
    rcases h : s.loadMemory with ⟨e | _,t⟩
    · rw [h] at started
      cases started
    · rw [h] at loaded
      dsimp only at loaded ⊢
      rw [printPrompt,panel_print,panel_print,report,panel_note _ rfl]
      have stale : t.station.stale = true := congrArg Panel.stale (loaded.trans new)
      have behind : t.lightUp.panel.Current := fun fresh => absurd (stale.symm.trans fresh) (by decide)
      exact ⟨t.lightUp.refresh_panel.truthful (lightUp_truthful (loaded.trans new)),
        t.lightUp.refresh_panel.current behind,t.lightUp.stale_refresh⟩

end Site

/-- Whatever comes in and whatever fails, the light of the power is on in its colour, the light of
the alarm is on in the colour of a comfortable level or blinks in that of another one, and the light
of the network is on in the colour of the link as it was seen last. No command changes any of them,
on either channel and at any station. -/
theorem status_lights_tell_truth (c : Config) (device : Storage.Device) (clock : Clock.Timestamp)
    (started : (Site.initial c device clock).start.1 = .ok ()) (passes : List Surroundings) :
    ((Site.initial c device clock).start.2.run passes).panel.Truthful ∧
    ∀ (s : Site) (channel : Channel) (input : List UInt8) (role : Light.Role), role ≠ .user →
      (s.dispatch channel input).2.station.lights.light role = s.station.lights.light role := by
  have new : (Site.initial c device clock).panel = .initial c.blinkRate := rfl
  have truthful := (Site.start_panel new started).1
  exact ⟨(Site.run_panel _ passes).truthful truthful,
    fun s channel input _ ne => s.dispatch_light channel input ne⟩

/-- A command at the user's light while the link comes up, on a memory that fails every read but the
three of the start. -/
theorem status_lights_tell_truth_linked :
    let device : Storage.Device :=
      { Storage.Device.blank 281 with plan := ⟨fun n => n > 2,fun _ => false⟩ }
    let clock : Clock.Timestamp := ⟨24,2,29,4,23,59,58⟩
    let around : Surroundings :=
      { time := 500
        clock := clock
        keys := Text.bytesOf ['l','e','d',' ','b','l','i','n','k','\r']
        localEcho := false
        sensor := .error .timeout
        linkUp := true
        datagram := none
        accepts := fun _ => true }
    let s := (Site.initial .default device clock).start.2.run [around,around]
    (Site.initial .default device clock).start.1 = .ok () ∧
      (s.station.lights.light .user).mode = .blink ∧ s.panel.up = true ∧ s.panel.Truthful := by
  intro device clock around s
  have started : (Site.initial .default device clock).start.1 = .ok () := by
    decide +revert +kernel
  have blinks : (s.station.lights.light .user).mode = .blink := by decide +revert +kernel
  have up : s.panel.up = true := by decide +revert +kernel
  obtain ⟨truthful,-⟩ := status_lights_tell_truth .default device clock started [around,around]
  exact ⟨started,blinks,up,truthful⟩

/-- After a start that succeeded, and after every pass, whatever comes in and whatever fails, the
colours latched last are those of the lights, and the strip shows for each light what it is said to
show. -/
theorem strip_shows_lights (c : Config) (device : Storage.Device) (clock : Clock.Timestamp)
    (started : (Site.initial c device clock).start.1 = .ok ()) (passes : List Surroundings) :
    let s := (Site.initial c device clock).start.2.run passes
    s.frames.getLast? = some s.station.lights.frame ∧
    ∀ role : Light.Role,
      s.strip.get ⟨role.index,role.index_lt⟩ = (s.station.lights.light role).shown := by
  intro s
  have new : (Site.initial c device clock).panel = .initial c.blinkRate := rfl
  obtain ⟨-,current,shown⟩ := Site.start_panel new started
  have now : s.panel.Current := (Site.run_panel _ passes).current current
  have stale : s.station.stale = false := Site.stale_run shown passes
  have latched : s.frames.getLast? = some s.station.lights.frame := now stale
  refine ⟨latched,fun role => ?_⟩
  rw [s.strip_eq,latched,Option.getD_some,Light.Bank.get_frame]

/-- A light that is told to blink lights up at the next tick, in a pass where nothing else happens. -/
theorem strip_shows_lights_blinking :
    let device := Storage.Device.blank 281
    let clock : Clock.Timestamp := ⟨24,2,29,4,23,59,58⟩
    let around (time : Nat) (keys : List Char) : Surroundings :=
      { time := time
        clock := clock
        keys := Text.bytesOf keys
        localEcho := false
        sensor := .error .checksum
        linkUp := false
        datagram := none
        accepts := fun _ => true }
    let passes := [around 0 ['l','e','d',' ','b','l','i','n','k','\r'],around 500 []]
    let s := (Site.initial .default device clock).start.2.run passes
    (Site.initial .default device clock).start.1 = .ok () ∧
      (s.station.lights.light .user).shown = .pureBlue ∧
      s.frames.getLast? = some s.station.lights.frame := by
  intro device clock around passes s
  have started : (Site.initial .default device clock).start.1 = .ok () := by
    decide +revert +kernel
  have lit : (s.station.lights.light .user).shown = .pureBlue := by decide +revert +kernel
  obtain ⟨latched,-⟩ := strip_shows_lights .default device clock started passes
  refine ⟨started,lit,?_⟩
  dsimp only [s]
  exact latched

end ClimateStation
