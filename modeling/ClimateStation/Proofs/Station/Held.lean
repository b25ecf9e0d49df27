import ClimateStation.Proofs.Log.Crash
import ClimateStation.Proofs.Station.Outcome
import ClimateStation.Proofs.Station.Outward
import Mathlib.Logic.Relation

/-! What the main loop does to the structures that the station keeps both in memory and on the
device. Everything a pass does is a sequence of a few kinds of steps on them, whatever the
surroundings and whichever calls fail; only a datagram can do more, and only before its command is
carried out. -/
namespace ClimateStation
open Storage

/-- What the station keeps of its device, with the device. -/
structure Held where
  config : Config
  log : Log.Ring
  gates : Alarm.Gates
  learned : Bool
  settings : Network.Settings
  device : Device

def Site.held (s : Site) : Held :=
  ⟨s.station.config,s.station.log,s.station.gates,s.station.link.learned,s.station.link.settings,
    s.device⟩

namespace Held

inductive Step (h : Held) : Held → Prop
  /-- At most reads and failures. -/
  | quiet {device} (bytes : device.bytes = h.device.bytes) : Step h { h with device }
  | log {log device} (op : Log.Operation)
      (done : op.attempt [Layout.log] (h.log,h.device) = (log,device)) :
      Step h { h with log, device }
  | gates {gates device} {index : Nat} {value : Int16} (set : h.gates.set? index value = some gates)
      (sound : 0 ≤ value) (stored : gates.store [Layout.gates] h.device = (.ok (),device)) :
      Step h { h with gates, device }

def Steps : Held → Held → Prop := Relation.ReflTransGen Step

theorem Step.refl (h : Held) : Step h h := .quiet rfl

theorem Step.of_eq {h h' : Held} (same : h' = h) : Step h h' := same ▸ .refl h

theorem Step.after {h h' next : Held} (step : Step h next) (same : h' = h) : Step h' next :=
  same ▸ step

/-- Only a datagram teaches the station a destination. -/
lemma Steps.kept {h h' : Held} (steps : Steps h h') :
    h'.config = h.config ∧ h'.learned = h.learned := by
  induction steps with
  | refl => exact ⟨rfl,rfl⟩
  | tail _ step ih =>
    cases step with
    | quiet | log | gates => exact ih

end Held

namespace Site
variable (s : Site)

lemma Outward.held {s t : Site} (h : s.Outward t) : t.held = s.held := by
  rw [h.same]
  rfl

/-! ## Commands -/

/-- A value that passes the check is not negative as a gate. -/
lemma toInt16_nonneg {value : UInt16} (h : value.toNat ≤ maxGate) : 0 ≤ value.toInt16 := by
  have hm : maxGate = 32767 := rfl
  have hv : value.toInt16.toInt = value.toNat := by
    rw [← Int16.toInt_toBitVec,UInt16.toBitVec_toInt16,BitVec.toInt_eq_toNat_of_lt]
    · rfl
    · change 2 * value.toNat < 2 ^ 16
      omega
  rw [Int16.le_iff_toInt_le,hv]
  exact Int.natCast_nonneg _

lemma Outcome.held_step {s t : Site} {c : Command} (h : s.Outcome c t) :
    Held.Step s.held t.held := by
  cases h with
  | answer bytes => exact .quiet bytes
  | logClear cleared => exact .log .clear (Log.Operation.attempt_ok cleared)
  | gate set small stored => exact .gates set (toInt16_nonneg small) stored
  | _ => exact .refl _

/-- Carrying out a text takes one step at most, on either channel. -/
theorem dispatch_step (channel : Channel) (input : List UInt8) :
    Held.Step s.held (s.dispatch channel input).2.held := by
  unfold dispatch
  cases Command.ofText s.station.strictness input with
  | error e => exact .refl _
  | ok c =>
    dsimp only
    rw [(markStale_outward _).held]
    exact (s.answer_outcome channel c).held_step

/-- Loading changes nothing but what is loaded, however far it comes. -/
lemma loadMemory_same : ∃ log gates settings device, s.loadMemory.2 = { s with
    station.log := log
    station.gates := gates
    station.link.settings := settings
    device } := by
  unfold loadMemory
  rcases loadLog : Log.Ring.load [Layout.log] s.device with ⟨e | log,d₁⟩
  · rw [s.access_eq loadLog]
    exact ⟨_,_,_,_,rfl⟩
  rw [s.access_eq loadLog]
  dsimp only
  rcases loadGates : Alarm.Gates.load [Layout.gates] s.station.config.defaultGates d₁ with
    ⟨e | gates,d₂⟩
  · rw [access_eq _ loadGates]
    exact ⟨_,_,_,_,rfl⟩
  rw [access_eq _ loadGates]
  dsimp only
  rcases loadSettings : Network.Settings.load [Layout.network] d₂ with ⟨e | settings,d₃⟩
  · rw [access_eq _ loadSettings]
    exact ⟨_,_,_,_,rfl⟩
  · rw [access_eq _ loadSettings]
    exact ⟨_,_,_,_,rfl⟩

/-! ## Passes -/

/-- A reading is given to the log, which keeps it or fails. -/
lemma logReading_cases (r : Climate.Reading) :
    let entry := entryOf s.clock r
    (∃ e device, s.station.log.append [Layout.log] entry s.device = (.error e,device) ∧
      s.logReading r = { s.note (.logAttempt entry) with device }) ∨
    ∃ log device, s.station.log.append [Layout.log] entry s.device = (.ok log,device) ∧
      s.logReading r = { s.note (.logAttempt entry) with device, station.log := log }.report
        (.logAppended log.count log.next) := by
  unfold logReading
  dsimp only
  rcases h : s.station.log.append [Layout.log] (entryOf s.clock r) s.device with ⟨e | log,device⟩
  · refine .inl ⟨e,device,rfl,?_⟩
    rw [access_eq (s.note (.logAttempt (entryOf s.clock r))) h]
  · refine .inr ⟨log,device,rfl,?_⟩
    rw [access_eq (s.note (.logAttempt (entryOf s.clock r))) h]

lemma logReading_step (r : Climate.Reading) : Held.Step s.held (s.logReading r).held := by
  rcases s.logReading_cases r with ⟨e,device,failed,reached⟩ | ⟨log,device,kept,reached⟩
  · rw [reached]
    exact .log (.append _) (Log.Operation.attempt_error failed)
  · rw [reached]
    exact .log (.append _) (Log.Operation.attempt_ok kept)

lemma logIfDue_step (time : Nat) (r : Climate.Reading) :
    Held.Step s.held (s.logIfDue time r).held := by
  unfold logIfDue
  dsimp only
  split
  · exact (logReading_step _ r).after rfl
  · exact .refl _

lemma takeSample_step (around : Surroundings) : Held.Step s.held (s.takeSample around).held := by
  unfold takeSample
  dsimp only
  split
  · exact .of_eq ((printMonitored_outward ..).trans (report_outward ..)).held
  · next r _ =>
    refine (logIfDue_step _ _ r).after ?_
    rw [(printMonitored_outward ..).held,(checkAlarm_outward ..).held]
    rfl

lemma sampleIfDue_step (around : Surroundings) : Held.Step s.held (s.sampleIfDue around).held := by
  unfold sampleIfDue
  dsimp only
  split
  · exact (takeSample_step _ around).after rfl
  · exact .refl _

lemma submit_step (line : List UInt8) : Held.Step s.held (s.submit line).held := by
  unfold submit
  dsimp only
  rw [((foldl_printLine_outward ..).trans (printPrompt_outward _)).held]
  exact (dispatch_step _ _ _).after rfl

/-- However many keys are waiting, at most one line is carried out. -/
lemma readKeys_step (localEcho : Bool) (keys : List UInt8) :
    Held.Step s.held (s.readKeys localEcho keys).held := by
  induction keys generalizing s with
  | nil => exact .refl _
  | cons b rest ih =>
    unfold readKeys
    rcases s.station.editor.feed localEcho b with ⟨edit,shown,editor⟩
    have fed : ({ s with station.editor := editor, keys := rest }.print shown).held = s.held :=
      (print_outward ..).held
    cases edit with
    | pending => exact (ih _).after fed.symm
    | submit line => exact (submit_step _ line).after fed.symm
    | dismissed =>
      refine Held.Step.after ?_ fed.symm
      unfold dismiss
      rw [(printPrompt_outward _).held]
      exact .refl _

/-- What a pass does before it looks at the network. -/
def beforeNetwork (around : Surroundings) : Site :=
  let s := { s with clock := around.clock, keys := s.keys ++ around.keys }
  let s := (s.tickLights around.time).sampleIfDue around
  s.readKeys around.localEcho s.keys

lemma pass_eq (around : Surroundings) :
    s.pass around = ((s.beforeNetwork around).serveNetwork around).refresh := rfl

theorem beforeNetwork_steps (around : Surroundings) :
    Held.Steps s.held (s.beforeNetwork around).held :=
  .tail (.single (sampleIfDue_step ({ s with
    clock := around.clock
    keys := s.keys ++ around.keys }.tickLights around.time) around)) (readKeys_step ..)

end Site

/-- The first datagram since the start fixes the destination, and it is stored if it is new. -/
def Held.learn (h : Held) (peer : Network.Endpoint) : Held :=
  if h.learned then h
  else if h.settings.destination = some peer then { h with learned := true }
  else
    let settings := { h.settings with target := peer }
    { h with learned := true, settings, device := (settings.store [Layout.network] h.device).2 }

namespace Site
variable (s : Site)

lemma learnDestination_held (peer : Network.Endpoint) :
    (s.learnDestination peer).held = s.held.learn peer := by
  unfold learnDestination Held.learn
  by_cases hl : s.station.link.learned
  · have hl' : s.held.learned := hl
    rw [if_pos hl,if_pos hl']
  · have hl' : ¬s.held.learned := hl
    rw [if_neg hl,if_neg hl']
    by_cases hd : s.station.link.settings.destination = some peer
    · have hd' : s.held.settings.destination = some peer := hd
      rw [if_pos hd']
      exact congrArg held (if_pos hd)
    · have hd' : ¬s.held.settings.destination = some peer := hd
      rw [if_neg hd']
      exact congrArg held (if_neg hd)

/-- A datagram comes in during the pass. -/
def Hears (around : Surroundings) (d : Datagram) : Prop :=
  (s.station.networkTimer.poll around.time).1 = true ∧ around.linkUp = true ∧
    around.datagram = some d

lemma receive_step (d : Datagram) (accepted : Bool) :
    Held.Step (s.held.learn d.sender) (s.receive d accepted).held := by
  have learned := learnDestination_held
    { s.note (.received d) with station.link.received := s.station.link.received + 1 } d.sender
  have step := (dispatch_step _ .datagram (d.payload.take Station.datagramLimit)).after learned.symm
  unfold receive
  dsimp only
  split
  · exact step
  · rw [(send_outward ..).held]
    exact step

/-- A pass looks at the network last, and only a datagram makes a difference. -/
theorem serveNetwork_step (around : Surroundings) :
    (s.serveNetwork around).held = s.held ∨
      ∃ d, s.Hears around d ∧ Held.Step (s.held.learn d.sender) (s.serveNetwork around).held := by
  unfold serveNetwork
  dsimp only
  split
  · next due =>
    split
    · next d hu hd =>
      refine .inr ⟨d,⟨due,hu,hd⟩,(receive_step _ d _).after ?_⟩
      rw [(observeLink_outward ..).held]
      rfl
    · exact .inl (observeLink_outward ..).held
  · exact .inl rfl

end Site
end ClimateStation
