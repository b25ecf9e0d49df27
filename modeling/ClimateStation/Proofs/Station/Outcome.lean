import ClimateStation.Proofs.Storage.Isolation
import ClimateStation.Station.Answer

/-! Everything that a command can do. Each command has at most one effect of its own on the site,
and whatever else is proved about commands is a case analysis over these effects. -/
namespace ClimateStation
open Storage

namespace Log.Ring

section
variable {r : Ring} {γ : Type} {part : Device → γ} {place : Place}
  (reads : ∀ offset length, Keeps part (place.read offset length))
include reads

lemma keeps_entryAt (i : Nat) : Keeps part (r.entryAt place i) :=
  (reads _ _).bind fun b => Keeps.pure (Entry.ofBytes b)

lemma keeps_extremes : Keeps part (r.extremes place) :=
  (Keeps.mapM (keeps_entryAt reads) _).bind fun es => Keeps.pure (Extremes.ofList? es)

lemma keeps_readableAt (is : List Nat) : Keeps part (r.readableAt place is) := by
  induction is with
  | nil => exact fun _ => rfl
  | cons i is ih =>
    refine Keeps.next (keeps_entryAt reads i) fun found => ?_
    cases found with
    | ok e => exact ih.next fun _ _ => rfl
    | error cause => exact fun _ => rfl

end

/-- Clearing is one write, so it fails as a whole. -/
lemma bytes_of_clear_error {place : Place} {d d' : Device} {e : StorageError}
    (h : clear place d = (.error e,d')) : d'.bytes = d.bytes := by
  have bound := Access.bind_apply (place.write 0 (empty.header ++ List.replicate span 0))
    (fun _ => pure empty) d
  rcases written : place.write 0 (empty.header ++ List.replicate span 0) d with ⟨e' | _,d''⟩
  · rw [written] at bound
    obtain ⟨-,rfl⟩ := Prod.mk.inj (bound.symm.trans h)
    exact Place.bytes_of_write_error written
  · rw [written] at bound
    exact nomatch bound.symm.trans h

end Log.Ring

namespace Site

/-- What carrying out a command does to the site. -/
inductive Outcome (s : Site) : Command → Site → Prop
  /-- An answer at most: the device may have been read, or it failed. -/
  | answer {c device} (bytes : device.bytes = s.device.bytes) : Outcome s c { s with device }
  | lightMode (mode : Light.Mode) :
      Outcome s (.lightMode mode) (s.setLights (s.station.lights.switch .user mode))
  | lightColour (colour : Colour) :
      Outcome s (.lightColour colour) (s.setLights (s.station.lights.paint .user colour))
  | monitorOn (off : s.station.display.monitoring = false) : Outcome s .climateMonitor
      { s with station.display.monitoring := true, station.editor := s.station.editor.await }
  | monitorOff (on : s.station.display.monitoring = true) : Outcome s .climateMonitor
      { s with station.display.monitoring := false }
  | logClear {log device} (cleared : Log.Ring.clear [Layout.log] s.device = (.ok log,device)) :
      Outcome s .logClear ({ s with device, station.log := log }.report .logCleared)
  | time {hour minute second t} (sound : s.clock.withTime hour minute second = .ok t) :
      Outcome s (.setTime hour minute second) (s.setClock t)
  | date {year month day t} (sound : s.clock.withDate year month day = .ok t) :
      Outcome s (.setDate year month day) (s.setClock t)
  | blinkRate {rate lights} (set : s.station.lights.setRate? rate = some lights) :
      Outcome s (.setBlinkRate rate) (s.setLights lights)
  | scale {flag scale} (known : Climate.Scale.ofFlag? flag = some scale) :
      Outcome s (.setScale flag) { s with station.display.scale := scale }
  | gate {index value gates device}
      (set : s.station.gates.set? index.toNat value.toInt16 = some gates)
      (small : value.toNat ≤ maxGate)
      (stored : gates.store [Layout.gates] s.device = (.ok (),device)) :
      Outcome s (.setGate index value) { s with device, station.gates := gates }

variable (s : Site)

lemma access_eq {α : Type} {a : StateM Device α} {x : α} {device : Device}
    (h : a s.device = (x,device)) : s.access a = (x,{ s with device }) := by
  unfold access
  rw [h]

lemma Outcome.same (c : Command) : Outcome s c s := by
  have h : Outcome s c { s with device := s.device } := .answer rfl
  exact h

lemma answerMonitor_outcome : Outcome s .climateMonitor s.answerMonitor.2 := by
  unfold answerMonitor
  split
  · next on => exact .monitorOff on
  · next off => exact .monitorOn (Bool.eq_false_iff.mpr off)

lemma answerLogDump_outcome : Outcome s .logDump s.answerLogDump.2 := by
  unfold answerLogDump
  split
  · exact .same s _
  · exact .answer (Log.Ring.keeps_readableAt (Place.keeps_read _) _ _)

lemma answerLogInfo_outcome : Outcome s .logInfo s.answerLogInfo.2 := by
  have h : Outcome s .logInfo (s.access (s.station.log.extremes [Layout.log])).2 :=
    .answer (Log.Ring.keeps_extremes (Place.keeps_read _) _)
  unfold answerLogInfo
  split
  · next found =>
    rw [found] at h
    exact h
  · next found =>
    rw [found] at h
    exact h

lemma answerLogClear_outcome : Outcome s .logClear s.answerLogClear.2 := by
  unfold answerLogClear
  rcases h : Log.Ring.clear [Layout.log] s.device with ⟨e | log,device⟩
  · rw [s.access_eq h]
    exact .answer (Log.Ring.bytes_of_clear_error h)
  · rw [s.access_eq h]
    exact .logClear h

lemma answerClock_outcome {c : Command} (word : String)
    (change : Except Clock.InvalidTimestamp Clock.Timestamp)
    (sound : ∀ t, change = .ok t → Outcome s c (s.setClock t)) :
    Outcome s c (s.answerClock word change).2 := by
  unfold answerClock
  cases change with
  | ok t => exact sound t rfl
  | error e => exact .same s c

lemma answerBlinkRate_outcome (rate : UInt16) :
    Outcome s (.setBlinkRate rate) (s.answerBlinkRate rate).2 := by
  unfold answerBlinkRate
  split
  · next set => exact .blinkRate set
  · exact .same s _

lemma answerScale_outcome (flag : UInt8) : Outcome s (.setScale flag) (s.answerScale flag).2 := by
  unfold answerScale
  split
  · next known => exact .scale known
  · exact .same s _

lemma answerGate_outcome (index : UInt8) (value : UInt16) :
    Outcome s (.setGate index value) (s.answerGate index value).2 := by
  unfold answerGate
  cases set : s.station.gates.set? index.toNat value.toInt16 with
  | none => exact .same s _
  | some gates =>
    dsimp only
    by_cases large : maxGate < value.toNat
    · rw [if_pos large]
      exact .same s _
    · rw [if_neg large]
      rcases h : gates.store [Layout.gates] s.device with ⟨e | _,device⟩
      · rw [s.access_eq h]
        exact .answer (Place.bytes_of_write_error h)
      · rw [s.access_eq h]
        exact .gate set (Nat.not_lt.mp large) h

theorem carryOut_outcome (c : Command) : Outcome s c (s.carryOut c).2 := by
  cases c with
  | lightMode mode => exact .lightMode mode
  | lightColour colour => exact .lightColour colour
  | climateMonitor => exact s.answerMonitor_outcome
  | logDump => exact s.answerLogDump_outcome
  | logInfo => exact s.answerLogInfo_outcome
  | logClear => exact s.answerLogClear_outcome
  | setTime hour minute second => exact s.answerClock_outcome _ _ fun _ sound => .time sound
  | setDate year month day => exact s.answerClock_outcome _ _ fun _ sound => .date sound
  | setBlinkRate rate => exact s.answerBlinkRate_outcome rate
  | setScale flag => exact s.answerScale_outcome flag
  | setGate index value => exact s.answerGate_outcome index value
  | _ => exact .same s _

/-- Only monitoring makes a difference between the channels. -/
lemma answer_both (channel : Channel) {c : Command} (both : c.consoleOnly = false) :
    s.answer channel c = s.carryOut c := by
  unfold answer
  rw [if_neg]
  rintro ⟨only,-⟩
  rw [both] at only
  exact nomatch only

/-- On either channel; off the console some commands are refused. -/
theorem answer_outcome (channel : Channel) (c : Command) : Outcome s c (s.answer channel c).2 := by
  unfold answer
  split
  · exact .same s c
  · exact s.carryOut_outcome c

end Site
end ClimateStation
