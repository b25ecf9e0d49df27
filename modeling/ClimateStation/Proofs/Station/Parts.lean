import ClimateStation.Proofs.Station.Refusal

/-! The parts of a station, down to the single light, gate and byte of memory, and which of them a
command is about. A text that is no command changes none of them, nor does a refused command; a
command that is carried out changes only the parts it is about. -/
namespace ClimateStation
open Storage

inductive Part
  | light (role : Light.Role)
  /-- The half period of blinking. -/
  | blinkRate
  /-- The kind of half period in which the blinking lights were switched last. -/
  | blinkPhase
  | reading
  | scale
  | monitoring
  | level
  | gate (index : Nat)
  /-- The bookkeeping of the log. -/
  | log
  | link
  /-- All of the editor but whether it waits for a key. -/
  | typing
  | waiting
  | clock
  /-- A byte of the memory. -/
  | cell (offset : Nat)
  /-- The configuration, the timers and the keys that wait. -/
  | rest

/-- The part is the same on both sites. -/
def Part.Same (p : Part) (s t : Site) : Prop :=
  match p with
  | .light role => t.station.lights.light role = s.station.lights.light role
  | .blinkRate => t.station.lights.rate = s.station.lights.rate
  | .blinkPhase => t.station.lights.odd = s.station.lights.odd
  | .reading => t.station.display.latest = s.station.display.latest
  | .scale => t.station.display.scale = s.station.display.scale
  | .monitoring => t.station.display.monitoring = s.station.display.monitoring
  | .level => t.station.level = s.station.level
  | .gate index => t.station.gates.toList[index]? = s.station.gates.toList[index]?
  | .log => t.station.log = s.station.log
  | .link => t.station.link = s.station.link
  | .typing =>
    { t.station.editor with waiting := false } = { s.station.editor with waiting := false }
  | .waiting => t.station.editor.waiting = s.station.editor.waiting
  | .clock => t.clock = s.clock
  | .cell offset => t.device.bytes[offset]? = s.device.bytes[offset]?
  | .rest =>
    (t.station.config,t.station.sampleTimer,t.station.logTimer,t.station.networkTimer,t.keys) =
      (s.station.config,s.station.sampleTimer,s.station.logTimer,s.station.networkTimer,s.keys)

/-- The parts that a command is about; a query is about none. -/
def Command.Touches (c : Command) (p : Part) : Prop :=
  match c, p with
  | .lightMode _, .light role => role = .user
  | .lightColour _, .light role => role = .user
  | .climateMonitor, .monitoring => True
  | .climateMonitor, .waiting => True
  | .logClear, .log => True
  | .logClear, .cell offset => Layout.log.Holds offset
  | .setTime .., .clock => True
  | .setDate .., .clock => True
  | .setBlinkRate _, .blinkRate => True
  | .setScale _, .scale => True
  | .setGate index _, .gate i => i = index.toNat
  | .setGate .., .cell offset => Layout.gates.Holds offset
  | _, _ => False

namespace Light.Bank

lemma ext_light {a b : Bank} (lights : ∀ role, a.light role = b.light role)
    (rate : a.rate = b.rate) (odd : a.odd = b.odd) : a = b := by
  have same : a.lights = b.lights := by
    apply Vector.ext
    intro i hi
    match i with
    | 0 => exact lights .user
    | 1 => exact lights .power
    | 2 => exact lights .alarm
    | 3 => exact lights .network
    | i + 4 => omega
  cases a
  cases b
  simp_all

end Light.Bank

lemma Climate.Display.ext {a b : Display} (latest : a.latest = b.latest)
    (scale : a.scale = b.scale) (monitoring : a.monitoring = b.monitoring) : a = b := by
  cases a
  cases b
  simp_all

lemma Alarm.Gates.toList_injective {a b : Gates} (h : a.toList = b.toList) : a = b := by
  cases a
  cases b
  simpa [toList] using h

lemma Terminal.Editor.eq_of_waiting {a b : Editor}
    (typing : { a with waiting := false } = { b with waiting := false })
    (waiting : a.waiting = b.waiting) : a = b := by
  cases a
  cases b
  simp_all

namespace Site
variable {s t : Site} {p : Part} {c : Command}

/-- The parts are all there is to a station and its memory. -/
theorem unchanged_iff : s.Unchanged t ↔ ∀ p : Part, p.Same s t := by
  constructor
  · rintro ⟨same,bytes⟩ p
    rw [same]
    cases p with
    | cell offset => exact congrArg (·[offset]?) bytes
    | _ => rfl
  · intro same
    have lights : t.station.lights = s.station.lights :=
      Light.Bank.ext_light (fun role => same (.light role)) (same .blinkRate) (same .blinkPhase)
    have display : t.station.display = s.station.display :=
      Climate.Display.ext (same .reading) (same .scale) (same .monitoring)
    have gates : t.station.gates = s.station.gates :=
      Alarm.Gates.toList_injective (List.ext_getElem? fun i => same (.gate i))
    have editor : t.station.editor = s.station.editor :=
      Terminal.Editor.eq_of_waiting (same .typing) (same .waiting)
    have bytes : t.device.bytes = s.device.bytes := List.ext_getElem? fun i => same (.cell i)
    have level : t.station.level = s.station.level := same .level
    have log : t.station.log = s.station.log := same .log
    have link : t.station.link = s.station.link := same .link
    have clock : t.clock = s.clock := same .clock
    obtain ⟨config,sampleTimer,logTimer,networkTimer,keys⟩ : t.station.config = s.station.config ∧
        t.station.sampleTimer = s.station.sampleTimer ∧ t.station.logTimer = s.station.logTimer ∧
        t.station.networkTimer = s.station.networkTimer ∧ t.keys = s.keys := by
      simpa only [Part.Same, Prod.mk.injEq] using same .rest
    refine ⟨?_,bytes⟩
    dsimp only
    rw [← config,← lights,← display,← level,← gates,← log,← link,← editor,← sampleTimer,← logTimer,
      ← networkTimer,← clock,← keys]

lemma setLights_put_same (l : Light) (other : ∀ role, p = .light role → role ≠ .user) :
    p.Same s (s.setLights (s.station.lights.put .user l)) := by
  cases p with
  | light role => exact (s.station.lights.light_put .user role l).trans (if_neg (other role rfl))
  | _ => rfl

/-- What a command does to a site stays within the parts that it is about. -/
theorem Outcome.frame (h : s.Outcome c t) (other : ¬c.Touches p) : p.Same s t := by
  cases h with
  | answer bytes => exact unchanged_iff.mp (.called bytes) p
  | lightMode mode =>
    rw [Light.Bank.switch_eq]
    refine setLights_put_same _ fun role same user => other ?_
    subst same
    exact user
  | lightColour colour =>
    rw [Light.Bank.paint_eq]
    refine setLights_put_same _ fun role same user => other ?_
    subst same
    exact user
  | monitorOn =>
    cases p with
    | monitoring | waiting => exact absurd trivial other
    | _ => rfl
  | monitorOff =>
    cases p with
    | monitoring => exact absurd trivial other
    | _ => rfl
  | @logClear log device cleared =>
    cases p with
    | log => exact absurd trivial other
    | cell offset =>
      have kept := Log.Ring.confined_clear Layout.log s.device
      rw [cleared] at kept
      exact not_not.mp fun changed => other (Device.holds_of_changed kept changed)
    | _ => rfl
  | time | date =>
    cases p with
    | clock => exact absurd trivial other
    | _ => rfl
  | @blinkRate rate lights set =>
    unfold Light.Bank.setRate? at set
    split at set
    · exact nomatch set
    · cases set
      cases p with
      | blinkRate => exact absurd trivial other
      | _ => rfl
  | scale =>
    cases p with
    | scale => exact absurd trivial other
    | _ => rfl
  | @gate index value gates device set small stored =>
    cases p with
    | gate i =>
      change gates.toList[i]? = s.station.gates.toList[i]?
      rw [Alarm.Gates.toList_set? set]
      exact List.getElem?_set_ne fun same => other same.symm
    | cell offset =>
      have kept := gates.confined_store Layout.gates s.device
      rw [stored] at kept
      exact not_not.mp fun changed => other (Device.holds_of_changed kept changed)
    | _ => rfl

/-! ## Texts -/

variable {channel : Channel} {input : List UInt8}

lemma dispatch_rejected {e : Command.CommandError}
    (meaning : Command.ofText s.station.strictness input = .error e) :
    (s.dispatch channel input).2 = s.report (.commandRejected channel e) := by
  rw [dispatch_eq,meaning]
  rfl

lemma dispatch_understood (meaning : Command.ofText s.station.strictness input = .ok c) :
    (s.dispatch channel input).2 = (s.answer channel c).2.markStale := by
  rw [dispatch_eq,meaning]
  rfl

theorem dispatch_decides (meaning : Command.ofText s.station.strictness input = .ok c) :
    s.Decides channel c (s.dispatch channel input).2 := by
  rw [dispatch_understood meaning]
  exact (s.answer_decides channel c).markStale

theorem dispatch_frame (meaning : Command.ofText s.station.strictness input = .ok c)
    (other : ¬c.Touches p) : p.Same s (s.dispatch channel input).2 := by
  rw [dispatch_understood meaning]
  exact (s.answer_outcome channel c).frame other

end Site

/-- For every station, memory and pattern of failures: a text that is no command changes nothing
that the station keeps, nor does a command that is refused. A command that is carried out has done
what it is for, and it has changed only the parts it is about: for a query, none. -/
theorem commands_keep_to_their_parts (s : Site) (channel : Channel) (input : List UInt8) :
    let t := (s.dispatch channel input).2
    match Command.ofText s.station.strictness input with
    | .error _ => s.Unchanged t
    | .ok c =>
      (s.held.Refuses channel c → s.Unchanged t) ∧
      (¬s.held.Refuses channel c → s.Achieves c t) ∧
      (∀ p : Part, ¬c.Touches p → p.Same s t) ∧
      ((∀ p, ¬c.Touches p) → s.Unchanged t) := by
  intro t
  cases meaning : Command.ofText s.station.strictness input with
  | error e =>
    have rejected : t = s.report (.commandRejected channel e) := Site.dispatch_rejected meaning
    rw [rejected]
    exact s.report_unchanged _
  | ok c =>
    have decided : s.Decides channel c t := Site.dispatch_decides meaning
    have frame (p : Part) (other : ¬c.Touches p) : p.Same s t := Site.dispatch_frame meaning other
    refine ⟨fun refused => ?_,fun accepted => ?_,frame,fun query => ?_⟩
    · rcases decided with ⟨-,unchanged⟩ | ⟨accepted,-⟩
      · exact unchanged
      · exact absurd refused accepted
    · rcases decided with ⟨refused,-⟩ | ⟨-,achieves⟩
      · exact absurd refused accepted
      · exact achieves
    · exact Site.unchanged_iff.mpr fun p => frame p (query p)

end ClimateStation
