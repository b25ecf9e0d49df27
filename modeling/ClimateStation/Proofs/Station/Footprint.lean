import ClimateStation.Proofs.Station.Course
import ClimateStation.Proofs.Station.Parts

/-! Which bytes of the memory change, and on what occasion. Each structure changes bytes of its own
window only: the log when it is found unsound, given an entry or cleared, the network settings when
the first datagram brings a new destination, and the gates when they are found erased or one of them
is set. Nothing else is ever written. -/
namespace ClimateStation
open Storage

/-- The byte at this offset is not the same on both devices. -/
def Storage.Device.Differs (d d' : Device) (i : Nat) : Prop := d'.bytes[i]? ≠ d.bytes[i]?

lemma Storage.Device.not_differs {d d' : Device} (same : d'.bytes = d.bytes) (i : Nat) :
    ¬d.Differs d' i :=
  not_not.mpr (congrArg (·[i]?) same)

/-- The header of the log is one that appends cannot have left. -/
def Storage.Device.LogUnsound (d : Device) : Prop :=
  ¬(Log.Ring.ofHeader (slice d.bytes Layout.log.base Log.Ring.headerSize)).Sound

/-- All the cells of the gates are erased. -/
def Storage.Device.GatesErased (d : Device) : Prop :=
  (Layout.gates.shown d.bytes).all (· == erased) = true

namespace Site

/-- In this pass a reading is given to the log. -/
def Logs (s : Site) (around : Surroundings) : Prop :=
  ∃ r, around.sensor = .ok r ∧ Did s (s.pass around) (.logAttempt (entryOf around.clock r))

/-- In this pass comes the first datagram since the start, and with it a new destination. -/
def Learns (s : Site) (around : Surroundings) : Prop :=
  s.station.link.learned = false ∧ ∃ d, (s.beforeNetwork around).Hears around d ∧
    Did s (s.pass around) (.report (.destinationLearned d.sender))

/-- In this pass a text that stands for the command is handed over on the console or comes in a
datagram, and the command is not refused. -/
inductive CarriesOut (s : Site) (around : Surroundings) (c : Command) : Prop
  | typed {before : Site} {line : List UInt8} (handed : s.beforeNetwork around = before.submit line)
      (now : s.effects <+: before.effects)
      (means : Command.ofText s.station.strictness line = .ok c)
      (accepted : ¬(s.beforeKeys around).held.Refuses .console c)
  | sent {d : Datagram} (hears : (s.beforeNetwork around).Hears around d)
      (means : Command.ofText s.station.strictness (d.payload.take Station.datagramLimit) = .ok c)
      (accepted : ¬((s.beforeNetwork around).held.learn d.sender).Refuses .datagram c)

variable {s t : Site} {i : Nat}

/-! ## Commands -/

/-- The commands that change the byte at this offset if they are carried out. -/
def Rewrites (c : Command) (i : Nat) : Prop :=
  Layout.log.Holds i ∧ c = .logClear ∨
    Layout.gates.Holds i ∧ ∃ index value, c = .setGate index value

lemma rewrites_of_touches {c : Command} (touches : c.Touches (.cell i)) : Rewrites c i := by
  cases c with
  | logClear => exact .inl ⟨touches,rfl⟩
  | setGate index value => exact .inr ⟨touches,index,value,rfl⟩
  | _ => exact touches.elim

lemma dispatch_differs {channel : Channel} {input : List UInt8}
    (differs : s.device.Differs (s.dispatch channel input).2.device i) :
    ∃ c, Command.ofText s.station.strictness input = .ok c ∧ ¬s.held.Refuses channel c ∧
      Rewrites c i := by
  cases meaning : Command.ofText s.station.strictness input with
  | error e =>
    rw [dispatch_rejected meaning] at differs
    exact absurd differs (Device.not_differs rfl i)
  | ok c =>
    refine ⟨c,rfl,?_,rewrites_of_touches ?_⟩
    · have decided : s.Decides channel c (s.dispatch channel input).2 := dispatch_decides meaning
      rcases decided with ⟨-,unchanged⟩ | ⟨accepted,-⟩
      · exact absurd differs (Device.not_differs unchanged.bytes i)
      · exact accepted
    · exact not_not.mp fun other => differs (dispatch_frame meaning other)

/-! ## Samples -/

/-- From the first site to the second, the memory is not touched. -/
structure Quiet (s t : Site) : Prop where
  device : t.device = s.device
  effects : s.effects <+: t.effects

lemma Outward.quiet (h : s.Outward t) : s.Quiet t :=
  ⟨congrArg Held.device h.held,h.prefix_effects⟩

lemma Quiet.trans {u : Site} (h : s.Quiet t) (h' : t.Quiet u) : s.Quiet u :=
  ⟨h'.device.trans h.device,h.effects.trans h'.effects⟩

/-- From the first site to the second, the memory is touched at most by giving the log one of these
entries. -/
structure LogsAtMost (given : Log.Entry → Prop) (s t : Site) : Prop where
  device : t.device = s.device ∨ (∃ entry, given entry ∧ Did s t (.logAttempt entry)) ∧
    t.device.outside Layout.log = s.device.outside Layout.log
  effects : s.effects <+: t.effects

variable {given : Log.Entry → Prop}

lemma Quiet.logsAtMost (quiet : s.Quiet t) : LogsAtMost given s t :=
  ⟨.inl quiet.device,quiet.effects⟩

lemma Quiet.before_logsAtMost {u : Site} (quiet : s.Quiet t) (logs : LogsAtMost given t u) :
    LogsAtMost given s u := by
  refine ⟨?_,quiet.effects.trans logs.effects⟩
  rcases logs.device with same | ⟨⟨entry,one,did⟩,confined⟩
  · exact .inl (same.trans quiet.device)
  · refine .inr ⟨⟨entry,one,did.of_earlier quiet.effects⟩,?_⟩
    rw [confined,quiet.device]

variable (s)

lemma logReading_logsAtMost (r : Climate.Reading) (one : given (entryOf s.clock r)) :
    LogsAtMost given s (s.logReading r) := by
  have confined := s.station.log.confined_append Layout.log (entryOf s.clock r) s.device
  have noted := s.did_note (.logAttempt (entryOf s.clock r))
  have kept := s.prefix_note (.logAttempt (entryOf s.clock r))
  rcases s.logReading_cases r with ⟨e,device,failed,reached⟩ | ⟨log,device,appended,reached⟩
  · rw [failed] at confined
    rw [reached]
    exact ⟨.inr ⟨⟨_,one,noted⟩,confined⟩,kept⟩
  · rw [appended] at confined
    rw [reached]
    exact ⟨.inr ⟨⟨_,one,noted.to_later (prefix_note _ _)⟩,confined⟩,kept.trans (prefix_note _ _)⟩

lemma logIfDue_logsAtMost (time : Nat) (r : Climate.Reading) (one : given (entryOf s.clock r)) :
    LogsAtMost given s (s.logIfDue time r) := by
  have polled : s.Quiet { s with station.logTimer := (s.station.logTimer.poll time).2 } :=
    ⟨rfl,List.prefix_refl _⟩
  unfold logIfDue
  dsimp only
  split
  · exact polled.before_logsAtMost (logReading_logsAtMost _ r one)
  · exact polled.logsAtMost

lemma takeSample_logsAtMost (around : Surroundings)
    (one : ∀ r, around.sensor = .ok r → given (entryOf s.clock r)) :
    LogsAtMost given s (s.takeSample around) := by
  unfold takeSample
  dsimp only
  have sampled : s.Quiet (s.note (.sample around.sensor)) := ⟨rfl,s.prefix_note _⟩
  split
  · next e _ =>
    have shown := (printMonitored_outward (s.note (.sample around.sensor))
      ("DHT read failed, err=" ++ e.message)).trans (report_outward _ (.sampleFailed e))
    exact (sampled.trans shown.quiet).logsAtMost
  · next r read =>
    have latest : s.Quiet { s.note (.sample around.sensor) with station.display.latest := r } :=
      ⟨rfl,sampled.effects⟩
    have seen (u : Site) (accepted : Bool) (line : String) :
        u.Outward ((u.checkAlarm accepted).printMonitored line) :=
      (u.checkAlarm_outward accepted).trans (printMonitored_outward _ line)
    refine (latest.trans (seen ..).quiet).before_logsAtMost (logIfDue_logsAtMost _ _ r ?_)
    rw [(seen ..).clock]
    exact one r read

/-- A pass touches the memory before it reads keys only if it gives its reading to the log. -/
lemma beforeKeys_logsAtMost (around : Surroundings) :
    LogsAtMost (fun entry => ∃ r, around.sensor = .ok r ∧ entry = entryOf around.clock r) s
      (s.beforeKeys around) := by
  unfold beforeKeys sampleIfDue
  dsimp only
  split
  · refine Quiet.before_logsAtMost ?_ (takeSample_logsAtMost _ around fun r read => ⟨r,read,rfl⟩)
    exact ⟨rfl,List.prefix_refl _⟩
  · exact ⟨.inl rfl,List.prefix_refl _⟩

/-! ## Keys -/

/-- Reading keys touches the memory only if a line is handed over, and then by that line alone. -/
lemma readKeys_handed (localEcho : Bool) (keys : List UInt8) :
    (s.readKeys localEcho keys).device = s.device ∨
      ∃ (before : Site) (line : List UInt8), s.readKeys localEcho keys = before.submit line ∧
        before.held = s.held ∧ s.effects <+: before.effects := by
  induction keys generalizing s with
  | nil => exact .inl rfl
  | cons b rest ih =>
    unfold readKeys
    rcases s.station.editor.feed localEcho b with ⟨edit,shown,editor⟩
    have fed := print_outward { s with station.editor := editor, keys := rest } shown
    cases edit with
    | pending =>
      rcases ih _ with same | ⟨before,line,handed,held,now⟩
      · exact .inl (same.trans fed.quiet.device)
      · exact .inr ⟨before,line,handed,held.trans fed.held,fed.prefix_effects.trans now⟩
    | submit line => exact .inr ⟨_,line,rfl,fed.held,fed.prefix_effects⟩
    | dismissed =>
      refine .inl (Eq.trans ?_ fed.quiet.device)
      exact (printPrompt_outward _).quiet.device

lemma submit_device (line : List UInt8) : (s.submit line).device =
    ((s.note (.submitted line)).dispatch .console line).2.device :=
  ((foldl_printLine_outward ..).trans (printPrompt_outward _)).quiet.device

/-! ## The network -/

lemma heard_held (d : Datagram) : (s.heard d).held = s.held.learn d.sender :=
  learnDestination_held
    { s.note (.received d) with station.link.received := s.station.link.received + 1 } d.sender

variable {s} in
lemma learnDestination_differs {peer : Network.Endpoint}
    (differs : s.device.Differs (s.learnDestination peer).device i) :
    Layout.network.Holds i ∧ s.station.link.learned = false ∧
      Did s (s.learnDestination peer) (.report (.destinationLearned peer)) := by
  generalize reached : s.learnDestination peer = t at differs ⊢
  unfold learnDestination at reached
  split at reached
  · subst reached
    exact absurd differs (Device.not_differs rfl i)
  · next learned =>
    dsimp only at reached
    split at reached
    · subst reached
      exact absurd differs (Device.not_differs rfl i)
    · subst reached
      have confined := { s.station.link.settings with target := peer }.confined_store
        Layout.network s.device
      exact ⟨Device.holds_of_changed confined differs,Bool.eq_false_iff.mpr learned,[_],rfl,
        List.mem_singleton_self _⟩

variable {s} in
lemma heard_differs {d : Datagram} (differs : s.device.Differs (s.heard d).device i) :
    Layout.network.Holds i ∧ s.station.link.learned = false ∧
      Did s (s.heard d) (.report (.destinationLearned d.sender)) := by
  obtain ⟨holds,learned,did⟩ := learnDestination_differs (s :=
    { s.note (.received d) with station.link.received := s.station.link.received + 1 }) differs
  exact ⟨holds,learned,did.of_earlier (s.prefix_note (.received d))⟩

lemma receive_device (d : Datagram) (accepted : Bool) : (s.receive d accepted).device =
    ((s.heard d).dispatch .datagram (d.payload.take Station.datagramLimit)).2.device := by
  unfold receive
  dsimp only
  split
  · rfl
  · exact (send_outward ..).quiet.device

lemma heard_prefix_receive (d : Datagram) (accepted : Bool) :
    (s.heard d).effects <+: (s.receive d accepted).effects := by
  have carried := (s.heard d).dispatch_prefix_effects .datagram
    (d.payload.take Station.datagramLimit)
  unfold receive
  dsimp only
  split
  · exact carried
  · exact carried.trans (send_outward ..).prefix_effects

/-- Looking at the network touches the memory only if a datagram comes in. -/
lemma serveNetwork_heard (around : Surroundings) :
    (s.serveNetwork around).device = s.device ∨ ∃ (before : Site) (d : Datagram),
      s.serveNetwork around = before.receive d (around.accepts .reply) ∧ s.Hears around d ∧
        before.held = s.held ∧ s.effects <+: before.effects := by
  unfold serveNetwork
  dsimp only
  split
  · next due =>
    have looked := observeLink_outward { s with
      station.networkTimer := (s.station.networkTimer.poll around.time).2 } around.linkUp
    split
    · next d up came =>
      exact .inr ⟨_,d,rfl,⟨due,up,came⟩,looked.held,looked.prefix_effects⟩
    · exact .inl looked.quiet.device
  · exact .inl rfl

/-! ## Passes -/

variable {s} in
lemma strictness_of_held (config : t.held.config = s.held.config) :
    t.station.strictness = s.station.strictness := by
  have same : t.station.config = s.station.config := config
  rw [Station.strictness,same]
  rfl

lemma beforeKeys_strictness (around : Surroundings) :
    (s.beforeKeys around).station.strictness = s.station.strictness :=
  congrArg (·.desk.mode) (s.console_beforeKeys around)

lemma beforeNetwork_prefix_effects (around : Surroundings) :
    s.effects <+: (s.beforeNetwork around).effects :=
  (s.beforeKeys_logsAtMost around).effects.trans (readKeys_moves ..).prefix_effects

/-- One of the occasions to change the byte at this offset comes in this pass. -/
def Occasion (s : Site) (around : Surroundings) (i : Nat) : Prop :=
  Layout.log.Holds i ∧ (s.Logs around ∨ s.CarriesOut around .logClear) ∨
    Layout.network.Holds i ∧ s.Learns around ∨
    Layout.gates.Holds i ∧ ∃ index value, s.CarriesOut around (.setGate index value)

variable {s} {around : Surroundings}

lemma CarriesOut.occasion {c : Command} (carried : s.CarriesOut around c)
    (rewrites : Rewrites c i) : s.Occasion around i := by
  rcases rewrites with ⟨holds,rfl⟩ | ⟨holds,index,value,rfl⟩
  · exact .inl ⟨holds,.inr carried⟩
  · exact .inr (.inr ⟨holds,index,value,carried⟩)

lemma sample_occasion (differs : s.device.Differs (s.beforeKeys around).device i) :
    s.Occasion around i := by
  rcases (s.beforeKeys_logsAtMost around).device with same |
    ⟨⟨_,⟨r,read,rfl⟩,did⟩,confined⟩
  · exact absurd differs (Device.not_differs (congrArg Device.bytes same) i)
  · have later := (s.pass_moves around).prefix_effects
    exact .inl ⟨Device.holds_of_changed confined differs,.inl ⟨r,read,did.to_later later⟩⟩

lemma keys_occasion
    (differs : (s.beforeKeys around).device.Differs (s.beforeNetwork around).device i) :
    s.Occasion around i := by
  rcases (s.beforeKeys around).readKeys_handed around.localEcho (s.beforeKeys around).keys with
    same | ⟨before,line,handed,held,now⟩
  · exact absurd differs (Device.not_differs (congrArg Device.bytes same) i)
  have reached : s.beforeNetwork around = before.submit line := handed
  have device : before.device = (s.beforeKeys around).device := congrArg Held.device held
  rw [reached,submit_device,← device] at differs
  obtain ⟨c,means,accepted,rewrites⟩ := dispatch_differs (s := before.note (.submitted line)) differs
  have mode : before.station.strictness = s.station.strictness :=
    (strictness_of_held (congrArg Held.config held)).trans (s.beforeKeys_strictness around)
  have meaning : Command.ofText s.station.strictness line = .ok c := mode ▸ means
  have refusals : ¬(s.beforeKeys around).held.Refuses .console c := held ▸ accepted
  have later := (s.beforeKeys_logsAtMost around).effects.trans now
  exact CarriesOut.occasion (.typed reached later meaning refusals) rewrites

lemma network_occasion
    (differs : (s.beforeNetwork around).device.Differs
      ((s.beforeNetwork around).serveNetwork around).device i) :
    s.Occasion around i := by
  rcases (s.beforeNetwork around).serveNetwork_heard around with
    same | ⟨before,d,heard,hears,held,now⟩
  · exact absurd differs (Device.not_differs (congrArg Device.bytes same) i)
  have kept := (s.beforeNetwork_steps around).kept
  have device : before.device = (s.beforeNetwork around).device := congrArg Held.device held
  rw [heard,receive_device,← device] at differs
  -- A datagram writes at most twice: its sender is learned before its command is carried out.
  by_cases learned : before.device.Differs (before.heard d).device i
  · obtain ⟨holds,unlearned,did⟩ := heard_differs learned
    have unlearnedBefore : s.station.link.learned = false :=
      (kept.2.symm.trans (congrArg Held.learned held).symm).trans unlearned
    have earlier := (s.beforeNetwork_prefix_effects around).trans now
    have later : (before.heard d).effects <+: (s.pass around).effects := by
      rw [pass_eq,heard]
      exact (before.heard_prefix_receive d _).trans (refresh_outward _).prefix_effects
    exact .inr (.inl ⟨holds,unlearnedBefore,d,hears,(did.of_earlier earlier).to_later later⟩)
  · have changed : (before.heard d).device.Differs
        ((before.heard d).dispatch .datagram (d.payload.take Station.datagramLimit)).2.device i := by
      rw [Device.Differs,not_not.mp learned]
      exact differs
    obtain ⟨c,means,accepted,rewrites⟩ := dispatch_differs changed
    rw [heard_held,held] at accepted
    have mode : (before.heard d).station.strictness = s.station.strictness := by
      rw [heard_strictness,strictness_of_held (congrArg Held.config held)]
      exact strictness_of_held kept.1
    exact CarriesOut.occasion (.sent hears (mode ▸ means) accepted) rewrites

/-- A byte changes in a pass only if one of the occasions for it comes. -/
theorem pass_differs (differs : s.device.Differs (s.pass around).device i) :
    s.Occasion around i := by
  -- The byte changed in the sample, at the keys or from the network; nothing else has the device.
  by_cases sampled : s.device.Differs (s.beforeKeys around).device i
  · exact sample_occasion sampled
  by_cases typed : (s.beforeKeys around).device.Differs (s.beforeNetwork around).device i
  · exact keys_occasion typed
  apply network_occasion
  intro same
  apply differs
  rw [pass_eq,(refresh_outward _).quiet.device,same,not_not.mp typed]
  exact not_not.mp sampled

/-! ## Starting -/

/-- Only the log and the gates write when they are loaded. -/
lemma loadMemory_bytes (s : Site) :
    let d := (Log.Ring.load [Layout.log] s.device).2
    s.loadMemory.2.device.bytes = d.bytes ∨ s.loadMemory.2.device.bytes =
      (Alarm.Gates.load [Layout.gates] s.station.config.defaultGates d).2.bytes := by
  unfold loadMemory
  rcases loadLog : Log.Ring.load [Layout.log] s.device with ⟨e | log,d₁⟩
  · rw [s.access_eq loadLog]
    exact .inl rfl
  rw [s.access_eq loadLog]
  dsimp only
  rcases loadGates : Alarm.Gates.load [Layout.gates] s.station.config.defaultGates d₁ with
    ⟨e | gates,d₂⟩
  · rw [access_eq _ loadGates]
    exact .inr rfl
  rw [access_eq _ loadGates]
  dsimp only
  have kept := Network.Settings.keeps_load [Layout.network] d₂
  rcases loadSettings : Network.Settings.load [Layout.network] d₂ with ⟨e | settings,d₃⟩
  · rw [loadSettings] at kept
    rw [access_eq _ loadSettings]
    exact .inr kept
  · rw [loadSettings] at kept
    rw [access_eq _ loadSettings]
    exact .inr kept

lemma loadMemory_differs (differs : s.device.Differs s.loadMemory.2.device i) :
    Layout.log.Holds i ∧ s.device.LogUnsound ∨ Layout.gates.Holds i ∧ s.device.GatesErased := by
  have confined := Log.Ring.confined_load Layout.log s.device
  have bytes := s.loadMemory_bytes
  dsimp only at bytes
  generalize loaded : (Log.Ring.load [Layout.log] s.device).2 = d at confined bytes
  by_cases log : s.device.Differs d i
  · refine .inl ⟨Device.holds_of_changed confined log,Log.Ring.unsound_of_load Layout.log ?_⟩
    rw [loaded]
    exact fun same => Device.not_differs same i log
  · rcases bytes with same | same
    · exact absurd (same ▸ differs : d.bytes[i]? ≠ _) log
    · have gates : d.Differs
          (Alarm.Gates.load [Layout.gates] s.station.config.defaultGates d).2 i := by
        rw [Device.Differs,← same,not_not.mp log]
        exact differs
      have found := Alarm.Gates.erased_of_load Layout.gates fun same => Device.not_differs same i gates
      refine .inr ⟨Device.holds_of_changed (Alarm.Gates.confined_load Layout.gates _ d) gates,?_⟩
      -- Loading the log has left the cells of the gates alone, so the start found them so.
      have shown := Window.shown_eq confined fun j => (Layout.holds_one j).2.2.1
      rw [Device.GatesErased,← shown]
      exact found

lemma start_differs (differs : s.device.Differs s.start.2.device i) :
    Layout.log.Holds i ∧ s.device.LogUnsound ∨ Layout.gates.Holds i ∧ s.device.GatesErased := by
  apply loadMemory_differs
  unfold start at differs
  cases valid : s.station.config.validate with
  | error e =>
    rw [valid] at differs
    exact absurd differs (Device.not_differs rfl i)
  | ok _ =>
    rw [valid] at differs
    rcases loaded : s.loadMemory with ⟨e | _,s'⟩
    · rw [loaded] at differs
      exact differs
    · rw [loaded] at differs
      have shown := (((lightUp_outward s').trans (refresh_outward _)).trans
        (report_outward _ (.started s'.lightUp.refresh.station.log.count
          s'.lightUp.refresh.station.gates))).trans ((print_outward _ "Program start.\r\n").trans
            (printPrompt_outward _))
      have same := shown.quiet.device
      exact same ▸ differs

/-! ## Runs -/

lemma Occasion.holds {around : Surroundings} (occasion : s.Occasion around i) :
    i < Layout.used := by
  apply (Layout.holds_one i).1.mp
  rcases occasion with ⟨holds,-⟩ | ⟨holds,-⟩ | ⟨holds,-⟩
  · exact .inl holds
  · exact .inr (.inl holds)
  · exact .inr (.inr holds)

lemma run_unused (unused : Layout.used ≤ i) (passes : List Surroundings) :
    (s.run passes).device.bytes[i]? = s.device.bytes[i]? := by
  induction passes generalizing s with
  | nil => rfl
  | cons around passes ih =>
    refine ih.trans (not_not.mp fun differs => ?_)
    exact Nat.not_lt.mpr unused (pass_differs differs).holds

end Site

/-- Whatever the memory holds at first, whatever fails and whatever comes in: a start changes bytes
of the log only if it finds the log unsound, and bytes of the gates only if it finds all of them
erased. In a run a byte changes only on one of the occasions for it, and the bytes that belong to no
structure never do. What is written for one structure stays in its own window, and the windows have
no byte in common. -/
theorem memory_isolated (c : Config) (device : Device) (clock : Clock.Timestamp) :
    let s₀ := (Site.initial c device clock).start.2
    (∀ i, device.Differs s₀.device i →
      Layout.log.Holds i ∧ device.LogUnsound ∨ Layout.gates.Holds i ∧ device.GatesErased) ∧
    (∀ (passes : List Surroundings) (around : Surroundings) (i : Nat), let s := s₀.run passes
      s.device.Differs (s.pass around).device i → s.Occasion around i) ∧
    (∀ (passes : List Surroundings) (i : Nat), Layout.used ≤ i →
      (s₀.run passes).device.bytes[i]? = device.bytes[i]?) ∧
    (∀ (op : Log.Operation) (r : Log.Ring), Confined Layout.log (op.carryOut r [Layout.log])) ∧
    (∀ s : Network.Settings, Confined Layout.network (s.store [Layout.network])) ∧
    (∀ g : Alarm.Gates, Confined Layout.gates (g.store [Layout.gates]) ∧
      Confined Layout.gates (Alarm.Gates.load [Layout.gates] g)) ∧
    ∀ i, ¬(Layout.log.Holds i ∧ Layout.network.Holds i) ∧
      ¬(Layout.log.Holds i ∧ Layout.gates.Holds i) ∧
      ¬(Layout.network.Holds i ∧ Layout.gates.Holds i) := by
  intro s₀
  have started (i : Nat) (differs : device.Differs s₀.device i) :
      Layout.log.Holds i ∧ device.LogUnsound ∨ Layout.gates.Holds i ∧ device.GatesErased :=
    Site.start_differs (s := Site.initial c device clock) differs
  refine ⟨started,fun passes around i => Site.pass_differs,fun passes i unused => ?_,
    Log.Operation.confined Layout.log,Network.Settings.confined_store Layout.network,
    fun g => ⟨g.confined_store Layout.gates,Alarm.Gates.confined_load Layout.gates g⟩,
    fun i => (Layout.holds_one i).2⟩
  refine (Site.run_unused unused passes).trans (not_not.mp fun differs => ?_)
  apply Nat.not_lt.mpr unused
  apply (Layout.holds_one i).1.mp
  rcases started i differs with ⟨holds,-⟩ | ⟨holds,-⟩
  · exact .inl holds
  · exact .inr (.inr holds)

end ClimateStation
