import ClimateStation.Proofs.Alarm.Gates
import ClimateStation.Proofs.Network.Settings
import ClimateStation.Proofs.Station.Held

/-! Memory and device stay in step. Each of the three stored structures has a range of its own on
the device, and every change is written there before it is made in memory; only a new destination
is kept in memory even if it cannot be written. So a station that is started again on the same
device goes on with the same log, gates and destination. -/
namespace ClimateStation
open Storage

namespace Storage.Layout
variable {size : Nat}

lemma fits_log (h : used ≤ size) : Place.Fits [log] Log.Ring.regionSize size :=
  ⟨by decide,Nat.le_trans (by decide) h⟩

lemma fits_network (h : used ≤ size) : Place.Fits [network] Network.Settings.regionSize size :=
  ⟨by decide,Nat.le_trans (by decide) h⟩

lemma fits_gates (h : used ≤ size) : Place.Fits [gates] Alarm.Gates.width size :=
  ⟨by decide,Nat.le_trans (by decide) h⟩

end Storage.Layout

namespace Log.Ring

lemma keeps_size_load (place : Place) : Keeps Device.size (load place) := by
  refine (place.keeps_size_read _ _).bind fun bytes => ?_
  dsimp only
  split
  · exact Keeps.pure _
  · exact (place.keeps_write _ _).bind fun _ => Keeps.pure _

end Log.Ring

namespace Held

/-- The log and the gates in memory are the ones on the device. -/
structure InStep (h : Held) (c : Config) : Prop where
  config : h.config = c
  size : Layout.used ≤ h.device.size
  log : Log.Ring.Describes (Place.view [Layout.log] h.device.bytes) h.log
  gates : slice (Place.view [Layout.gates] h.device.bytes) 0 Alarm.Gates.width = h.gates.toBytes
  /-- What looks erased stands for the default gates. -/
  marked : h.gates.Unmarked → h.gates = c.defaultGates

/-- The network settings in memory are the ones on the device. -/
def Saved (h : Held) : Prop :=
  Network.Settings.ofRegion (slice (Place.view [Layout.network] h.device.bytes) 0
    Network.Settings.regionSize) = h.settings

lemma describes_of_sameOutside {start stop : Nat} {old new : List UInt8} {r : Log.Ring}
    (same : SameOutside start stop old new) (hs : Layout.network.base ≤ start)
    (h : Log.Ring.Describes (Place.view [Layout.log] old) r) :
    Log.Ring.Describes (Place.view [Layout.log] new) r := by
  refine ⟨h.sound,?_⟩
  rw [same.slice_view_eq (.inl (Nat.le_trans (by decide) hs))]
  exact h.header

/-- Storing gates that are no erased cells. -/
lemma stored_gates {h : Held} {c : Config} {gates : Alarm.Gates} {device : Device} (inStep : h.InStep c)
    (stored : gates.store [Layout.gates] h.device = (.ok (),device)) :
    device = h.device.afterWrite (Place.base [Layout.gates]) gates.toBytes := by
  rw [Alarm.Gates.store_eq gates (Layout.fits_gates inStep.size)] at stored
  split at stored
  · exact nomatch stored
  · cases stored
    rfl

variable {h h' : Held} {c : Config}

theorem InStep.step (inStep : h.InStep c) (step : Step h h') : h'.InStep c := by
  cases step with
  | @quiet device bytes =>
    have hsize : device.size = h.device.size := congrArg List.length bytes
    refine ⟨inStep.config,hsize ▸ inStep.size,?_,?_,inStep.marked⟩
    · exact bytes ▸ inStep.log
    · exact bytes ▸ inStep.gates
  | @log log device op done =>
    obtain ⟨same,describes⟩ :=
      op.attempt_describes (s := (h.log,h.device)) (Layout.fits_log inStep.size) inStep.log
    rw [done] at same describes
    have hsize : device.size = h.device.size := same.length
    refine ⟨inStep.config,hsize ▸ inStep.size,describes,?_,inStep.marked⟩
    exact (same.slice_view_eq (.inr (by decide))).trans inStep.gates
  | @gates gates device index value set sound stored =>
    have fits := Layout.fits_gates inStep.size
    have same := gates.store_sameOutside fits
    rw [stored] at same
    have hsize : device.size = h.device.size := same.length
    refine ⟨inStep.config,hsize ▸ inStep.size,describes_of_sameOutside same (by decide) inStep.log,?_,?_⟩
    · rw [stored_gates inStep stored]
      exact gates.slice_afterWrite fits
    · exact fun unmarked => absurd unmarked (Alarm.Gates.not_unmarked_of_set? sound set)

theorem Saved.step (saved : h.Saved) (inStep : h.InStep c) (step : Step h h') : h'.Saved := by
  cases step with
  | quiet bytes =>
    unfold Saved
    rw [bytes]
    exact saved
  | @log log device op done =>
    obtain ⟨same,-⟩ :=
      op.attempt_describes (s := (h.log,h.device)) (Layout.fits_log inStep.size) inStep.log
    rw [done] at same
    unfold Saved
    rw [same.slice_view_eq (.inr (by decide))]
    exact saved
  | @gates gates device index value set sound stored =>
    have same := gates.store_sameOutside (Layout.fits_gates inStep.size)
    rw [stored] at same
    unfold Saved
    rw [same.slice_view_eq (.inl (by decide))]
    exact saved

theorem InStep.steps (inStep : h.InStep c) (steps : Steps h h') : h'.InStep c := by
  induction steps with
  | refl => exact inStep
  | tail _ step ih => exact ih.step step

theorem Saved.steps (saved : h.Saved) (inStep : h.InStep c) (steps : Steps h h') : h'.Saved := by
  induction steps with
  | refl => exact saved
  | tail steps step ih => exact ih.step (inStep.steps steps) step

/-- Storing a new destination fails. -/
def LearnFails (h : Held) (peer : Network.Endpoint) : Prop :=
  h.learned = false ∧ h.settings.destination ≠ some peer ∧
    ∃ e device, { h.settings with target := peer }.store [Layout.network] h.device
      = (.error e,device)

theorem InStep.learn (inStep : h.InStep c) (peer : Network.Endpoint) : (h.learn peer).InStep c := by
  unfold Held.learn
  split
  · exact inStep
  · split
    · exact ⟨inStep.config,inStep.size,inStep.log,inStep.gates,inStep.marked⟩
    · have same := Network.Settings.store_sameOutside { h.settings with target := peer }
        (Layout.fits_network inStep.size)
      refine ⟨inStep.config,?_,?_,?_,inStep.marked⟩
      · exact Nat.le_trans inStep.size (Nat.le_of_eq same.length.symm)
      · exact describes_of_sameOutside same (by decide) inStep.log
      · exact (same.slice_view_eq (.inr (by decide))).trans inStep.gates

theorem Saved.learn (saved : h.Saved) (inStep : h.InStep c) {peer : Network.Endpoint}
    (succeeds : ¬h.LearnFails peer) : (h.learn peer).Saved := by
  unfold Held.learn
  split
  · exact saved
  · next learned =>
    split
    · exact saved
    · next new =>
      have fits := Layout.fits_network inStep.size
      have stored := Network.Settings.store_eq { h.settings with target := peer } fits
      split at stored
      · exact absurd ⟨by simpa using learned,new,_,_,stored⟩ succeeds
      · unfold Saved
        dsimp only
        rw [stored]
        exact Network.Settings.ofRegion_afterWrite _ fits

end Held

namespace Site
variable {s : Site} {c : Config}

/-- During this pass a datagram brings a new destination, and storing it fails. -/
def LearnFails (s : Site) (around : Surroundings) : Prop :=
  ∃ d, (s.beforeNetwork around).Hears around d ∧
    (s.beforeNetwork around).held.LearnFails d.sender

theorem pass_inStep (inStep : s.held.InStep c) (around : Surroundings) :
    (s.pass around).held.InStep c := by
  have before := inStep.steps (s.beforeNetwork_steps around)
  rw [pass_eq,(refresh_outward _).held]
  rcases (s.beforeNetwork around).serveNetwork_step around with same | ⟨d,-,step⟩
  · rw [same]
    exact before
  · exact (before.learn d.sender).step step

theorem pass_saved (saved : s.held.Saved) (inStep : s.held.InStep c) {around : Surroundings}
    (succeeds : ¬s.LearnFails around) : (s.pass around).held.Saved := by
  have before := inStep.steps (s.beforeNetwork_steps around)
  have savedBefore := saved.steps inStep (s.beforeNetwork_steps around)
  rw [pass_eq,(refresh_outward _).held]
  rcases (s.beforeNetwork around).serveNetwork_step around with same | ⟨d,hears,step⟩
  · rw [same]
    exact savedBefore
  · have learned := savedBefore.learn before fun fails => succeeds ⟨d,hears,fails⟩
    exact learned.step (before.learn d.sender) step

theorem run_inStep (inStep : s.held.InStep c) (passes : List Surroundings) :
    (s.run passes).held.InStep c := by
  induction passes generalizing s with
  | nil => exact inStep
  | cons around passes ih => exact ih (pass_inStep inStep around)

/-- Some pass of a run brings a new destination that cannot be stored. -/
def DestinationUnsaved (s : Site) (passes : List Surroundings) : Prop :=
  ∃ before around after, passes = before ++ around :: after ∧ (s.run before).LearnFails around

theorem run_saved (saved : s.held.Saved) (inStep : s.held.InStep c) {passes : List Surroundings}
    (succeeds : ¬s.DestinationUnsaved passes) : (s.run passes).held.Saved := by
  induction passes generalizing s with
  | nil => exact saved
  | cons around passes ih =>
    have first : ¬s.LearnFails around := fun fails => succeeds ⟨[],around,passes,rfl,fails⟩
    refine ih (pass_saved saved inStep first) (pass_inStep inStep around) ?_
    rintro ⟨before,later,after,rfl,fails⟩
    exact succeeds ⟨around :: before,later,after,rfl,fails⟩

/-! ## Starting -/

/-- The log, the gates and the settings can be loaded one after the other, and these are they. -/
inductive Loads (s : Site) : Held → Prop
  | intro {log gates settings d₁ d₂ d₃}
      (loadLog : Log.Ring.load [Layout.log] s.device = (.ok log,d₁))
      (loadGates : Alarm.Gates.load [Layout.gates] s.station.config.defaultGates d₁ = (.ok gates,d₂))
      (loadSettings : Network.Settings.load [Layout.network] d₂ = (.ok settings,d₃)) :
      Loads s ⟨s.station.config,log,gates,s.station.link.learned,settings,d₃⟩

lemma loadMemory_of_loads {h : Held} (loads : s.Loads h) :
    ∃ s', s.loadMemory = (.ok (),s') ∧ s'.held = h := by
  obtain ⟨loadLog,loadGates,loadSettings⟩ := loads
  unfold loadMemory
  rw [s.access_eq loadLog]
  dsimp only
  rw [access_eq _ loadGates]
  dsimp only
  rw [access_eq _ loadSettings]
  exact ⟨_,rfl,rfl⟩

lemma loads_of_loadMemory {s' : Site} (ok : s.loadMemory = (.ok (),s')) : s.Loads s'.held := by
  unfold loadMemory at ok
  rcases loadLog : Log.Ring.load [Layout.log] s.device with ⟨e | log,d₁⟩
  · rw [s.access_eq loadLog] at ok
    exact nomatch ok
  rw [s.access_eq loadLog] at ok
  dsimp only at ok
  rcases loadGates : Alarm.Gates.load [Layout.gates] s.station.config.defaultGates d₁ with
    ⟨e | gates,d₂⟩
  · rw [access_eq _ loadGates] at ok
    exact nomatch ok
  rw [access_eq _ loadGates] at ok
  dsimp only at ok
  rcases loadSettings : Network.Settings.load [Layout.network] d₂ with ⟨e | settings,d₃⟩
  · rw [access_eq _ loadSettings] at ok
    exact nomatch ok
  rw [access_eq _ loadSettings] at ok
  cases ok
  exact .intro loadLog loadGates loadSettings

/-- A start succeeds if the configuration passes its checks and everything can be loaded. -/
theorem start_ok_iff {h : Held} : s.start.1 = .ok () ∧ s.start.2.held = h ↔
    s.station.config.validate = .ok () ∧ s.Loads h := by
  unfold start
  cases hv : s.station.config.validate with
  | error e => exact ⟨fun h => (nomatch h.1),fun h => (nomatch h.1)⟩
  | ok _ =>
    rcases hm : s.loadMemory with ⟨e | _,s'⟩
    · refine ⟨fun h => (nomatch h.1),fun ⟨_,loads⟩ => ?_⟩
      obtain ⟨_,ok,-⟩ := loadMemory_of_loads loads
      rw [hm] at ok
      exact nomatch ok
    · have shown : ((((s'.lightUp.refresh).report
          (.started s'.lightUp.refresh.station.log.count s'.lightUp.refresh.station.gates)).print
            "Program start.\r\n").printPrompt).held = s'.held := by
        rw [(printPrompt_outward _).held,(print_outward ..).held,(report_outward ..).held,
          (refresh_outward _).held,(lightUp_outward _).held]
      constructor
      · rintro ⟨-,rfl⟩
        exact ⟨rfl,shown ▸ loads_of_loadMemory hm⟩
      · rintro ⟨-,loads⟩
        obtain ⟨_,ok,rfl⟩ := loadMemory_of_loads loads
        rw [hm] at ok
        cases ok
        exact ⟨rfl,shown⟩

/-- The gates lie last, so where they can be loaded there is room for everything. -/
lemma used_le_of_load {d d₁ d₂ : Device} {log : Log.Ring} {gates defaults : Alarm.Gates}
    (loadLog : Log.Ring.load [Layout.log] d = (.ok log,d₁))
    (loadGates : Alarm.Gates.load [Layout.gates] defaults d₁ = (.ok gates,d₂)) :
    Layout.used ≤ d.size ∧ Layout.used ≤ d₁.size := by
  have size₁ : Layout.used ≤ d₁.size := by
    obtain ⟨bytes,d,read,-⟩ := Access.ok_of_bind loadGates
    exact (Place.fits_of_read read).2
  have kept := Log.Ring.keeps_size_load [Layout.log] d
  rw [loadLog] at kept
  exact ⟨kept ▸ size₁,size₁⟩

/-- Once everything is loaded, memory and device are in step. -/
lemma Loads.inStep {h : Held} (loads : s.Loads h) : h.InStep s.station.config ∧ h.Saved := by
  obtain @⟨log,gates,settings,d₁,d₂,d₃,loadLog,loadGates,loadSettings⟩ := loads
  obtain ⟨size,size₁⟩ := used_le_of_load loadLog loadGates
  obtain ⟨-,-,describes,-⟩ := Log.Ring.load_ok (Layout.fits_log size) loadLog
  obtain ⟨stored,marked,same⟩ := Alarm.Gates.load_ok (Layout.fits_gates size₁) loadGates
  have size₂ : Layout.used ≤ d₂.size := Nat.le_trans size₁ (Nat.le_of_eq same.length.symm)
  rw [Network.Settings.load_eq (Layout.fits_network size₂)] at loadSettings
  split at loadSettings
  · exact nomatch loadSettings
  · cases loadSettings
    refine ⟨⟨rfl,size₂,?_,stored,marked⟩,rfl⟩
    exact Held.describes_of_sameOutside same (by decide) describes

/-- A sound device gives back what is in step with it, and starting changes none of its bytes. -/
lemma loads_of_inStep {h : Held} (clock : Clock.Timestamp) (inStep : h.InStep c) :
    ∃ settings d, (Site.initial c h.device.repaired clock).Loads
        ⟨c,h.log,h.gates,false,settings,d⟩ ∧
      d.bytes = h.device.bytes ∧ (h.Saved → settings = h.settings) := by
  have loadLog := Log.Operation.load_of_describes (d := h.device.repaired)
    (Layout.fits_log inStep.size) inStep.log
  obtain ⟨d,loadGates,bytes,plan⟩ := Alarm.Gates.load_of_stored
    (d := h.device.repaired.afterRead) (Layout.fits_gates inStep.size) rfl inStep.gates
    inStep.marked
  have loadSettings := Network.Settings.load_eq (d := d)
    (Layout.fits_network (by rw [Device.size,bytes]; exact inStep.size))
  rw [plan] at loadSettings
  refine ⟨_,_,.intro loadLog loadGates loadSettings,bytes,fun saved => ?_⟩
  rw [bytes]
  exact saved

end Site

/-- Whatever fails and whatever comes in, after every pass a sound device would give back the log,
the gates and, unless storing a new destination failed, the network settings that the station
holds. A station started again on the device therefore goes on with them. -/
theorem restart_restores (c : Config) (device : Device) (clock : Clock.Timestamp)
    (started : (Site.initial c device clock).start.1 = .ok ()) (passes : List Surroundings) :
    let s₀ := (Site.initial c device clock).start.2
    let s := s₀.run passes
    let d := s.device.repaired
    Log.Ring.load [Layout.log] d = (.ok s.station.log,d.afterRead) ∧
    (Alarm.Gates.load [Layout.gates] c.defaultGates d).1 = .ok s.station.gates ∧
    (¬s₀.DestinationUnsaved passes →
      (Network.Settings.load [Layout.network] d).1 = .ok s.station.link.settings) ∧
    ∀ later, let t := (Site.initial c d later).start
      t.1 = .ok () ∧ t.2.device.bytes = d.bytes ∧ t.2.station.log = s.station.log ∧
      t.2.station.gates = s.station.gates ∧
      (¬s₀.DestinationUnsaved passes → t.2.station.link.settings = s.station.link.settings) := by
  intro s₀ s d
  obtain ⟨valid,loads⟩ := Site.start_ok_iff.mp ⟨started,rfl⟩
  obtain ⟨inStep₀,saved₀⟩ := loads.inStep
  have inStep : s.held.InStep c := Site.run_inStep inStep₀ passes
  have saved (succeeds : ¬s₀.DestinationUnsaved passes) : s.held.Saved :=
    Site.run_saved saved₀ inStep₀ succeeds
  refine ⟨?_,?_,fun succeeds => ?_,fun later => ?_⟩
  · exact Log.Operation.load_of_describes (Layout.fits_log inStep.size) inStep.log
  · obtain ⟨d',load,-⟩ := Alarm.Gates.load_of_stored (d := d) (Layout.fits_gates inStep.size) rfl
      inStep.gates inStep.marked
    rw [load]
    rfl
  · rw [Network.Settings.load_eq (d := d) (Layout.fits_network inStep.size)]
    exact congrArg Except.ok (saved succeeds)
  · obtain ⟨settings,d',loads,bytes,same⟩ := Site.loads_of_inStep later inStep
    obtain ⟨ok,held⟩ := (Site.start_ok_iff (s := Site.initial c d later)).mpr ⟨valid,loads⟩
    intro t
    refine ⟨ok,?_,congrArg Held.log held,congrArg Held.gates held,fun succeeds => ?_⟩
    · exact (congrArg (·.device.bytes) held).trans bytes
    · exact (congrArg Held.settings held).trans (same (saved succeeds))

/-- A pass that logs a sample, on an erased device that fails the write of its header. -/
theorem restart_restores_erased :
    let device : Device := { Device.blank 281 with plan := ⟨fun _ => false,fun n => n == 3⟩ }
    let clock : Clock.Timestamp := ⟨24,2,29,4,23,59,58⟩
    let around : Surroundings :=
      { time := 900000
        clock := clock
        keys := []
        localEcho := false
        sensor := .ok ⟨215,480⟩
        linkUp := true
        datagram := none
        accepts := fun _ => true }
    let s := (Site.initial .default device clock).start.2.run [around]
    let t := (Site.initial .default s.device.repaired clock).start
    (Site.initial .default device clock).start.1 = .ok () ∧ t.2.station.log = s.station.log ∧
      t.2.station.link.settings = s.station.link.settings := by
  intro device clock around s t
  have started : (Site.initial .default device clock).start.1 = .ok () := by
    decide +revert +kernel
  have silent : ¬(Site.initial .default device clock).start.2.DestinationUnsaved [around] := by
    rintro ⟨before,later,after,split,d,⟨-,-,heard⟩,-⟩
    have only : later ∈ [around] := by simp [split]
    rw [List.mem_singleton.mp only] at heard
    exact nomatch heard
  obtain ⟨-,-,-,again⟩ := restart_restores .default device clock started [around]
  obtain ⟨-,-,log,-,settings⟩ := again clock
  refine ⟨started,?_,?_⟩
  · dsimp only [t,s]
    exact log
  · dsimp only [t,s]
    exact settings silent

end ClimateStation
