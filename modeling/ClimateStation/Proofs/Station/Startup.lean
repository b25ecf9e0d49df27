import ClimateStation.Proofs.Log.Opening
import ClimateStation.Proofs.Station.Restart

/-! A start is all or nothing towards the outside. A configuration that fails its checks is refused
before the device is touched, and a failing device ends the start before anything is shown, printed or
reported. A start that succeeds holds what stands on the device, or what replaces it there, and says
so; the device then stands for that, so a later start on it has nothing to repair. -/
namespace ClimateStation
open Storage

/-! ## What stands on a device -/

namespace Log.Ring

/-- The log whose header stands at the front, if appends can have left it. -/
def stored? (bytes : List UInt8) : Option Ring :=
  if (recorded bytes).Sound then some (recorded bytes) else none

lemma load_found {place : Place} {d d' : Device} {r : Ring} (fits : place.Fits regionSize d.size)
    (h : load place d = (.ok r,d')) : r = (stored? (place.view d.bytes)).getD empty ∧
      SameOutside place.base (place.base + regionSize) d.bytes d'.bytes := by
  rw [load_eq fits] at h
  unfold stored? recorded
  split at h
  · exact nomatch h
  · split at h
    · next sound =>
      cases h
      rw [if_pos sound]
      exact ⟨rfl,.refl ..⟩
    · next unsound =>
      rw [clear_eq (d := d.afterRead) fits] at h
      split at h
      · exact nomatch h
      · cases h
        rw [if_neg unsound]
        refine ⟨rfl,.overlay (Nat.le_refl _) ?_ fits.base_add_le⟩
        rw [length_cleared]

end Log.Ring

namespace Alarm.Gates

/-- The gates at the front, unless the cells look erased. -/
def stored? (bytes : List UInt8) : Option Gates :=
  let cells := slice bytes 0 width
  if cells.all (· == erased) then none else some (ofBytes cells)

lemma load_found {place : Place} {d d' : Device} {g defaults : Gates}
    (fits : place.Fits width d.size) (h : load place defaults d = (.ok g,d')) :
    g = (stored? (place.view d.bytes)).getD defaults := by
  rw [load_eq defaults fits] at h
  unfold stored?
  split at h
  · exact nomatch h
  · split at h
    · next blank =>
      split at h
      · exact nomatch h
      · cases h
        rw [if_pos blank]
        rfl
    · next marked =>
      cases h
      rw [if_neg marked]
      rfl

end Alarm.Gates

namespace Network.Settings

/-- The settings at the front, if the length byte leaves them in the region and they can be
decoded. -/
def stored? (bytes : List UInt8) : Option Settings :=
  let region := slice bytes 0 regionSize
  let length := (region.getD 0 0).toNat
  if 1 + length ≤ regionSize then ofBytes? (slice region 1 length) else none

lemma ofRegion_eq (bytes : List UInt8) :
    ofRegion (slice bytes 0 regionSize) = (stored? bytes).getD initial := by
  unfold ofRegion stored?
  dsimp only
  split <;> rfl

end Network.Settings

namespace Site
variable {s : Site}

/-- What is loaded is what stood on the device at first, wherever something did: repairing the log
leaves the gates and the settings as they are, and so does storing the default gates. -/
lemma Loads.found {h : Held} (loads : s.Loads h) :
    h.log = (Log.Ring.stored? (Place.view [Layout.log] s.device.bytes)).getD .empty ∧
    h.gates = (Alarm.Gates.stored? (Place.view [Layout.gates] s.device.bytes)).getD
      s.station.config.defaultGates ∧
    h.settings = (Network.Settings.stored? (Place.view [Layout.network] s.device.bytes)).getD
      .initial := by
  obtain @⟨log,gates,settings,d₁,d₂,d₃,loadLog,loadGates,loadSettings⟩ := loads
  obtain ⟨size,size₁⟩ := used_le_of_load loadLog loadGates
  obtain ⟨log_eq,same₁⟩ := Log.Ring.load_found (Layout.fits_log size) loadLog
  have gates_eq := Alarm.Gates.load_found (Layout.fits_gates size₁) loadGates
  obtain ⟨-,-,same₂⟩ := Alarm.Gates.load_ok (Layout.fits_gates size₁) loadGates
  have size₂ : Layout.used ≤ d₂.size := Nat.le_trans size₁ (Nat.le_of_eq same₂.length.symm)
  rw [Network.Settings.load_eq (Layout.fits_network size₂)] at loadSettings
  refine ⟨log_eq,?_,?_⟩
  · rw [gates_eq]
    unfold Alarm.Gates.stored?
    rw [same₁.slice_view_eq (.inr (by decide))]
  · split at loadSettings
    · exact nomatch loadSettings
    · cases loadSettings
      rw [← Network.Settings.ofRegion_eq,same₂.slice_view_eq (.inl (by decide)),
        same₁.slice_view_eq (.inr (by decide))]

/-! ## What a start can do -/

/-- A start is refused, or fails while the memory is loaded, or greets. -/
inductive Starting (s : Site) : Except StartError Unit × Site → Prop
  | refused {e} (invalid : s.station.config.validate = .error e) :
      Starting s (.error (.config e),s)
  | failed {e t} (valid : s.station.config.validate = .ok ())
      (broken : s.loadMemory = (.error e,t)) : Starting s (.error (.storage e),t)
  | greeted {t} (valid : s.station.config.validate = .ok ()) (loaded : s.loadMemory = (.ok (),t)) :
      Starting s (.ok (),((t.lightUp.refresh.report
        (.started t.station.log.count t.station.gates)).print "Program start.\r\n").printPrompt)

theorem start_starting (s : Site) : s.Starting s.start := by
  unfold start
  cases valid : s.station.config.validate with
  | error e => exact .refused valid
  | ok _ =>
    rcases loaded : s.loadMemory with ⟨e | _,t⟩
    · exact .failed valid loaded
    · have held : t.lightUp.refresh.held = t.held := by
        rw [(refresh_outward _).held,(lightUp_outward _).held]
      have log : t.lightUp.refresh.station.log = t.station.log := congrArg Held.log held
      have gates : t.lightUp.refresh.station.gates = t.station.gates := congrArg Held.gates held
      dsimp only
      rw [log,gates]
      exact .greeted valid loaded

variable {r : Except StartError Unit × Site}

lemma Starting.refused_iff (starting : s.Starting r) (e : ConfigError) :
    r.1 = .error (.config e) ↔ s.station.config.validate = .error e := by
  cases starting with
  | refused invalid => simp [invalid]
  | failed valid | greeted valid => simp [valid]

lemma Starting.untouched (starting : s.Starting r) (invalid : s.station.config.validate ≠ .ok ()) :
    r.2 = s := by
  cases starting with
  | refused => rfl
  | failed valid | greeted valid => exact absurd valid invalid

/-- However far loading comes, it lets nothing be seen. -/
lemma Starting.silent (starting : s.Starting r) (fails : r.1 ≠ .ok ()) : r.2.effects = s.effects := by
  cases starting with
  | refused => rfl
  | failed _ broken =>
    obtain ⟨log,gates,settings,device,same⟩ := s.loadMemory_same
    rw [broken] at same
    obtain rfl := same
    rfl
  | greeted => exact absurd rfl fails

/-- What a new station lets be seen once it has started. -/
lemma Starting.greeting {c : Config} {device : Device} {clock : Clock.Timestamp}
    (starting : (Site.initial c device clock).Starting r) (ok : r.1 = .ok ()) :
    r.2.effects = [.show r.2.station.lights.frame,
      .report (.started r.2.station.log.count r.2.station.gates),.print "Program start.\r\n",
      .print "\r\n>"] := by
  cases starting with
  | refused | failed => exact nomatch ok
  | greeted _ loaded =>
    obtain ⟨log,gates,settings,device,same⟩ := (Site.initial c device clock).loadMemory_same
    rw [loaded] at same
    obtain rfl := same
    rfl

end Site

/-- A start fails for its configuration exactly if the configuration fails a check, and then the
device is as it was. If it fails at all, nothing is shown, printed or reported. If it succeeds, what it
reports is what the station holds: what stood on the device, with a cleared log, the gates of the
configuration and the settings of a new station in place of what did not. On the device as it left it,
a station of the same configuration starts and holds the same, and no byte of the device changes. -/
theorem start_all_or_nothing (c : Config) (device : Device) (clock : Clock.Timestamp) :
    let t := (Site.initial c device clock).start
    (∀ e, t.1 = .error (.config e) ↔ c.validate = .error e) ∧
    (c.validate ≠ .ok () → t.2.device = device) ∧
    (t.1 ≠ .ok () → t.2.effects = []) ∧
    (t.1 = .ok () →
      t.2.effects = [.show t.2.station.lights.frame,
        .report (.started t.2.station.log.count t.2.station.gates),.print "Program start.\r\n",
        .print "\r\n>"] ∧
      t.2.station.log =
        (Log.Ring.stored? (Place.view [Layout.log] device.bytes)).getD .empty ∧
      t.2.station.gates =
        (Alarm.Gates.stored? (Place.view [Layout.gates] device.bytes)).getD c.defaultGates ∧
      t.2.station.link.settings =
        (Network.Settings.stored? (Place.view [Layout.network] device.bytes)).getD .initial ∧
      ∀ later, let u := (Site.initial c t.2.device.repaired later).start
        u.1 = .ok () ∧ u.2.device.bytes = t.2.device.bytes ∧ u.2.station.log = t.2.station.log ∧
        u.2.station.gates = t.2.station.gates ∧
        u.2.station.link.settings = t.2.station.link.settings) := by
  intro t
  have starting : (Site.initial c device clock).Starting t := Site.start_starting _
  refine ⟨starting.refused_iff,fun invalid => ?_,starting.silent,fun ok => ?_⟩
  · exact congrArg Site.device (starting.untouched invalid)
  · obtain ⟨valid,loads⟩ := Site.start_ok_iff.mp ⟨ok,rfl⟩
    obtain ⟨log,gates,settings⟩ := loads.found
    obtain ⟨inStep,saved⟩ := loads.inStep
    refine ⟨starting.greeting ok,log,gates,settings,fun later => ?_⟩
    obtain ⟨again,d,loadsAgain,bytes,same⟩ := Site.loads_of_inStep later inStep
    obtain ⟨ok',held⟩ := (Site.start_ok_iff (s := Site.initial c _ later)).mpr ⟨valid,loadsAgain⟩
    exact ⟨ok',(congrArg (·.device.bytes) held).trans bytes,congrArg Held.log held,
      congrArg Held.gates held,(congrArg Held.settings held).trans (same saved)⟩

/-- A header that no appends leave, settings that cannot be decoded and erased gates: everything is
replaced, and a later start finds it so. -/
theorem start_all_or_nothing_repaired :
    let device := Device.ofBytes (List.replicate 273 7 ++ List.replicate 8 erased)
    let clock : Clock.Timestamp := ⟨24,2,29,4,23,59,58⟩
    let t := (Site.initial .default device clock).start
    let u := (Site.initial .default t.2.device.repaired clock).start
    t.1 = .ok () ∧ t.2.station.log = .empty ∧ t.2.station.gates = Config.default.defaultGates ∧
      t.2.station.link.settings = .initial ∧ u.1 = .ok () ∧
      u.2.device.bytes = t.2.device.bytes ∧ u.2.station.log = t.2.station.log := by
  intro device clock
  have noLog : Log.Ring.stored? (Place.view [Layout.log] device.bytes) = none := by decide +kernel
  have noGates : Alarm.Gates.stored? (Place.view [Layout.gates] device.bytes) = none := by
    decide +kernel
  have noSettings : Network.Settings.stored? (Place.view [Layout.network] device.bytes) = none := by
    decide +kernel
  have started : (Site.initial .default device clock).start.1 = .ok () := by decide +kernel
  obtain ⟨-,-,-,greeted⟩ := start_all_or_nothing .default device clock
  obtain ⟨-,log,gates,settings,again⟩ := greeted started
  obtain ⟨ok,bytes,sameLog,-⟩ := again clock
  rw [noLog,Option.getD_none] at log
  rw [noGates,Option.getD_none] at gates
  rw [noSettings,Option.getD_none] at settings
  exact ⟨started,log,gates,settings,ok,bytes,sameLog⟩

end ClimateStation
