import ClimateStation.Proofs.Light.Bank
import ClimateStation.Proofs.Station.Channels
import ClimateStation.Proofs.Station.Held
import ClimateStation.Proofs.Storage.Confinement

/-! Commands that are understood and yet refused, and those that are carried out. What decides is
the channel, the operands and the device, and it is decided before anything is changed: a refused
command leaves all that the station keeps as it was, and any other reaches what it asks for. -/
namespace ClimateStation
open Storage

/-- The computation fails on this device. -/
def Storage.Access.Fails {α : Type} (a : Access α) (d : Device) : Prop :=
  ∃ e d', a d = (.error e,d')

/-- Why a station does not carry out a command that it has understood. -/
def Held.Refuses (h : Held) (channel : Channel) : Command → Prop
  | .climateMonitor => channel = .datagram
  | .setTime hour minute second => ¬(hour < 24 ∧ minute < 60 ∧ second < 60)
  | .setDate year month day =>
    ¬(1 ≤ year ∧ year ≤ 99 ∧
      Clock.isDate (2000 + year.toNat : Nat) month.toNat day.toNat = true)
  | .setBlinkRate rate => rate = 0
  | .setScale flag => flag ≠ 0 ∧ flag ≠ 1
  | .setGate index value => 3 < index.toNat ∨ 32767 < value.toNat ∨
    ∀ gates, h.gates.set? index.toNat value.toInt16 = some gates →
      (gates.store [Layout.gates]).Fails h.device
  | .logClear => (Log.Ring.clear [Layout.log]).Fails h.device
  | _ => False

namespace Site

/-- Nothing that the station keeps is different, and no byte of its memory. It may have called the
device, it may have recorded effects, and it may bring the strip up to date once more. -/
structure Unchanged (s t : Site) : Prop where
  same : t = { s with
    station.stale := t.station.stale
    device := t.device
    effects := t.effects }
  bytes : t.device.bytes = s.device.bytes

/-- What carrying out a command is for: where the command changes anything, the value that this has
afterwards. -/
def Achieves (s : Site) (c : Command) (t : Site) : Prop :=
  match c with
  | .lightMode mode => t.station.lights.light .user = (s.station.lights.light .user).switch mode
  | .lightColour colour =>
    t.station.lights.light .user = (s.station.lights.light .user).paint colour
  | .climateMonitor =>
    t.station.display.monitoring = !s.station.display.monitoring ∧
      t.station.editor.waiting = (s.station.editor.waiting || t.station.display.monitoring)
  | .logClear =>
    t.station.log = .empty ∧ Layout.log.shown t.device.bytes = Log.Operation.cleared
  | .setTime hour minute second => t.clock = { s.clock with hour, minute, second }
  | .setDate year month day =>
    t.clock = { s.clock with
      year, month, day
      weekday :=
        UInt8.ofNat (Clock.weekday (2000 + year.toNat : Nat) month.toNat day.toNat) }
  | .setBlinkRate rate => t.station.lights.rate = rate
  | .setScale flag => t.station.display.scale = if flag = 0 then .celsius else .fahrenheit
  | .setGate index value =>
    t.station.gates.toList[index.toNat]? = some value.toInt16 ∧
      Layout.gates.shown t.device.bytes = t.station.gates.toBytes
  | _ => True

variable {s t u : Site}

lemma Unchanged.refl (s : Site) : s.Unchanged s := ⟨rfl,rfl⟩

lemma Unchanged.trans (h : s.Unchanged t) (h' : t.Unchanged u) : s.Unchanged u := by
  refine ⟨?_,h'.bytes.trans h.bytes⟩
  rw [h'.same,h.same]

lemma Unchanged.called {device : Device} (bytes : device.bytes = s.device.bytes) :
    s.Unchanged { s with device } := ⟨rfl,bytes⟩

variable (s)

lemma report_unchanged (e : Event) : s.Unchanged (s.report e) := ⟨rfl,rfl⟩

lemma markStale_unchanged : s.Unchanged s.markStale := ⟨rfl,rfl⟩

/-- Either the command is refused and nothing is changed, or it is not and has done what it is
for. -/
def Decides (channel : Channel) (c : Command) (t : Site) : Prop :=
  s.held.Refuses channel c ∧ s.Unchanged t ∨ ¬s.held.Refuses channel c ∧ s.Achieves c t

variable {s} in
lemma Decides.markStale {channel : Channel} {c : Command} (h : s.Decides channel c t) :
    s.Decides channel c t.markStale := by
  rcases h with ⟨refused,unchanged⟩ | ⟨accepted,achieves⟩
  · exact .inl ⟨refused,unchanged.trans t.markStale_unchanged⟩
  · refine .inr ⟨accepted,?_⟩
    cases c <;> exact achieves

variable (channel : Channel)

lemma answerMonitor_achieves : s.Achieves .climateMonitor s.answerMonitor.2 := by
  unfold answerMonitor
  cases on : s.station.display.monitoring with
  | true =>
    refine ⟨?_,(Bool.or_false _).symm⟩
    rw [on]
    rfl
  | false =>
    refine ⟨?_,(Bool.or_true _).symm⟩
    rw [on]
    rfl

lemma answerLogClear_decides : s.Decides channel .logClear s.answerLogClear.2 := by
  unfold answerLogClear
  rcases cleared : Log.Ring.clear [Layout.log] s.device with ⟨e | log,device⟩
  · rw [s.access_eq cleared]
    exact .inl ⟨⟨e,device,cleared⟩,.called (Log.Ring.bytes_of_clear_error cleared)⟩
  · obtain ⟨fits,rfl,rfl⟩ := Log.Ring.clear_ok cleared
    rw [s.access_eq cleared]
    refine .inr ⟨?_,rfl,?_⟩
    · rintro ⟨e,device,failed⟩
      exact nomatch cleared.symm.trans failed
    · have shown := slice_overlay s.device.bytes (Place.base [Layout.log]) Log.Operation.cleared
        (by rw [Log.Ring.length_cleared]; exact fits.base_add_le)
      rw [Log.Ring.length_cleared] at shown
      exact shown

lemma setTime_decides (hour minute second : UInt8) :
    s.Decides channel (.setTime hour minute second)
      (s.answerClock "Time" (s.clock.withTime hour minute second)).2 := by
  unfold Clock.Timestamp.withTime
  dsimp only
  split
  · next sound => exact .inr ⟨not_not.mpr sound,rfl⟩
  · next unsound => exact .inl ⟨unsound,.refl s⟩

lemma setDate_decides (year month day : UInt8) :
    s.Decides channel (.setDate year month day)
      (s.answerClock "Date-Time" (s.clock.withDate year month day)).2 := by
  unfold Clock.Timestamp.withDate
  dsimp only
  split
  · next sound => exact .inr ⟨not_not.mpr sound,rfl⟩
  · next unsound => exact .inl ⟨unsound,.refl s⟩

lemma answerBlinkRate_decides (rate : UInt16) :
    s.Decides channel (.setBlinkRate rate) (s.answerBlinkRate rate).2 := by
  unfold answerBlinkRate Light.Bank.setRate?
  by_cases zero : rate = 0
  · rw [if_pos zero]
    exact .inl ⟨zero,.refl s⟩
  · rw [if_neg zero]
    exact .inr ⟨zero,rfl⟩

lemma answerScale_decides (flag : UInt8) :
    s.Decides channel (.setScale flag) (s.answerScale flag).2 := by
  by_cases celsius : flag = 0
  · subst celsius
    exact .inr ⟨fun refused => refused.1 rfl,rfl⟩
  by_cases fahrenheit : flag = 1
  · subst fahrenheit
    exact .inr ⟨fun refused => refused.2 rfl,rfl⟩
  have unknown : Climate.Scale.ofFlag? flag = none := by
    unfold Climate.Scale.ofFlag?
    split
    · exact absurd rfl celsius
    · exact absurd rfl fahrenheit
    · rfl
  unfold answerScale
  rw [unknown]
  exact .inl ⟨⟨celsius,fahrenheit⟩,.refl s⟩

lemma answerGate_decides (index : UInt8) (value : UInt16) :
    s.Decides channel (.setGate index value) (s.answerGate index value).2 := by
  unfold answerGate
  cases set : s.station.gates.set? index.toNat value.toInt16 with
  | none =>
    have known := s.station.gates.isSome_set? index.toNat value.toInt16
    rw [set] at known
    have beyond := of_decide_eq_false known.symm
    exact .inl ⟨.inl (Nat.not_lt.mp beyond),.refl s⟩
  | some gates =>
    have below : index.toNat < 4 := Alarm.Gates.lt_count_of_set? set
    dsimp only
    by_cases large : maxGate < value.toNat
    · rw [if_pos large]
      exact .inl ⟨.inr (.inl large),.refl s⟩
    · rw [if_neg large]
      rcases stored : gates.store [Layout.gates] s.device with ⟨e | _,device⟩
      · rw [s.access_eq stored]
        refine .inl ⟨.inr (.inr fun other same => ?_),.called (Place.bytes_of_write_error stored)⟩
        obtain rfl := Option.some.inj (set.symm.trans same)
        exact ⟨e,device,stored⟩
      · obtain ⟨fits,rfl⟩ := Alarm.Gates.store_ok stored
        rw [s.access_eq stored]
        refine .inr ⟨?_,?_,?_⟩
        · rintro (beyond | tooLarge | fails)
          · exact Nat.not_lt.mpr beyond below
          · exact large tooLarge
          · obtain ⟨e,device,failed⟩ := fails gates set
            exact nomatch stored.symm.trans failed
        · rw [Alarm.Gates.toList_set? set]
          exact List.getElem?_set_self below
        · rw [Window.shown,← slice_view_window]
          exact gates.slice_afterWrite fits

theorem carryOut_decides (c : Command) (both : c.consoleOnly = false) :
    s.Decides channel c (s.carryOut c).2 := by
  cases c with
  | lightMode mode =>
    refine .inr ⟨id,?_⟩
    change (s.station.lights.switch .user mode).light .user = _
    rw [Light.Bank.switch_eq,Light.Bank.light_put_self]
  | lightColour colour =>
    refine .inr ⟨id,?_⟩
    change (s.station.lights.paint .user colour).light .user = _
    rw [Light.Bank.paint_eq,Light.Bank.light_put_self]
  | climateMonitor => exact nomatch both
  | logClear => exact s.answerLogClear_decides channel
  | setTime hour minute second => exact s.setTime_decides channel hour minute second
  | setDate year month day => exact s.setDate_decides channel year month day
  | setBlinkRate rate => exact s.answerBlinkRate_decides channel rate
  | setScale flag => exact s.answerScale_decides channel flag
  | setGate index value => exact s.answerGate_decides channel index value
  | _ => exact .inr ⟨id,trivial⟩

/-- A command off the console that needs it is refused; any other is decided by its operands and by
the device. -/
theorem answer_decides (c : Command) : s.Decides channel c (s.answer channel c).2 := by
  cases only : c.consoleOnly with
  | false =>
    rw [s.answer_both channel only]
    exact s.carryOut_decides channel c only
  | true =>
    cases c with
    | climateMonitor =>
      cases channel with
      | console => exact .inr ⟨nofun,s.answerMonitor_achieves⟩
      | datagram => exact .inl ⟨rfl,.refl s⟩
    | _ => exact nomatch only

end Site
end ClimateStation
