import ClimateStation.Proofs.Alarm.Gates
import ClimateStation.Proofs.Log.Operation
import ClimateStation.Proofs.Network.Settings

/-! What reaches the memory through a window stays in that window, whatever is asked for and
whatever fails: the window refuses all the rest. So each structure changes cells of its own window
only, and the windows of the station have no cell in common. -/
namespace ClimateStation
open Storage

namespace Storage
variable {α : Type} {w : Window} {a : StateM Device α}

/-- The cell lies in the window. -/
def Window.Holds (w : Window) (i : Nat) : Prop := w.base ≤ i ∧ i < w.base + w.size

instance (w : Window) (i : Nat) : Decidable (w.Holds i) := by unfold Window.Holds; infer_instance

/-- The bytes that a window shows of a memory. -/
def Window.shown (w : Window) (bytes : List UInt8) : List UInt8 := slice bytes w.base w.size

lemma slice_view_window (w : Window) (bytes : List UInt8) (n : Nat) :
    slice (Place.view [w] bytes) 0 n = slice bytes w.base n := by
  rw [Place.view,slice_drop]
  rfl

/-- The memory without the cells of a window. -/
def Device.outside (w : Window) (d : Device) (i : Nat) : Option UInt8 :=
  if w.Holds i then none else d.bytes[i]?

/-- The computation changes no cell outside the window. -/
def Confined (w : Window) (a : StateM Device α) : Prop := Keeps (Device.outside w) a

lemma Device.outside_congr {d d' : Device} (same : d'.bytes = d.bytes) :
    d'.outside w = d.outside w := by
  funext i
  rw [outside,outside,same]

/-- A cell that changed, while none changed outside the window, lies in the window. -/
lemma Device.holds_of_changed {d d' : Device} {i : Nat} (kept : d'.outside w = d.outside w)
    (changed : d'.bytes[i]? ≠ d.bytes[i]?) : w.Holds i := by
  by_contra other
  have same := congrFun kept i
  rw [outside,outside,if_neg other,if_neg other] at same
  exact changed same

/-- What another window shows is the same, if the two have no cell in common. -/
lemma Window.shown_eq {d d' : Device} {v : Window} (kept : d'.outside w = d.outside w)
    (apart : ∀ i, ¬(w.Holds i ∧ v.Holds i)) : v.shown d'.bytes = v.shown d.bytes := by
  apply List.ext_getElem?
  intro i
  simp only [shown, slice, List.getElem?_take, List.getElem?_drop]
  by_cases inside : i < v.size
  · have other : ¬w.Holds (v.base + i) := fun own =>
      apart _ ⟨own,Nat.le_add_right _ _,Nat.add_lt_add_left inside _⟩
    have same := congrFun kept (v.base + i)
    rw [Device.outside,Device.outside,if_neg other,if_neg other] at same
    rw [if_pos inside,if_pos inside,same]
  · rw [if_neg inside,if_neg inside]

lemma Confined.of_keeps (kept : Keeps Device.bytes a) : Confined w a :=
  fun d => Device.outside_congr (kept d)

theorem confined_write (w : Window) (offset : Nat) (data : List UInt8) :
    Confined w (Place.write [w] offset data) := by
  intro d
  rcases h : Place.write [w] offset data d with ⟨e | _,d'⟩
  · exact Device.outside_congr (Place.bytes_of_write_error h)
  · have fits := Place.fits_of_write h
    have inside : offset + data.length ≤ w.size := fits.1
    have within := fits.base_add_le
    have base : Place.base [w] = w.base := rfl
    obtain rfl := Place.write_ok h
    funext i
    rw [Device.outside,Device.outside]
    by_cases own : w.Holds i
    · rw [if_pos own,if_pos own]
    · rw [if_neg own,if_neg own]
      unfold Window.Holds at own
      apply getElem?_overlay_of_outside
      · exact Nat.le_trans (by omega) within
      · omega

/-- The three windows of the station have no cell in common. -/
theorem Layout.holds_one (i : Nat) :
    (Layout.log.Holds i ∨ Layout.network.Holds i ∨ Layout.gates.Holds i ↔ i < Layout.used) ∧
      ¬(Layout.log.Holds i ∧ Layout.network.Holds i) ∧
      ¬(Layout.log.Holds i ∧ Layout.gates.Holds i) ∧
      ¬(Layout.network.Holds i ∧ Layout.gates.Holds i) := by
  simp only [Window.Holds, Layout.used, Layout.log, Layout.network, Layout.gates]
  omega

end Storage

variable (w : Window)

/-! ## The structures in their windows -/

namespace Log

theorem Ring.confined_clear : Confined w (Ring.clear [w]) :=
  Keeps.bind (confined_write w _ _) fun _ => Keeps.pure _

theorem Ring.confined_load : Confined w (Ring.load [w]) := by
  refine Keeps.bind (Confined.of_keeps (Place.keeps_read _ _ _)) fun bytes => ?_
  dsimp only
  split
  · exact Keeps.pure _
  · exact confined_clear w

theorem Ring.confined_append (r : Ring) (e : Entry) : Confined w (r.append [w] e) :=
  Keeps.bind (confined_write w _ _) fun _ =>
    Keeps.bind (confined_write w _ _) fun _ => Keeps.pure _

/-- Only a header that appends cannot have left makes a load write. -/
lemma Ring.unsound_of_load {d : Device} (changed : (load [w] d).2.bytes ≠ d.bytes) :
    ¬(ofHeader (slice d.bytes w.base headerSize)).Sound := by
  intro sound
  apply changed
  unfold load
  rw [Access.bind_apply]
  rcases read : Place.read [w] 0 headerSize d with ⟨e | bytes,d'⟩
  · exact (congrArg (·.2.bytes) read).symm.trans (Place.keeps_read _ _ _ d)
  · obtain ⟨rfl,rfl⟩ := Place.read_ok read
    rw [slice_view_window]
    dsimp only
    rw [if_pos sound]
    rfl

/-- Whatever is done with a log, also with one whose bookkeeping is unsound. -/
theorem Operation.confined (op : Operation) (r : Ring) : Confined w (op.carryOut r [w]) := by
  cases op with
  | append e => exact r.confined_append w e
  | clear => exact Ring.confined_clear w
  | reopen => exact Ring.confined_load w

lemma Ring.clear_ok {place : Place} {d d' : Device} {r : Ring}
    (h : clear place d = (.ok r,d')) :
    place.Fits regionSize d.size ∧ r = empty ∧ d' = d.afterWrite place.base Operation.cleared := by
  obtain ⟨x,d₁,written,done⟩ := Access.ok_of_bind h
  cases done
  have fits : place.Fits (0 + Operation.cleared.length) d.size := Place.fits_of_write written
  have after : d' = d.afterWrite (place.base + 0) Operation.cleared := Place.write_ok written
  rw [length_cleared,Nat.zero_add] at fits
  exact ⟨fits,rfl,after⟩

end Log

namespace Alarm.Gates
variable {place : Place} {d d' : Device} {g : Gates}

theorem confined_store (g : Gates) : Confined w (g.store [w]) := confined_write w 0 g.toBytes

theorem confined_load (defaults : Gates) : Confined w (load [w] defaults) := by
  refine Keeps.bind (Confined.of_keeps (Place.keeps_read _ _ _)) fun bytes => ?_
  split
  · exact Keeps.bind (defaults.confined_store w) fun _ => Keeps.pure _
  · exact Keeps.pure _

/-- Only erased cells make a load write. -/
lemma erased_of_load {defaults : Gates} (changed : (load [w] defaults d).2.bytes ≠ d.bytes) :
    (slice d.bytes w.base width).all (· == erased) = true := by
  by_contra marked
  apply changed
  unfold load
  rw [Access.bind_apply]
  rcases read : Place.read [w] 0 width d with ⟨e | bytes,d₁⟩
  · exact (congrArg (·.2.bytes) read).symm.trans (Place.keeps_read _ _ _ d)
  · obtain ⟨rfl,rfl⟩ := Place.read_ok read
    rw [slice_view_window]
    dsimp only
    rw [if_neg marked]
    rfl

lemma store_ok (h : g.store place d = (.ok (),d')) :
    place.Fits width d.size ∧ d' = d.afterWrite place.base g.toBytes :=
  ⟨Place.fits_of_write h,Place.write_ok h⟩

end Alarm.Gates

namespace Network.Settings

theorem confined_store (s : Settings) : Confined w (s.store [w]) := confined_write w 0 s.toRegion

theorem keeps_load (place : Place) : Keeps Device.bytes (load place) :=
  (place.keeps_read _ _).bind fun bytes => Keeps.pure (ofRegion bytes)

end Network.Settings
end ClimateStation
