import ClimateStation.Proofs.Log.Queue

/-! Which headers are trusted when a log is opened: the ones that appends leave on a cleared log, and
no others. Whatever else stands there is replaced by a cleared log, so a log that was opened can be
opened again without a write. -/
namespace ClimateStation.Log
open Storage

namespace Ring
variable {place : Place} {d : Device}

/-- What the first bytes of a region say of a log. -/
def recorded (bytes : List UInt8) : Ring := ofHeader (slice bytes 0 headerSize)

lemma eq_after_iff (r : Ring) (n : Nat) :
    r = after n ↔ r.next = 4 + 9 * (n % 27) ∧ r.count = min n 27 := by
  obtain ⟨next,count⟩ := r
  rw [after,capacity_eq,headerSize_eq,width_eq,Nat.mul_comm,mk.injEq]

/-- On a device that does not fail, a trusted header is all that opening looks at. -/
lemma load_of_sound (fits : place.Fits regionSize d.size) (healthy : d.plan = .sound)
    (sound : (recorded (place.view d.bytes)).Sound) :
    load place d = (.ok (recorded (place.view d.bytes)),d.afterRead) := by
  have opened := load_eq fits
  rw [healthy] at opened
  exact opened.trans (if_pos sound)

/-- Any other header is replaced by a cleared log. -/
lemma load_of_not_sound (fits : place.Fits regionSize d.size) (healthy : d.plan = .sound)
    (unsound : ¬(recorded (place.view d.bytes)).Sound) :
    load place d = (.ok empty,d.afterRead.afterWrite place.base Operation.cleared) := by
  have opened := load_eq fits
  have cleared := clear_eq (d := d.afterRead) fits
  rw [healthy] at opened
  rw [Device.afterRead_plan,healthy] at cleared
  exact opened.trans ((if_neg unsound).trans cleared)

lemma view_cleared (fits : place.Fits regionSize d.size) :
    place.view (d.afterWrite place.base Operation.cleared).bytes =
      overlay (place.view d.bytes) 0 Operation.cleared :=
  Place.view_overlay 0 Operation.cleared fits

/-- A log that was opened is opened again as it is. -/
theorem load_load (fits : place.Fits regionSize d.size) (healthy : d.plan = .sound) :
    ∃ r d', load place d = (.ok r,d') ∧ load place d' = (.ok r,d'.afterRead) := by
  obtain ⟨r,d',opened⟩ := load_of_healthy fits healthy
  obtain ⟨plan,size,describes,-⟩ := load_ok fits opened
  have again := Operation.load_of_describes (size ▸ fits) describes
  rw [plan,healthy] at again
  exact ⟨r,d',opened,again⟩

/-- Each append moves the header on by one. -/
lemma run_appends (es : List Entry) {n : Nat} (fits : place.Fits regionSize d.size)
    (healthy : d.plan = .sound) (h : Describes (place.view d.bytes) (after n)) :
    ∃ d', Operation.run place (after n) (es.map .append) d = (.ok (after (n + es.length)),d') ∧
      Describes (place.view d'.bytes) (after (n + es.length)) := by
  induction es generalizing n d with
  | nil => exact ⟨d,rfl,h⟩
  | cons e es ih =>
    obtain ⟨d₁,done,fits₁,plan,describes,-⟩ := Operation.step_of_healthy (.append e) fits healthy h
    have target : (Operation.append e).target (after n) = after (n + 1) := advance_after n
    rw [target] at done describes
    obtain ⟨d',ran,left⟩ := ih fits₁ plan describes
    rw [List.length_cons,Nat.add_comm es.length,← Nat.add_assoc]
    refine ⟨d',?_,left⟩
    unfold Operation.run at ran ⊢
    rw [List.map_cons,List.foldlM_cons,Access.bind_ok _ done]
    exact ran

/-- What appends leave on a log that was cleared. -/
lemma clear_appends (es : List Entry) (fits : place.Fits regionSize d.size)
    (healthy : d.plan = .sound) : ∃ r₀ d₀ r d', clear place d = (.ok r₀,d₀) ∧
      Operation.run place r₀ (es.map .append) d₀ = (.ok r,d') ∧ r = after es.length ∧
      recorded (place.view d'.bytes) = r := by
  have cleared := clear_eq fits
  rw [healthy] at cleared
  have size : (d.afterWrite place.base Operation.cleared).size = d.size :=
    d.size_afterWrite (length_cleared ▸ fits.base_add_le)
  have start : Describes (place.view (d.afterWrite place.base Operation.cleared).bytes) (after 0) :=
    view_cleared fits ▸ describes_overlay_empty _ _
  obtain ⟨d',ran,left⟩ := run_appends (d := d.afterWrite place.base Operation.cleared) es
    (size ▸ fits) healthy start
  rw [Nat.zero_add] at ran left
  refine ⟨empty,_,_,d',cleared,ran,rfl,?_⟩
  rw [recorded,left.header,left.sound.ofHeader_header]

/-- Opening a log on a device that does not fail trusts a header exactly if some number of appends
leaves it on a cleared log, and then writes nothing. Any other header is answered by an empty log on
a region of zeros, and a second opening changes nothing. -/
theorem trusts_headers_of_appends (place : Place) (d : Device)
    (fits : place.Fits regionSize d.size) (healthy : d.plan = .sound) :
    let header := recorded (place.view d.bytes)
    let ofAppends := ∃ n, header.next = 4 + 9 * (n % 27) ∧ header.count = min n 27
    ((∃ d', load place d = (.ok header,d') ∧ d'.bytes = d.bytes ∧ d'.writes = d.writes) ↔
        ofAppends) ∧
      (¬ofAppends → ∃ d', load place d = (.ok ⟨4,0⟩,d') ∧
        slice (place.view d'.bytes) 0 247 = [4,0,0,0] ++ List.replicate 243 0) ∧
      (∃ r d₁ d₂, load place d = (.ok r,d₁) ∧ load place d₁ = (.ok r,d₂) ∧ d₂.bytes = d₁.bytes ∧
        d₂.writes = d₁.writes) ∧
      ∀ es : List Entry, ∃ r₀ d₀ r d', clear place d = (.ok r₀,d₀) ∧
        Operation.run place r₀ (es.map .append) d₀ = (.ok r,d') ∧
        recorded (place.view d'.bytes) = r ∧
        r.next = 4 + 9 * (es.length % 27) ∧ r.count = min es.length 27 := by
  intro header ofAppends
  have trusted : header.Sound ↔ ofAppends :=
    (sound_iff_after header).trans (exists_congr (eq_after_iff header))
  rw [← trusted]
  refine ⟨⟨?_,fun sound => ?_⟩,fun unsound => ?_,?_,fun es => ?_⟩
  · rintro ⟨d',opened,-,unwritten⟩
    by_contra unsound
    rw [load_of_not_sound fits healthy unsound] at opened
    obtain ⟨-,rfl⟩ := Prod.mk.inj opened
    exact absurd unwritten (Nat.succ_ne_self d.writes)
  · exact ⟨_,load_of_sound fits healthy sound,rfl,rfl⟩
  · refine ⟨_,load_of_not_sound fits healthy unsound,?_⟩
    have whole := slice_overlay (place.view d.bytes) 0 Operation.cleared
      (by rw [Nat.zero_add,length_cleared]; exact fits.length_view)
    rw [length_cleared] at whole
    rw [view_cleared (d := d.afterRead) fits]
    exact whole
  · obtain ⟨r,d₁,opened,again⟩ := load_load fits healthy
    exact ⟨r,d₁,_,opened,again,rfl,rfl⟩
  · obtain ⟨r₀,d₀,r,d',cleared,ran,left,recorded⟩ := clear_appends es fits healthy
    exact ⟨r₀,d₀,r,d',cleared,ran,recorded,(eq_after_iff r _).mp left⟩

/-- A header with an offset between two slots, in a window that starts behind other bytes. -/
theorem trusts_headers_of_appends_misaligned :
    let d := Device.ofBytes (List.replicate 7 1 ++ [5, 0, 1, 0] ++ List.replicate 250 7)
    Place.Fits [⟨7, 250⟩] regionSize d.size ∧ d.plan = .sound ∧
      (¬∃ n, (recorded (Place.view [⟨7, 250⟩] d.bytes)).next = 4 + 9 * (n % 27) ∧
        (recorded (Place.view [⟨7, 250⟩] d.bytes)).count = min n 27) ∧
      ∃ d', load [⟨7, 250⟩] d = (.ok ⟨4,0⟩,d') ∧
        slice (Place.view [⟨7, 250⟩] d'.bytes) 0 247 = [4,0,0,0] ++ List.replicate 243 0 := by
  intro d
  have fits : Place.Fits [⟨7, 250⟩] regionSize d.size := by decide +revert +kernel
  have header : recorded (Place.view [⟨7, 250⟩] d.bytes) = ⟨5,1⟩ := rfl
  have other : ¬∃ n, (recorded (Place.view [⟨7, 250⟩] d.bytes)).next = 4 + 9 * (n % 27) ∧
      (recorded (Place.view [⟨7, 250⟩] d.bytes)).count = min n 27 := by
    rw [header]
    rintro ⟨n,next : 5 = 4 + 9 * (n % 27),-⟩
    omega
  obtain ⟨-,reset,-⟩ := trusts_headers_of_appends [⟨7, 250⟩] d fits rfl
  exact ⟨fits,rfl,other,reset other⟩

end Ring

end ClimateStation.Log
