import ClimateStation.Proofs.Network.Settings

/-! The region that the network settings are stored in. What is stored there is found again, and
whatever the region holds is taken for some settings, which a station can store in turn. -/
namespace ClimateStation.Network
open Storage Binary

/-- An address is any four bytes. -/
lemma Address.read_eq_some_iff {x : Address} {bytes rest : List UInt8} :
    read bytes = some (x,rest) ↔ bytes = x.toBytes ++ rest := by
  refine ⟨fun h => ?_,fun h => h ▸ read_toBytes x rest⟩
  match bytes with
  | [] | [_] | [_,_] | [_,_,_] => exact nomatch h
  | a :: b :: c :: d :: bytes =>
    obtain ⟨rfl,rfl⟩ := Prod.mk.inj (Option.some.inj h)
    rfl

namespace Settings

/-- The bytes start with a packed form of the settings: the addresses byte by byte, and the port in
any of its forms. What follows is not looked at. -/
def PackedIn (bytes : List UInt8) (s : Settings) : Prop :=
  ∃ port rest, Grouped16 port s.target.port ∧
    bytes = s.target.address.toBytes ++ port ++ s.localAddress.toBytes ++ s.subnet.toBytes
      ++ s.gateway.toBytes ++ rest

theorem ofBytes?_eq_some_iff {bytes : List UInt8} {s : Settings} :
    ofBytes? bytes = some s ↔ PackedIn bytes s := by
  have unfolded : read bytes = (Address.read bytes).bind fun address =>
      (readUnsigned16 address.2).bind fun port => (Address.read port.2).bind fun localAddress =>
        (Address.read localAddress.2).bind fun subnet => (Address.read subnet.2).bind fun gateway =>
          some (⟨⟨address.1,port.1⟩,localAddress.1,subnet.1,gateway.1⟩,gateway.2) := rfl
  have start : ofBytes? bytes = (read bytes).map (·.1) := rfl
  rw [start,unfolded]
  simp only [Option.map_eq_some_iff, Option.bind_eq_some_iff, Prod.exists,
    Address.read_eq_some_iff, readUnsigned16_eq_some_iff]
  constructor
  · rintro ⟨_,_,⟨_,_,rfl,_,_,⟨form,grouped,rfl⟩,_,_,rfl,_,_,rfl,_,rest,rfl,same⟩,rfl⟩
    obtain ⟨rfl,-⟩ := Prod.mk.inj (Option.some.inj same)
    refine ⟨form,rest,grouped,?_⟩
    simp only [List.append_assoc]
  · rintro ⟨form,rest,grouped,rfl⟩
    simp only [List.append_assoc]
    exact ⟨s,rest,⟨_,_,rfl,_,_,⟨form,grouped,rfl⟩,_,_,rfl,_,_,rfl,_,_,rfl,rfl⟩,rfl⟩

/-- What a region is taken for: the settings behind its length byte, if there are any. -/
lemma ofRegion_spec (region : List UInt8) :
    let length := (region.getD 0 0).toNat
    (∀ s, length < regionSize → PackedIn (slice region 1 length) s → ofRegion region = s) ∧
    (regionSize ≤ length ∨ (∀ s, ¬PackedIn (slice region 1 length) s) →
      ofRegion region = initial) := by
  intro length
  have unfolded : ofRegion region = if 1 + length ≤ regionSize then
      (ofBytes? (slice region 1 length)).getD initial else initial := rfl
  refine ⟨fun s fits packed => ?_,fun none => ?_⟩
  · rw [unfolded,if_pos (by omega),ofBytes?_eq_some_iff.mpr packed,Option.getD_some]
  · rw [unfolded]
    rcases none with long | none
    · rw [if_neg (by omega)]
    · have failed : ofBytes? (slice region 1 length) = .none :=
        Option.eq_none_iff_forall_ne_some.mpr fun s found => none s (ofBytes?_eq_some_iff.mp found)
      rw [failed,Option.getD_none,ite_self]

variable {place : Place} {d : Device}

/-- Storing is one write at the start of the region, of few bytes, and a load finds what was
stored. -/
lemma store_of_healthy (fits : place.Fits regionSize d.size) (sound : d.plan = .sound)
    (s : Settings) : ∃ d', s.store place d = (.ok (),d') ∧
      d'.written = d.written ++ [(place.base,s.toRegion)] ∧
      d'.bytes = overlay d.bytes place.base s.toRegion ∧ (load place d').1 = .ok s := by
  have stored := store_eq s fits
  rw [sound] at stored
  have room := fits.base_add_le
  have size : (d.afterWrite place.base s.toRegion).size = d.size := by
    have few := length_toRegion_le s
    rw [regionSize] at room
    exact d.size_afterWrite (by omega)
  have loaded := load_eq (d := d.afterWrite place.base s.toRegion) (size ▸ fits)
  rw [Device.afterWrite_plan,sound,ofRegion_afterWrite s fits] at loaded
  exact ⟨_,stored,rfl,rfl,congrArg Prod.fst loaded⟩

end Settings

open Settings

/-- On a memory that does not fail, settings are stored at the start of their region, in twenty bytes
at most and whatever the region held, and are found by a load. A load of any region succeeds: it
finds the settings packed behind a length below the size of the region, or those of a new station if
the length is greater or nothing is packed there; and these can be stored and found in turn. -/
theorem settings_outlive_region {place : Place} {d : Device} (fits : place.Fits regionSize d.size)
    (sound : d.plan = .sound) :
    (∀ s : Settings, ∃ data d', s.store place d = (.ok (),d') ∧ data.length ≤ 20 ∧
      d'.written = d.written ++ [(place.base,data)] ∧
      d'.bytes = overlay d.bytes place.base data ∧ (load place d').1 = .ok s) ∧
    let region := slice (place.view d.bytes) 0 regionSize
    let length := (region.getD 0 0).toNat
    ∃ found d', load place d = (.ok found,d') ∧ d'.bytes = d.bytes ∧ d'.written = d.written ∧
      (∀ s, length ≤ 25 → PackedIn (slice region 1 length) s → found = s) ∧
      (25 < length ∨ (∀ s, ¬PackedIn (slice region 1 length) s) → found = initial) ∧
      ∃ d'', found.store place d' = (.ok (),d'') ∧ (load place d'').1 = .ok found := by
  refine ⟨fun s => ?_,?_⟩
  · obtain ⟨d',stored,written,bytes,found⟩ := store_of_healthy fits sound s
    exact ⟨_,d',stored,length_toRegion_le s,written,bytes,found⟩
  · intro region length
    have loaded := load_eq fits
    rw [sound] at loaded
    obtain ⟨packed,unpacked⟩ := ofRegion_spec region
    obtain ⟨d'',stored,-,-,again⟩ := store_of_healthy (d := d.afterRead) fits sound (ofRegion region)
    refine ⟨ofRegion region,d.afterRead,loaded,rfl,rfl,fun s short => ?_,fun none => ?_,
      d'',stored,again⟩
    · exact packed s (Nat.lt_succ_of_le short)
    · exact unpacked (none.imp_left Nat.succ_le_of_lt)

/-- In the region of the station, over the longest form and followed by its last bytes. -/
theorem settings_outlive_longer_form :
    let place : Place := [Layout.network]
    let old : Settings := ⟨⟨⟨10,0,0,5⟩,65535⟩,⟨10,0,0,1⟩,⟨255,255,255,0⟩,⟨10,0,0,254⟩⟩
    let new : Settings := { old with target := ⟨⟨10,0,0,7⟩,80⟩ }
    let d := (Device.blank Layout.used).afterWrite place.base old.toRegion
    place.Fits regionSize d.size ∧ d.plan = .sound ∧
    ∃ data d', new.store place d = (.ok (),d') ∧ data.length ≤ 20 ∧
      d'.written = d.written ++ [(place.base,data)] ∧
      d'.bytes = overlay d.bytes place.base data ∧ (load place d').1 = .ok new := by
  intro place old new d
  have fits : place.Fits regionSize d.size := by decide +revert +kernel
  exact ⟨fits,rfl,(settings_outlive_region fits rfl).1 new⟩

end ClimateStation.Network
