import ClimateStation.Network.Settings
import ClimateStation.Proofs.Binary.Codec
import ClimateStation.Proofs.Storage.Isolation

/-! Stored network settings read back, whatever an older and longer form left behind them. -/
namespace ClimateStation.Network
open Storage Binary

lemma Address.read_toBytes (x : Address) (rest : List UInt8) :
    read (x.toBytes ++ rest) = some (x,rest) := rfl

namespace Settings

lemma read_toBytes (s : Settings) (rest : List UInt8) : read (s.toBytes ++ rest) = some (s,rest) := by
  simp only [toBytes, List.append_assoc]
  rw [read,Reader.bind_apply,Address.read_toBytes]
  change (readUnsigned16 >>= _) _ = _
  rw [Reader.bind_apply,readUnsigned16_unsigned16]
  rfl

lemma length_toBytes_le (s : Settings) : s.toBytes.length ≤ 19 := by
  have h := length_unsigned16_le s.target.port
  simp only [toBytes, Address.toBytes, List.length_append, List.length_cons, List.length_nil]
  omega

lemma length_toRegion_le (s : Settings) : s.toRegion.length ≤ 20 := by
  have h := length_toBytes_le s
  rw [toRegion,List.length_cons]
  omega

/-- Settings come back from the front of a region, whatever stands behind them. -/
theorem ofRegion_toRegion (s : Settings) (stale : List UInt8) :
    ofRegion (s.toRegion ++ stale) = s := by
  have hl := length_toBytes_le s
  have hb : (UInt8.ofNat s.toBytes.length).toNat = s.toBytes.length := by
    rw [UInt8.toNat_ofNat']
    omega
  have hf : 1 + (UInt8.ofNat s.toBytes.length).toNat ≤ regionSize := by
    rw [hb,regionSize]
    omega
  have hs : slice (s.toRegion ++ stale) 1 s.toBytes.length = s.toBytes := by
    rw [slice,toRegion,List.cons_append,List.drop_one,List.tail_cons,List.take_left' rfl]
  have hr := read_toBytes s []
  rw [List.append_nil] at hr
  have h₀ : (s.toRegion ++ stale).getD 0 0 = UInt8.ofNat s.toBytes.length := rfl
  unfold ofRegion
  rw [h₀]
  dsimp only
  rw [if_pos hf,hb,hs,ofBytes?]
  change ((read s.toBytes).map (·.1)).getD initial = s
  rw [hr]
  rfl

variable {place : Place} {d d' : Device}

theorem load_eq (fits : place.Fits regionSize d.size) :
    load place d =
      (if d.plan.read d.reads then .error .io
        else .ok (ofRegion (slice (place.view d.bytes) 0 regionSize)),d.afterRead) := by
  have h := Place.read_eq 0 regionSize fits (Nat.le_of_eq (Nat.zero_add _))
  unfold load
  rw [Access.bind_apply,h]
  cases d.plan.read d.reads <;> rfl

theorem store_eq (s : Settings) (fits : place.Fits regionSize d.size) :
    s.store place d =
      if d.plan.write d.writes then (.error .io,d.afterFailure)
      else (.ok (),d.afterWrite place.base s.toRegion) :=
  Place.write_eq 0 s.toRegion fits (by have := length_toRegion_le s; rw [regionSize]; omega)

/-- What is stored is what a load will find. -/
theorem ofRegion_afterWrite (s : Settings) (fits : place.Fits regionSize d.size) :
    ofRegion (slice (place.view (d.afterWrite place.base s.toRegion).bytes) 0 regionSize) = s := by
  have hl := length_toRegion_le s
  have hv : regionSize ≤ (place.view d.bytes).length := fits.length_view
  have h := Place.view_overlay 0 s.toRegion fits
  rw [Nat.add_zero] at h
  rw [regionSize] at hv ⊢
  rw [Device.afterWrite_bytes,h,slice_overlay_append _ _ _ (by omega) (by omega)]
  exact ofRegion_toRegion s _

/-- Storing changes nothing outside the region, and fails without changing anything at all. -/
theorem store_sameOutside (s : Settings) (fits : place.Fits regionSize d.size) :
    SameOutside place.base (place.base + regionSize) d.bytes (s.store place d).2.bytes := by
  rw [store_eq s fits]
  split
  · exact .refl ..
  · have hl := length_toRegion_le s
    refine .overlay (Nat.le_refl _) ?_ fits.base_add_le
    rw [regionSize]
    omega

end Settings
end ClimateStation.Network
