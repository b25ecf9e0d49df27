import ClimateStation.Alarm.Gates
import ClimateStation.Proofs.Binary.Codec
import ClimateStation.Proofs.Storage.Isolation

/-! Stored gates read back. Erased cells stand for no gates, so four gates of -1, whose stored form
looks erased, read back only as the gates that are used while none are stored. -/
namespace ClimateStation.Alarm.Gates
open Storage Binary

theorem ofBytes_toBytes (g : Gates) : ofBytes g.toBytes = g := by
  obtain ⟨a,b,c,d⟩ := g
  rw [ofBytes,Gates.mk.injEq]
  exact ⟨signedOfBytes_lowHigh a,signedOfBytes_lowHigh b,signedOfBytes_lowHigh c,
    signedOfBytes_lowHigh d⟩

theorem toBytes_ofBytes {b : List UInt8} (h : b.length = width) : (ofBytes b).toBytes = b := by
  match b with
  | [b₀,b₁,b₂,b₃,b₄,b₅,b₆,b₇] => simp [ofBytes,toBytes,toList,signedBytes_signedOfBytes]

/-- The stored form would be taken for erased cells. -/
def Unmarked (g : Gates) : Prop := g.toBytes.all (· == erased) = true

instance (g : Gates) : Decidable g.Unmarked := by unfold Unmarked; infer_instance

lemma unmarked_iff (g : Gates) : g.Unmarked ↔ g = ⟨-1,-1,-1,-1⟩ := by
  constructor
  · intro h
    have hb : g.toBytes = List.replicate width erased := by
      rw [List.eq_replicate_iff]
      refine ⟨length_toBytes g,fun b hb => ?_⟩
      exact beq_iff_eq.mp (List.all_eq_true.mp h b hb)
    rw [← ofBytes_toBytes g,hb]
    rfl
  · rintro rfl
    rfl

/-- A gate that is not negative marks its four as stored. -/
lemma not_unmarked_of_set? {g g' : Gates} {index : Nat} {value : Int16} (hv : 0 ≤ value)
    (h : g.set? index value = some g') : ¬g'.Unmarked := by
  rw [unmarked_iff]
  rintro rfl
  have hne : value ≠ -1 := by
    rintro rfl
    exact absurd hv (by decide)
  unfold set? at h
  split at h
  · exact hne (congrArg majorUnder (Option.some.inj h))
  · exact hne (congrArg minorUnder (Option.some.inj h))
  · exact hne (congrArg comfortable (Option.some.inj h))
  · exact hne (congrArg minorOver (Option.some.inj h))
  · exact nomatch h

lemma lt_count_of_set? {g g' : Gates} {index : Nat} {value : Int16}
    (h : g.set? index value = some g') : index < count := by
  have some_iff := g.isSome_set? index value
  rw [h] at some_iff
  exact of_decide_eq_true some_iff.symm

lemma toList_set? {g g' : Gates} {index : Nat} {value : Int16}
    (h : g.set? index value = some g') : g'.toList = g.toList.set index value := by
  unfold set? at h
  split at h
  · exact Option.some.inj h ▸ rfl
  · exact Option.some.inj h ▸ rfl
  · exact Option.some.inj h ▸ rfl
  · exact Option.some.inj h ▸ rfl
  · exact nomatch h

variable {place : Place} {d d' : Device} {g defaults : Gates}

theorem store_eq (g : Gates) (fits : place.Fits width d.size) :
    g.store place d =
      if d.plan.write d.writes then (.error .io,d.afterFailure)
      else (.ok (),d.afterWrite place.base g.toBytes) :=
  Place.write_eq 0 g.toBytes fits (Nat.le_of_eq (Nat.zero_add _))

theorem slice_afterWrite (g : Gates) (fits : place.Fits width d.size) :
    slice (place.view (d.afterWrite place.base g.toBytes).bytes) 0 width = g.toBytes := by
  have h := Place.view_overlay 0 g.toBytes fits
  rw [Nat.add_zero] at h
  rw [Device.afterWrite_bytes,h,← length_toBytes g]
  exact slice_overlay _ _ _ (by rw [Nat.zero_add]; exact fits.length_view)

theorem store_sameOutside (g : Gates) (fits : place.Fits width d.size) :
    SameOutside place.base (place.base + width) d.bytes (g.store place d).2.bytes := by
  rw [store_eq g fits]
  split
  · exact .refl ..
  · exact .overlay (Nat.le_refl _) (Nat.le_refl _) fits.base_add_le

theorem load_eq (defaults : Gates) (fits : place.Fits width d.size) :
    load place defaults d =
      if d.plan.read d.reads then (.error .io,d.afterRead)
      else if (slice (place.view d.bytes) 0 width).all (· == erased) then
        if d.plan.write d.writes then (.error .io,d.afterRead.afterFailure)
        else (.ok defaults,d.afterRead.afterWrite place.base defaults.toBytes)
      else (.ok (ofBytes (slice (place.view d.bytes) 0 width)),d.afterRead) := by
  have h := Place.read_eq 0 width fits (Nat.le_of_eq (Nat.zero_add _))
  have hs := store_eq (d := d.afterRead) defaults fits
  unfold load
  rw [Access.bind_apply,h]
  cases d.plan.read d.reads with
  | true => rfl
  | false =>
    simp only [Bool.false_eq_true, if_false]
    by_cases he : (slice (place.view d.bytes) 0 width).all (· == erased) = true
    · rw [if_pos he,if_pos he,Access.bind_apply,hs,Device.afterRead_plan,Device.afterRead_writes]
      cases d.plan.write d.writes <;> rfl
    · rw [if_neg he,if_neg he]
      rfl

/-- Once gates are loaded their stored form is on the device, and it looks erased only if they are
the default ones. -/
theorem load_ok (fits : place.Fits width d.size) (h : load place defaults d = (.ok g,d')) :
    slice (place.view d'.bytes) 0 width = g.toBytes ∧ (g.Unmarked → g = defaults) ∧
      SameOutside place.base (place.base + width) d.bytes d'.bytes := by
  have hl : (slice (place.view d.bytes) 0 width).length = width :=
    length_slice _ _ _ (by rw [Nat.zero_add]; exact fits.length_view)
  rw [load_eq defaults fits] at h
  split at h
  · exact nomatch h
  · split at h
    · split at h
      · exact nomatch h
      · cases h
        refine ⟨slice_afterWrite (d := d.afterRead) g fits,fun _ => rfl,?_⟩
        exact .overlay (Nat.le_refl _) (Nat.le_refl _) fits.base_add_le
    · next he =>
      cases h
      refine ⟨(toBytes_ofBytes hl).symm,fun hu => ?_,.refl ..⟩
      rw [Unmarked,toBytes_ofBytes hl] at hu
      exact absurd hu he

/-- Gates whose stored form is on the device are what a device that does not fail gives back, with
no byte changed. -/
theorem load_of_stored (fits : place.Fits width d.size) (healthy : d.plan = .sound)
    (h : slice (place.view d.bytes) 0 width = g.toBytes) (hu : g.Unmarked → g = defaults) :
    ∃ d', load place defaults d = (.ok g,d') ∧ d'.bytes = d.bytes ∧ d'.plan = d.plan := by
  rw [load_eq defaults fits,h]
  simp only [healthy]
  by_cases he : g.Unmarked
  · obtain rfl := hu he
    refine ⟨_,if_pos he,?_,healthy⟩
    rw [← h,Place.view,slice_drop,Nat.add_zero]
    exact overlay_slice fits.base_add_le
  · refine ⟨d.afterRead,(if_neg he).trans ?_,d.afterRead_bytes,healthy⟩
    rw [ofBytes_toBytes]

/-- After gates were stored, a load whose read does not fail finds their bytes. -/
lemma load_of_store (stored : g.store place d = (.ok (),d'))
    (readable : d'.plan.read d'.reads = false) (defaults : Gates) : load place defaults d' =
      if g.Unmarked then
        if d'.plan.write d'.writes then (.error .io,d'.afterRead.afterFailure)
        else (.ok defaults,d'.afterRead.afterWrite place.base defaults.toBytes)
      else (.ok g,d'.afterRead) := by
  have fits : place.Fits width d.size := Place.fits_of_write stored
  have written : d' = d.afterWrite place.base g.toBytes := Place.write_ok stored
  have size : d'.size = d.size := by
    rw [written]
    exact d.size_afterWrite fits.base_add_le
  rw [load_eq defaults (size ▸ fits),readable,if_neg Bool.false_ne_true,written,
    slice_afterWrite g fits,ofBytes_toBytes]
  rfl

/-- Stored gates are what a load gives back, without writing anything, unless all four are -1. Their
stored form looks erased, so a load takes the default gates in their place and stores them. -/
theorem stored_gates_come_back_iff (stored : g.store place d = (.ok (),d'))
    (readable : d'.plan.read d'.reads = false) (defaults : Gates) :
    ((∃ d'', load place defaults d' = (.ok g,d'') ∧ d''.written = d'.written ∧
      d''.bytes = d'.bytes) ↔ g ≠ ⟨-1,-1,-1,-1⟩) ∧
    (g = ⟨-1,-1,-1,-1⟩ → d'.plan.write d'.writes = false →
      ∃ d'', load place defaults d' = (.ok defaults,d'') ∧
        d''.written = d'.written ++ [(place.base,defaults.toBytes)]) := by
  have loaded := load_of_store stored readable defaults
  rw [← unmarked_iff,ne_eq,← unmarked_iff]
  refine ⟨⟨?_,fun marked => ⟨_,loaded.trans (if_neg marked),rfl,rfl⟩⟩,fun unmarked writable => ?_⟩
  · rintro ⟨d'',back,silent,-⟩ unmarked
    rw [if_pos unmarked,back] at loaded
    split at loaded
    · exact nomatch loaded
    · obtain ⟨-,rfl⟩ := Prod.mk.inj loaded
      have wrote : d'.written ++ [(place.base,defaults.toBytes)] = d'.written := silent
      exact absurd (List.append_right_eq_self.mp wrote) (List.cons_ne_nil _ _)
  · rw [if_pos unmarked,writable] at loaded
    exact ⟨_,loaded,rfl⟩

/-- Negative gates in the window of the station, three of them -1. -/
theorem stored_gates_come_back_nearly_unmarked :
    let g : Gates := ⟨-2,-1,-1,-1⟩
    let d := Device.blank Layout.used
    let d' := d.afterWrite Layout.gates.base g.toBytes
    g.store [Layout.gates] d = (.ok (),d') ∧ d'.plan.read d'.reads = false ∧
    ∃ d'', load [Layout.gates] ⟨60,70,80,90⟩ d' = (.ok g,d'') ∧ d''.written = d'.written ∧
      d''.bytes = d'.bytes := by
  intro g d d'
  have fits : Place.Fits [Layout.gates] width d.size := by decide +kernel
  have stored : g.store [Layout.gates] d = (.ok (),d') := store_eq g fits
  exact ⟨stored,rfl,(stored_gates_come_back_iff stored rfl ⟨60,70,80,90⟩).1.mpr (by decide)⟩

/-- Four gates of -1 are stored, and a load gives back the default gates and stores these. -/
theorem unmarked_gates_give_way :
    let g : Gates := ⟨-1,-1,-1,-1⟩
    let stored := g.store [] (Device.blank width)
    let loaded := load [] ⟨60,70,80,90⟩ stored.2
    stored.1 = .ok () ∧ loaded.1 = .ok ⟨60,70,80,90⟩ ∧
      loaded.2.bytes = [60,0,70,0,80,0,90,0] :=
  ⟨rfl,rfl,rfl⟩

end ClimateStation.Alarm.Gates
