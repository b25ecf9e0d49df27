import ClimateStation.Proofs.Log.Crash
import ClimateStation.Proofs.Storage.Confinement
import Mathlib.Data.Set.Function
import Mathlib.Order.Interval.Set.Defs

/-! How the entries of a log lie in its slots. They follow each other around the ring and end before
the slot that is written next, which holds the oldest entry if the ring is full and none otherwise. No
entry lies outside the region, so an access to one fails for the medium alone. This is so for every
header that opening a log accepts, and whatever is done with the log afterwards leaves it so. An append
gives every entry that it keeps the index before its own if the ring was full, and the same one
otherwise. -/
namespace ClimateStation.Log
open Storage

/-- If the access failed, the medium did. -/
def FailsByMedium {α : Type} (result : Except StorageError α) : Prop :=
  ∀ cause, result = .error cause → cause = .io

@[simp] lemma failsByMedium_ok {α : Type} (x : α) : FailsByMedium (.ok x) := nofun

@[simp] lemma failsByMedium_io {α : Type} : FailsByMedium (α := α) (.error .io) := by
  rintro _ ⟨⟩
  rfl

lemma FailsByMedium.bind {α β : Type} {a : Access α} {f : α → Access β} {d : Device}
    (first : FailsByMedium (a d).1)
    (second : ∀ x d', a d = (.ok x,d') → FailsByMedium (f x d').1) :
    FailsByMedium ((a >>= f) d).1 := by
  rw [Access.bind_apply]
  rcases done : a d with ⟨cause | x,d'⟩
  · rw [done] at first
    obtain rfl := first cause rfl
    exact failsByMedium_io
  · exact second x d' done

namespace Ring

/-- The offset of slot `k`, of which there are 27. -/
def IsSlot (offset k : Nat) : Prop := k < 27 ∧ offset = 4 + 9 * k

/-- Where entry `i` would lie if the slots went on behind the last one. -/
def unwrapped (r : Ring) (i : Nat) : Nat :=
  (if r.count = capacity then r.next else headerSize) + i * Entry.width

lemma slot_eq (r : Ring) (i : Nat) :
    r.slot i = if 247 < r.unwrapped i + 9 then r.unwrapped i - 243 else r.unwrapped i := rfl

/-- The entries lie in slots around the ring. -/
structure Arranged (r : Ring) : Prop where
  slots : ∀ i < r.count, ∃ k, IsSlot (r.slot i) k
  injective : Set.InjOn r.slot (Set.Iio r.count)
  /-- What is taken from an offset behind the last slot is there to be taken. -/
  wraps : ∀ i < r.count,
    if 247 < r.unwrapped i + 9 then r.slot i + 243 = r.unwrapped i else r.slot i = r.unwrapped i
  following : ∀ i k, i + 1 < r.count → IsSlot (r.slot i) k → IsSlot (r.slot (i + 1)) ((k + 1) % 27)
  next : ∃ k, IsSlot r.next k
  newest : ∀ k, 0 < r.count → IsSlot (r.slot (r.count - 1)) k → IsSlot r.next ((k + 1) % 27)
  oldest : r.count = 27 → r.slot 0 = r.next
  vacant : r.count ≠ 27 → ∀ i < r.count, r.slot i ≠ r.next

lemma isSlot_iff_of_mod {n k : Nat} :
    IsSlot (headerSize + n % capacity * Entry.width) k ↔ k = n % 27 := by
  have few := Nat.mod_lt n (show 0 < 27 by decide)
  rw [IsSlot,headerSize_eq,capacity_eq,width_eq]
  omega

/-- Entry `i` of a log of `n` appends is append number `n - min n 27 + i`, and append number `j` is in
slot `j % 27`. -/
lemma isSlot_after_iff {n i k : Nat} (hi : i < (after n).count) :
    IsSlot ((after n).slot i) k ↔ k = (n - min n capacity + i) % 27 := by
  rw [slot_after n i hi,isSlot_iff_of_mod]

lemma isSlot_next_iff {n k : Nat} : IsSlot (after n).next k ↔ k = n % 27 := isSlot_iff_of_mod

lemma unwrapped_after (n i : Nat) : (after n).unwrapped i =
    headerSize + (n - min n capacity) % capacity * Entry.width + i * Entry.width := by
  rw [unwrapped,oldest_after]

theorem arranged_after (n : Nat) : (after n).Arranged where
  slots i hi := ⟨_,(isSlot_after_iff hi).mpr rfl⟩
  injective := by
    intro i hi j hj same
    rw [Set.mem_Iio] at hi hj
    rw [slot_after n i hi,slot_after n j hj] at same
    simp only [after, capacity_eq, headerSize_eq, width_eq] at hi hj same
    omega
  wraps i _ := by
    have grid := unwrapped_after n i
    rw [capacity_eq,headerSize_eq,width_eq] at grid
    rw [slot_eq]
    split
    · omega
    · rfl
  following i k hi slot := by
    rw [isSlot_after_iff (Nat.lt_of_succ_lt hi)] at slot
    rw [isSlot_after_iff hi]
    omega
  next := ⟨_,isSlot_next_iff.mpr rfl⟩
  newest k some slot := by
    rw [isSlot_after_iff (Nat.sub_lt some Nat.one_pos)] at slot
    rw [isSlot_next_iff]
    simp only [after, capacity_eq] at some slot
    omega
  oldest full := by
    rw [slot_after n 0 (by omega)]
    simp only [after, capacity_eq, headerSize_eq, width_eq] at full ⊢
    omega
  vacant room i hi := by
    rw [slot_after n i hi]
    simp only [after, capacity_eq, headerSize_eq, width_eq] at room hi ⊢
    omega

theorem Sound.arranged {r : Ring} (h : r.Sound) : r.Arranged := by
  obtain ⟨n,rfl⟩ := (sound_iff_after r).mp h
  exact arranged_after n

/-! ## Accesses -/

variable {place : Place} {d d' : Device} {r r' : Ring} {e : Entry}

/-- No access to the entries leaves the region. -/
structure Contained (r : Ring) (place : Place) (d : Device) : Prop where
  get : ∀ i, FailsByMedium (r.get? place i d).1
  entries : ∀ e ∈ (r.entries place d).1, FailsByMedium e
  extremes : FailsByMedium (r.extremes place d).1
  append : ∀ e, FailsByMedium (r.append place e d).1

lemma Sound.entryAt_fails (sound : r.Sound) (fits : place.Fits regionSize d.size) {i : Nat}
    (hi : i < r.count) : FailsByMedium (r.entryAt place i d).1 := by
  rw [entryAt_cases fits sound hi]
  cases d.plan.read d.reads <;> simp

lemma Sound.get?_fails (sound : r.Sound) (fits : place.Fits regionSize d.size) (i : Nat) :
    FailsByMedium (r.get? place i d).1 := by
  unfold get?
  by_cases hi : i < r.count
  · rw [if_pos hi]
    exact (sound.entryAt_fails fits hi).bind fun _ _ _ => failsByMedium_ok _
  · rw [if_neg hi]
    exact failsByMedium_ok _

/-- Every read leaves the device as large as it was, so the next one meets the same bounds. -/
lemma Sound.fits_entryAt (sound : r.Sound) (fits : place.Fits regionSize d.size) {i : Nat}
    (hi : i < r.count) : place.Fits regionSize (r.entryAt place i d).2.size := by
  rw [entryAt_cases fits sound hi]
  exact fits

lemma Sound.mapM_entryAt_fails (sound : r.Sound) (fits : place.Fits regionSize d.size)
    {is : List Nat} (within : ∀ i ∈ is, i < r.count) :
    FailsByMedium ((is.mapM (r.entryAt place)) d).1 := by
  induction is generalizing d with
  | nil => exact failsByMedium_ok _
  | cons i is ih =>
    obtain ⟨first,rest⟩ := List.forall_mem_cons.mp within
    rw [List.mapM_cons]
    refine (sound.entryAt_fails fits first).bind fun e d' read => ?_
    have fits := sound.fits_entryAt fits first
    rw [read] at fits
    exact (ih fits rest).bind fun _ _ _ => failsByMedium_ok _

lemma Sound.mapM_run_entryAt_fails (sound : r.Sound) (fits : place.Fits regionSize d.size)
    {is : List Nat} (within : ∀ i ∈ is, i < r.count) :
    ∀ e ∈ ((is.mapM fun i => (r.entryAt place i).run : StateM Device _) d).1, FailsByMedium e := by
  induction is generalizing d with
  | nil => exact nofun
  | cons i is ih =>
    obtain ⟨first,rest⟩ := List.forall_mem_cons.mp within
    rw [List.mapM_cons]
    exact List.forall_mem_cons.mpr
      ⟨sound.entryAt_fails fits first,ih (sound.fits_entryAt fits first) rest⟩

lemma Sound.append_fails (sound : r.Sound) (fits : place.Fits regionSize d.size) (e : Entry) :
    FailsByMedium (r.append place e d).1 := by
  rw [append_eq e fits sound]
  split
  · exact failsByMedium_io
  · split
    · exact failsByMedium_io
    · exact failsByMedium_ok _

theorem Sound.contained (sound : r.Sound) (fits : place.Fits regionSize d.size) :
    r.Contained place d where
  get := sound.get?_fails fits
  entries := sound.mapM_run_entryAt_fails fits fun _ => List.mem_range.mp
  extremes := (sound.mapM_entryAt_fails fits fun _ => List.mem_range.mp).bind
    fun _ _ _ => failsByMedium_ok _
  append := sound.append_fails fits

/-! ## Appends -/

/-- The entries that an append overwrites: the oldest one of a full ring. -/
def dropped (r : Ring) : Nat := if r.count = 27 then 1 else 0

/-- What an append of `e` has done. -/
structure Appended (r : Ring) (place : Place) (e : Entry) (d : Device) (r' : Ring) (d' : Device) :
    Prop where
  arranged : r'.Arranged
  count : r'.count + r.dropped = r.count + 1
  overwritten : ∀ i < r.count, r.slot i = r.next ↔ i < r.dropped
  /-- An entry that is not overwritten stays in its slot and has the index that is left to it. -/
  survivor : ∀ i, i + r.dropped < r.count → r'.slot i = r.slot (i + r.dropped) ∧
    slice (place.view d'.bytes) (r'.slot i) 9 = slice (place.view d.bytes) (r'.slot i) 9
  newest : r'.slot (r'.count - 1) = r.next ∧
    slice (place.view d'.bytes) r.next 9 = e.toBytes

/-- Of `n` appends, `n - min n 27` are gone. -/
lemma dropped_after (n : Nat) :
    n - min n capacity + (after n).dropped = n + 1 - min (n + 1) capacity := by
  unfold dropped
  by_cases full : (after n).count = 27
  · rw [if_pos full]
    simp only [after, capacity_eq] at full ⊢
    omega
  · rw [if_neg full]
    simp only [after, capacity_eq] at full ⊢
    omega

lemma Sound.count_advance (sound : r.Sound) : r.advance.count + r.dropped = r.count + 1 := by
  obtain ⟨n,rfl⟩ := (sound_iff_after r).mp sound
  have gone := dropped_after n
  rw [advance_after]
  simp only [after] at gone ⊢
  omega

/-- The slots of a ring stay where they are, and their entries move up if the oldest one is gone. -/
lemma Sound.slot_advance (sound : r.Sound) {i : Nat} (hi : i + r.dropped < r.count) :
    r.advance.slot i = r.slot (i + r.dropped) := by
  have more := sound.count_advance
  obtain ⟨n,rfl⟩ := (sound_iff_after r).mp sound
  have gone := dropped_after n
  rw [advance_after] at more ⊢
  rw [slot_after (n + 1) i (by omega),slot_after n _ hi,← gone,Nat.add_assoc,
    Nat.add_comm i]

lemma Sound.slot_advance_newest (sound : r.Sound) : r.advance.slot (r.advance.count - 1) = r.next := by
  obtain ⟨n,rfl⟩ := (sound_iff_after r).mp sound
  rw [advance_after]
  have some : 0 < (after (n + 1)).count := by
    simp only [after, capacity_eq]
    omega
  rw [slot_after (n + 1) _ (by omega)]
  simp only [after, capacity_eq] at some ⊢
  congr 2
  omega

lemma Sound.slot_eq_next_iff (sound : r.Sound) {i : Nat} (hi : i < r.count) :
    r.slot i = r.next ↔ i < r.dropped := by
  have arranged := sound.arranged
  unfold dropped
  by_cases full : r.count = 27
  · rw [if_pos full,Nat.lt_one_iff,← arranged.oldest full]
    exact arranged.injective.eq_iff hi (show 0 < r.count by omega)
  · rw [if_neg full]
    exact iff_of_false (arranged.vacant full i hi) (Nat.not_lt_zero i)

/-- Two slots have no byte in common. -/
lemma slice_overlay_slot {bytes data : List UInt8} {o o' k k' : Nat} (slot : IsSlot o k)
    (slot' : IsSlot o' k') (other : o ≠ o') (size : data.length = 9) (whole : o' ≤ bytes.length) :
    slice (overlay bytes o' data) o 9 = slice bytes o 9 := by
  obtain ⟨-,rfl⟩ := slot
  obtain ⟨-,rfl⟩ := slot'
  refine slice_overlay_of_disjoint _ _ _ _ _ whole ?_
  omega

/-- The writes of an append that succeeds. -/
lemma append_ok (done : r.append place e d = (.ok r',d')) :
    r' = r.advance ∧ place.Fits (r.next + 9) d.size ∧ place.view d'.bytes =
      overlay (overlay (place.view d.bytes) r.next e.toBytes) 0 r.advance.header := by
  obtain ⟨_,d₁,entry,done⟩ := Access.ok_of_bind done
  obtain ⟨_,d₂,header,done⟩ := Access.ok_of_bind done
  cases done
  have fits := Place.fits_of_write entry
  have fits₁ := Place.fits_of_write header
  rw [Place.write_ok header,Place.write_ok entry] at *
  refine ⟨rfl,fits,?_⟩
  rw [Device.afterWrite_bytes,Place.view_overlay 0 _ fits₁,Device.afterWrite_bytes,
    Place.view_overlay _ _ fits]

theorem Sound.appended (sound : r.Sound) (done : r.append place e d = (.ok r',d')) :
    r.Appended place e d r' d' := by
  obtain ⟨rfl,fits,bytes⟩ := append_ok done
  have whole := fits.length_view
  have arranged := sound.arranged
  obtain ⟨l,next⟩ := arranged.next
  -- the header is rewritten behind the entry, and no slot reaches into it
  have behind {k : Nat} {old : List UInt8} {o : Nat} (slot : IsSlot o k) :
      slice (overlay old 0 r.advance.header) o 9 = slice old o 9 := by
    refine slice_overlay_of_disjoint _ _ _ _ _ (Nat.zero_le _) (.inr ?_)
    rw [length_header,headerSize_eq,slot.2]
    omega
  refine ⟨sound.advance.arranged,sound.count_advance,fun i hi => sound.slot_eq_next_iff hi,
    fun i hi => ⟨sound.slot_advance hi,?_⟩,sound.slot_advance_newest,?_⟩
  · obtain ⟨k,slot⟩ := arranged.slots _ hi
    have other : r.slot (i + r.dropped) ≠ r.next :=
      fun same => absurd ((sound.slot_eq_next_iff hi).mp same) (by omega)
    rw [sound.slot_advance hi,bytes,behind slot]
    exact slice_overlay_slot slot next other e.length_toBytes (by omega)
  · rw [bytes,behind next]
    exact slice_overlay _ _ e.toBytes whole

/-! ## Reachable logs -/

lemma load_sound (opened : load place d = (.ok r,d')) : r.Sound := by
  obtain ⟨header,d₁,-,chosen⟩ := Access.ok_of_bind opened
  dsimp only at chosen
  split at chosen
  · next sound =>
    cases chosen
    exact sound
  · obtain ⟨-,rfl,-⟩ := clear_ok chosen
    exact sound_empty

end Ring

namespace Operation
variable {place : Place} {s : Ring × Device}

lemma carryOut_sound (op : Operation) {r r' : Ring} {d d' : Device} (sound : r.Sound)
    (done : op.carryOut r place d = (.ok r',d')) : r'.Sound := by
  cases op with
  | append e =>
    obtain ⟨rfl,-⟩ := Ring.append_ok done
    exact sound.advance
  | clear =>
    obtain ⟨-,rfl,-⟩ := Ring.clear_ok done
    exact Ring.sound_empty
  | reopen => exact Ring.load_sound done

lemma attempt_sound (op : Operation) (sound : s.1.Sound) : (op.attempt place s).1.Sound := by
  rcases done : op.carryOut s.1 place s.2 with ⟨cause | r,d⟩
  · rw [attempt_error done]
    exact sound
  · rw [attempt_ok done]
    exact op.carryOut_sound sound done

/-- Also on a device that fails at times, and on one that is too small for the log. -/
theorem attempts_sound (ops : List Operation) (sound : s.1.Sound) :
    (attempts place s ops).1.Sound := by
  induction ops generalizing s with
  | nil => exact sound
  | cons op ops ih => exact ih (op.attempt_sound sound)

end Operation

/-- Whatever header opening a log accepts and whatever is then tried with it, the entries lie around
the ring, no access to them leaves a region of 247 bytes, and an append lets all stay in their slots
but the one that it overwrites. -/
theorem slots_arranged (place : Place) (d d₁ : Device) (r₀ : Ring) (ops : List Operation)
    (opened : Ring.load place d = (.ok r₀,d₁)) :
    let r := (Operation.attempts place (r₀,d₁) ops).1
    r.Arranged ∧ (∀ place d, place.Fits 247 d.size → r.Contained place d) ∧
    ∀ place e d r' d', r.append place e d = (.ok r',d') → r.Appended place e d r' d' := by
  intro r
  have sound : r.Sound := Operation.attempts_sound ops (Ring.load_sound opened)
  exact ⟨sound.arranged,fun _ _ fits => sound.contained fits,
    fun _ _ _ _ _ done => sound.appended done⟩

/-- The last slot of a full ring is written next, in a window that starts behind other bytes. -/
theorem slots_arranged_full_ring :
    let d := Device.ofBytes (List.replicate 7 1 ++ [238, 0, 27, 0] ++ List.replicate 250 7)
    let r := (Operation.attempts [⟨7,250⟩] (⟨238,27⟩,d.afterRead) [.append default]).1
    Ring.load [⟨7,250⟩] d = (.ok ⟨238,27⟩,d.afterRead) ∧ r = ⟨4,27⟩ ∧ r.Arranged ∧
      r.Contained [Layout.log] (Device.blank Layout.deviceSize) ∧
      ∃ r' d', r.append [] default (Device.blank 247) = (.ok r',d') ∧
        r.Appended [] default (Device.blank 247) r' d' := by
  intro d r
  have reached : r = ⟨4,27⟩ := by decide +revert +kernel
  have fits : Place.Fits [⟨7,250⟩] Ring.regionSize d.size := by decide +revert +kernel
  have opened : Ring.load [⟨7,250⟩] d = (.ok ⟨238,27⟩,d.afterRead) :=
    Operation.load_of_describes fits ⟨by decide,by decide +revert +kernel⟩
  obtain ⟨arranged,contained,appended⟩ := slots_arranged _ _ _ _ [.append default] opened
  have done : r.append [] default (Device.blank 247) =
      (.ok r.advance,((Device.blank 247).afterWrite r.next (default : Entry).toBytes).afterWrite 0
        r.advance.header) := by
    rw [reached,Ring.append_eq default (by decide +kernel) (by decide)]
    rfl
  exact ⟨opened,reached,arranged,contained _ _ (by decide +kernel),_,_,done,appended _ _ _ _ _ done⟩

end ClimateStation.Log
