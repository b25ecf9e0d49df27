import ClimateStation.Log.Ring
import ClimateStation.Proofs.Binary.Codec
import ClimateStation.Proofs.Storage.Access
import Mathlib.Data.List.DropRight
import Mathlib.Data.List.Rotate
import Mathlib.Tactic.Lemma

/-! Where the entries of a ring lie. A sound header is one that some number `n` of appends leaves on
a cleared log: append number `j` went into slot `j % 27`, and the last 27 of the `n` appends are
still there. In this form an append only moves `n` on by one, and every wrap is arithmetic modulo
the number of slots. -/
namespace ClimateStation.Log.Ring
open Storage

/-- The entry in slot `k` of the bytes of a region. -/
def stored (bytes : List UInt8) (k : Nat) : Entry :=
  .ofBytes (slice bytes (headerSize + k * Entry.width) Entry.width)

/-- All slots, in the order in which they lie. -/
def slots (bytes : List UInt8) : List Entry := (List.range capacity).map (stored bytes)

/-- The entries in memory, oldest first: the slots from the start on while the ring fills up, and
once it is full all of them, from the one that is written next around to the one before it. -/
def contents (r : Ring) (bytes : List UInt8) : List Entry :=
  if r.count = capacity then (slots bytes).rotate ((r.next - headerSize) / Entry.width)
  else (slots bytes).take r.count

/-- The bookkeeping that `n` appends leave on a cleared log. -/
def after (n : Nat) : Ring := ⟨headerSize + n % capacity * Entry.width, min n capacity⟩

lemma capacity_eq : capacity = 27 := rfl
lemma headerSize_eq : headerSize = 4 := rfl
lemma regionSize_eq : regionSize = 247 := rfl
lemma span_eq : span = 243 := rfl
lemma width_eq : Entry.width = 9 := rfl

theorem sound_after (n : Nat) : (after n).Sound := by
  simp only [Sound, after, capacity_eq, headerSize_eq, regionSize_eq, width_eq]
  omega

/-- The sound headers are the ones that appends leave. -/
theorem sound_iff_after (r : Ring) : r.Sound ↔ ∃ n, r = after n := by
  constructor
  · intro h
    obtain ⟨next,count⟩ := r
    simp only [Sound, capacity_eq, headerSize_eq, regionSize_eq, width_eq] at h
    by_cases hc : count = 27
    · refine ⟨27 + (next - 4) / 9,?_⟩
      simp only [after, mk.injEq, capacity_eq, headerSize_eq, width_eq]
      omega
    · refine ⟨count,?_⟩
      simp only [after, mk.injEq, capacity_eq, headerSize_eq, width_eq]
      omega
  · rintro ⟨n,rfl⟩
    exact sound_after n

theorem advance_after (n : Nat) : (after n).advance = after (n + 1) := by
  by_cases h : regionSize < (after n).next + Entry.width + Entry.width
  · simp only [advance, if_pos h]
    simp only [after, mk.injEq, capacity_eq, headerSize_eq, regionSize_eq, width_eq] at h ⊢
    omega
  · simp only [advance, if_neg h]
    simp only [after, mk.injEq, capacity_eq, headerSize_eq, regionSize_eq, width_eq] at h ⊢
    omega

theorem Sound.advance {r : Ring} (h : r.Sound) : r.advance.Sound := by
  obtain ⟨n,rfl⟩ := (sound_iff_after r).mp h
  rw [advance_after]
  exact sound_after (n + 1)

theorem count_eq_capacity_iff (n : Nat) : (after n).count = capacity ↔ capacity ≤ n := by
  simp only [after, capacity_eq]
  omega

/-- The oldest of the last 27 of `n` appends is append number `n - min n 27`. -/
lemma oldest_after (n : Nat) :
    (if (after n).count = capacity then (after n).next else headerSize)
      = headerSize + (n - min n capacity) % capacity * Entry.width := by
  by_cases hn : capacity ≤ n
  · rw [if_pos ((count_eq_capacity_iff n).mpr hn)]
    simp only [after, capacity_eq, headerSize_eq, width_eq] at hn ⊢
    omega
  · rw [if_neg (fun h => hn ((count_eq_capacity_iff n).mp h))]
    simp only [capacity_eq, headerSize_eq, width_eq] at hn ⊢
    omega

/-- Entry `i` is append number `n - min n 27 + i`. -/
theorem slot_after (n i : Nat) (hi : i < (after n).count) :
    (after n).slot i = headerSize + (n - min n capacity + i) % capacity * Entry.width := by
  simp only [slot, oldest_after]
  simp only [after, capacity_eq] at hi
  split <;> rename_i h <;>
    simp only [capacity_eq, headerSize_eq, regionSize_eq, width_eq, span_eq] at h ⊢ <;> omega

/-- An entry of a sound ring lies within the region and behind the header. -/
theorem Sound.slot_bounds {r : Ring} (h : r.Sound) {i : Nat} (hi : i < r.count) :
    headerSize ≤ r.slot i ∧ r.slot i + Entry.width ≤ regionSize := by
  obtain ⟨n,rfl⟩ := (sound_iff_after r).mp h
  rw [slot_after n i hi]
  simp only [capacity_eq, headerSize_eq, regionSize_eq, width_eq]
  omega

@[simp] lemma length_slots (bytes : List UInt8) : (slots bytes).length = 27 := by
  simp [slots, capacity_eq]

@[simp] lemma getElem_slots (bytes : List UInt8) (k : Nat) (h : k < (slots bytes).length) :
    (slots bytes)[k] = stored bytes k := by
  simp only [slots, List.getElem_map, List.getElem_range]

/-- The last 27 of `n` appends, oldest first; append number `j` lies in slot `j % 27`. -/
theorem contents_after (n : Nat) (bytes : List UInt8) :
    (after n).contents bytes =
      ((List.range n).rtake capacity).map fun j => stored bytes (j % capacity) := by
  by_cases hn : capacity ≤ n
  · have hi : ((after n).next - headerSize) / Entry.width = n % 27 := by
      simp only [after, capacity_eq, headerSize_eq, width_eq]
      omega
    rw [contents,if_pos ((count_eq_capacity_iff n).mpr hn),hi]
    rw [capacity_eq] at hn ⊢
    apply List.ext_getElem
    · simp only [List.length_rotate, length_slots, List.length_map, List.rtake, List.length_drop,
        List.length_range]
      omega
    · intro i h₁ h₂
      simp only [List.length_rotate, length_slots] at h₁
      simp only [List.getElem_rotate, getElem_slots, length_slots, List.getElem_map,
        List.getElem_range, List.rtake, List.getElem_drop, List.length_range]
      congr 1
      omega
  · have hc : (after n).count = n := by
      simp only [after, capacity_eq] at hn ⊢
      omega
    rw [contents,if_neg (fun h => hn ((count_eq_capacity_iff n).mp h)),hc]
    rw [capacity_eq] at hn ⊢
    apply List.ext_getElem
    · simp only [List.length_take, length_slots, List.length_map, List.rtake, List.length_drop,
        List.length_range]
      omega
    · intro i h₁ h₂
      simp only [List.length_take, length_slots] at h₁
      simp only [List.getElem_take, getElem_slots, List.getElem_map, List.getElem_range,
        List.rtake, List.getElem_drop, List.length_range]
      congr 1
      omega

theorem Sound.length_contents {r : Ring} (h : r.Sound) (bytes : List UInt8) :
    (r.contents bytes).length = r.count := by
  obtain ⟨n,rfl⟩ := (sound_iff_after r).mp h
  rw [contents_after]
  simp only [List.length_map, List.rtake, List.length_drop, List.length_range, after]
  omega

/-- Entry `i` of a sound ring lies at the offset that the ring computes for it. -/
theorem Sound.getElem_contents {r : Ring} (h : r.Sound) (bytes : List UInt8) (i : Nat)
    (hi : i < (r.contents bytes).length) :
    (r.contents bytes)[i] = .ofBytes (slice bytes (r.slot i) Entry.width) := by
  have hc := hi
  rw [h.length_contents] at hc
  obtain ⟨n,rfl⟩ := (sound_iff_after r).mp h
  rw [slot_after n i hc]
  simp only [contents_after, List.getElem_map, List.rtake, List.getElem_drop, List.getElem_range,
    List.length_range, stored]
  rw [show n - capacity = n - min n capacity by omega]

/-- Entries are untouched by a write that keeps to the header. -/
theorem stored_overlay_of_header (bytes data : List UInt8) (k : Nat)
    (h : data.length = headerSize) : stored (overlay bytes 0 data) k = stored bytes k := by
  unfold stored
  rw [slice_overlay_of_disjoint _ _ _ _ _ (Nat.zero_le _) (.inr (by omega))]

theorem stored_overlay_self (bytes : List UInt8) (e : Entry) (k : Nat)
    (h : headerSize + k * Entry.width + Entry.width ≤ bytes.length) :
    stored (overlay bytes (headerSize + k * Entry.width) e.toBytes) k = e := by
  unfold stored
  rw [← e.length_toBytes,slice_overlay _ _ _ (by simpa using h),Entry.ofBytes_toBytes]

theorem stored_overlay_of_ne (bytes : List UInt8) (e : Entry) {j k : Nat} (hj : j ≠ k)
    (h : headerSize + k * Entry.width ≤ bytes.length) :
    stored (overlay bytes (headerSize + k * Entry.width) e.toBytes) j = stored bytes j := by
  unfold stored
  rw [slice_overlay_of_disjoint _ _ _ _ _ h]
  rw [Entry.length_toBytes,width_eq]
  omega

theorem contents_overlay_header (r : Ring) (bytes data : List UInt8)
    (h : data.length = headerSize) : r.contents (overlay bytes 0 data) = r.contents bytes := by
  have : slots (overlay bytes 0 data) = slots bytes :=
    List.map_congr_left fun k _ => stored_overlay_of_header bytes data k h
  simp only [contents, this]

/-- Of 27 appends in a row, only the last goes into the slot it goes into. -/
lemma mod_capacity_ne {n j : Nat} (hj : j ∈ (List.range n).rtake 26) :
    j % capacity ≠ n % capacity := by
  simp only [List.rtake, List.length_range, List.mem_iff_getElem, List.getElem_drop,
    List.getElem_range, List.length_drop] at hj
  obtain ⟨i,hi,rfl⟩ := hj
  rw [capacity_eq]
  omega

lemma rtake_rtake {α : Type} (l : List α) {m n : Nat} (h : m ≤ n) :
    (l.rtake n).rtake m = l.rtake m := by
  simp only [List.rtake_eq_reverse_take_reverse, List.reverse_reverse, List.take_take,
    Nat.min_eq_left h]

lemma map_rtake {α β : Type} (f : α → β) (l : List α) (n : Nat) :
    (l.rtake n).map f = (l.map f).rtake n := by
  simp only [List.rtake, List.map_drop, List.length_map]

/-- A write into the next slot leaves the last 26 appends alone. -/
lemma map_stored_overlay (n : Nat) (bytes : List UInt8) (e : Entry)
    (hl : regionSize ≤ bytes.length) :
    ((List.range n).rtake 26).map
        (fun j => stored (overlay bytes (after n).next e.toBytes) (j % capacity))
      = ((List.range n).rtake 26).map (fun j => stored bytes (j % capacity)) := by
  have hm : n % capacity < 27 := Nat.mod_lt _ (by decide)
  rw [regionSize_eq] at hl
  apply List.map_congr_left
  intro j hj
  refine stored_overlay_of_ne bytes e (mod_capacity_ne hj) ?_
  simp only [headerSize_eq, width_eq]
  omega

lemma stored_overlay_next (n : Nat) (bytes : List UInt8) (e : Entry)
    (hl : regionSize ≤ bytes.length) :
    stored (overlay bytes (after n).next e.toBytes) (n % capacity) = e := by
  have hm : n % capacity < 27 := Nat.mod_lt _ (by decide)
  rw [regionSize_eq] at hl
  refine stored_overlay_self bytes e _ ?_
  simp only [headerSize_eq, width_eq]
  omega

/-- An entry that is written into the next slot comes after the others, of which only the last 26
stay. -/
theorem Sound.contents_append {r : Ring} (h : r.Sound) (bytes : List UInt8) (e : Entry)
    (hl : regionSize ≤ bytes.length) :
    r.advance.contents (overlay bytes r.next e.toBytes)
      = (r.contents bytes ++ [e]).rtake capacity := by
  obtain ⟨n,rfl⟩ := (sound_iff_after r).mp h
  have hothers := map_stored_overlay n bytes e hl
  have hself := stored_overlay_next n bytes e hl
  rw [advance_after,contents_after,contents_after,List.range_succ]
  rw [capacity_eq] at hself hothers ⊢
  rw [List.rtake_concat_succ,List.rtake_concat_succ,List.map_append,← map_rtake,
    rtake_rtake _ (by omega),hothers,List.map_singleton,hself]

/-- The next slot holds no entry unless the ring is full, and then it holds the oldest. -/
theorem Sound.contents_overwrite {r : Ring} (h : r.Sound) (bytes : List UInt8) (e : Entry)
    (hl : regionSize ≤ bytes.length) :
    r.contents (overlay bytes r.next e.toBytes)
      = if r.count = capacity then e :: (r.contents bytes).tail else r.contents bytes := by
  obtain ⟨n,rfl⟩ := (sound_iff_after r).mp h
  have hothers := map_stored_overlay n bytes e hl
  have hself := stored_overlay_next n bytes e hl
  rw [contents_after,contents_after]
  by_cases hn : capacity ≤ n
  · rw [if_pos ((count_eq_capacity_iff n).mpr hn)]
    rw [capacity_eq] at hn hself hothers ⊢
    have hlen : n - 27 < (List.range n).length := by rw [List.length_range]; omega
    have hcons : (List.range n).rtake 27 = (n - 27) :: (List.range n).rtake 26 := by
      simp only [List.rtake, List.length_range]
      rw [List.drop_eq_getElem_cons hlen,List.getElem_range]
      congr 2
      omega
    have hslot : (n - 27) % 27 = n % 27 := by omega
    rw [hcons,List.map_cons,List.map_cons,hothers,hslot,hself,List.tail_cons]
  · rw [if_neg (fun hc => hn ((count_eq_capacity_iff n).mp hc))]
    rw [capacity_eq] at hn hothers ⊢
    have hall : (List.range n).rtake 27 = (List.range n).rtake 26 := by
      simp only [List.rtake, List.length_range]
      congr 1
      omega
    rw [hall,hothers]

theorem header_ofHeader {b : List UInt8} (h : b.length = headerSize) : (ofHeader b).header = b := by
  match b with
  | [b₀, b₁, b₂, b₃] => simp [header, ofHeader, Binary.lowHigh_ofLowHigh]

@[simp] lemma length_header (r : Ring) : r.header.length = headerSize := rfl

theorem Sound.ofHeader_header {r : Ring} (h : r.Sound) : ofHeader r.header = r := by
  obtain ⟨next,count⟩ := r
  obtain ⟨-,-,hn,hc,-⟩ := h
  simp only [regionSize_eq, width_eq, capacity_eq] at hn hc
  simp only [ofHeader, header, Binary.lowHigh, List.cons_append, List.nil_append,
    List.getD_cons_zero, List.getD_cons_succ, Binary.ofLowHigh_lowHigh, mk.injEq]
  omega

/-- A region starts with the header of a sound ring. -/
structure Describes (bytes : List UInt8) (r : Ring) : Prop where
  sound : r.Sound
  header : slice bytes 0 headerSize = r.header

/-- Only one ring is described. -/
lemma Describes.eq {bytes : List UInt8} {r r' : Ring} (h : Describes bytes r)
    (h' : Describes bytes r') : r = r' := by
  rw [← h.sound.ofHeader_header,← h.header,h'.header,h'.sound.ofHeader_header]

theorem Sound.describes_overlay_header {r : Ring} (h : r.Sound) (bytes : List UInt8)
    (hl : regionSize ≤ bytes.length) : Describes (overlay bytes 0 r.header) r := by
  refine ⟨h,?_⟩
  rw [← length_header r]
  apply slice_overlay
  rw [length_header,headerSize_eq]
  rw [regionSize_eq] at hl
  omega

theorem Describes.overlay_next {bytes : List UInt8} {r : Ring} (h : Describes bytes r) (e : Entry)
    (hl : regionSize ≤ bytes.length) : Describes (overlay bytes r.next e.toBytes) r := by
  obtain ⟨hs,hh⟩ := h
  have hn := hs.1
  have hb := hs.2.2.1
  refine ⟨hs,?_⟩
  rw [slice_overlay_of_disjoint _ _ _ _ _ (by omega) (.inl (by omega))]
  exact hh

theorem describes_overlay_empty (bytes tail : List UInt8) :
    Describes (overlay bytes 0 (empty.header ++ tail)) empty := by
  refine ⟨sound_empty,?_⟩
  simp only [slice, overlay, List.take_zero, List.nil_append, List.drop_zero, List.append_assoc]
  exact List.take_left' (length_header empty)

theorem contents_empty (bytes : List UInt8) : empty.contents bytes = [] := by
  simp [contents, empty, capacity_eq]

end ClimateStation.Log.Ring
