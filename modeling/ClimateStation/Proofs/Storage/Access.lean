import ClimateStation.Storage.Window
import Mathlib.Algebra.GroupWithZero.Nat

/-! What a call does to a device, under any failure plan. A call through windows that fit the device
is a call on a part of its bytes: `Place.view` is that part, and after the two equations for
`Place.read` and `Place.write` no window has to be opened again. A failing call changes no byte. -/
namespace ClimateStation.Storage

theorem Access.bind_apply {α β : Type} (a : Access α) (f : α → Access β) (d : Device) :
    (a >>= f) d = match a d with
      | (.ok x, d') => f x d'
      | (.error e, d') => (.error e, d') := by
  change ExceptT.bindCont f (a d).1 (a d).2 = _
  rcases a d with ⟨_ | x, d'⟩ <;> rfl

theorem Access.bind_ok {α β : Type} {a : Access α} {d d' : Device} {x : α} (f : α → Access β)
    (h : a d = (.ok x, d')) : (a >>= f) d = f x d' := by
  rw [Access.bind_apply, h]

@[simp] theorem Access.pure_apply {α : Type} (x : α) (d : Device) :
    (pure x : Access α) d = (.ok x, d) := rfl

/-- A computation that succeeds has succeeded in its first part. -/
theorem Access.ok_of_bind {α β : Type} {a : Access α} {f : α → Access β} {d d' : Device} {y : β}
    (h : (a >>= f) d = (.ok y, d')) : ∃ x d₁, a d = (.ok x, d₁) ∧ f x d₁ = (.ok y, d') := by
  rw [Access.bind_apply] at h
  rcases ha : a d with ⟨e | x,d₁⟩
  · rw [ha] at h
    cases h
  · rw [ha] at h
    exact ⟨x,d₁,rfl,h⟩

theorem checkBounds_ok_iff {offset length size : Nat} :
    checkBounds offset length size = .ok () ↔ offset + length ≤ size := by
  unfold checkBounds
  split <;> simp_all

theorem slice_drop (bytes : List UInt8) (base offset length : Nat) :
    slice (bytes.drop base) offset length = slice bytes (base + offset) length := by
  simp [slice]

theorem drop_overlay (bytes : List UInt8) (base offset : Nat) (data : List UInt8)
    (h : base ≤ bytes.length) :
    (overlay bytes (base + offset) data).drop base = overlay (bytes.drop base) offset data := by
  have hb : base ≤ (bytes.take (base + offset)).length := by simp; omega
  have ht : (bytes.take (base + offset)).drop base = (bytes.drop base).take offset := by
    rw [List.drop_take]
    congr 1
    omega
  simp only [overlay, List.append_assoc, List.drop_append_of_le_length hb, ht, List.drop_drop,
    Nat.add_assoc]

theorem getElem?_overlay (bytes : List UInt8) (offset : Nat) (data : List UInt8) (i : Nat)
    (h : offset ≤ bytes.length) :
    (overlay bytes offset data)[i]? =
      if i < offset then bytes[i]?
      else if i < offset + data.length then data[i - offset]? else bytes[i]? := by
  have ht : (bytes.take offset).length = offset := by simp; omega
  simp only [overlay, List.append_assoc, List.getElem?_append, ht, List.getElem?_take,
    List.getElem?_drop]
  by_cases hi : i < offset
  · simp [hi]
  · by_cases hj : i < offset + data.length
    · have hk : i - offset < data.length := by omega
      simp [hi, hj, hk]
    · have hk : ¬ i - offset < data.length := by omega
      simp only [hi, hj, hk, if_false]
      congr 1
      omega

/-- Bytes before a written range read as before, and so do bytes after it. -/
theorem slice_overlay_of_disjoint (bytes : List UInt8) (offset : Nat) (data : List UInt8)
    (o n : Nat) (h : offset ≤ bytes.length) (ho : o + n ≤ offset ∨ offset + data.length ≤ o) :
    slice (overlay bytes offset data) o n = slice bytes o n := by
  apply List.ext_getElem?
  intro i
  simp only [slice, List.getElem?_take, List.getElem?_drop]
  by_cases hi : i < n
  · rw [if_pos hi,if_pos hi,getElem?_overlay _ _ _ _ h]
    rcases ho with ho | ho
    · rw [if_pos (by omega)]
    · rw [if_neg (by omega),if_neg (by omega)]
  · rw [if_neg hi,if_neg hi]

/-- A second write to the same range leaves nothing of the first. -/
theorem overlay_overlay (bytes : List UInt8) (offset : Nat) (old new : List UInt8)
    (h : offset + old.length ≤ bytes.length) (hl : old.length = new.length) :
    overlay (overlay bytes offset old) offset new = overlay bytes offset new := by
  have ho : offset ≤ (overlay bytes offset old).length := by
    rw [length_overlay _ _ _ h]
    omega
  apply List.ext_getElem?
  intro i
  rw [getElem?_overlay _ _ _ _ ho,getElem?_overlay _ _ _ _ (by omega),
    getElem?_overlay _ _ _ _ (by omega),hl]
  by_cases hi : i < offset
  · rw [if_pos hi,if_pos hi,if_pos hi]
  · by_cases hj : i < offset + new.length
    · simp [hi, hj]
    · simp [hi, hj]

/-- Writing back what stands there changes nothing. -/
theorem overlay_slice {bytes : List UInt8} {offset n : Nat} (h : offset + n ≤ bytes.length) :
    overlay bytes offset (slice bytes offset n) = bytes := by
  rw [overlay,length_slice _ _ _ h,slice,List.append_assoc,← List.drop_drop,List.take_append_drop,
    List.take_append_drop]

namespace Device

def repaired (d : Device) : Device := { d with plan := .sound }

def afterRead (d : Device) : Device := { d with reads := d.reads + 1 }

def afterFailure (d : Device) : Device := { d with writes := d.writes + 1 }

def afterWrite (d : Device) (offset : Nat) (data : List UInt8) : Device :=
  { d with
    bytes := overlay d.bytes offset data
    writes := d.writes + 1
    written := d.written ++ [(offset, data)] }

@[simp] theorem repaired_bytes (d : Device) : d.repaired.bytes = d.bytes := rfl
@[simp] theorem afterRead_bytes (d : Device) : d.afterRead.bytes = d.bytes := rfl
@[simp] theorem afterRead_plan (d : Device) : d.afterRead.plan = d.plan := rfl
@[simp] theorem afterRead_writes (d : Device) : d.afterRead.writes = d.writes := rfl
@[simp] theorem afterWrite_bytes (d : Device) (offset : Nat) (data : List UInt8) :
    (d.afterWrite offset data).bytes = overlay d.bytes offset data := rfl
@[simp] theorem afterWrite_plan (d : Device) (offset : Nat) (data : List UInt8) :
    (d.afterWrite offset data).plan = d.plan := rfl
@[simp] theorem afterWrite_writes (d : Device) (offset : Nat) (data : List UInt8) :
    (d.afterWrite offset data).writes = d.writes + 1 := rfl

theorem size_afterWrite (d : Device) {offset : Nat} {data : List UInt8}
    (h : offset + data.length ≤ d.size) : (d.afterWrite offset data).size = d.size :=
  length_overlay _ _ _ h

/-- A device on which nothing fails looks at its bounds only. -/
theorem read_of_sound {d : Device} (sound : d.plan = .sound) (offset length : Nat) :
    read offset length d =
      ((checkBounds offset length d.size).map fun _ => slice d.bytes offset length, d.afterRead) := by
  have works : d.plan.read d.reads = false := by
    rw [sound]
    rfl
  simp only [read, works, Bool.false_eq_true, if_false]
  cases checkBounds offset length d.size <;> rfl

theorem write_of_sound {d : Device} (sound : d.plan = .sound) (offset : Nat) (data : List UInt8) :
    write offset data d =
      match checkBounds offset data.length d.size with
      | .ok _ => (.ok (), d.afterWrite offset data)
      | .error e => (.error e, d.afterFailure) := by
  have works : d.plan.write d.writes = false := by
    rw [sound]
    rfl
  simp only [write, works, Bool.false_eq_true, if_false]
  cases checkBounds offset data.length d.size <;> rfl

end Device

namespace Place

/-- The first `n` bytes of a place lie within every window on the way, and within a device of the
given size. -/
def Fits : Place → Nat → Nat → Prop
  | [], n, size => n ≤ size
  | w :: outer, n, size => n ≤ w.size ∧ Fits outer (w.base + n) size

instance : (place : Place) → (n size : Nat) → Decidable (place.Fits n size)
  | [], n, size => inferInstanceAs (Decidable (n ≤ size))
  | w :: outer, n, size =>
    have : Decidable (Fits outer (w.base + n) size) := instDecidableFits outer (w.base + n) size
    inferInstanceAs (Decidable (n ≤ w.size ∧ Fits outer (w.base + n) size))

def base (place : Place) : Nat := (place.map Window.base).sum

/-- The bytes of the device from the start of a place on. -/
def view (place : Place) (bytes : List UInt8) : List UInt8 := bytes.drop place.base

theorem Fits.base_add_le {place : Place} {n size : Nat} (h : place.Fits n size) :
    place.base + n ≤ size := by
  induction place generalizing n with
  | nil => simpa [base,Fits] using h
  | cons w outer ih =>
    have := ih h.2
    simp only [base, List.map_cons, List.sum_cons] at this ⊢
    omega

theorem Fits.length_view {place : Place} {n : Nat} {bytes : List UInt8}
    (h : place.Fits n bytes.length) : n ≤ (place.view bytes).length := by
  have := h.base_add_le
  simp only [view, List.length_drop]
  omega

/-- A read within a place that fits fails by the plan or returns the bytes there. -/
theorem read_eq {place : Place} {d : Device} {n : Nat} (offset length : Nat)
    (h : place.Fits n d.size) (ho : offset + length ≤ n) :
    place.read offset length d =
      (if d.plan.read d.reads then .error .io
        else .ok (slice (place.view d.bytes) offset length), d.afterRead) := by
  induction place generalizing n offset with
  | nil =>
    have hb : checkBounds offset length d.size = .ok () := checkBounds_ok_iff.mpr (Nat.le_trans ho h)
    cases hp : d.plan.read d.reads <;>
      simp [read, Device.read, hp, hb, view, base, Device.afterRead]
  | cons w outer ih =>
    have hb : checkBounds offset length w.size = .ok () := checkBounds_ok_iff.mpr (by have := h.1; omega)
    simp only [read, hb]
    rw [ih _ h.2 (by omega)]
    simp only [view, slice_drop, base, List.map_cons, List.sum_cons]
    congr 4
    omega

/-- A write within a place that fits fails by the plan and changes no byte, or replaces the bytes
there. -/
theorem write_eq {place : Place} {d : Device} {n : Nat} (offset : Nat) (data : List UInt8)
    (h : place.Fits n d.size) (ho : offset + data.length ≤ n) :
    place.write offset data d =
      if d.plan.write d.writes then (.error .io, d.afterFailure)
      else (.ok (), d.afterWrite (place.base + offset) data) := by
  induction place generalizing n offset with
  | nil =>
    have hb : checkBounds offset data.length d.size = .ok () := checkBounds_ok_iff.mpr (Nat.le_trans ho h)
    cases hp : d.plan.write d.writes <;>
      simp [write, Device.write, hp, hb, base, Device.afterWrite, Device.afterFailure]
  | cons w outer ih =>
    have hb : checkBounds offset data.length w.size = .ok () := checkBounds_ok_iff.mpr (by have := h.1; omega)
    simp only [write, hb]
    rw [ih _ h.2 (by omega)]
    simp only [base, List.map_cons, List.sum_cons]
    rw [show (outer.map Window.base).sum + (w.base + offset)
      = w.base + (outer.map Window.base).sum + offset by omega]

theorem fits_of_read {place : Place} {d d' : Device} {offset length : Nat} {bytes : List UInt8}
    (h : place.read offset length d = (.ok bytes, d')) : place.Fits (offset + length) d.size := by
  induction place generalizing offset with
  | nil =>
    simp only [read, Device.read] at h
    split at h
    · cases h
    · cases hb : checkBounds offset length d.size with
      | ok _ => exact checkBounds_ok_iff.mp hb
      | error e => rw [hb] at h; cases h
  | cons w outer ih =>
    simp only [read] at h
    cases hb : checkBounds offset length w.size with
    | ok _ =>
      rw [hb] at h
      refine ⟨checkBounds_ok_iff.mp hb,?_⟩
      have := ih h
      rwa [Nat.add_assoc] at this
    | error e => rw [hb] at h; cases h

/-- A read that succeeds has returned the bytes there. -/
theorem read_ok {place : Place} {d d' : Device} {offset length : Nat} {bytes : List UInt8}
    (h : place.read offset length d = (.ok bytes, d')) :
    bytes = slice (place.view d.bytes) offset length ∧ d' = d.afterRead := by
  rw [read_eq offset length (fits_of_read h) (Nat.le_refl _)] at h
  split at h
  · cases h
  · cases h
    exact ⟨rfl,rfl⟩

theorem fits_of_write {place : Place} {d d' : Device} {offset : Nat} {data : List UInt8}
    (h : place.write offset data d = (.ok (), d')) : place.Fits (offset + data.length) d.size := by
  induction place generalizing offset with
  | nil =>
    simp only [write, Device.write] at h
    split at h
    · cases h
    · cases hb : checkBounds offset data.length d.size with
      | ok _ => exact checkBounds_ok_iff.mp hb
      | error e => rw [hb] at h; cases h
  | cons w outer ih =>
    simp only [write] at h
    cases hb : checkBounds offset data.length w.size with
    | ok _ =>
      rw [hb] at h
      refine ⟨checkBounds_ok_iff.mp hb,?_⟩
      have := ih h
      rwa [Nat.add_assoc] at this
    | error e => rw [hb] at h; cases h

/-- A write that succeeds has replaced the bytes there. -/
theorem write_ok {place : Place} {d d' : Device} {offset : Nat} {data : List UInt8}
    (h : place.write offset data d = (.ok (), d')) :
    d' = d.afterWrite (place.base + offset) data := by
  rw [write_eq offset data (fits_of_write h) (Nat.le_refl _)] at h
  split at h
  · cases h
  · cases h
    rfl

theorem view_overlay {place : Place} {bytes : List UInt8} {n : Nat} (offset : Nat)
    (data : List UInt8) (h : place.Fits n bytes.length) :
    place.view (overlay bytes (place.base + offset) data)
      = overlay (place.view bytes) offset data :=
  drop_overlay _ _ _ _ (by have := h.base_add_le; omega)

end Place

end ClimateStation.Storage
