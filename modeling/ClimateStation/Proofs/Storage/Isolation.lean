import ClimateStation.Proofs.Storage.Access
import Mathlib.Tactic.Lemma

/-! What a computation on the device leaves alone. A change within a range of the memory is not
seen outside it, so structures with ranges of their own do not disturb each other; and a relation
between devices that every call keeps is kept by every computation made of calls. -/
namespace ClimateStation.Storage

/-- Two contents of a memory that differ at most from `start` to `stop`. -/
structure SameOutside (start stop : Nat) (old new : List UInt8) : Prop where
  length : new.length = old.length
  cell : ∀ i, i < start ∨ stop ≤ i → new[i]? = old[i]?

namespace SameOutside
variable {start stop : Nat} {old mid new bytes : List UInt8}

theorem refl (start stop : Nat) (bytes : List UInt8) : SameOutside start stop bytes bytes :=
  ⟨rfl,fun _ _ => rfl⟩

theorem trans (h : SameOutside start stop old mid) (h' : SameOutside start stop mid new) :
    SameOutside start stop old new :=
  ⟨h'.length.trans h.length,fun i hi => (h'.cell i hi).trans (h.cell i hi)⟩

theorem overlay {offset : Nat} {data : List UInt8} (hs : start ≤ offset)
    (he : offset + data.length ≤ stop) (hl : stop ≤ bytes.length) :
    SameOutside start stop bytes (overlay bytes offset data) := by
  have hb : offset + data.length ≤ bytes.length := Nat.le_trans he hl
  refine ⟨length_overlay _ _ _ hb,fun i hi => ?_⟩
  apply getElem?_overlay_of_outside _ _ _ _ hb
  omega

theorem slice_eq (h : SameOutside start stop old new) {o n : Nat} (ho : o + n ≤ start ∨ stop ≤ o) :
    slice new o n = slice old o n := by
  apply List.ext_getElem?
  intro i
  simp only [slice, List.getElem?_take, List.getElem?_drop]
  by_cases hi : i < n
  · rw [if_pos hi,if_pos hi,h.cell _ (by omega)]
  · rw [if_neg hi,if_neg hi]

/-- The bytes of a place that ends before the range or starts after it. -/
theorem slice_view_eq (h : SameOutside start stop old new) {place : Place} {o n : Nat}
    (ho : place.base + o + n ≤ start ∨ stop ≤ place.base + o) :
    slice (place.view new) o n = slice (place.view old) o n := by
  simp only [Place.view, slice_drop]
  exact h.slice_eq ho

end SameOutside

/-- What was written reads back, with the bytes that follow it. -/
theorem slice_overlay_append (bytes : List UInt8) (offset : Nat) (data : List UInt8) {n : Nat}
    (h : offset + data.length ≤ bytes.length) (hn : data.length ≤ n) :
    slice (overlay bytes offset data) offset n
      = data ++ slice bytes (offset + data.length) (n - data.length) := by
  have ht : (bytes.take offset).length = offset := by
    rw [List.length_take]
    omega
  simp only [slice, overlay]
  rw [List.append_assoc,List.drop_left' ht,List.take_append,List.take_of_length_le hn]

/-- A computation never changes this part of the device. -/
def Keeps {α γ : Type} (part : Device → γ) (a : StateM Device α) : Prop :=
  ∀ d, part (a d).2 = part d

section Keeps
variable {α β γ : Type} {part : Device → γ}

theorem Keeps.pure (x : α) : Keeps part (pure x : Access α) := fun _ => rfl

theorem Keeps.bind {a : Access α} {f : α → Access β} (ha : Keeps part a)
    (hf : ∀ x, Keeps part (f x)) : Keeps part (a >>= f : Access β) := by
  intro d
  have h := ha d
  rw [Access.bind_apply]
  rcases ho : a d with ⟨_ | x,d'⟩
  · rw [ho] at h
    exact h
  · rw [ho] at h
    exact (hf x d').trans h

/-- The same for a computation that takes failures as answers. -/
theorem Keeps.next {a : StateM Device α} {f : α → StateM Device β} (ha : Keeps part a)
    (hf : ∀ x, Keeps part (f x)) : Keeps part (a >>= f) :=
  fun d => (hf (a d).1 (a d).2).trans (ha d)

theorem Keeps.mapM {f : α → Access β} (hf : ∀ x, Keeps part (f x)) (xs : List α) :
    Keeps part (xs.mapM f : Access (List β)) := by
  induction xs with
  | nil => exact Keeps.pure ([] : List β)
  | cons x xs ih =>
    rw [List.mapM_cons]
    exact (hf x).bind fun y => ih.bind fun ys => Keeps.pure (y :: ys)

end Keeps

namespace Place
variable {γ : Type} {part : Device → γ}

/-- What reading the device keeps is kept through any windows. -/
theorem keeps_of_read (direct : ∀ offset length, Keeps part (Device.read offset length))
    (place : Place) (offset length : Nat) : Keeps part (place.read offset length) := by
  intro d
  induction place generalizing offset with
  | nil => exact direct offset length d
  | cons w outer ih =>
    simp only [Place.read]
    split
    · exact ih (w.base + offset)
    · rfl

theorem keeps_of_write (direct : ∀ offset data, Keeps part (Device.write offset data))
    (place : Place) (offset : Nat) (data : List UInt8) : Keeps part (place.write offset data) := by
  intro d
  induction place generalizing offset with
  | nil => exact direct offset data d
  | cons w outer ih =>
    simp only [Place.write]
    split
    · exact ih (w.base + offset)
    · rfl

/-- Reading changes no byte. -/
theorem keeps_read (place : Place) (offset length : Nat) :
    Keeps Device.bytes (place.read offset length) := by
  refine keeps_of_read (fun offset length d => ?_) place offset length
  simp only [Device.read]
  split
  · rfl
  · split <;> rfl

theorem keeps_size_read (place : Place) (offset length : Nat) :
    Keeps Device.size (place.read offset length) :=
  fun d => congrArg List.length (place.keeps_read offset length d)

theorem keeps_write (place : Place) (offset : Nat) (data : List UInt8) :
    Keeps Device.size (place.write offset data) := by
  refine keeps_of_write (fun offset data d => ?_) place offset data
  simp only [Device.write]
  split
  · rfl
  · cases hb : checkBounds offset data.length d.size with
    | ok _ => exact length_overlay _ _ _ (checkBounds_ok_iff.mp hb)
    | error e => rfl

/-- No call changes which of the calls to come will fail. -/
theorem keeps_plan_read (place : Place) (offset length : Nat) :
    Keeps Device.plan (place.read offset length) := by
  refine keeps_of_read (fun offset length d => ?_) place offset length
  simp only [Device.read]
  split
  · rfl
  · split <;> rfl

theorem keeps_plan_write (place : Place) (offset : Nat) (data : List UInt8) :
    Keeps Device.plan (place.write offset data) := by
  refine keeps_of_write (fun offset data d => ?_) place offset data
  simp only [Device.write]
  split
  · rfl
  · split <;> rfl

end Place

/-- A write that fails changes no byte. -/
theorem Place.bytes_of_write_error {place : Place} {offset : Nat} {data : List UInt8}
    {d d' : Device} {e : StorageError} (h : place.write offset data d = (.error e,d')) :
    d'.bytes = d.bytes := by
  induction place generalizing offset with
  | nil =>
    simp only [Place.write, Device.write] at h
    split at h
    · cases h
      rfl
    · split at h
      · cases h
      · cases h
        rfl
  | cons w outer ih =>
    simp only [Place.write] at h
    split at h
    · exact ih h
    · cases h
      rfl

end ClimateStation.Storage
