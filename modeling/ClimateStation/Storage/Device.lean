import ClimateStation.Text.Decimal

/-! A byte-addressed memory that can fail. Each call either works as a whole or leaves every byte as
it was. A failure plan says which of the calls still to come fail, so one definition serves a sound
device, one that dies for good, and every pattern in between. The device remembers what was
written, which is all that a crash between two writes can leave behind. -/
namespace ClimateStation.Storage

inductive StorageError
  /-- The access would cross the end of the region. -/
  | outOfBounds (offset length : Nat)
  /-- The medium failed. -/
  | io
  deriving DecidableEq, Repr

def StorageError.message : StorageError → String
  | .outOfBounds offset length =>
    "access of " ++ Text.natural length ++ " bytes at " ++ Text.natural offset
      ++ " is out of bounds"
  | .io => "I/O error"

/-- An access must end at or before the end of its region. -/
def checkBounds (offset length size : Nat) : Except StorageError Unit :=
  if offset + length ≤ size then .ok () else .error (.outOfBounds offset length)

/-- The value of a cell that was never written. -/
def erased : UInt8 := 255

/-- Which of the calls fail: the n-th read and the n-th write, counted from 0. -/
structure FailurePlan where
  read : Nat → Bool
  write : Nat → Bool

def FailurePlan.sound : FailurePlan := ⟨fun _ => false, fun _ => false⟩

structure Device where
  bytes : List UInt8
  plan : FailurePlan
  /-- The reads so far, which tell where in the plan the device stands. -/
  reads : Nat
  /-- The writes tried so far. -/
  writes : Nat
  /-- What was written where, the latest last. -/
  written : List (Nat × List UInt8)

/-- Replaces the bytes from `offset` on by `data`. -/
def overlay (bytes : List UInt8) (offset : Nat) (data : List UInt8) : List UInt8 :=
  bytes.take offset ++ data ++ bytes.drop (offset + data.length)

/-- The `length` bytes from `offset` on. -/
def slice (bytes : List UInt8) (offset length : Nat) : List UInt8 :=
  (bytes.drop offset).take length

theorem length_overlay (bytes : List UInt8) (offset : Nat) (data : List UInt8)
    (h : offset + data.length ≤ bytes.length) :
    (overlay bytes offset data).length = bytes.length := by
  simp [overlay]
  omega

theorem length_slice (bytes : List UInt8) (offset length : Nat)
    (h : offset + length ≤ bytes.length) : (slice bytes offset length).length = length := by
  simp [slice]
  omega

/-- What was written reads back. -/
theorem slice_overlay (bytes : List UInt8) (offset : Nat) (data : List UInt8)
    (h : offset + data.length ≤ bytes.length) :
    slice (overlay bytes offset data) offset data.length = data := by
  have : (bytes.take offset).length = offset := by simp; omega
  simp [slice, overlay, this]

/-- A cell outside the written range keeps its value. -/
theorem getElem?_overlay_of_outside (bytes : List UInt8) (offset : Nat) (data : List UInt8) (i : Nat)
    (h : offset + data.length ≤ bytes.length) (hi : i < offset ∨ offset + data.length ≤ i) :
    (overlay bytes offset data)[i]? = bytes[i]? := by
  have ht : (bytes.take offset).length = offset := by simp; omega
  simp only [overlay, List.append_assoc, List.getElem?_append, ht]
  rcases hi with hi | hi
  · simp [hi]
  · have h1 : ¬ i < offset := by omega
    have h2 : ¬ i - offset < data.length := by omega
    simp only [h1, h2, if_false, List.getElem?_drop]
    congr 1
    omega

/-- A computation on the device that can fail. Changes made before the failure stay. -/
abbrev Access (α : Type) := ExceptT StorageError (StateM Device) α

namespace Device

/-- A device with the given contents on which nothing fails. -/
def ofBytes (bytes : List UInt8) : Device := ⟨bytes, .sound, 0, 0, []⟩

/-- A device of `size` cells that were never written. -/
def blank (size : Nat) : Device := ofBytes (List.replicate size erased)

def size (d : Device) : Nat := d.bytes.length

/-- From now on, at most the given numbers of reads and writes reach the memory; `none` sets no
limit. -/
def limit (d : Device) (reads writes : Option Nat) : Device :=
  let beyond (start : Nat) (allowed : Option Nat) (n : Nat) : Bool :=
    match allowed with
    | some k => start + k ≤ n
    | none => false
  { d with plan := ⟨beyond d.reads reads, beyond d.writes writes⟩ }

/-- Reads `length` bytes from `offset` on. A failure of the medium comes before the bounds. -/
def read (offset length : Nat) : Access (List UInt8) := fun d =>
  let next := { d with reads := d.reads + 1 }
  if d.plan.read d.reads then (.error .io, next)
  else match checkBounds offset length d.size with
    | .ok _ => (.ok (slice d.bytes offset length), next)
    | .error e => (.error e, next)

/-- Writes `data` from `offset` on. -/
def write (offset : Nat) (data : List UInt8) : Access Unit := fun d =>
  let next := { d with writes := d.writes + 1 }
  if d.plan.write d.writes then (.error .io, next)
  else match checkBounds offset data.length d.size with
    | .ok _ =>
      (.ok (), { next with
        bytes := overlay d.bytes offset data
        written := d.written ++ [(offset, data)] })
    | .error e => (.error e, next)

end Device

end ClimateStation.Storage
