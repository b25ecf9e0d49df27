import ClimateStation.Binary.Word
import ClimateStation.Log.Entry
import ClimateStation.Storage.Window

/-! The log as a ring of 27 slots in 247 bytes: the offset of the next slot and the number of
entries, two bytes each and the low byte first, and then the slots of nine bytes. Once the ring is
full, the next slot holds the oldest entry. An append writes the slot first and the header after it,
so the header on the device always describes entries that were written whole. Only the bookkeeping
is held in memory; the entries stay on the device. -/
namespace ClimateStation.Log
open Storage

/-- The bookkeeping of the log. -/
structure Ring where
  /-- The offset of the slot that is written next. -/
  next : Nat
  count : Nat
  deriving DecidableEq, Repr

namespace Ring

def regionSize : Nat := 247
def headerSize : Nat := 4

def capacity : Nat := (regionSize - headerSize) / Entry.width

/-- The bytes of all slots together. -/
def span : Nat := capacity * Entry.width

example : capacity = 27 ∧ headerSize + span = regionSize := by decide

def empty : Ring := ⟨headerSize, 0⟩

def isEmpty (r : Ring) : Bool := r.count == 0

/-- A header that appends can leave: the next slot lies on the grid of slots, and it follows the
last entry until the ring is full. -/
def Sound (r : Ring) : Prop :=
  headerSize ≤ r.next ∧ (r.next - headerSize) % Entry.width = 0
    ∧ r.next + Entry.width ≤ regionSize ∧ r.count ≤ capacity
    ∧ (r.count = capacity ∨ r.next = headerSize + r.count * Entry.width)

instance (r : Ring) : Decidable r.Sound := by unfold Sound; infer_instance

theorem sound_empty : empty.Sound := by decide

def header (r : Ring) : List UInt8 := Binary.lowHigh r.next ++ Binary.lowHigh r.count

def ofHeader (b : List UInt8) : Ring :=
  ⟨Binary.ofLowHigh (b.getD 0 0) (b.getD 1 0), Binary.ofLowHigh (b.getD 2 0) (b.getD 3 0)⟩

/-- The ring after one more entry. -/
def advance (r : Ring) : Ring :=
  let next := r.next + Entry.width
  { next := if regionSize < next + Entry.width then headerSize else next
    count := min (r.count + 1) capacity }

/-- The offset of entry `i`, counted from the oldest. -/
def slot (r : Ring) (i : Nat) : Nat :=
  let oldest := if r.count = capacity then r.next else headerSize
  let offset := oldest + i * Entry.width
  if regionSize < offset + Entry.width then offset - span else offset

/-- Zeroes the whole region and starts over. -/
def clear (place : Place) : Access Ring := do
  place.write 0 (empty.header ++ List.replicate span 0)
  pure empty

/-- Reads the header; one that appends cannot have left is answered by clearing the log. -/
def load (place : Place) : Access Ring := do
  let ring := ofHeader (← place.read 0 headerSize)
  if ring.Sound then pure ring else clear place

/-- Writes an entry into the next slot, over the oldest entry if the ring is full. -/
def append (r : Ring) (place : Place) (e : Entry) : Access Ring := do
  place.write r.next e.toBytes
  place.write 0 r.advance.header
  pure r.advance

/-- The entry in slot `i`, counted from the oldest. -/
def entryAt (r : Ring) (place : Place) (i : Nat) : Access Entry := do
  pure (Entry.ofBytes (← place.read (r.slot i) Entry.width))

/-- Entry `i` counted from the oldest, if the log has so many. -/
def get? (r : Ring) (place : Place) (i : Nat) : Access (Option Entry) := do
  if i < r.count then pure (some (← r.entryAt place i)) else pure none

/-- Every entry from the oldest on, or the reason why it cannot be read. -/
def entries (r : Ring) (place : Place) : StateM Device (List (Except StorageError Entry)) :=
  (List.range r.count).mapM fun i => (r.entryAt place i).run

/-- The entries at the given places, up to the first that cannot be read. -/
def readableAt (r : Ring) (place : Place) : List Nat → StateM Device (List Entry)
  | [] => pure []
  | i :: rest => do
    match ← (r.entryAt place i).run with
    | .ok e => return e :: (← readableAt r place rest)
    | .error _ => return []

/-- The entries from the oldest on, up to the first that cannot be read. -/
def readable (r : Ring) (place : Place) : StateM Device (List Entry) :=
  r.readableAt place (List.range r.count)

/-- The extremes of the log, if it is not empty. -/
def extremes (r : Ring) (place : Place) : Access (Option Extremes) := do
  let es ← (List.range r.count).mapM (r.entryAt place)
  pure (Extremes.ofList? es)

end Ring

end ClimateStation.Log
