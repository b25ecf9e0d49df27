import ClimateStation.Binary.Word
import ClimateStation.Storage.Window

/-! The four gates of the temperature alarm, in whole degrees Fahrenheit. They are meant to ascend,
but they are kept as they were entered. Stored, they are four signed sixteen-bit numbers; eight
erased bytes count as no gates. -/
namespace ClimateStation.Alarm
open Storage

/-- The highest temperature of each level but the topmost. -/
structure Gates where
  majorUnder : Int16
  minorUnder : Int16
  comfortable : Int16
  minorOver : Int16
  deriving DecidableEq, Repr, Inhabited

namespace Gates

def count : Nat := 4

def toList (g : Gates) : List Int16 := [g.majorUnder, g.minorUnder, g.comfortable, g.minorOver]

/-- Each gate is at least as high as the one before. -/
def Ascending (g : Gates) : Prop :=
  g.majorUnder ≤ g.minorUnder ∧ g.minorUnder ≤ g.comfortable ∧ g.comfortable ≤ g.minorOver

instance (g : Gates) : Decidable g.Ascending := by unfold Ascending; infer_instance

/-- Replaces the gate of the given number, if there is one. -/
def set? (g : Gates) (index : Nat) (value : Int16) : Option Gates :=
  match index with
  | 0 => some { g with majorUnder := value }
  | 1 => some { g with minorUnder := value }
  | 2 => some { g with comfortable := value }
  | 3 => some { g with minorOver := value }
  | _ => none

/-- The gates have numbers below four. -/
theorem isSome_set? (g : Gates) (index : Nat) (value : Int16) :
    (g.set? index value).isSome = decide (index < count) := by
  match index with
  | 0 | 1 | 2 | 3 => rfl
  | n + 4 =>
    have : ¬ n + 4 < count := by unfold count; omega
    simp [set?, this]

def width : Nat := 8

def toBytes (g : Gates) : List UInt8 := g.toList.flatMap Binary.signedBytes

def ofBytes (b : List UInt8) : Gates :=
  let gate (i : Nat) : Int16 := Binary.signedOfBytes (b.getD (2 * i) 0) (b.getD (2 * i + 1) 0)
  ⟨gate 0, gate 1, gate 2, gate 3⟩

@[simp] theorem length_toBytes (g : Gates) : g.toBytes.length = width := rfl

def store (g : Gates) (place : Place) : Access Unit := place.write 0 g.toBytes

/-- Reads the gates. If none are stored, the given ones are stored and returned. -/
def load (place : Place) (defaults : Gates) : Access Gates := do
  let bytes ← place.read 0 width
  if bytes.all (· == erased) then
    defaults.store place
    pure defaults
  else pure (ofBytes bytes)

end Gates

end ClimateStation.Alarm
