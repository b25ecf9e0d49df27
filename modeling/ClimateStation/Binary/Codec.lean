/-! Reading and writing of packed values. A reader takes bytes from the front of a list and fails
if they do not form a value. Unsigned numbers are written seven bits a byte, the lowest first, with
the top bit set on every byte but the last; signed numbers are folded to unsigned ones, so that
numbers near zero stay short. -/
namespace ClimateStation.Binary

/-- A reader returns the value read and the bytes after it. -/
abbrev Reader (α : Type) := StateT (List UInt8) Option α

namespace Reader

def byte : Reader UInt8 := fun
  | [] => none
  | b :: rest => some (b, rest)

def take (n : Nat) : Reader (List UInt8) := fun bytes =>
  if n ≤ bytes.length then some (bytes.take n, bytes.drop n) else none

end Reader

/-- The seven-bit groups of a number, the lowest first. -/
def varint (n : Nat) : List UInt8 :=
  if n < 128 then [UInt8.ofNat n] else UInt8.ofNat (n % 128 + 128) :: varint (n / 128)
termination_by n

/-- Reads a number of at most `places` bytes, the last of which may be at most `top`. Leading groups
of zeros are accepted. -/
def readVarint (top : Nat) : Nat → Reader Nat
  | 0 => fun _ => none
  | places + 1 => do
    let b ← Reader.byte
    if b < 128 then
      if places = 0 ∧ top < b.toNat then failure
      pure b.toNat
    else
      let rest ← readVarint top places
      pure (b.toNat % 128 + 128 * rest)

def unsigned16 (n : UInt16) : List UInt8 := varint n.toNat

def readUnsigned16 : Reader UInt16 := do
  let n ← readVarint 3 3
  pure (UInt16.ofNat n)

def unsigned32 (n : UInt32) : List UInt8 := varint n.toNat

def readUnsigned32 : Reader UInt32 := do
  let n ← readVarint 15 5
  pure (UInt32.ofNat n)

/-- Folds 0, -1, 1, -2, … onto 0, 1, 2, 3, …. -/
def zigzag (i : Int) : Nat := if i < 0 then 2 * i.natAbs - 1 else 2 * i.natAbs

def unzigzag (n : Nat) : Int := if n % 2 = 0 then (n / 2 : Nat) else -((n / 2 : Nat) + 1 : Int)

theorem unzigzag_zigzag (i : Int) : unzigzag (zigzag i) = i := by
  unfold zigzag
  split <;> unfold unzigzag <;> split <;> omega

def signed16 (i : Int16) : List UInt8 := varint (zigzag i.toInt)

def readSigned16 : Reader Int16 := do
  let n ← readUnsigned16
  pure (Int16.ofInt (unzigzag n.toNat))

def flag (b : Bool) : List UInt8 := [if b then 1 else 0]

def readFlag : Reader Bool := do
  match ← Reader.byte with
  | 0 => pure false
  | 1 => pure true
  | _ => failure

/-- A text is its length in bytes and its UTF-8 bytes. -/
def text (s : String) : List UInt8 := varint s.utf8ByteSize ++ s.toUTF8.toList

/-- The length of a text is a number of at most 64 bits. -/
def readText : Reader String := do
  let n ← readVarint 1 10
  let bytes ← Reader.take n
  match String.fromUTF8? (ByteArray.mk bytes.toArray) with
  | some s => pure s
  | none => failure

example : varint 300 = [172, 2] ∧ varint 127 = [127] := by decide +kernel
example : (readUnsigned16 [172, 2, 9]) = some (300, [9]) := by decide +kernel
example : (readUnsigned16 [255, 255, 4]) = none := by decide +kernel
example : signed16 (-1) = [1] ∧ readSigned16 [3] = some (-2, []) := by decide +kernel

end ClimateStation.Binary
