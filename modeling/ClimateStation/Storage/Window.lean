import ClimateStation.Storage.Device

/-! Windows on the device. A structure is given a place: the windows that an access passes on its
way to the device, the nearest first. Each window checks the access against its own size and moves
it by its base, so what a window refuses never reaches the device. The layout puts the log, the
network settings and the alarm gates into three windows that touch without overlapping. -/
namespace ClimateStation.Storage

/-- The part of a region that starts at `base` and has `size` bytes. -/
structure Window where
  base : Nat
  size : Nat
  deriving DecidableEq, Repr

/-- The windows between a structure and the device, the nearest first. -/
abbrev Place := List Window

namespace Place

/-- The number of bytes that the nearest window shows. -/
def size (place : Place) (d : Device) : Nat :=
  match place with
  | [] => d.size
  | w :: _ => w.size

def read (place : Place) (offset length : Nat) : Access (List UInt8) :=
  match place with
  | [] => Device.read offset length
  | w :: outer => fun d =>
    match checkBounds offset length w.size with
    | .ok _ => read outer (w.base + offset) length d
    | .error e => (.error e, d)

def write (place : Place) (offset : Nat) (data : List UInt8) : Access Unit :=
  match place with
  | [] => Device.write offset data
  | w :: outer => fun d =>
    match checkBounds offset data.length w.size with
    | .ok _ => write outer (w.base + offset) data d
    | .error e => (.error e, d)

end Place

/-! Where each structure lives on the device of the station. -/
namespace Layout

def deviceSize : Nat := 1024

def log : Window := ⟨0, 247⟩
def network : Window := ⟨log.base + log.size, 26⟩
def gates : Window := ⟨network.base + network.size, 8⟩

/-- The bytes from here on belong to no structure. -/
def used : Nat := gates.base + gates.size

example : network.base = 247 ∧ gates.base = 273 ∧ used = 281 ∧ used ≤ deviceSize := by decide

end Layout

end ClimateStation.Storage
