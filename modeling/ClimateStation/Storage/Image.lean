import ClimateStation.Storage.Device

/-! A memory kept in a file. The whole file is held as an image; a write goes to the file first and
into the image after it. If the file cannot be written, the bytes concerned are read back from it,
so that image and file agree even if part of the write went through. -/
namespace ClimateStation.Storage

/-- Replaces the bytes of a file from `offset` on. A file that is too short grows, and a gap reads
as zeros; writing nothing changes nothing. -/
def patchFile (file : List UInt8) (offset : Nat) (data : List UInt8) : List UInt8 :=
  if data.isEmpty then file
  else overlay (file ++ List.replicate (offset - file.length) 0) offset data

/-- Cuts a file to `size` bytes. A file that is too short grows by zeros. -/
def resizeFile (file : List UInt8) (size : Nat) : List UInt8 :=
  file.take size ++ List.replicate (size - file.length) 0

@[ext] structure Image where
  image : List UInt8
  file : List UInt8
  deriving DecidableEq, Repr

namespace Image

/-- Cuts the content to `size` bytes, or fills it up with erased cells. -/
def fit (content : List UInt8) (size : Nat) : List UInt8 :=
  content.take size ++ List.replicate (size - content.length) erased

@[simp] theorem length_fit (content : List UInt8) (size : Nat) : (fit content size).length = size := by
  simp [fit]
  omega

/-- Opens a file as a memory of `size` bytes. A file of another size is written anew and then given
this size; without a file, one is made. -/
def openFile (file : Option (List UInt8)) (size : Nat) : Image :=
  let content := file.getD []
  if content.length = size then ⟨content, content⟩
  else
    let image := fit content size
    ⟨image, resizeFile (patchFile content 0 image) size⟩

def read (m : Image) (offset length : Nat) : Except StorageError (List UInt8) :=
  match checkBounds offset length m.image.length with
  | .ok _ => .ok (slice m.image offset length)
  | .error e => .error e

/-- How the file takes a write. -/
inductive Fate
  | done
  /-- The file ends up with the given content, and at most so many bytes of it can be read back. -/
  | failed (file : List UInt8) (readable : Nat)
  deriving DecidableEq, Repr

def write (m : Image) (offset : Nat) (data : List UInt8) (fate : Fate) :
    Except StorageError Unit × Image :=
  match checkBounds offset data.length m.image.length with
  | .error e => (.error e, m)
  | .ok _ =>
    match fate with
    | .done => (.ok (), ⟨overlay m.image offset data, patchFile m.file offset data⟩)
    | .failed file readable =>
      let back := (slice file offset data.length).take readable
      (.error .io, ⟨overlay m.image offset back, file⟩)

end Image

end ClimateStation.Storage
