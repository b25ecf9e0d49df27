import ClimateStation.Proofs.Storage.Isolation
import ClimateStation.Storage.Image

/-! A memory kept in a file is a memory. Opening, calls, and writes that fail half way leave the file
with the content of the image, so a memory that is opened again is the one that was left; and to every
call it gives the answer of a device that holds the image. -/
namespace ClimateStation.Storage

/-! ## Calls -/

/-- What is asked of a memory. -/
inductive Call
  | read (offset length : Nat)
  | write (offset : Nat) (data : List UInt8)
  deriving DecidableEq, Repr

/-- The bytes that were read, none for a write, or why the call failed. -/
abbrev Answer := Except StorageError (List UInt8)

namespace Call

/-- The call to a memory whose file takes every write. -/
def onImage (c : Call) (m : Image) : Answer × Image :=
  match c with
  | read offset length => (m.read offset length, m)
  | write offset data =>
    let (result, after) := m.write offset data .done
    (result.map fun _ => [], after)

def onDevice (c : Call) (d : Device) : Answer × Device :=
  match c with
  | read offset length => Device.read offset length d
  | write offset data =>
    let (result, after) := Device.write offset data d
    (result.map fun _ => [], after)

/-- The answers to calls one after the other, and what is left in the end. -/
def run {σ : Type} (call : Call → σ → Answer × σ) : List Call → σ → List Answer × σ
  | [], s => ([], s)
  | c :: rest, s =>
    let (first, between) := call c s
    let (others, after) := run call rest between
    (first :: others, after)

end Call

/-! ## Files -/

lemma overlay_nil (bytes : List UInt8) (offset : Nat) : overlay bytes offset [] = bytes := by
  simp [overlay]

lemma patchFile_eq {file : List UInt8} {offset : Nat} {data : List UInt8}
    (within : offset + data.length ≤ file.length) :
    patchFile file offset data = overlay file offset data := by
  have gap : offset - file.length = 0 := by omega
  cases data with
  | nil => simp [patchFile, overlay_nil]
  | cons b rest => simp [patchFile, gap]

/-- A range that is read back from a content that differs there makes the contents agree. -/
lemma overlay_slice_of_sameOutside {old new : List UInt8} {offset n : Nat}
    (within : offset + n ≤ old.length) (torn : SameOutside offset (offset + n) old new) :
    overlay old offset (slice new offset n) = new := by
  have room : offset + n ≤ new.length := torn.length.symm ▸ within
  have back : (slice new offset n).length = n := length_slice _ _ _ room
  apply List.ext_getElem?
  intro i
  rw [getElem?_overlay _ _ _ _ (by omega),back]
  by_cases before : i < offset
  · rw [if_pos before,torn.cell i (.inl before)]
  · by_cases behind : i < offset + n
    · have position : offset + (i - offset) = i := by omega
      have inside : i - offset < n := by omega
      simp [before, behind, slice, inside, position]
    · rw [if_neg before,if_neg behind,torn.cell i (.inr (by omega))]

namespace Image

lemma fit_of_length {content : List UInt8} {size : Nat} (exact : content.length = size) :
    fit content size = content := by
  simp [fit, ← exact]

/-- The file gets the content of the image, whatever it was. -/
theorem openFile_eq (file : Option (List UInt8)) (size : Nat) :
    openFile file size = ⟨fit (file.getD []) size,fit (file.getD []) size⟩ := by
  unfold openFile
  generalize file.getD [] = content
  dsimp only
  split
  · next exact => rw [fit_of_length exact]
  · next other =>
    congr 1
    cases size with
    | zero =>
      have cut : fit content 0 = [] := List.eq_nil_of_length_eq_zero (length_fit _ _)
      simp [cut, patchFile, resizeFile]
    | succ size =>
      have some : fit content (size + 1) ≠ [] := by
        intro none
        have length := length_fit content (size + 1)
        simp [none] at length
      simp [patchFile, some, resizeFile, overlay]

/-- The file has the content of the image, which has the given size. -/
structure InStep (m : Image) (size : Nat) : Prop where
  file : m.file = m.image
  length : m.image.length = size

variable {m : Image} {size : Nat}

lemma inStep_openFile (file : Option (List UInt8)) (size : Nat) : (openFile file size).InStep size := by
  rw [openFile_eq]
  exact ⟨rfl,length_fit _ _⟩

/-- A memory that is opened again is the one that was left. -/
theorem InStep.openFile_eq (inStep : m.InStep size) : openFile (some m.file) size = m := by
  rw [Image.openFile_eq,Option.getD_some,inStep.file,fit_of_length inStep.length]
  simp [Image.ext_iff, inStep.file]

lemma write_of_inside {offset : Nat} {data : List UInt8} (inside : offset + data.length ≤ m.image.length) :
    m.write offset data .done = (.ok (), ⟨overlay m.image offset data,patchFile m.file offset data⟩) := by
  simp [write, checkBounds, inside]

/-- What the image does not admit does not come to the file. -/
lemma write_of_outside {offset : Nat} {data : List UInt8} (fate : Fate)
    (outside : ¬offset + data.length ≤ m.image.length) :
    m.write offset data fate = (.error (.outOfBounds offset data.length), m) := by
  simp [write, checkBounds, outside]

/-- A write that the file takes leaves the two in step. -/
lemma InStep.write (inStep : m.InStep size) (offset : Nat) (data : List UInt8) :
    (m.write offset data .done).2.InStep size := by
  by_cases inside : offset + data.length ≤ m.image.length
  · rw [write_of_inside inside,patchFile_eq (inStep.file ▸ inside),inStep.file]
    exact ⟨rfl,(length_overlay _ _ _ inside).trans inStep.length⟩
  · rw [write_of_outside _ inside]
    exact inStep

/-- If the file fails with other bytes where it was to be written, and these can be read back, then
the image has them too. -/
lemma InStep.write_failed (inStep : m.InStep size) {offset readable : Nat} {data file : List UInt8}
    (inside : offset + data.length ≤ size) (back : data.length ≤ readable)
    (torn : SameOutside offset (offset + data.length) m.file file) :
    m.write offset data (.failed file readable) = (.error .io, ⟨file,file⟩) := by
  rw [← inStep.length] at inside
  have whole : (slice file offset data.length).take readable = slice file offset data.length :=
    List.take_of_length_le (Nat.le_trans (List.length_take_le _ _) back)
  have image : overlay m.image offset (slice file offset data.length) = file :=
    overlay_slice_of_sameOutside inside (inStep.file ▸ torn)
  simp [Image.write, checkBounds, inside, whole, image]

/-- A call gets the answer of a device that holds the image, and leaves the two with the same. -/
theorem InStep.call (inStep : m.InStep size) {d : Device} (sound : d.plan = .sound)
    (same : d.bytes = m.image) (c : Call) :
    (c.onImage m).1 = (c.onDevice d).1 ∧ (c.onImage m).2.InStep size ∧
      (c.onDevice d).2.plan = .sound ∧ (c.onDevice d).2.bytes = (c.onImage m).2.image := by
  have width : d.size = m.image.length := congrArg List.length same
  cases c with
  | read offset length =>
    have answer : Device.read offset length d = (m.read offset length, d.afterRead) := by
      rw [Device.read_of_sound sound,width,same]
      unfold Image.read
      cases checkBounds offset length m.image.length <;> rfl
    simp only [Call.onImage, Call.onDevice, answer]
    exact ⟨trivial,inStep,sound,same⟩
  | write offset data =>
    refine ⟨?_,inStep.write offset data,?_⟩
    · simp only [Call.onImage, Call.onDevice, Device.write_of_sound sound, width, Image.write]
      cases checkBounds offset data.length m.image.length <;> rfl
    · simp only [Call.onImage, Call.onDevice, Device.write_of_sound sound, width, Image.write]
      cases checkBounds offset data.length m.image.length with
      | ok => exact ⟨sound,congrArg (overlay · offset data) same⟩
      | error => exact ⟨sound,same⟩

theorem InStep.run (inStep : m.InStep size) {d : Device} (sound : d.plan = .sound)
    (same : d.bytes = m.image) (calls : List Call) :
    (Call.run Call.onImage calls m).1 = (Call.run Call.onDevice calls d).1 ∧
      (Call.run Call.onImage calls m).2.image = (Call.run Call.onDevice calls d).2.bytes := by
  induction calls generalizing m d with
  | nil => exact ⟨rfl,same.symm⟩
  | cons c rest ih =>
    obtain ⟨answer,kept,works,held⟩ := inStep.call sound same c
    obtain ⟨answers,left⟩ := ih kept works held
    simp only [Call.run, answer, answers, left]
    exact ⟨trivial,trivial⟩

/-! ## Histories -/

/-- What calls make of the memory that was opened on a file. A write may fail in the file after any of
the bytes concerned were changed there, if these can be read back. -/
inductive Reached (file : Option (List UInt8)) (size : Nat) : Image → Prop
  | opened : Reached file size (openFile file size)
  | called {m : Image} (before : Reached file size m) (c : Call) : Reached file size (c.onImage m).2
  | failed {m : Image} (before : Reached file size m) (offset : Nat) (data content : List UInt8)
      (readable : Nat) (torn : SameOutside offset (offset + data.length) m.file content)
      (back : data.length ≤ readable) :
      Reached file size (m.write offset data (.failed content readable)).2

variable {file : Option (List UInt8)}

theorem Reached.inStep (reached : Reached file size m) : m.InStep size := by
  induction reached with
  | opened => exact inStep_openFile file size
  | @called m before c ih =>
    cases c with
    | read offset length => exact ih
    | write offset data => exact ih.write offset data
  | @failed m before offset data content readable torn back ih =>
    by_cases inside : offset + data.length ≤ size
    · rw [ih.write_failed inside back torn]
      exact ⟨rfl,torn.length.trans (ih.file ▸ ih.length)⟩
    -- What is out of bounds does not come to the file, so it cannot fail there.
    · rw [write_of_outside _ (ih.length ▸ inside)]
      exact ih

theorem Reached.run (reached : Reached file size m) (calls : List Call) :
    Reached file size (Call.run Call.onImage calls m).2 := by
  induction calls generalizing m with
  | nil => exact reached
  | cons c rest ih => exact ih (reached.called c)

/-- A file is opened as its content, cut or filled up to the size. Whatever was called since, file and
image have the same content, so that opening the file again gives the same memory; further calls are
answered as by a device that holds the image, and leave the same; and a write that fails in the file
has that content in the image too, where the bytes concerned can be read back. -/
theorem file_is_memory (file : Option (List UInt8)) (size : Nat) :
    (openFile file size).image =
      (file.getD []).take size ++ List.replicate (size - (file.getD []).length) 255 ∧
    ∀ m, Reached file size m →
      m.file = m.image ∧ m.image.length = size ∧ openFile (some m.file) size = m ∧
      (∀ calls, Reached file size (Call.run Call.onImage calls m).2 ∧
        (Call.run Call.onImage calls m).1 =
          (Call.run Call.onDevice calls (.ofBytes m.image)).1 ∧
        (Call.run Call.onImage calls m).2.image =
          (Call.run Call.onDevice calls (.ofBytes m.image)).2.bytes) ∧
      ∀ offset data content readable, offset + data.length ≤ size →
        SameOutside offset (offset + data.length) m.file content → data.length ≤ readable →
        m.write offset data (.failed content readable) = (.error .io, ⟨content,content⟩) := by
  refine ⟨congrArg Image.image (openFile_eq file size),fun m reached => ?_⟩
  have inStep := reached.inStep
  refine ⟨inStep.file,inStep.length,inStep.openFile_eq,fun calls => ⟨reached.run calls,?_⟩,?_⟩
  · exact inStep.run rfl rfl calls
  · intro offset data content readable inside torn back
    exact inStep.write_failed inside back torn

/-- A file that is too short, and a write to it of which only the first byte arrives. -/
theorem file_is_memory_torn :
    let torn := ((openFile (some [1,2,3]) 5).write 1 [7,8] (.failed [1,7,3,255,255] 2)).2
    Reached (some [1,2,3]) 5 torn ∧ torn = ⟨[1,7,3,255,255],[1,7,3,255,255]⟩ ∧
    openFile (some torn.file) 5 = torn ∧
    (Call.run Call.onImage [.read 0 2,.write 4 [9,9]] torn).1 =
      [.ok [1,7],.error (.outOfBounds 4 2)] := by
  have changed : SameOutside 1 3 [1,2,3,255,255] [1,7,3,255,255] :=
    SameOutside.overlay (Nat.le_refl 1) (Nat.le_refl (1 + [7,3].length)) (by decide)
  have opened := (file_is_memory (some [1,2,3]) 5).2 _ .opened
  have failed := opened.2.2.2.2 1 [7,8] [1,7,3,255,255] 2 (by decide) changed (by decide)
  have reached := (@Reached.opened (some [1,2,3]) 5).failed 1 [7,8]
    [1,7,3,255,255] 2 changed (by decide)
  have held := (file_is_memory (some [1,2,3]) 5).2 _ reached
  exact ⟨reached,congrArg Prod.snd failed,held.2.2.1,(held.2.2.2.1 _).2.1⟩

end Image
end ClimateStation.Storage
