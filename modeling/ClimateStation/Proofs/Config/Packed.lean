import ClimateStation.Proofs.Binary.Codec
import ClimateStation.Proofs.Config.Setting

/-! A packed configuration is read back as it was, whatever follows it. Nothing stands between its
fields, so each of them must end where the next one starts: every field is read from the front of its
packed form and all that comes behind. -/
namespace ClimateStation.Config
open Binary

/-- The path is a text that memory of 64 bits can hold. -/
def Addressable (c : Config) : Prop := c.imagePath.utf8ByteSize < 2 ^ 64

instance (c : Config) : Decidable c.Addressable := inferInstanceAs (Decidable (_ < _))

/-! ## One field -/

namespace Field

lemma readGates_flatMap (gates : Alarm.Gates) (rest : List UInt8) :
    readGates (gates.toList.flatMap signed16 ++ rest) = some (gates,rest) := by
  obtain ⟨a,b,c,d⟩ := gates
  simp only [Alarm.Gates.toList, List.flatMap_cons, List.flatMap_nil, List.append_nil,
    List.append_assoc, readGates, Reader.bind_apply, readSigned16_signed16, Option.bind_some]
  rfl

/-- A packed field is read as the field, whatever it was before. -/
theorem unpack_pack {source : Config} (addressable : source.Addressable) (c : Config) (f : Field)
    (rest : List UInt8) :
    unpack c f (pack source f ++ rest) = some (f.set c (f.get source),rest) := by
  cases f with
  | samplePeriod => rw [unpack,Reader.bind_apply,pack,readUnsigned32_unsigned32]; rfl
  | logPeriod => rw [unpack,Reader.bind_apply,pack,readUnsigned32_unsigned32]; rfl
  | networkPeriod => rw [unpack,Reader.bind_apply,pack,readUnsigned32_unsigned32]; rfl
  | blinkRate => rw [unpack,Reader.bind_apply,pack,readUnsigned16_unsigned16]; rfl
  | fahrenheit => rw [unpack,Reader.bind_apply,pack,readFlag_flag]; rfl
  | defaultGates => rw [unpack,Reader.bind_apply,pack,readGates_flatMap]; rfl
  | port => rw [unpack,Reader.bind_apply,pack,readUnsigned16_unsigned16]; rfl
  | imagePath => rw [unpack,Reader.bind_apply,pack,readText_text addressable]; rfl
  | lenient => rw [unpack,Reader.bind_apply,pack,readFlag_flag]; rfl

/-- No field that is read has a path that is too long. -/
lemma addressable_of_unpack {c c' : Config} {f : Field} {bytes rest : List UInt8}
    (before : c.Addressable) (read : unpack c f bytes = some (c',rest)) : c'.Addressable := by
  cases f with
  | imagePath =>
    obtain ⟨path,after,found,read⟩ := Reader.some_of_bind read
    cases read
    exact utf8ByteSize_lt_of_readText found
  | _ =>
    obtain ⟨_,_,_,read⟩ := Reader.some_of_bind read
    cases read
    exact before

end Field

/-! ## Fields one after the other -/

theorem foldlM_unpack_pack {source : Config} (addressable : source.Addressable)
    (fields : List Field) (c : Config) (rest : List UInt8) :
    fields.foldlM (m := Reader) Field.unpack c (fields.flatMap (Field.pack source) ++ rest) =
      some (Setting.applyAll c (fields.map (Setting.of source)),rest) := by
  induction fields generalizing c with
  | nil => rfl
  | cons f fields ih =>
    rw [List.foldlM_cons,Reader.bind_apply,List.flatMap_cons,List.append_assoc,
      Field.unpack_pack addressable]
    exact ih (f.set c (f.get source))

lemma addressable_of_foldlM {fields : List Field} {c c' : Config} {bytes rest : List UInt8}
    (before : c.Addressable)
    (read : fields.foldlM (m := Reader) Field.unpack c bytes = some (c',rest)) : c'.Addressable := by
  induction fields generalizing c bytes with
  | nil =>
    cases read
    exact before
  | cons f fields ih =>
    rw [List.foldlM_cons] at read
    obtain ⟨c₁,after,first,read⟩ := Reader.some_of_bind read
    exact ih (Field.addressable_of_unpack before first) read

theorem read_toBytes {c : Config} (addressable : c.Addressable) (rest : List UInt8) :
    read (c.toBytes ++ rest) = some (c,rest) := by
  rw [read,toBytes,foldlM_unpack_pack addressable,Setting.applyAll_of_all]

lemma ofBytes?_of_read {c : Config} {bytes rest : List UInt8} (found : read bytes = some (c,rest)) :
    ofBytes? bytes = some c :=
  congrArg (Option.map Prod.fst) found

theorem addressable_of_ofBytes? {c : Config} {bytes : List UInt8} (found : ofBytes? bytes = some c) :
    c.Addressable := by
  obtain ⟨⟨c',rest⟩,read,rfl⟩ := Option.map_eq_some_iff.mp found
  have default : Config.default.Addressable := by decide
  exact addressable_of_foldlM default read

/-- A packed configuration is read back, and what follows it is left, exactly if its path is a text
that memory can hold. So whatever bytes a configuration was read from, its own packed form stands for
it as well. -/
theorem packed_configuration_reads_back (c : Config) (rest : List UInt8) :
    (c.Addressable → read (c.toBytes ++ rest) = some (c,rest)) ∧
    (ofBytes? (c.toBytes ++ rest) = some c ↔ c.Addressable) ∧
    ∀ bytes, ofBytes? bytes = some c → ofBytes? (c.toBytes ++ rest) = some c := by
  have back (addressable : c.Addressable) : ofBytes? (c.toBytes ++ rest) = some c :=
    ofBytes?_of_read (read_toBytes addressable rest)
  refine ⟨fun addressable => read_toBytes addressable rest,⟨addressable_of_ofBytes?,back⟩,?_⟩
  intro bytes found
  exact back (addressable_of_ofBytes? found)

/-- Numbers at the ends of their ranges and a path beyond ASCII, in a configuration that fails checks. -/
def extreme : Config :=
  { default with
    samplePeriod := 4294967295
    logPeriod := 0
    blinkRate := 65535
    defaultGates := ⟨32767,-1,64,-32768⟩
    imagePath := "\u0000é😀" }

/-- The default configuration, with a longer form of its first number. -/
def longerForm : List UInt8 := [136,167,0] ++ default.toBytes.drop 2

theorem packed_configuration_reads_back_longer :
    (extreme.Addressable ∧ read (extreme.toBytes ++ [1,2]) = some (extreme,[1,2])) ∧
    longerForm ≠ default.toBytes ∧ ofBytes? longerForm = some default ∧
      ofBytes? (default.toBytes ++ [1,2]) = some default := by
  have small : extreme.Addressable := by decide
  have longer : longerForm ≠ default.toBytes := by decide +kernel
  have found : ofBytes? longerForm = some default := by decide +kernel
  exact ⟨⟨small,(packed_configuration_reads_back extreme [1,2]).1 small⟩,longer,found,
    (packed_configuration_reads_back default [1,2]).2.2 longerForm found⟩

end ClimateStation.Config
