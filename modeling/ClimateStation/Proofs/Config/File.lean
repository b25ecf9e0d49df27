import ClimateStation.Proofs.Config.Members
import ClimateStation.Proofs.Text.Bytes

/-! Configuration files hold the configuration that was saved. Each field is written as a JSON value
from which it is read again, so the members of a file, each of another field, put together the
configuration whatever the others were before. -/
namespace ClimateStation.Config
open Json

/-! ## Fields -/

namespace Field

lemma writes_natural (n : Nat) : Writes (Text.natural n).toList (value.natural n) := by
  have text : Text.integer n = Text.natural n := by simp [Text.integer]
  rw [← text]
  exact Writes.integer n

lemma writes_toJson (c : Config) (f : Field) : Writes (toJson c f).toList (value c f) := by
  cases f with
  | samplePeriod => exact writes_natural _
  | logPeriod => exact writes_natural _
  | networkPeriod => exact writes_natural _
  | blinkRate => exact writes_natural _
  | fahrenheit => exact Writes.bool _
  | defaultGates =>
    have each : ∀ v ∈ c.defaultGates.toList,
        Writes (Text.integer v.toInt).toList (.number (.ofInt v.toInt)) := fun v _ => Writes.integer _
    have gates := Writes.array each Token.blank_nil
    simpa [toJson, value, String.toList_intercalate, Function.comp_def] using gates
  | port => exact writes_natural _
  | imagePath =>
    rw [toJson,String.toList_ofList]
    exact Writes.quoted _
  | lenient => exact Writes.bool _

end Field

/-! ## Files -/

/-- The member of a file for a field. -/
def member (c : Config) (f : Field) : Points × Value :=
  (f.name.toList.map Char.toNat, f.value c)

lemma names_map_member (c : Config) (fields : List Field) :
    Names (fields.map (member c)) (fields.map (Setting.of c)) := by
  induction fields with
  | nil => exact .nil
  | cons f fields ih => exact .field (Setting.of c f) (denotes_toNat _) (Field.holds_value c f) ih

lemma toList_toText (c : Config) :
    c.toText.toList = '{' :: ([','].intercalate (Field.all.map fun f =>
      quoted f.name.toList ++ ':' :: (Field.toJson c f).toList) ++ ['}']) := by
  simp [toText, String.toList_intercalate, Function.comp_def]

lemma writes_toText (c : Config) : Writes c.toText.toList (.object (Field.all.map (member c))) := by
  have each : ∀ f ∈ Field.all,
      WritesMember (quoted f.name.toList ++ ':' :: (Field.toJson c f).toList) (member c f) :=
    fun f _ => (Field.writes_toJson c f).quotedMember f.name.toList
  have object := Writes.object each Token.blank_nil
  rwa [List.nil_append,←toList_toText] at object

theorem ofText?_toText (c : Config) : ofText? c.toText = some c := by
  have read := ofMembers?_of_names (names_map_member c Field.all) (Setting.nodup_map_of c) default []
    fun _ _ => List.not_mem_nil
  rw [ofText?,(writes_toText c).ofText?_eq,Option.bind_some,ofJson?,read,Setting.applyAll_of_all]

namespace Slot

/-- There is a file that can be written, or one can be made. -/
def Writable : Slot → Prop
  | .file _ | .absent true => True
  | _ => False

lemma save_of_writable {slot : Slot} (writable : slot.Writable) {c : Config}
    (valid : c.validate = .ok ()) : slot.save c = (.ok (), .file c.toText.toUTF8.toList) := by
  cases slot with
  | file content => simp only [save, valid]
  | absent made =>
    cases made with
    | true => simp only [save, valid]
    | false => exact writable.elim
  | unnamed => exact writable.elim
  | other => exact writable.elim

section
variable {text : String} {c : Config}

lemma load_of_valid (read : ofText? text = some c) (valid : c.validate = .ok ()) :
    (file text.toUTF8.toList).load = .ok c := by
  simp only [load, Text.fromUTF8?_toUTF8, read, valid]

lemma load_of_invalid {e : ConfigError} (read : ofText? text = some c)
    (invalid : c.validate = .error e) : (file text.toUTF8.toList).load = .error e := by
  simp only [load, Text.fromUTF8?_toUTF8, read, invalid]

lemma load_of_unread (unread : ofText? text = none) :
    (file text.toUTF8.toList).load = .error .corrupted := by
  simp only [load, Text.fromUTF8?_toUTF8, unread]

end

lemma load_toText {c : Config} (valid : c.validate = .ok ()) :
    (file c.toText.toUTF8.toList).load = .ok c :=
  load_of_valid (ofText?_toText c) valid

lemma save_of_invalid (slot : Slot) {c : Config} {e : ConfigError}
    (invalid : c.validate = .error e) : slot.save c = (.error e, slot) := by
  simp only [save, invalid]

theorem valid_of_load {slot : Slot} {c : Config} (loads : slot.load = .ok c) :
    c.validate = .ok () := by
  cases slot with
  | unnamed =>
    cases loads
    decide
  | absent made => cases loads
  | other => cases loads
  | file content =>
    rw [load] at loads
    split at loads
    · cases loads
    · split at loads
      · cases loads
      · next found _ =>
        cases checked : found.validate with
        | ok _ =>
          rw [checked] at loads
          cases loads
          exact checked
        | error e =>
          rw [checked] at loads
          cases loads

/-- Where a file can be written, a configuration is saved exactly if it passes the checks, and then
it is loaded as it was saved. Otherwise the place stays as it was, and what is loaded from a place
always passes the checks. -/
theorem saved_configuration_loads_back (slot : Slot) (c : Config) :
    (slot.Writable → (slot.save c).1 = c.validate ∧
      (c.validate = .ok () → (slot.save c).2.load = .ok c)) ∧
    (∀ e, c.validate = .error e → (slot.save c).2 = slot) ∧
    ∀ loaded, slot.load = .ok loaded → loaded.validate = .ok () := by
  refine ⟨fun writable => ⟨?_,fun valid => ?_⟩,fun e invalid => ?_,fun loaded => valid_of_load⟩
  · cases checked : c.validate with
    | ok _ => rw [save_of_writable writable checked]
    | error e => rw [save_of_invalid slot checked]
  · rw [save_of_writable writable valid,load_toText valid]
  · rw [save_of_invalid slot invalid]

/-- Gates below zero, and a path with a quote, a backslash, a control character and a letter beyond
ASCII. -/
def unusual : Config :=
  { default with
    defaultGates := ⟨-32768, -40, 0, 32767⟩
    imagePath := "\"\\\u0001é" }

theorem saved_configuration_loads_back_unusual :
    ((file []).Writable ∧ unusual.validate = .ok () ∧
      ((file []).save unusual).2.load = .ok unusual) ∧
    ({ unusual with blinkRate := 0 }.validate = .error (.invalid .blinkRateZero) ∧
      ((file []).save { unusual with blinkRate := 0 }).2 = file []) := by
  have valid : unusual.validate = .ok () := by decide
  have invalid : { unusual with blinkRate := 0 }.validate = .error (.invalid .blinkRateZero) := by
    decide
  have loads := ((saved_configuration_loads_back (file []) unusual).1 trivial).2 valid
  have kept := (saved_configuration_loads_back (file []) { unusual with blinkRate := 0 }).2.1 _ invalid
  have checked := (saved_configuration_loads_back ((file []).save unusual).2 unusual).2.2 _ loads
  exact ⟨⟨trivial,checked,loads⟩,invalid,kept⟩

end Slot
end ClimateStation.Config
