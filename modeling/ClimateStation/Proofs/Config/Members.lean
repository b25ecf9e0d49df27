import ClimateStation.Config.File
import ClimateStation.Proofs.Config.Setting
import ClimateStation.Proofs.Json.Document

/-! The members of a configuration file. Each of them names a field or is passed over. What is read
from members that name each field at most once has the named fields from them and all others as they
were, whatever the order; where two name one field, nothing is read. -/
namespace ClimateStation.Config
open Json

/-! ## Values -/

namespace Field

/-- The value that a file has for a field. -/
def value (c : Config) : Field → Value
  | samplePeriod => natural c.samplePeriod.toNat
  | logPeriod => natural c.logPeriod.toNat
  | networkPeriod => natural c.networkPeriod.toNat
  | blinkRate => natural c.blinkRate.toNat
  | fahrenheit => .bool c.fahrenheit
  | defaultGates => .array (c.defaultGates.toList.map fun v => .number (.ofInt v.toInt))
  | port => natural c.port.toNat
  | imagePath => .string (c.imagePath.toList.map Char.toNat)
  | lenient => .bool c.lenient
where
  natural (n : Nat) : Value := .number (.ofInt n)

/-- The value is one that stands for what the field holds. Only a path has several of them. -/
def Holds : (f : Field) → f.Kind → Value → Prop
  | samplePeriod, (n : UInt32), v => v = value.natural n.toNat
  | logPeriod, (n : UInt32), v => v = value.natural n.toNat
  | networkPeriod, (n : UInt32), v => v = value.natural n.toNat
  | blinkRate, (n : UInt16), v => v = value.natural n.toNat
  | fahrenheit, (b : Bool), v => v = .bool b
  | defaultGates, (gates : Alarm.Gates), v =>
    v = .array (gates.toList.map fun x => .number (.ofInt x.toInt))
  | port, (n : UInt16), v => v = value.natural n.toNat
  | imagePath, (path : String), v => ∃ ps, Denotes ps path.toList ∧ v = .string ps
  | lenient, (b : Bool), v => v = .bool b

lemma holds_value (c : Config) (f : Field) : f.Holds (f.get c) (f.value c) := by
  cases f with
  | imagePath => exact ⟨_,denotes_toNat _,rfl⟩
  | _ => rfl

lemma ofName?_name (f : Field) : ofName? f.name = some f := by cases f <;> decide

lemma between_ofInt {low high i : Int} (above : low ≤ i) (below : i ≤ high) :
    between low high (.number (.ofInt i)) = some i := by
  simp [between, Value.integer?, above, below]

lemma unsigned16?_natural (n : UInt16) : unsigned16? (value.natural n.toNat) = some n := by
  have below := n.toNat_lt
  rw [unsigned16?,value.natural,between_ofInt (by omega) (by omega)]
  simp

lemma unsigned32?_natural (n : UInt32) : unsigned32? (value.natural n.toNat) = some n := by
  have below := n.toNat_lt
  rw [unsigned32?,value.natural,between_ofInt (by omega) (by omega)]
  simp

lemma signed16?_ofInt (i : Int16) : signed16? (.number (.ofInt i.toInt)) = some i := by
  have above := i.le_toInt
  have below := i.toInt_lt
  rw [signed16?,between_ofInt (by omega) (by omega)]
  simp

lemma gates?_ofInt (gates : Alarm.Gates) :
    gates? (.array (gates.toList.map fun x => .number (.ofInt x.toInt))) = some gates := by
  simp [gates?, Alarm.Gates.toList, signed16?_ofInt]

/-- A value of the field is read as the field, whatever it was before. -/
theorem setJson?_of_holds (c : Config) {f : Field} {x : f.Kind} {v : Value} (holds : f.Holds x v) :
    setJson? c v f = some (f.set c x) := by
  cases f with
  | samplePeriod => cases holds; rw [setJson?,unsigned32?_natural]; rfl
  | logPeriod => cases holds; rw [setJson?,unsigned32?_natural]; rfl
  | networkPeriod => cases holds; rw [setJson?,unsigned32?_natural]; rfl
  | blinkRate => cases holds; rw [setJson?,unsigned16?_natural]; rfl
  | fahrenheit => cases holds; rfl
  | defaultGates => cases holds; rw [setJson?,gates?_ofInt]; rfl
  | port => cases holds; rw [setJson?,unsigned16?_natural]; rfl
  | imagePath =>
    obtain ⟨ps,denotes,rfl⟩ := holds
    rw [setJson?,Value.text?,denotes.chars?_eq,Option.map_some,String.ofList_toList]
    rfl
  | lenient => cases holds; rfl

end Field

/-! ## Members -/

/-- The members name fields in this order and with these values. All others have keys that are none of
a field. -/
inductive Names : List (Points × Value) → List Setting → Prop
  | nil : Names [] []
  | field (s : Setting) {ps v members settings} (key : Denotes ps s.field.name.toList)
      (holds : s.field.Holds s.value v) (rest : Names members settings) :
      Names ((ps, v) :: members) (s :: settings)
  | other {key : List Char} {ps v members settings} (spelled : Denotes ps key)
      (unknown : ∀ f : Field, f.name.toList ≠ key) (rest : Names members settings) :
      Names ((ps, v) :: members) settings

section
variable {key : List Char} {ps : Points} {v : Value} {rest : List (Points × Value)}

lemma ofName?_unknown (unknown : ∀ f : Field, f.name.toList ≠ key) :
    Field.ofName? (String.ofList key) = none := by
  refine List.find?_eq_none.mpr fun f _ same => unknown f ?_
  rw [eq_of_beq same,String.toList_ofList]

lemma ofMembers?_unknown (c : Config) (seen : List Field) (spelled : Denotes ps key)
    (unknown : ∀ f : Field, f.name.toList ≠ key) :
    ofMembers? c seen ((ps, v) :: rest) = ofMembers? c seen rest := by
  simp only [ofMembers?, spelled.chars?_eq, Option.bind_eq_bind, Option.bind_some,
    ofName?_unknown unknown]

lemma ofMembers?_field (c : Config) (seen : List Field) {f : Field}
    (spelled : Denotes ps f.name.toList) :
    ofMembers? c seen ((ps, v) :: rest) =
      if f ∈ seen then none
      else (Field.setJson? c v f).bind fun c => ofMembers? c (f :: seen) rest := by
  simp only [ofMembers?, spelled.chars?_eq, Option.bind_eq_bind, Option.bind_some,
    String.ofList_toList, Field.ofName?_name]

end

/-- Members that name fields that were not read before, each of them once, set these fields. -/
theorem ofMembers?_of_names {members : List (Points × Value)} {settings : List Setting}
    (names : Names members settings) (distinct : (settings.map Setting.field).Nodup) (c : Config)
    (seen : List Field) (new : ∀ s ∈ settings, s.field ∉ seen) :
    ofMembers? c seen members = some (Setting.applyAll c settings) := by
  induction names generalizing c seen with
  | nil => rfl
  | other spelled unknown _ ih =>
    rw [ofMembers?_unknown c seen spelled unknown]
    exact ih distinct c seen new
  | @field s _ _ _ settings key holds _ ih =>
    obtain ⟨first,later⟩ := List.nodup_cons.mp distinct
    obtain ⟨unread,others⟩ := List.forall_mem_cons.mp new
    -- The field counts as read from here on, but no later setting is for it.
    have rest : ∀ t ∈ settings, t.field ∉ s.field :: seen := by
      intro t within read
      cases List.mem_cons.mp read with
      | inl same => exact first (same ▸ List.mem_map_of_mem within)
      | inr before => exact others t within before
    rw [ofMembers?_field c seen key,if_neg unread,Field.setJson?_of_holds c holds,Option.bind_some]
    exact ih later _ _ rest

/-- A member fails, or what follows it is read with all that was seen before it. -/
lemma ofMembers?_cons (m : Points × Value) (rest : List (Points × Value)) (c : Config)
    (seen : List Field) : ofMembers? c seen (m :: rest) = none ∨
      ∃ d later, seen ⊆ later ∧ ofMembers? c seen (m :: rest) = ofMembers? d later rest := by
  rw [ofMembers?]
  cases chars? m.1 with
  | none => exact .inl rfl
  | some key =>
    rw [Option.bind_eq_bind,Option.bind_some]
    split
    next => exact .inr ⟨c,seen,fun _ => id,rfl⟩
    next f named =>
      by_cases read : f ∈ seen
      · exact .inl (if_pos read)
      · rw [if_neg read]
        cases Field.setJson? c m.2 f with
        | none => exact .inl rfl
        | some d => exact .inr ⟨d,f :: seen,fun _ => List.mem_cons_of_mem f,rfl⟩

section
variable {members : List (Points × Value)} {m n : Points × Value} {f : Field}

/-- A field that was read before must not be named, whatever its value is. -/
lemma ofMembers?_of_seen (within : m ∈ members) (named : Denotes m.1 f.name.toList) (c : Config)
    {seen : List Field} (before : f ∈ seen) : ofMembers? c seen members = none := by
  induction members generalizing c seen with
  | nil => contradiction
  | cons first members ih =>
    cases List.mem_cons.mp within with
    | inl same =>
      subst same
      rw [ofMembers?_field c seen named,if_pos before]
    | inr after =>
      obtain fails | ⟨d,later,kept,goes⟩ := ofMembers?_cons first members c seen
      · exact fails
      · exact goes.trans (ih after d (kept before))

/-- No field may be named twice, whatever its values are. -/
theorem ofMembers?_of_twice (both : [m, n].Sublist members) (first : Denotes m.1 f.name.toList)
    (second : Denotes n.1 f.name.toList) (c : Config) (seen : List Field) :
    ofMembers? c seen members = none := by
  induction members generalizing c seen with
  | nil => cases both
  | cons head members ih =>
    cases both with
    | cons _ behind =>
      obtain fails | ⟨d,later,-,goes⟩ := ofMembers?_cons head members c seen
      · exact fails
      · exact goes.trans (ih behind d later)
    | cons_cons _ behind =>
      have within : n ∈ members := List.singleton_sublist.mp behind
      rw [ofMembers?_field c seen first]
      split
      · rfl
      · cases Field.setJson? c m.2 f with
        | none => rfl
        | some d => exact ofMembers?_of_seen within second d List.mem_cons_self

end

end ClimateStation.Config
