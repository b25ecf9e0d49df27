import ClimateStation.Proofs.Config.File

/-! Configuration files that name some of the fields, in any order, with blanks and unknown members
anywhere. What such a file holds is the default configuration but for the fields that it names, and
the first check that this fails is why it is not loaded. -/
namespace ClimateStation.Config
open Json

/-! ## Outcomes -/

/-- The configuration has the settings, and is the default one otherwise. -/
structure Overridden (settings : List Setting) (c : Config) : Prop where
  named : ∀ s ∈ settings, s.field.get c = s.value
  unnamed : ∀ f ∉ settings.map Setting.field, f.get c = f.get default

/-- The configuration fails this check and none before it. -/
def FailsFirst (c : Config) (v : Violation) : Prop :=
  ∃ before after, Violation.all = before ++ v :: after ∧ c.Violates v ∧ ∀ w ∈ before, ¬c.Violates w

lemma Overridden.unique {settings : List Setting} {c d : Config} (first : Overridden settings c)
    (second : Overridden settings d) : c = d := by
  refine Field.eq_of_get fun f => ?_
  by_cases named : f ∈ settings.map Setting.field
  · obtain ⟨s,within,rfl⟩ := List.mem_map.mp named
    exact (first.named s within).trans (second.named s within).symm
  · exact (first.unnamed f named).trans (second.unnamed f named).symm

lemma overridden_applyAll {settings : List Setting}
    (distinct : (settings.map Setting.field).Nodup) :
    Overridden settings (Setting.applyAll default settings) where
  named _ within := Setting.get_applyAll_of_mem distinct within default
  unnamed _ unset := Setting.get_applyAll_of_notMem unset default

/-- A configuration passes every check, or there is a first one that it fails. -/
lemma validate_cases (c : Config) : ((∀ v, ¬c.Violates v) ∧ c.validate = .ok ()) ∨
    ∃ v, c.FailsFirst v ∧ c.validate = .error (.invalid v) := by
  unfold validate
  cases found : c.violation? with
  | none => exact .inl ⟨(violation?_eq_none_iff c).mp found,rfl⟩
  | some v =>
    obtain ⟨fails,before,after,split,passed⟩ := List.find?_eq_some_iff_append.mp found
    have none : ∀ w ∈ before, ¬c.Violates w := fun w within => by simpa using passed w within
    exact .inr ⟨v,⟨before,after,split,of_decide_eq_true fails,none⟩,rfl⟩

/-! ## Files -/

section
variable {text : String} {members : List (Points × Value)}

lemma ofText?_object (spelled : Spelled text.toList (.object members)) :
    ofText? text = ofMembers? default [] members := by
  rw [ofText?,spelled.ofText?_eq,Option.bind_some,ofJson?]

lemma ofText?_of_names (spelled : Spelled text.toList (.object members)) {settings : List Setting}
    (names : Names members settings) (distinct : (settings.map Setting.field).Nodup) :
    ofText? text = some (Setting.applyAll default settings) :=
  (ofText?_object spelled).trans
    (ofMembers?_of_names names distinct default [] fun _ _ => List.not_mem_nil)

end

namespace Slot

/-- Members that name each field at most once stand for one configuration: the default one with
exactly the named fields replaced. It is loaded, or the first check that it fails is the answer. If two
members name one field, the file is spoiled, whatever their values are. -/
theorem partial_file_overrides (text : String) (members : List (Points × Value))
    (spelled : Spelled text.toList (.object members)) :
    (∀ settings, Names members settings → (settings.map Setting.field).Nodup →
      ∃ c, (∀ d, Overridden settings d ↔ d = c) ∧
        ((∀ v, ¬c.Violates v) ∧ (file text.toUTF8.toList).load = .ok c ∨
          ∃ v, c.FailsFirst v ∧ (file text.toUTF8.toList).load = .error (.invalid v))) ∧
    ∀ (f : Field) (m n : Points × Value), [m, n].Sublist members → Denotes m.1 f.name.toList →
      Denotes n.1 f.name.toList → (file text.toUTF8.toList).load = .error .corrupted := by
  refine ⟨fun settings names distinct => ?_,fun f m n both first second => ?_⟩
  · have overridden := overridden_applyAll distinct
    have only (d : Config) : Overridden settings d ↔ d = Setting.applyAll default settings :=
      ⟨fun other => other.unique overridden,fun same => same ▸ overridden⟩
    have read := ofText?_of_names spelled names distinct
    refine ⟨_,only,?_⟩
    obtain ⟨passes,valid⟩ | ⟨v,fails,invalid⟩ := validate_cases (Setting.applyAll default settings)
    · exact .inl ⟨passes,load_of_valid read valid⟩
    · exact .inr ⟨v,fails,load_of_invalid read invalid⟩
  · have twice := ofMembers?_of_twice both first second default []
    exact load_of_unread ((ofText?_object spelled).trans twice)

/-- A port behind a key with an escape, and a remark that no field has. -/
def remarked : String := "\x7b \"udp\\u005fport\" :\t9999,\"note\":null \x7d"

lemma spelled_remarked : Spelled remarked.toList
    (.object [("udp_port".toList.map Char.toNat, .number (.ofInt 9999)),
      ("note".toList.map Char.toNat, .null)]) := by
  have port : Spells "udp\\u005fport".toList ("udp_port".toList.map Char.toNat) :=
    Token.spells_escaped 'u' (Token.spells_escaped 'd' (Token.spells_escaped 'p'
      (.number rfl (Token.spells_flatMap_escaped "port".toList))))
  have note : Spells "note".toList ("note".toList.map Char.toNat) :=
    Token.spells_flatMap_escaped "note".toList
  have number : Spelled "\t9999".toList (.number (.ofInt 9999)) :=
    @Spelled.padded ['\t'] "9999".toList [] _ (.number (Token.numeral_integer 9999)) (by decide)
      (by decide)
  have nothing : Spelled "null ".toList .null :=
    @Spelled.padded [] "null".toList [' '] _ .null (by decide) (by decide)
  exact @Spelled.object []
    [(⟨[' '],"udp\\u005fport".toList,[' '],"\t9999".toList⟩,_,_),
     (⟨[],"note".toList,[],"null ".toList⟩,_,_)]
    (List.forall_mem_cons.mpr ⟨port,List.forall_mem_singleton.mpr note⟩) (by decide)
    (List.forall_mem_cons.mpr ⟨number,List.forall_mem_singleton.mpr nothing⟩) (by decide)

/-- One field twice, the second time with no value of the field. -/
def repeated : String := "\x7b\"fahrenheit\":false,\"fahrenheit\":null\x7d"

lemma spelled_repeated : Spelled repeated.toList
    (.object [("fahrenheit".toList.map Char.toNat, .bool false),
      ("fahrenheit".toList.map Char.toNat, .null)]) := by
  have key : Spells "fahrenheit".toList ("fahrenheit".toList.map Char.toNat) :=
    Token.spells_flatMap_escaped "fahrenheit".toList
  exact @Spelled.object []
    [(⟨[],"fahrenheit".toList,[],"false".toList⟩,_,_),(⟨[],"fahrenheit".toList,[],"null".toList⟩,_,_)]
    (List.forall_mem_cons.mpr ⟨key,List.forall_mem_singleton.mpr key⟩) (by decide)
    (List.forall_mem_cons.mpr ⟨.bool false,List.forall_mem_singleton.mpr .null⟩) (by decide)

theorem partial_file_overrides_remarked :
    (file remarked.toUTF8.toList).load = .ok { default with port := 9999 } ∧
    (file repeated.toUTF8.toList).load = .error .corrupted := by
  have unknown : ∀ f : Field, f.name.toList ≠ "note".toList := by
    intro f
    cases f <;> decide
  have names := Names.field ⟨.port,(9999 : UInt16)⟩ (denotes_toNat _) rfl
    (@Names.other _ _ .null _ _ (denotes_toNat "note".toList) unknown .nil)
  have single : ([⟨.port,(9999 : UInt16)⟩].map Setting.field).Nodup := by decide
  have overridden : Overridden [⟨.port,(9999 : UInt16)⟩] { default with port := 9999 } := by
    refine ⟨List.forall_mem_singleton.mpr rfl,fun f unset => ?_⟩
    cases f with
    | port => exact absurd (List.mem_singleton_self _) unset
    | _ => rfl
  have loads := (partial_file_overrides remarked _ spelled_remarked).1 _ names single
  have spoiled := (partial_file_overrides repeated _ spelled_repeated).2 .fahrenheit _ _
    (List.Sublist.refl _) (denotes_toNat _) (denotes_toNat _)
  obtain ⟨c,only,outcome⟩ := loads
  obtain rfl := (only _).mp overridden
  obtain ⟨-,loaded⟩ | ⟨v,⟨_,_,-,fails,-⟩,-⟩ := outcome
  · exact ⟨loaded,spoiled⟩
  · cases v <;> exact absurd fails (by decide)

end Slot
end ClimateStation.Config
