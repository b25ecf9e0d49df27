import ClimateStation.Config.Field
import Mathlib.Tactic.Lemma

/-! A setting is a field together with what it is to hold. A configuration is what its fields hold, so
settings of different fields can be made in any order, and settings of all fields leave nothing of what
was there before. -/
namespace ClimateStation.Config

/-! ## Fields -/

namespace Field

/-- What a field holds. -/
abbrev Kind : Field → Type
  | samplePeriod | logPeriod | networkPeriod => UInt32
  | blinkRate | port => UInt16
  | fahrenheit | lenient => Bool
  | defaultGates => Alarm.Gates
  | imagePath => String

def get (c : Config) : (f : Field) → f.Kind
  | samplePeriod => c.samplePeriod
  | logPeriod => c.logPeriod
  | networkPeriod => c.networkPeriod
  | blinkRate => c.blinkRate
  | fahrenheit => c.fahrenheit
  | defaultGates => c.defaultGates
  | port => c.port
  | imagePath => c.imagePath
  | lenient => c.lenient

def set (c : Config) : (f : Field) → f.Kind → Config
  | samplePeriod, x => { c with samplePeriod := x }
  | logPeriod, x => { c with logPeriod := x }
  | networkPeriod, x => { c with networkPeriod := x }
  | blinkRate, x => { c with blinkRate := x }
  | fahrenheit, x => { c with fahrenheit := x }
  | defaultGates, x => { c with defaultGates := x }
  | port, x => { c with port := x }
  | imagePath, x => { c with imagePath := x }
  | lenient, x => { c with lenient := x }

lemma get_set_self (c : Config) (f : Field) (x : f.Kind) : f.get (f.set c x) = x := by
  cases f <;> rfl

lemma get_set_ne (c : Config) {f g : Field} (x : f.Kind) (other : g ≠ f) :
    g.get (f.set c x) = g.get c := by
  cases f <;> cases g <;> first | rfl | exact absurd rfl other

/-- A configuration is what its fields hold. -/
theorem eq_of_get {c d : Config} (same : ∀ f : Field, f.get c = f.get d) : c = d := by
  cases c
  cases d
  congr
  · exact same .samplePeriod
  · exact same .logPeriod
  · exact same .networkPeriod
  · exact same .blinkRate
  · exact same .fahrenheit
  · exact same .defaultGates
  · exact same .port
  · exact same .imagePath
  · exact same .lenient

end Field

/-! ## Settings -/

/-- A field and what it is to hold. -/
structure Setting where
  field : Field
  value : field.Kind

namespace Setting

def apply (c : Config) (s : Setting) : Config := s.field.set c s.value

/-- A field as a configuration has it. -/
def of (c : Config) (f : Field) : Setting := ⟨f,f.get c⟩

/-- The configuration with all of the settings. -/
def applyAll (c : Config) (settings : List Setting) : Config := settings.foldl apply c

lemma get_applyAll_of_notMem {settings : List Setting} {f : Field}
    (unset : f ∉ settings.map field) (c : Config) : f.get (applyAll c settings) = f.get c := by
  induction settings generalizing c with
  | nil => rfl
  | cons s settings ih =>
    obtain ⟨other,later⟩ := not_or.mp (mt List.mem_cons.mpr unset)
    have kept : f.get (apply c s) = f.get c := Field.get_set_ne c s.value other
    exact (ih later (apply c s)).trans kept

lemma get_applyAll_of_mem {settings : List Setting} (distinct : (settings.map field).Nodup)
    {s : Setting} (within : s ∈ settings) (c : Config) :
    s.field.get (applyAll c settings) = s.value := by
  induction settings generalizing c with
  | nil => contradiction
  | cons t settings ih =>
    obtain ⟨first,later⟩ := List.nodup_cons.mp distinct
    cases List.mem_cons.mp within with
    | inl same =>
      subst same
      exact (get_applyAll_of_notMem first (apply c s)).trans (Field.get_set_self c s.field s.value)
    | inr after => exact ih later after (apply c t)

lemma nodup_map_of (c : Config) : ((Field.all.map (of c)).map field).Nodup := by
  have fields : (Field.all.map (of c)).map field = Field.all := rfl
  rw [fields]
  decide

/-- With every field as a configuration has it, nothing is left of what was before. -/
theorem applyAll_of_all (source c : Config) : applyAll c (Field.all.map (of source)) = source := by
  refine Field.eq_of_get fun f => ?_
  exact get_applyAll_of_mem (nodup_map_of source) (List.mem_map_of_mem (Field.mem_all f)) c

end Setting

end ClimateStation.Config
