import ClimateStation.Light.Bank
import Mathlib.Tactic.Lemma

/-! The lights of the station one by one: what an operation of the bank does to the light of each
role. The lights are kept by place, and no two roles share a place. -/
namespace ClimateStation.Light

lemma Role.index_lt (role : Role) : role.index < 4 := by cases role <;> decide

lemma Role.index_injective : Function.Injective Role.index := by
  intro a b
  cases a <;> cases b <;> decide

namespace Bank
variable (b : Bank) (role other : Role)

/-- The light that stands for a role. -/
def light : Light :=
  have := role.index_lt
  b.lights[role.index]

/-- The bank with another light for a role. -/
def put (l : Light) : Bank := { b with lights := b.lights.set role.index l role.index_lt }

theorem light_put (l : Light) :
    (b.put role l).light other = if other = role then l else b.light other := by
  simp only [light, put, Vector.getElem_set]
  by_cases h : other = role
  · rw [if_pos h,if_pos (h ▸ rfl)]
  · rw [if_neg h,if_neg fun same => h (Role.index_injective same.symm)]

@[simp] theorem light_put_self (l : Light) : (b.put role l).light role = l := by
  rw [light_put,if_pos rfl]

lemma modify?_role (f : Light → Light) :
    b.modify? role.index f = some (b.put role (f (b.light role))) := by
  unfold modify?
  rw [dif_pos role.index_lt]
  rfl

theorem switch_eq (mode : Mode) : b.switch role mode = b.put role ((b.light role).switch mode) := by
  rw [switch,switch?,modify?_role,Option.getD_some]

theorem paint_eq (c : Colour) : b.paint role c = b.put role ((b.light role).paint c) := by
  rw [paint,paint?,modify?_role,Option.getD_some]

theorem light_switch (mode : Mode) : (b.switch role mode).light other =
    if other = role then (b.light role).switch mode else b.light other := by
  rw [switch_eq,light_put]

theorem light_paint (c : Colour) : (b.paint role c).light other =
    if other = role then (b.light role).paint c else b.light other := by
  rw [paint_eq,light_put]

/-- A tick switches all lights over or none, and only blinking ones change. -/
theorem light_tick (time : Nat) : (b.tick time).light role =
    if b.blinks = true ∧ b.oddAt time ≠ b.odd then (b.light role).flip else b.light role := by
  unfold tick
  split
  · simp only [light, Vector.getElem_map]
  · rfl

lemma get_frame : b.frame.get ⟨role.index,role.index_lt⟩ = (b.light role).shown :=
  Vector.getElem_map ..

/-- A tick is told to change what is shown exactly if it does. -/
theorem changes_eq_false_iff (time : Nat) :
    b.changes time = false ↔ (b.tick time).frame = b.frame := by
  unfold changes tick
  by_cases due : b.blinks = true ∧ b.oddAt time ≠ b.odd
  · obtain ⟨blinks,other⟩ := due
    rw [if_pos ⟨blinks,other⟩,blinks,bne_iff_ne.mpr other,Bool.true_and,Bool.true_and]
    have same : (b.lights.any fun l => l.flip.shown != l.shown) = false ↔
        ∀ i, (h : i < 4) → b.lights[i].flip.shown = b.lights[i].shown := by
      simp [Vector.any_eq_false]
    rw [same]
    simp only [frame, Vector.map_map, Vector.ext_iff, Vector.getElem_map, Function.comp]
  · rw [if_neg due]
    refine iff_of_true ?_ rfl
    rw [Bool.and_eq_false_imp]
    intro both
    exact absurd (by simpa using both) due

end Bank
end ClimateStation.Light
