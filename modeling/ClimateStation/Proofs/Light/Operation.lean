import ClimateStation.Proofs.Light.Bank

/-! What can be done with a bank, and what it does to each of the lights: they are switched, painted
or, by a tick, flipped. What every light has at the start and none of the three takes away, every
light has for good. -/
namespace ClimateStation.Light

/-- A property of a light that it keeps, whatever is done with it. -/
structure Lasts (P : Light → Prop) : Prop where
  switch : ∀ {l : Light}, P l → ∀ mode, P (l.switch mode)
  paint : ∀ {l : Light}, P l → ∀ c, P (l.paint c)
  flip : ∀ {l : Light}, P l → P l.flip

namespace Bank

inductive Operation
  | switch (light : Nat) (mode : Mode)
  | paint (light : Nat) (c : Colour)
  | setRate (rate : UInt16)
  | tick (time : Nat)
  deriving DecidableEq, Repr

namespace Operation

/-- An operation on a light that does not exist, or with a rate of zero, changes nothing. -/
def carryOut (op : Operation) (b : Bank) : Bank :=
  match op with
  | switch light mode => (b.switch? light mode).getD b
  | paint light c => (b.paint? light c).getD b
  | setRate rate => (b.setRate? rate).getD b
  | tick time => b.tick time

/-- The answer to an operation: whether it could be carried out or, for a tick, whether it changes
what is shown. -/
def answer (op : Operation) (b : Bank) : Bool :=
  match op with
  | switch light mode => (b.switch? light mode).isSome
  | paint light c => (b.paint? light c).isSome
  | setRate rate => (b.setRate? rate).isSome
  | tick time => b.changes time

/-- The light that an operation names, if it is about a single one. -/
def light? : Operation → Option Nat
  | switch light _ => some light
  | paint light _ => some light
  | setRate _ => none
  | tick _ => none

end Operation

/-- The bank after some operations, one after the other. -/
def after (b : Bank) (ops : List Operation) : Bank := ops.foldl (fun b op => op.carryOut b) b

lemma get_initial (rate : UInt16) (i : Fin 4) : (initial rate).lights.get i = .initial :=
  Vector.getElem_replicate ..

variable (b : Bank)

lemma get_map_flip (i : Fin 4) : (b.lights.map Light.flip).get i = (b.lights.get i).flip :=
  Vector.getElem_map ..

lemma get_tick (time : Nat) (i : Fin 4) : (b.tick time).lights.get i =
    if b.blinks = true ∧ b.oddAt time ≠ b.odd then (b.lights.get i).flip else b.lights.get i := by
  unfold tick
  split
  · exact b.get_map_flip i
  · rfl

lemma get_modify (light : Nat) (f : Light → Light) (i : Fin 4) :
    ((b.modify? light f).getD b).lights.get i =
      if light = i then f (b.lights.get i) else b.lights.get i := by
  by_cases known : light < 4
  · have changed : (b.lights.set light (f b.lights[light]) known).get i =
        if light = i then f b.lights[light] else b.lights.get i := Vector.getElem_set ..
    simp only [modify?, known, dite_true, Option.getD_some]
    rw [changed]
    by_cases same : light = i
    · subst same
      rfl
    · simp only [same, if_false]
  · have other : light ≠ i := by omega
    simp only [modify?, known, dite_false, Option.getD_none, other, if_false]

lemma get_setRate (rate : UInt16) (i : Fin 4) :
    ((b.setRate? rate).getD b).lights.get i = b.lights.get i := by
  by_cases zero : rate = 0 <;> simp [setRate?,zero]

end Bank

/-! ## What lasts -/

namespace Lasts
variable {P : Light → Prop} {b : Bank}

lemma modify (all : ∀ i : Fin 4, P (b.lights.get i)) (light : Nat) {f : Light → Light}
    (kept : ∀ {l : Light}, P l → P (f l)) (i : Fin 4) :
    P (((b.modify? light f).getD b).lights.get i) := by
  rw [b.get_modify]
  by_cases named : light = i
  · simpa only [named, if_true] using kept (all i)
  · simpa only [named, if_false] using all i

theorem carryOut (kept : Lasts P) (all : ∀ i : Fin 4, P (b.lights.get i)) (op : Bank.Operation)
    (i : Fin 4) : P ((op.carryOut b).lights.get i) := by
  cases op with
  | switch light mode => exact modify all light (fun own => kept.switch own mode) i
  | paint light c => exact modify all light (fun own => kept.paint own c) i
  | setRate rate =>
    rw [Bank.Operation.carryOut,b.get_setRate]
    exact all i
  | tick time =>
    rw [Bank.Operation.carryOut,b.get_tick]
    split
    · exact kept.flip (all i)
    · exact all i

theorem after (kept : Lasts P) (all : ∀ i : Fin 4, P (b.lights.get i)) (ops : List Bank.Operation)
    (i : Fin 4) : P ((b.after ops).lights.get i) := by
  induction ops generalizing b with
  | nil => exact all i
  | cons op ops ih => exact ih (kept.carryOut all op)

end Lasts
end ClimateStation.Light
