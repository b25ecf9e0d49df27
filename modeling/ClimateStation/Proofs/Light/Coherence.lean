import ClimateStation.Proofs.Light.Blinking

/-! What the lights show fits their modes, whatever was done with them, and the rate of a bank is
never zero. An operation on a light or with a rate that cannot be is refused and changes nothing, and
one on a single light is not seen on the others. -/
namespace ClimateStation.Light

/-- What a light shows fits its mode. A light that was painted in a colour that is all but black is
off and goes on showing it. -/
structure Coherent (l : Light) : Prop where
  own : l.ShowsOwn
  on : l.mode = .on → l.shown = l.remembered
  off : l.mode = .off → l.shown.brightness ≤ 1

section
variable {l : Light}

lemma coherent_initial : initial.Coherent where
  own := showsOwn_initial
  on := by intro on; contradiction
  off := by intro _; decide

lemma Coherent.switch (fits : l.Coherent) (mode : Mode) : (l.switch mode).Coherent where
  own := fits.own.switch mode
  on := by
    intro on
    cases mode with
    | on => rfl
    | off => contradiction
    | blink => contradiction
  off := by
    intro off
    cases mode with
    | on => contradiction
    | off => exact Nat.zero_le 1
    | blink => contradiction

lemma coherent_paint (l : Light) (c : Colour) : (l.paint c).Coherent where
  own := showsOwn_paint l c
  on := by intro _; rfl
  off := by
    intro off
    have mode : (if l.mode = .blink then Mode.blink else if 1 < c.brightness then .on else .off) =
        .off := off
    by_cases blinks : l.mode = .blink
    · simp [blinks] at mode
    · by_cases bright : 1 < c.brightness
      · simp [blinks,bright] at mode
      · exact Nat.le_of_not_lt bright

lemma Coherent.flip (fits : l.Coherent) : l.flip.Coherent := by
  by_cases blinks : l.mode = .blink
  · have still : l.flip.mode = .blink := (mode_flip l).trans blinks
    refine ⟨fits.own.flip,?_,?_⟩
    · intro on
      simp [still] at on
    · intro off
      simp [still] at off
  · rwa [flip_of_ne_blink blinks]

lemma lasts_coherent : Lasts Coherent where
  switch := Coherent.switch
  paint _ c := coherent_paint _ c
  flip := Coherent.flip

end

namespace Bank
variable {b : Bank}

/-- All lights are coherent, and there is a rate to divide by. -/
structure Sound (b : Bank) : Prop where
  rate : b.rate ≠ 0
  lights : ∀ i : Fin 4, (b.lights.get i).Coherent

lemma sound_initial (rate : UInt16) : (initial rate).Sound where
  rate := by
    by_cases zero : rate = 0
    · simp [initial,zero]
    · simp [initial,zero]
  lights := by
    intro i
    rw [get_initial]
    exact coherent_initial

lemma rate_modify (b : Bank) (light : Nat) (f : Light → Light) :
    ((b.modify? light f).getD b).rate = b.rate := by
  by_cases known : light < 4 <;> simp [modify?,known]

lemma Sound.carryOut (sound : b.Sound) (op : Operation) : (op.carryOut b).Sound where
  rate := by
    cases op with
    | switch light mode =>
      rw [Operation.carryOut,switch?,rate_modify]
      exact sound.rate
    | paint light c =>
      rw [Operation.carryOut,paint?,rate_modify]
      exact sound.rate
    | setRate rate =>
      by_cases zero : rate = 0
      · simpa [Operation.carryOut,setRate?,zero] using sound.rate
      · simp [Operation.carryOut,setRate?,zero]
    | tick time =>
      rw [Operation.carryOut,rate_tick]
      exact sound.rate
  lights := lasts_coherent.carryOut sound.lights op

theorem Sound.after (sound : b.Sound) (ops : List Operation) : (b.after ops).Sound := by
  induction ops generalizing b with
  | nil => exact sound
  | cons op ops ih => exact ih (sound.carryOut op)

namespace Operation

/-- The operation asks for a light that does not exist, or for a rate of zero. -/
def Impossible : Operation → Prop
  | switch light _ => 4 ≤ light
  | paint light _ => 4 ≤ light
  | setRate rate => rate = 0
  | tick _ => False

variable (op : Operation) (b : Bank)

lemma carryOut_of_impossible (impossible : op.Impossible) : op.carryOut b = b := by
  cases op with
  | switch light mode =>
    have none : b.switch? light mode = none := (b.modify?_eq_none_iff light _).mpr impossible
    rw [carryOut,none,Option.getD_none]
  | paint light c =>
    have none : b.paint? light c = none := (b.modify?_eq_none_iff light _).mpr impossible
    rw [carryOut,none,Option.getD_none]
  | setRate rate =>
    have none : b.setRate? rate = none := if_pos impossible
    rw [carryOut,none,Option.getD_none]
  | tick time => contradiction

section
variable (untimed : ∀ time, op ≠ tick time)
include untimed

lemma answer_eq_false_iff : op.answer b = false ↔ op.Impossible := by
  cases op with
  | switch light mode =>
    rw [answer,Option.isSome_eq_false_iff,Option.isNone_iff_eq_none]
    exact b.modify?_eq_none_iff light _
  | paint light c =>
    rw [answer,Option.isSome_eq_false_iff,Option.isNone_iff_eq_none]
    exact b.modify?_eq_none_iff light _
  | setRate rate => simp [answer,setRate?,Impossible]
  | tick time => exact absurd rfl (untimed time)

lemma get_carryOut_of_ne {i : Fin 4} (other : op.light? ≠ some i.val) :
    (op.carryOut b).lights.get i = b.lights.get i := by
  cases op with
  | switch light mode =>
    rw [carryOut,switch?,get_modify,if_neg]
    intro same
    exact other (congrArg some same)
  | paint light c =>
    rw [carryOut,paint?,get_modify,if_neg]
    intro same
    exact other (congrArg some same)
  | setRate rate => exact b.get_setRate rate i
  | tick time => exact absurd rfl (untimed time)

end

end Operation
end Bank

/-- Whatever was done with a bank, its rate is not zero; a light that is on shows the colour that it
remembers, one that is off shows at most a trace of one channel, and every light, blinking ones
included, is dark or shows the colour that it remembers. From there, an operation other than a tick
is answered with no exactly if it asks for the impossible, and then changes nothing, and it changes
no light but the one that it names. -/
theorem lights_fit_modes (rate : UInt16) (ops : List Bank.Operation) :
    let b := (Bank.initial rate).after ops
    1 ≤ b.rate.toNat ∧
    (∀ i : Fin 4, (b.lights.get i).Coherent) ∧
    ∀ op : Bank.Operation, (∀ time, op ≠ .tick time) →
      (op.answer b = false ↔ op.Impossible) ∧
      (op.Impossible → op.carryOut b = b) ∧
      ∀ i : Fin 4, op.light? ≠ some i.val → (op.carryOut b).lights.get i = b.lights.get i := by
  intro b
  have sound : b.Sound := (Bank.sound_initial rate).after ops
  refine ⟨?_,sound.lights,?_⟩
  · apply Nat.pos_of_ne_zero
    intro zero
    exact sound.rate (UInt16.toNat_inj.mp zero)
  · intro op untimed
    refine ⟨op.answer_eq_false_iff b untimed,op.carryOut_of_impossible b,?_⟩
    intro i other
    exact op.get_carryOut_of_ne b untimed other

/-- A light that is painted in a trace of blue is off and shows it. There is no fifth light, and what
is done with the first is not seen on the second. -/
theorem lights_fit_modes_trace :
    let ops := [Bank.Operation.paint 0 ⟨0,0,1⟩]
    let b := (Bank.initial 0).after ops
    ((b.lights.get 0).mode = .off ∧ (b.lights.get 0).shown.brightness = 1) ∧
    (Bank.Operation.switch 4 .on).carryOut b = b ∧
    ((Bank.Operation.switch 0 .on).carryOut b).lights.get 1 = b.lights.get 1 := by
  intro ops b
  have laws := (lights_fit_modes 0 ops).2.2
  obtain ⟨-,refused,-⟩ := laws (.switch 4 .on) (by intro _; nofun)
  obtain ⟨-,-,others⟩ := laws (.switch 0 .on) (by intro _; nofun)
  exact ⟨by decide,refused (Nat.le_refl 4),others 1 (by decide)⟩

end ClimateStation.Light
