import ClimateStation.Proofs.Light.Operation

/-! Blinking. A light shows black or the colour that it remembers, so a light that is switched over
twice is back where it was. A bank switches its blinking lights over when it finds the other kind of
half period than at their last change; of any number of polls, only the last therefore counts. -/
namespace ClimateStation.Light

/-! ## What a light can show -/

/-- The light is dark or shows the colour that it remembers. -/
def ShowsOwn (l : Light) : Prop := l.shown = .black ∨ l.shown = l.remembered

section
variable {l : Light}

lemma showsOwn_initial : initial.ShowsOwn := .inl rfl

lemma showsOwn_paint (l : Light) (c : Colour) : (l.paint c).ShowsOwn := .inr rfl

lemma ShowsOwn.switch (own : l.ShowsOwn) (mode : Mode) : (l.switch mode).ShowsOwn := by
  cases mode with
  | off => exact .inl rfl
  | on => exact .inr rfl
  | blink => exact own

lemma flip_of_ne_blink (still : l.mode ≠ .blink) : l.flip = l := if_neg still

lemma mode_flip (l : Light) : l.flip.mode = l.mode := by
  unfold flip
  split <;> rfl

lemma remembered_flip (l : Light) : l.flip.remembered = l.remembered := by
  unfold flip
  split <;> rfl

lemma ShowsOwn.flip (own : l.ShowsOwn) : l.flip.ShowsOwn := by
  unfold Light.flip
  split
  · by_cases lit : l.shown = l.remembered
    · exact .inl (if_pos lit)
    · exact .inr (if_neg lit)
  · exact own

/-- Also if the colour that the light remembers is black, switching it over twice does nothing. -/
lemma ShowsOwn.flip_flip (own : l.ShowsOwn) : l.flip.flip = l := by
  by_cases blinks : l.mode = .blink
  · obtain ⟨mode,shown,remembered⟩ := l
    obtain rfl : mode = .blink := blinks
    by_cases lit : shown = remembered
    · subst lit
      by_cases dark : Colour.black = shown
      · simp [Light.flip,dark]
      · simp [Light.flip,dark]
    · obtain rfl : shown = .black := own.resolve_right lit
      simp [Light.flip,lit]
  · rw [flip_of_ne_blink blinks,flip_of_ne_blink blinks]

/-- A blinking light changes when it is switched over, unless it remembers black. -/
lemma shown_flip_ne (blinks : l.mode = .blink) (coloured : l.remembered ≠ .black) :
    l.flip.shown ≠ l.shown := by
  unfold flip
  rw [if_pos blinks]
  by_cases lit : l.shown = l.remembered
  · rw [if_pos lit,lit]
    exact coloured.symm
  · rw [if_neg lit]
    exact Ne.symm lit

end

lemma lasts_showsOwn : Lasts ShowsOwn where
  switch := ShowsOwn.switch
  paint _ c := showsOwn_paint _ c
  flip := ShowsOwn.flip

/-! ## Ticks -/

namespace Bank

/-- The bank after ticks at some times. -/
def tickAll (b : Bank) (times : List Nat) : Bank := times.foldl tick b

/-- Every light is dark or shows the colour that it remembers. -/
def ShowsOwn (b : Bank) : Prop := ∀ i : Fin 4, (b.lights.get i).ShowsOwn

variable {b : Bank}

lemma showsOwn_initial (rate : UInt16) : (initial rate).ShowsOwn := by
  intro i
  rw [get_initial]
  exact Light.showsOwn_initial

lemma ShowsOwn.tick (own : b.ShowsOwn) (time : Nat) : (b.tick time).ShowsOwn :=
  lasts_showsOwn.carryOut own (.tick time)

theorem ShowsOwn.after (own : b.ShowsOwn) (ops : List Operation) : (b.after ops).ShowsOwn :=
  lasts_showsOwn.after own ops

variable (b) (time : Nat)

lemma rate_tick : (b.tick time).rate = b.rate := by
  unfold tick
  split <;> rfl

lemma oddAt_tick (later : Nat) : (b.tick time).oddAt later = b.oddAt later := by
  rw [oddAt,oddAt,rate_tick]

lemma blinks_of_mode {b : Bank} {i : Fin 4} (blinks : (b.lights.get i).mode = .blink) :
    b.blinks = true := by
  unfold Bank.blinks
  rw [Vector.any_eq_true]
  exact ⟨i,i.isLt,beq_iff_eq.mpr blinks⟩

/-- A bank whose lights are all switched over blinks as before. -/
lemma blinks_flip (odd : Bool) : ({ b with lights := b.lights.map Light.flip, odd } : Bank).blinks =
    b.blinks := by
  simp only [blinks, Vector.any_map, Function.comp_def, mode_flip]

variable {b}

/-- A tick leaves nothing of an earlier one. The lights are switched over at both, at one of them
or at neither, as the kinds of the half periods say. -/
theorem ShowsOwn.tick_tick (own : b.ShowsOwn) (time later : Nat) :
    (b.tick time).tick later = b.tick later := by
  by_cases due : b.blinks = true ∧ b.oddAt time ≠ b.odd
  · obtain ⟨blinks,changed⟩ := due
    have first : b.tick time =
        { b with lights := b.lights.map Light.flip, odd := b.oddAt time } := if_pos ⟨blinks,changed⟩
    have still : (b.tick time).blinks = true := by rw [first,blinks_flip,blinks]
    by_cases back : b.oddAt later = b.odd
    · -- back in the kind of half period of the last change: switched over twice
      have due : (b.tick time).blinks = true ∧
          (b.tick time).oddAt later ≠ (b.tick time).odd := by
        refine ⟨still,?_⟩
        rw [oddAt_tick,back,first]
        exact changed.symm
      have twice : (b.lights.map Light.flip).map Light.flip = b.lights := by
        rw [Vector.map_map]
        refine Vector.ext fun i within => ?_
        rw [Vector.getElem_map]
        exact (own ⟨i,within⟩).flip_flip
      have none : b.tick later = b := if_neg fun due => due.2 back
      rw [Bank.tick,if_pos due,oddAt_tick,none,back,first]
      dsimp only
      rw [twice]
    · have same : b.oddAt later = b.oddAt time := by
        revert changed back
        cases b.oddAt later <;> cases b.oddAt time <;> cases b.odd <;> decide
      have none : (b.tick time).tick later = b.tick time := by
        refine if_neg fun due => due.2 ?_
        rw [oddAt_tick,same,first]
      have second : b.tick later =
          { b with lights := b.lights.map Light.flip, odd := b.oddAt later } :=
        if_pos ⟨blinks,back⟩
      rw [none,first,second,same]
  · have none : b.tick time = b := if_neg due
    rw [none]

theorem ShowsOwn.tickAll_tick (own : b.ShowsOwn) (times : List Nat) (time : Nat) :
    (b.tickAll times).tick time = b.tick time := by
  induction times generalizing b with
  | nil => rfl
  | cons first times ih =>
    calc (b.tickAll (first :: times)).tick time = ((b.tick first).tickAll times).tick time := rfl
      _ = (b.tick first).tick time := ih (own.tick first)
      _ = b.tick time := own.tick_tick first time

end Bank

/-- Whatever was done with a bank, ticks at any times and in any order leave no trace after one more
tick. A tick tells whether the colours that are shown change. It leaves lights that do not blink
alone, and modes, remembered colours and the rate; a blinking light then shows black or the colour
that it remembers, and, if that is not black, the other one exactly if the kind of half period is
not that of the last change. -/
theorem blinking_ignores_polls (rate : UInt16) (ops : List Bank.Operation) (times : List Nat)
    (time : Nat) :
    let b := (Bank.initial rate).after ops
    let t := b.tick time
    (b.tickAll times).tick time = t ∧
    (b.changes time = true ↔ t.frame ≠ b.frame) ∧
    t.rate = b.rate ∧
    ∀ i : Fin 4,
      let old := b.lights.get i
      let new := t.lights.get i
      new.mode = old.mode ∧ new.remembered = old.remembered ∧
      (old.mode ≠ .blink → new = old) ∧
      (old.mode = .blink → new.ShowsOwn ∧ (old.remembered ≠ .black →
        (new.shown ≠ old.shown ↔ b.oddAt time ≠ b.odd))) := by
  intro b t
  have own : b.ShowsOwn := (Bank.showsOwn_initial rate).after ops
  refine ⟨own.tickAll_tick times time,?_,b.rate_tick time,fun i => ⟨?_,?_,fun still => ?_,
    fun blinks => ⟨own.tick time i,fun coloured => ?_⟩⟩⟩
  · rw [← Bool.not_eq_false]
    exact not_congr (b.changes_eq_false_iff time)
  · rw [b.get_tick time i]
    split
    · exact mode_flip _
    · rfl
  · rw [b.get_tick time i]
    split
    · exact remembered_flip _
    · rfl
  · rw [b.get_tick time i,flip_of_ne_blink still,ite_self]
  · rw [b.get_tick time i]
    by_cases other : b.oddAt time ≠ b.odd
    · rw [if_pos ⟨Bank.blinks_of_mode blinks,other⟩]
      exact iff_of_true (shown_flip_ne blinks coloured) other
    · rw [if_neg fun due => other due.2]
      exact iff_of_false (fun changed => changed rfl) other

end ClimateStation.Light
