import ClimateStation.Light.Basic

/-! The four lights of the strip. Each light shows one colour and remembers the colour it returns to
when it is switched on. Blinking follows the clock: time is cut into half periods, and the lights
that blink are switched over whenever a tick finds the other kind of half period. -/
namespace ClimateStation

structure Light where
  mode : Light.Mode
  shown : Colour
  remembered : Colour
  deriving DecidableEq, Repr, Inhabited

namespace Light

/-- A light that was never set is off and remembers blue. -/
def initial : Light := ⟨.off, .black, .pureBlue⟩

/-- Switches a light. One that is to blink goes on showing what it shows until the next tick. -/
def switch (l : Light) (mode : Mode) : Light :=
  match mode with
  | .on => { l with mode, shown := l.remembered }
  | .off => { l with mode, shown := .black }
  | .blink => { l with mode }

/-- Shows a colour and remembers it. A light that does not blink is on from then on, or off if the
colour is all but black. -/
def paint (l : Light) (c : Colour) : Light :=
  { mode := if l.mode = .blink then .blink else if 1 < c.brightness then .on else .off
    shown := c
    remembered := c }

/-- Switches a blinking light between its colour and black; no other light changes. -/
def flip (l : Light) : Light :=
  if l.mode = .blink then
    { l with shown := if l.shown = l.remembered then .black else l.remembered }
  else l

end Light

/-- The colours of a strip of four lights. -/
abbrev Frame := Vector Colour 4

namespace Light

structure Bank where
  lights : Vector Light 4
  /-- The half period of blinking, in milliseconds. -/
  rate : UInt16
  /-- Whether the last change of the blinking lights was in an odd half period. -/
  odd : Bool
  deriving DecidableEq, Repr

namespace Bank

/-- Four lights that were never set; a rate of zero counts as one. -/
def initial (rate : UInt16) : Bank :=
  ⟨Vector.replicate 4 .initial, if rate = 0 then 1 else rate, false⟩

/-- Changes the light of the given number, if there is one. -/
def modify? (b : Bank) (light : Nat) (f : Light → Light) : Option Bank :=
  if h : light < 4 then some { b with lights := b.lights.set light (f b.lights[light]) } else none

def switch? (b : Bank) (light : Nat) (mode : Mode) : Option Bank :=
  b.modify? light fun l => l.switch mode

def paint? (b : Bank) (light : Nat) (c : Colour) : Option Bank :=
  b.modify? light fun l => l.paint c

/-- Nothing can blink at a rate of zero. -/
def setRate? (b : Bank) (rate : UInt16) : Option Bank :=
  if rate = 0 then none else some { b with rate }

def oddAt (b : Bank) (time : Nat) : Bool := time / b.rate.toNat % 2 == 1

def blinks (b : Bank) : Bool := b.lights.any fun l => l.mode == .blink

/-- The colours to be shown. -/
def frame (b : Bank) : Frame := b.lights.map (·.shown)

/-- Brings the blinking lights up to the given time, in milliseconds. -/
def tick (b : Bank) (time : Nat) : Bank :=
  if b.blinks = true ∧ b.oddAt time ≠ b.odd then
    { b with lights := b.lights.map Light.flip, odd := b.oddAt time }
  else b

/-- Whether a tick at the given time changes a colour that is shown. A blinking light that remembers
black shows black in both kinds of half period. -/
def changes (b : Bank) (time : Nat) : Bool :=
  b.blinks && b.oddAt time != b.odd && b.lights.any fun l => l.flip.shown != l.shown

/-- Switches one of the lights that the station has. -/
def switch (b : Bank) (role : Role) (mode : Mode) : Bank := (b.switch? role.index mode).getD b

def paint (b : Bank) (role : Role) (c : Colour) : Bank := (b.paint? role.index c).getD b

theorem modify?_eq_none_iff (b : Bank) (light : Nat) (f : Light → Light) :
    b.modify? light f = none ↔ 4 ≤ light := by
  unfold modify?
  split <;> simp <;> omega

end Bank

end Light

end ClimateStation
