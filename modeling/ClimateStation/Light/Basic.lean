/-! Colours, the three modes of a light, and the lights of the station. -/
namespace ClimateStation

/-- A colour as red, green and blue, each from 0 to 255. -/
structure Colour where
  red : UInt8
  green : UInt8
  blue : UInt8
  deriving DecidableEq, Repr, Inhabited

namespace Colour

def black : Colour := ⟨0, 0, 0⟩
def pureRed : Colour := ⟨255, 0, 0⟩
def pureGreen : Colour := ⟨0, 255, 0⟩
def pureBlue : Colour := ⟨0, 0, 255⟩
def yellow : Colour := ⟨255, 255, 0⟩

/-- The sum of the three channels, between 0 and 765. -/
def brightness (c : Colour) : Nat := c.red.toNat + c.green.toNat + c.blue.toNat

end Colour

namespace Light

inductive Mode
  | off
  | on
  | blink
  deriving DecidableEq, Repr, Inhabited

def Mode.label : Mode → String
  | .off => "off"
  | .on => "on"
  | .blink => "blink"

/-- What each light of the strip stands for. -/
inductive Role
  | user
  | power
  | alarm
  | network
  deriving DecidableEq, Repr

/-- The place of a light on the strip. -/
def Role.index : Role → Nat
  | .user => 0
  | .power => 1
  | .alarm => 2
  | .network => 3

end Light

end ClimateStation
