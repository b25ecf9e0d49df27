import ClimateStation.Alarm.Gates
import ClimateStation.Light.Basic

/-! The five levels of the temperature alarm. A temperature belongs to the first level whose gate it
does not exceed; the topmost level has no gate. -/
namespace ClimateStation.Alarm

inductive Level
  | majorUnder
  | minorUnder
  | comfortable
  | minorOver
  | majorOver
  deriving DecidableEq, Repr

/-- How loudly a level asks for attention. -/
inductive Urgency
  | calm
  | attention
  deriving DecidableEq, Repr

/-- A calm light is steady, and one that asks for attention blinks. -/
def Urgency.lightMode : Urgency → Light.Mode
  | .calm => .on
  | .attention => .blink

namespace Level

/-- The distance from comfortable. -/
def rank : Level → Int
  | .majorUnder => -2
  | .minorUnder => -1
  | .comfortable => 0
  | .minorOver => 1
  | .majorOver => 2

def description : Level → String
  | .majorUnder => "Major Under"
  | .minorUnder => "Minor Under"
  | .comfortable => "Comfortable"
  | .minorOver => "Minor Over"
  | .majorOver => "Major Over"

def colour : Level → Colour
  | .majorUnder => ⟨40, 0, 40⟩
  | .minorUnder => ⟨0, 0, 50⟩
  | .comfortable => ⟨0, 50, 0⟩
  | .minorOver => ⟨50, 25, 0⟩
  | .majorOver => ⟨100, 0, 0⟩

def urgency : Level → Urgency
  | .comfortable => .calm
  | _ => .attention

def classify (temperature : Int16) (g : Gates) : Level :=
  if temperature ≤ g.majorUnder then .majorUnder
  else if temperature ≤ g.minorUnder then .minorUnder
  else if temperature ≤ g.comfortable then .comfortable
  else if temperature ≤ g.minorOver then .minorOver
  else .majorOver

/-- The level that a temperature leads to, if it is another one. -/
def change? (current : Level) (temperature : Int16) (g : Gates) : Option Level :=
  let level := classify temperature g
  if level = current then none else some level

end Level

end ClimateStation.Alarm
