import ClimateStation.Climate.Reading

/-! A simulated sensor, whose values drift slowly across the default gates: between 18 and 30 degrees
Celsius and between 40 and 60 percent. -/
namespace ClimateStation.Climate

/-- The reading at `t` seconds of simulated time. -/
def Reading.simulated (t : Float) : Reading :=
  { temperature := (24 + 5 * (t / 120).sin + (t / 37).cos).toFloat32
    humidity := (50 + 8 * (t / 180).sin + 2 * (t / 23).cos).toFloat32 }

structure Simulation where
  /-- Every n-th read times out; with zero, none does. -/
  failEvery : UInt32
  /-- The reads so far. -/
  reads : UInt32
  deriving DecidableEq, Repr

namespace Simulation

def start (failEvery : UInt32) : Simulation := ⟨failEvery, 0⟩

def read (s : Simulation) (t : Float) : Except SensorError Reading × Simulation :=
  let next := { s with reads := s.reads + 1 }
  if s.failEvery ≠ 0 ∧ next.reads % s.failEvery = 0 then (.error .timeout, next)
  else (.ok (.simulated t), next)

end Simulation

end ClimateStation.Climate
