/-! Timers of the main loop. A timer is due once per period on a grid that starts with its first
period; one that was not asked in time starts a new grid instead of catching up. Times are
milliseconds below 2 ^ 64 and stop there. -/
namespace ClimateStation

def endOfTime : Nat := UInt64.size - 1

def later (time period : Nat) : Nat := min (time + period) endOfTime

structure Timer where
  period : Nat
  /-- The moment from which on the timer is due. -/
  due : Nat
  deriving DecidableEq, Repr

namespace Timer

/-- A timer that is due at once; a period of zero counts as one. -/
def every (period : Nat) : Timer := ⟨max period 1, 0⟩

/-- Asks the timer: whether it is due, and the timer from then on. -/
def poll (t : Timer) (time : Nat) : Bool × Timer :=
  if time < t.due then (false, t)
  else
    let next := later t.due t.period
    (true, { t with due := if next ≤ time then later time t.period else next })

end Timer

end ClimateStation
