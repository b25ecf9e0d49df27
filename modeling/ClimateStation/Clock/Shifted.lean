import ClimateStation.Clock.Timestamp

/-! A settable clock made from one that cannot be set: it runs with the reference, a fixed number of
seconds ahead or behind. -/
namespace ClimateStation.Clock

structure Shifted where
  /-- The seconds by which this clock is ahead of the reference. -/
  ahead : Int
  deriving DecidableEq, Repr

namespace Shifted

/-- A clock that shows what the reference shows. -/
def level : Shifted := ⟨0⟩

def now (c : Shifted) (reference : Moment) : Timestamp :=
  (Moment.ofSeconds (reference.seconds + c.ahead)).timestamp

/-- Sets the clock. A timestamp that the calendar does not have is refused, and the clock goes
on as it was. -/
def set (c : Shifted) (reference : Moment) (t : Timestamp) : Shifted :=
  match t.moment? with
  | some target => ⟨target.seconds - reference.seconds⟩
  | none => c

end Shifted

end ClimateStation.Clock
