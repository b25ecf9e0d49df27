import ClimateStation.Clock.Timestamp

/-! Entries of the log: a timestamp, whole degrees Celsius and whole percent, in nine bytes. -/
namespace ClimateStation.Log
open Clock

structure Entry where
  timestamp : Timestamp
  /-- Whole degrees Celsius. -/
  temperature : Int8
  /-- Whole percent of relative humidity. -/
  humidity : UInt8
  deriving DecidableEq, Repr, Inhabited

namespace Entry

def width : Nat := 9

def toBytes (e : Entry) : List UInt8 :=
  e.timestamp.toBytes ++ [e.temperature.toUInt8, e.humidity]

def ofBytes (b : List UInt8) : Entry :=
  { timestamp := .ofBytes b, temperature := (b.getD 7 0).toInt8, humidity := b.getD 8 0 }

@[simp] theorem length_toBytes (e : Entry) : e.toBytes.length = width := rfl

@[simp] theorem ofBytes_toBytes (e : Entry) : ofBytes e.toBytes = e := by
  have h : e.toBytes = e.timestamp.toBytes ++ [e.temperature.toUInt8, e.humidity] := rfl
  rw [ofBytes, h, Timestamp.ofBytes_toBytes_append]
  simp [Timestamp.toBytes]

end Entry

structure Extremes where
  minTemperature : Int8
  maxTemperature : Int8
  minHumidity : UInt8
  maxHumidity : UInt8
  deriving DecidableEq, Repr

namespace Extremes

def ofEntry (e : Entry) : Extremes :=
  ⟨e.temperature, e.temperature, e.humidity, e.humidity⟩

def widen (x : Extremes) (e : Entry) : Extremes :=
  { minTemperature := min x.minTemperature e.temperature
    maxTemperature := max x.maxTemperature e.temperature
    minHumidity := min x.minHumidity e.humidity
    maxHumidity := max x.maxHumidity e.humidity }

/-- An empty log has no extremes. -/
def ofList? : List Entry → Option Extremes
  | [] => none
  | e :: rest => some (rest.foldl widen (ofEntry e))

end Extremes

end ClimateStation.Log
