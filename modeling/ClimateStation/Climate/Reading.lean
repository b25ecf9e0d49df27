import ClimateStation.Text.Decimal

/-! Readings of the sensor and their text. The sensor measures in Celsius; the scale only decides how
a temperature is written, while the alarm always looks at whole degrees Fahrenheit. Conversions to
whole degrees drop the fraction and stop at the ends of the sixteen-bit range. -/
namespace ClimateStation.Climate
open Text

/-- Why the sensor gave no reading. -/
inductive SensorError
  /-- It did not answer in time. -/
  | timeout
  /-- Its answer did not add up. -/
  | checksum
  deriving DecidableEq, Repr

def SensorError.message : SensorError → String
  | .timeout => "sensor timeout"
  | .checksum => "checksum mismatch"

structure Reading where
  /-- Degrees Celsius. -/
  temperature : Float32
  /-- Percent of relative humidity. -/
  humidity : Float32

inductive Scale
  | celsius
  | fahrenheit
  deriving DecidableEq, Repr

namespace Scale

def name : Scale → String
  | .celsius => "Celsius"
  | .fahrenheit => "Fahrenheit"

def unit : Scale → String
  | .celsius => "°C"
  | .fahrenheit => "°F"

/-- The scale that a flag selects. -/
def ofFlag? (flag : UInt8) : Option Scale :=
  match flag with
  | 0 => some .celsius
  | 1 => some .fahrenheit
  | _ => none

end Scale

def wholeFahrenheit (celsius : Float32) : Int16 := (celsius * 9 / 5 + 32).toModel.toInt16

def degreesText (scale : Scale) (degrees : Int) : String := integer degrees ++ scale.unit

def temperatureText (scale : Scale) (celsius : Float32) : String :=
  degreesText scale <| match scale with
    | .celsius => celsius.toModel.toInt16.toInt
    | .fahrenheit => (wholeFahrenheit celsius).toInt

def humidityText (percent : Int) : String := integer percent ++ "%RH"

def Reading.text (scale : Scale) (r : Reading) : String :=
  temperatureText scale r.temperature ++ ", " ++ humidityText r.humidity.toModel.toInt16.toInt

/-- The text of a temperature of whole degrees Celsius: in Fahrenheit, the fraction of
`9 c / 5 + 32` is dropped. -/
def wholeTemperatureText (scale : Scale) (celsius : Int8) : String :=
  degreesText scale <| match scale with
    | .celsius => celsius.toInt
    | .fahrenheit => Int.tdiv (celsius.toInt * 9 + 160) 5

/-- What the station knows of the climate, and how it shows it. -/
structure Display where
  latest : Reading
  scale : Scale
  /-- Every sample is printed. -/
  monitoring : Bool

namespace Display

/-- Before the first sample, both values read zero. -/
def initial (fahrenheit : Bool) : Display :=
  ⟨⟨0, 0⟩, if fahrenheit then .fahrenheit else .celsius, false⟩

def latestText (d : Display) : String := d.latest.text d.scale

/-- The temperature that the alarm looks at. -/
def alarmInput (d : Display) : Int16 := wholeFahrenheit d.latest.temperature

end Display

end ClimateStation.Climate
