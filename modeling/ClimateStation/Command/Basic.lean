import ClimateStation.Light.Basic

/-! The commands of the station. Operands are kept as they were entered: whether an hour, a rate or
a gate is in range is decided when the command is carried out, so that the answer can name it. -/
namespace ClimateStation

inductive Command
  /-- Every light's state and the blink rate. -/
  | lightStatus
  | lightMode (mode : Light.Mode)
  | lightColour (colour : Colour)
  /-- The latest reading and the scale. -/
  | climateStatus
  /-- Prints every sample until a key is pressed. -/
  | climateMonitor
  /-- The logged samples, oldest first. -/
  | logDump
  /-- The number of logged samples, the next address, extremes. -/
  | logInfo
  | logClear
  /-- The gates and the alarm level. -/
  | alarmStatus
  | clockStatus
  | setTime (hour minute second : UInt8)
  /-- The year counts from 2000. -/
  | setDate (year month day : UInt8)
  | setBlinkRate (rate : UInt16)
  /-- The flag 0 selects Celsius and 1 Fahrenheit. -/
  | setScale (flag : UInt8)
  | setGate (index : UInt8) (value : UInt16)
  | version
  | help
  deriving DecidableEq, Repr

/-- Monitoring needs a key to end it, so only the local console may start it. -/
def Command.consoleOnly : Command → Bool
  | .climateMonitor => true
  | _ => false

/-- The channel a command came in on and its answer goes out on. -/
inductive Channel
  | console
  | datagram
  deriving DecidableEq, Repr

end ClimateStation
