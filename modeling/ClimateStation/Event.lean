import ClimateStation.Alarm.Level
import ClimateStation.Climate.Reading
import ClimateStation.Command.Basic
import ClimateStation.Command.Error
import ClimateStation.Network.Settings

/-! What the station reports about itself, and the line that each report is logged as. -/
namespace ClimateStation

inductive Event
  /-- The memory was read and the lights are up. -/
  | started (entries : Nat) (gates : Alarm.Gates)
  | alarmChanged (level : Alarm.Level) (fahrenheit : Int16)
  /-- A sample was logged; the log now has so many entries. -/
  | logAppended (count next : Nat)
  | logCleared
  | commandRejected (channel : Channel) (cause : Command.CommandError)
  | sampleFailed (cause : Climate.SensorError)
  /-- The first datagram fixed where alarms are sent. -/
  | destinationLearned (peer : Network.Endpoint)
  | linkChanged (up : Bool)
  deriving DecidableEq, Repr

namespace Event
open Text

inductive Severity
  | info
  | warning
  deriving DecidableEq, Repr

def severity : Event → Severity
  | .sampleFailed _ => .warning
  | _ => .info

def channelName : Channel → String
  | .console => "Interactive"
  | .datagram => "Message"

/-- Four numbers in brackets. -/
def gatesText (g : Alarm.Gates) : String :=
  "[" ++ ", ".intercalate (g.toList.map fun v => integer v.toInt) ++ "]"

/-- The line that a report is logged as. -/
def logLine : Event → String
  | .started entries gates =>
    "START | log_entries=" ++ natural entries ++ " gates=" ++ gatesText gates
  | .alarmChanged level fahrenheit =>
    "ALARM | " ++ level.description ++ " (" ++ integer level.rank ++ ") at "
      ++ integer fahrenheit.toInt ++ "°F"
  | .logAppended count next =>
    "LOG   | appended, entries=" ++ natural count ++ " next=" ++ natural next
  | .logCleared => "LOG   | cleared"
  | .commandRejected channel cause =>
    "CMD   | rejected on " ++ channelName channel ++ ": " ++ cause.message
  | .sampleFailed cause => "DHT   | sample failed: " ++ cause.message
  | .destinationLearned peer => "NET   | destination " ++ peer.text
  | .linkChanged up => "NET   | link " ++ if up then "up" else "down"

end Event

end ClimateStation
