import ClimateStation.Command.Grammar
import ClimateStation.Station.Site

/-! Carrying out commands. The answer to a command is a list of lines, the same whether they go to
the console or into a datagram. Operands are checked here, and a refused one changes nothing. -/
namespace ClimateStation
open Text Storage

def release : String := "2.3.0"

def helpLines : List String :=
  ["Commands (square brackets denote options):",
   "\tLED, DHT, TIME, DATE, VERSION, HELP",
   "\tLED [on|off|red|green|yellow|blink]",
   "\tRGB <0-255> <0-255> <0-255> (RGB values)",
   "\tDHT [MONITOR|LOG|ALARM]",
   "\tDHT LOG [INFO|CLEAR]",
   "\tSET TIME <HH> <MM> <SS>",
   "\tSET DATE <YY> <MM> <DD>",
   "\tSET DHT SCALE [0|1] (Celsius or Fahrenheit)",
   "\tSET BLINK <number 1-65535>",
   "\tSET ALARM <0-3> <degrees F>"]

def maxGate : Nat := 32767

namespace Light.Bank

def rateLine (rate : UInt16) : String := "Blink Rate: " ++ natural rate.toNat

def statusLine (number : Nat) (l : Light) : String :=
  "Light " ++ natural number ++ " set to " ++ l.mode.label ++ ", color is rgb("
    ++ natural l.shown.red.toNat ++ ", " ++ natural l.shown.green.toNat ++ ", "
    ++ natural l.shown.blue.toNat ++ ")"

/-- A line for each light, and one for the rate. -/
def statusLines (b : Bank) : List String :=
  b.lights.toList.zipIdx.map (fun (l, i) => statusLine i l) ++ [rateLine b.rate]

end Light.Bank

namespace Log

/-- An entry as it is listed. -/
def Entry.line (scale : Climate.Scale) (e : Entry) : String :=
  e.timestamp.text ++ "\t" ++ Climate.wholeTemperatureText scale e.temperature ++ ", "
    ++ Climate.humidityText e.humidity.toNat

/-- The lines that list a log that is not empty. -/
def listing (scale : Climate.Scale) (entries : List Entry) : List String :=
  "Date\tTime\tTemp, Humidity" :: entries.map (Entry.line scale)

def Extremes.lines (scale : Climate.Scale) (x : Extremes) : List String :=
  ["Max Temperature: " ++ Climate.wholeTemperatureText scale x.maxTemperature,
   "Min Temperature: " ++ Climate.wholeTemperatureText scale x.minTemperature,
   "Max Humidity: " ++ Climate.humidityText x.maxHumidity.toNat,
   "Min Humidity: " ++ Climate.humidityText x.minHumidity.toNat]

def Ring.summary (r : Ring) : String :=
  natural r.count ++ " entries stored in the log. Next memory address is " ++ natural r.next

end Log

namespace Alarm.Gates

def line (g : Gates) : String :=
  "Alarm gates: " ++ ", ".intercalate (g.toList.map fun v => integer v.toInt)

/-- The lines that confirm a changed gate. -/
def changeLines (g : Gates) (index value : Nat) : List String :=
  ["Alarm Gate " ++ natural index ++ ": " ++ natural value]
    ++ if g.Ascending then [] else ["Warning: alarm gates are not in ascending order."]

end Alarm.Gates

def Climate.Scale.line (scale : Climate.Scale) : String := "Scale set to " ++ scale.name

namespace Site

/-- The lines of an answer, and the site after it. -/
abbrev Answer := List String × Site

/-- Switches monitoring. Once it is on, the console waits for a key to end it. -/
def answerMonitor (s : Site) : Answer :=
  if s.station.display.monitoring then
    (["DHT monitor off."], { s with station.display.monitoring := false })
  else
    (["DHT readings will now be printed."],
      { s with station.display.monitoring := true, station.editor := s.station.editor.await })

/-- Lists the log up to the first entry that cannot be read. -/
def answerLogDump (s : Site) : Answer :=
  if s.station.log.isEmpty then (["No logs."], s)
  else
    let (entries, s) := s.access (s.station.log.readable [Layout.log])
    (Log.listing s.station.display.scale entries, s)

def answerLogInfo (s : Site) : Answer :=
  match s.access (s.station.log.extremes [Layout.log]) with
  | (.ok (some x), s) => (s.station.log.summary :: x.lines s.station.display.scale, s)
  | (_, s) => ([s.station.log.summary], s)

def answerLogClear (s : Site) : Answer :=
  match s.access (Log.Ring.clear [Layout.log]) with
  | (.ok log, s) => (["DHT Log cleared."], { s with station.log := log }.report .logCleared)
  | (.error _, s) => (["DHT Log could not be cleared."], s)

/-- Sets the clock if the change is sound; the word says what was set. -/
def answerClock (s : Site) (word : String)
    (change : Except Clock.InvalidTimestamp Clock.Timestamp) : Answer :=
  match change with
  | .ok t => ([word ++ " set to " ++ t.text], s.setClock t)
  | .error e => ([e.message], s)

def answerBlinkRate (s : Site) (rate : UInt16) : Answer :=
  match s.station.lights.setRate? rate with
  | some lights => ([Light.Bank.rateLine rate], s.setLights lights)
  | none => (["Blink rate must be at least 1 ms."], s)

def answerScale (s : Site) (flag : UInt8) : Answer :=
  match Climate.Scale.ofFlag? flag with
  | some scale => ([scale.line], { s with station.display.scale := scale })
  | none => (["Scale must be 0 (Celsius) or 1 (Fahrenheit)."], s)

/-- Changes a gate, once the changed gates are stored. -/
def answerGate (s : Site) (index : UInt8) (value : UInt16) : Answer :=
  match s.station.gates.set? index.toNat value.toInt16 with
  | none => (["Alarm gate must be 0-" ++ natural (Alarm.Gates.count - 1) ++ "."], s)
  | some gates =>
    if maxGate < value.toNat then
      (["Alarm gate value must be 0-" ++ natural maxGate ++ "."], s)
    else match s.access (gates.store [Layout.gates]) with
      | (.error _, s) => (["Alarm gates could not be saved."], s)
      | (.ok _, s) =>
        (gates.changeLines index.toNat value.toNat, { s with station.gates := gates })

def carryOut (s : Site) (c : Command) : Answer :=
  let station := s.station
  match c with
  | .lightStatus => (station.lights.statusLines, s)
  | .lightMode mode => ([], s.setLights (station.lights.switch .user mode))
  | .lightColour colour => ([], s.setLights (station.lights.paint .user colour))
  | .climateStatus => ([station.display.latestText, station.display.scale.line], s)
  | .climateMonitor => s.answerMonitor
  | .logDump => s.answerLogDump
  | .logInfo => s.answerLogInfo
  | .logClear => s.answerLogClear
  | .alarmStatus => ([station.gates.line, "Alarm state: " ++ station.level.description], s)
  | .clockStatus =>
    (["Date (yyyy/mm/dd): " ++ s.clock.dateText, "Time (hh:mm:ss): " ++ s.clock.timeText], s)
  | .setTime hour minute second => s.answerClock "Time" (s.clock.withTime hour minute second)
  | .setDate year month day => s.answerClock "Date-Time" (s.clock.withDate year month day)
  | .setBlinkRate rate => s.answerBlinkRate rate
  | .setScale flag => s.answerScale flag
  | .setGate index value => s.answerGate index value
  | .version => ([release], s)
  | .help => (helpLines, s)

/-- Carries out a command that came in on a channel. -/
def answer (s : Site) (channel : Channel) (c : Command) : Answer :=
  if c.consoleOnly = true ∧ channel ≠ .console then
    (["DHT MONITOR is only available on the local console."], s)
  else s.carryOut c

/-- Reads a text as a command and carries it out, or says why it is none. -/
def dispatch (s : Site) (channel : Channel) (input : List UInt8) : Answer :=
  match Command.ofText s.station.strictness input with
  | .ok c =>
    let (lines, s) := s.answer channel c
    (lines, s.markStale)
  | .error e => (e.report, s.report (.commandRejected channel e))

end Site

end ClimateStation
