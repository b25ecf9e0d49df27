import ClimateStation.Datagram.Reply
import ClimateStation.Station.Answer

/-! Starting the station, and the passes of its main loop. A pass brings the blinking lights up to
date, takes a sample if one is due, carries out at most one line from the console and at most one
datagram, and last shows on the strip what changed. -/
namespace ClimateStation
open Storage Clock

/-- What a pass finds around the station. -/
structure Surroundings where
  /-- Milliseconds since the start, below 2 ^ 64. -/
  time : Nat
  clock : Timestamp
  /-- Bytes typed since the pass before. -/
  keys : List UInt8
  /-- The terminal shows typed characters by itself. -/
  localEcho : Bool
  /-- What the sensor answers if it is read. -/
  sensor : Except Climate.SensorError Climate.Reading
  linkUp : Bool
  /-- The datagram that is received if the station looks for one. -/
  datagram : Option Datagram
  /-- Whether the network accepts a datagram for sending. -/
  accepts : Purpose → Bool

namespace Station

def powerColour : Colour := ⟨0, 50, 0⟩
def linkUpColour : Colour := ⟨0, 50, 0⟩
def linkDownColour : Colour := ⟨50, 0, 0⟩

def linkColour (up : Bool) : Colour := if up then linkUpColour else linkDownColour

/-- The bytes of a datagram that are looked at: more than a command can have, so that a text that is
too long is still seen to be. -/
def datagramLimit : Nat := 44

end Station

namespace Site
open Station

/-- Reads the log, the gates and the network settings from the memory. What was read before a
failure stays. -/
def loadMemory (s : Site) : Except StorageError Unit × Site :=
  match s.access (Log.Ring.load [Layout.log]) with
  | (.error e, s) => (.error e, s)
  | (.ok log, s) =>
    let s := { s with station.log := log }
    match s.access (Alarm.Gates.load [Layout.gates] s.station.config.defaultGates) with
    | (.error e, s) => (.error e, s)
    | (.ok gates, s) =>
      let s := { s with station.gates := gates }
      match s.access (Network.Settings.load [Layout.network]) with
      | (.error e, s) => (.error e, s)
      | (.ok settings, s) => (.ok (), { s with station.link.settings := settings })

/-- Colours the lights that show the state of the station. -/
def lightUp (s : Site) : Site :=
  s.setLights (((s.station.lights.paint .power powerColour).paint .alarm
    s.station.level.colour).paint .network linkDownColour)

/-- Starts the station. A configuration that fails its checks is refused before the memory is
touched. -/
def start (s : Site) : Except StartError Unit × Site :=
  match s.station.config.validate with
  | .error e => (.error (.config e), s)
  | .ok _ =>
    match s.loadMemory with
    | (.error e, s) => (.error (.storage e), s)
    | (.ok _, s) =>
      let s := s.lightUp.refresh
      let s := s.report (.started s.station.log.count s.station.gates)
      (.ok (), (s.print "Program start.\r\n").printPrompt)

def tickLights (s : Site) (time : Nat) : Site :=
  let changed := s.station.lights.changes time
  let lights := s.station.lights.tick time
  { s with station.lights := lights, station.stale := s.station.stale || changed }

/-- Hands a datagram to the network and counts it if it is accepted. -/
def send (s : Site) (purpose : Purpose) (peer : Network.Endpoint) (reply : Datagram.Reply)
    (accepted : Bool) : Site :=
  let s := s.note (.send purpose peer reply.text accepted)
  if accepted then { s with station.link.sent := s.station.link.sent + 1 } else s

def alarmLine (level : Alarm.Level) (d : Climate.Display) : String :=
  "Arduino Alarm: Temperature " ++ level.description ++ " " ++ d.latestText

/-- Moves to another alarm level: its light, the notification, the report. -/
def enterLevel (s : Site) (level : Alarm.Level) (accepted : Bool) : Site :=
  let lights := (s.station.lights.paint .alarm level.colour).switch .alarm level.urgency.lightMode
  let s := { s with station.level := level, station.lights := lights, station.stale := true }
  let s := match s.station.link.settings.destination with
    | some peer =>
      s.send .alarm peer (Datagram.Reply.empty.writeLine (alarmLine level s.station.display)) accepted
    | none => s
  s.report (.alarmChanged level s.station.display.alarmInput)

/-- Compares the latest reading with the gates. -/
def checkAlarm (s : Site) (accepted : Bool) : Site :=
  match s.station.level.change? s.station.display.alarmInput s.station.gates with
  | some level => s.enterLevel level accepted
  | none => s

/-- The log entry for a reading: whole degrees and percent, without their fractions. -/
def entryOf (t : Timestamp) (r : Climate.Reading) : Log.Entry :=
  ⟨t, r.temperature.toModel.toInt8, r.humidity.toUInt8⟩

/-- Logs a reading. An entry that cannot be written is dropped. -/
def logReading (s : Site) (r : Climate.Reading) : Site :=
  let entry := entryOf s.clock r
  match (s.note (.logAttempt entry)).access (s.station.log.append [Layout.log] entry) with
  | (.ok log, s) => { s with station.log := log }.report (.logAppended log.count log.next)
  | (.error _, s) => s

def logIfDue (s : Site) (time : Nat) (r : Climate.Reading) : Site :=
  let (due, timer) := s.station.logTimer.poll time
  let s := { s with station.logTimer := timer }
  if due then s.logReading r else s

/-- A line for the console while the sensor is monitored. -/
def printMonitored (s : Site) (line : String) : Site :=
  if s.station.display.monitoring then s.printLine line else s

def takeSample (s : Site) (around : Surroundings) : Site :=
  let s := s.note (.sample around.sensor)
  match around.sensor with
  | .error e => (s.printMonitored ("DHT read failed, err=" ++ e.message)).report (.sampleFailed e)
  | .ok r =>
    let s := { s with station.display.latest := r }.checkAlarm (around.accepts .alarm)
    (s.printMonitored s.station.display.latestText).logIfDue around.time r

def sampleIfDue (s : Site) (around : Surroundings) : Site :=
  let (due, timer) := s.station.sampleTimer.poll around.time
  let s := { s with station.sampleTimer := timer }
  if due then s.takeSample around else s

/-- Carries out a line from the console. -/
def submit (s : Site) (line : List UInt8) : Site :=
  let (lines, s) := (s.note (.submitted line)).dispatch .console line
  (lines.foldl printLine s).printPrompt

/-- The key waited for ends monitoring. -/
def dismiss (s : Site) : Site :=
  { s with station.display.monitoring := false }.note .dismissed |>.printPrompt

/-- Feeds typed bytes to the editor until a line is handed over or a key waited for is pressed; the
bytes after it are left for the next pass. -/
def readKeys (s : Site) (localEcho : Bool) : List UInt8 → Site
  | [] => { s with keys := [] }
  | b :: rest =>
    let (edit, shown, editor) := s.station.editor.feed localEcho b
    let s := { s with station.editor := editor, keys := rest }.print shown
    match edit with
    | .pending => s.readKeys localEcho rest
    | .submit line => s.submit line
    | .dismissed => s.dismiss

def observeLink (s : Site) (up : Bool) : Site :=
  if up = s.station.link.up then s
  else
    { s with
      station.link.up := up
      station.lights := s.station.lights.paint .network (linkColour up)
      station.stale := true }.report (.linkChanged up)

/-- The first datagram fixes where alarms are sent, whether or not that can be stored. -/
def learnDestination (s : Site) (peer : Network.Endpoint) : Site :=
  if s.station.link.learned then s
  else
    let s := { s with station.link.learned := true }
    if s.station.link.settings.destination = some peer then s
    else
      let settings := { s.station.link.settings with target := peer }
      let s := { s with station.link.settings := settings }
      (s.access (settings.store [Layout.network])).2.report (.destinationLearned peer)

/-- Carries out a datagram and answers it, if there is an answer. -/
def receive (s : Site) (d : Datagram) (accepted : Bool) : Site :=
  let s := s.note (.received d)
  let s := { s with station.link.received := s.station.link.received + 1 }
  let (lines, s) := (s.learnDestination d.sender).dispatch .datagram (d.payload.take datagramLimit)
  let reply := Datagram.Reply.ofLines lines
  if reply.isEmpty then s else s.send .reply d.sender reply accepted

/-- Asks the timer of the network, and looks at the link and for a datagram. -/
def serveNetwork (s : Site) (around : Surroundings) : Site :=
  let (due, timer) := s.station.networkTimer.poll around.time
  let s := { s with station.networkTimer := timer }
  if due then
    let s := s.observeLink around.linkUp
    match around.linkUp, around.datagram with
    | true, some d => s.receive d (around.accepts .reply)
    | _, _ => s
  else s

/-- One pass of the main loop. -/
def pass (s : Site) (around : Surroundings) : Site :=
  let s := { s with clock := around.clock, keys := s.keys ++ around.keys }
  let s := (s.tickLights around.time).sampleIfDue around
  ((s.readKeys around.localEcho s.keys).serveNetwork around).refresh

/-- A run of the main loop. -/
def run (s : Site) (passes : List Surroundings) : Site := passes.foldl pass s

end Site

end ClimateStation
