import ClimateStation.Climate.Simulation
import ClimateStation.Launch.Basic
import ClimateStation.Storage.Image
import Std.Async.UDP
import Std.Time.Zoned

/-! The command line, which takes the path of a configuration file or nothing. This module reads the
clock, the keys, the network and the files, and carries out what each pass of the station did. -/
namespace ClimateStation.Launch
open Storage Clock

/-- The refusal that an error of the system stands for. -/
def refusal : IO.Error → SystemError
  | .alreadyExists _ number text | .otherError number text | .resourceBusy number text
  | .resourceVanished number text | .unsupportedOperation number text
  | .hardwareFault number text | .unsatisfiedConstraints number text
  | .illegalOperation number text | .protocolError number text | .timeExpired number text
  | .interrupted _ number text | .noFileOrDirectory _ number text
  | .invalidArgument _ number text | .permissionDenied _ number text
  | .resourceExhausted _ number text | .inappropriateType _ number text
  | .noSuchThing _ number text => .reason number.toNat text
  | .unexpectedEof => .reason 0 "Unexpected end of file"
  | .userError text => .reason 0 text

/-- The result of an action that the system may refuse. -/
def attempted {α : Type} (action : IO α) : IO (Except SystemError α) := do
  match ← action.toBaseIO with
  | .ok a => return .ok a
  | .error e => return .error (refusal e)

/-- The content of a file, or nothing if there is no file. -/
def readFile? (path : String) : IO (Option (List UInt8)) := do
  try
    return some (← IO.FS.readBinFile path).toList
  catch
  | .noFileOrDirectory .. => return none
  | e => throw e

def writeFile (path : String) (content : List UInt8) : IO Unit :=
  IO.FS.writeBinFile path (ByteArray.mk content.toArray)

def readSlot : Option String → IO Config.Slot
  | none => return .unnamed
  | some path => do
    match ← attempted (readFile? path) with
    | .ok (some content) => return .file content
    | .ok none => return .absent true
    | .error _ => return .other

/-- Prints a line for the operator, beside the console. -/
def log (severity line : String) : IO Unit := do
  (← IO.getStderr).putStrLn ("[" ++ severity ++ "] " ++ line)

/-- Reads the configuration, and writes the defaults where none is. -/
def readConfig (path : Option String) : IO (Except ConfigError Config) := do
  let before ← readSlot path
  let (config, after) := configure before
  match path, after with
  | some path, .file content =>
    if before ≠ after then
      log "WARN" "Config file not found, writing defaults"
      if let .error e ← attempted (writeFile path content) then
        log "WARN" ("Could not write default config: " ++ e.message)
  | _, _ => pure ()
  return config

/-- Opens the memory that a file stands for. -/
def openImage (path : String) : IO Image := do
  let content ← readFile? path
  let image := Image.openFile content Layout.deviceSize
  if content ≠ some image.file then writeFile path image.file
  return image

/-- The local time of the reference clock. -/
def readClock : IO Moment := do
  let t ← Std.Time.PlainDateTime.now
  return ⟨t.date.year.toInt, t.date.month.toNat, t.date.day.toNat, t.time.hour.toNat,
    t.time.minute.toNat, t.time.second.toNat⟩

def endpointOf (a : Std.Net.SocketAddressV4) : Network.Endpoint :=
  ⟨⟨a.addr.octets[0], a.addr.octets[1], a.addr.octets[2], a.addr.octets[3]⟩, a.port⟩

def socketAddress (e : Network.Endpoint) : Std.Net.SocketAddress :=
  .v4 ⟨.ofParts e.address.a e.address.b e.address.c e.address.d, e.port⟩

def openSocket (port : UInt16) : IO Std.Async.UDP.Socket := do
  let socket ← Std.Async.UDP.Socket.mk
  socket.bind (socketAddress ⟨.unspecified, port⟩)
  return socket

/-- Where a running program is connected to. -/
structure Wiring where
  imagePath : String
  socket : Std.Async.UDP.Socket
  /-- The terminal shows typed characters by itself. -/
  localEcho : Bool
  /-- Bytes typed and not looked at. -/
  keys : IO.Ref (Array UInt8)
  /-- Datagrams that came in and were not looked at. -/
  datagrams : IO.Ref (Array Datagram)
  /-- The time of the launch in milliseconds. -/
  launched : Nat

namespace Wiring

partial def listenKeys (w : Wiring) (input : IO.FS.Stream) : IO Unit := do
  let typed ← input.read 1
  unless typed.isEmpty do
    w.keys.modify (· ++ typed.data)
    w.listenKeys input

partial def listenNetwork (w : Wiring) : IO Unit := do
  match ← attempted (w.socket.recv 65535).block with
  | .ok (payload, some (.v4 sender)) =>
    w.datagrams.modify (·.push ⟨endpointOf sender, payload.toList⟩)
  | .ok _ => pure ()
  | .error e => log "WARN" ("udp: receive failed: " ++ e.message)
  w.listenNetwork

/-- Carries out one effect of a pass. -/
def carryOut (w : Wiring) : Effect → IO Unit
  | .print text => do
    let out ← IO.getStdout
    out.putStr text
    out.flush
  | .report event =>
    log (match event.severity with | .info => "INFO" | .warning => "WARN") event.logLine
  | .received _ => w.datagrams.modify (·.extract 1)
  | .send _ peer text _ => do
    if let .error e ← attempted (w.socket.send text.toUTF8 (some (socketAddress peer))).block then
      log "WARN" ("udp: send to " ++ peer.text ++ " failed: " ++ e.message)
  | _ => pure ()

/-- Carries out everything that is on record. -/
def settle (w : Wiring) (site : Site) : IO Unit := do
  unless site.device.written.isEmpty do
    if let .error e ← attempted (writeFile w.imagePath site.device.bytes) then
      log "WARN" ("eeprom: write failed: " ++ e.message)
  for effect in site.effects do
    w.carryOut effect

/-- What the next pass finds. -/
def look (w : Wiring) (clock : Timestamp) : IO Surroundings := do
  let time := (← IO.monoMsNow) - w.launched
  let keys ← w.keys.modifyGet fun typed => (typed.toList, #[])
  let waiting ← w.datagrams.get
  return { time, clock, keys, localEcho := w.localEcho
           sensor := .ok (.simulated (Float.ofNat time / 1000)), linkUp := true
           datagram := waiting[0]?, accepts := fun _ => true }

/-- The main loop, which never ends. -/
partial def loop (w : Wiring) (r : Running) : IO Unit := do
  let r := r.pass (← readClock) (← w.look r.site.clock)
  w.settle r.site
  IO.sleep 1
  w.loop r

end Wiring

/-- Gives the result of an action, or ends the program. -/
def orFail {ε α : Type} (why : ε → Failure) (action : IO (Except ε α)) : ExceptT Failure IO α := do
  match ← action with
  | .ok a => return a
  | .error e => throw (why e)

/-- Runs the program, which ends only by failing. -/
def run (path : Option String) : ExceptT Failure IO Unit := do
  let config ← orFail .config (readConfig path)
  let image ← orFail (.image config.imagePath) (attempted (openImage config.imagePath))
  let socket ← orFail (.network config.port) (attempted (openSocket config.port))
  let input ← IO.getStdin
  let w : Wiring :=
    { imagePath := config.imagePath, socket, localEcho := ← input.isTty
      keys := ← IO.mkRef #[], datagrams := ← IO.mkRef #[], launched := ← IO.monoMsNow }
  let (result, r) := (Running.initial config image.image (← readClock)).start
  w.settle r.site
  orFail .start (pure result)
  let _ ← IO.asTask (w.listenKeys input) .dedicated
  let _ ← IO.asTask w.listenNetwork .dedicated
  w.loop r

end ClimateStation.Launch

/-- Runs the station, and says why it ended. -/
def main (args : List String) : IO UInt32 := do
  match ← (ClimateStation.Launch.run args.head?).run with
  | .ok _ => return 0
  | .error failure =>
    for line in failure.report do
      (← IO.getStderr).putStrLn line
    return ClimateStation.Launch.Failure.status
