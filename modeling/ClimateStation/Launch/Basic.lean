import ClimateStation.Clock.Shifted
import ClimateStation.Config.File
import ClimateStation.Station.Pass
import ClimateStation.Storage.Folder

/-! Launching the station as a program: its configuration, the clock that it sets, and what it says
when it cannot go on. -/
namespace ClimateStation
open Storage Clock

namespace Site

/-- Drops the record of what was done and written. -/
def forget (s : Site) : Site := { s with effects := [], device.written := [] }

/-- The text that appeared on the console. -/
def printed (s : Site) : String :=
  String.join <| s.effects.filterMap fun
    | .print text => some text
    | _ => none

end Site

namespace Launch

/-- Why the program ends. -/
inductive Failure
  | config (cause : ConfigError)
  | image (path : String) (cause : SystemError)
  | network (port : UInt16) (cause : SystemError)
  | start (cause : StartError)
  deriving DecidableEq, Repr

namespace Failure

/-- What the program was doing. -/
def attempt : Failure → String
  | .config _ => "loading configuration"
  | .image path _ => "opening EEPROM image " ++ path
  | .network port _ => "binding UDP port " ++ Text.natural port.toNat
  | .start _ => "starting application service"

def cause : Failure → String
  | .config cause => cause.message
  | .image _ cause | .network _ cause => cause.message
  | .start cause => cause.message

/-- The lines that the program ends with. -/
def report (f : Failure) : List String :=
  ("Error: " ++ f.attempt).splitOn "\n" ++ ["", "Caused by:", "    " ++ f.cause]

/-- The number that the program ends with. -/
def status : UInt32 := 1

end Failure

/-- Reads the configuration. Where no file is, the defaults are used and, if possible, written. -/
def configure (slot : Config.Slot) : Except ConfigError Config × Config.Slot :=
  match slot.load with
  | .error .notFound => (.ok .default, (slot.save .default).2)
  | loaded => (loaded, slot)

/-- The program while it runs. -/
structure Running where
  site : Site
  /-- The clock of the station, which runs with a reference that cannot be set. -/
  clock : Shifted

namespace Running

/-- A station on the content of its memory, ready to be started. -/
def initial (c : Config) (memory : List UInt8) (reference : Moment) : Running :=
  ⟨.initial c (.ofBytes memory) (Shifted.level.now reference), .level⟩

def start (r : Running) : Except StartError Unit × Running :=
  let (result, site) := r.site.start
  (result, { r with site })

/-- The clock after some effects, of which those that set it count. -/
def follow (reference : Moment) (clock : Shifted) (effects : List Effect) : Shifted :=
  effects.foldl (fun clock e => match e with
    | .setClock t => clock.set reference t
    | _ => clock) clock

/-- One pass of the main loop, after which the record holds what this pass did. -/
def pass (r : Running) (reference : Moment) (around : Surroundings) : Running :=
  let site := r.site.forget.pass { around with clock := r.clock.now reference }
  ⟨site, follow reference r.clock site.effects⟩

end Running

end Launch

end ClimateStation
