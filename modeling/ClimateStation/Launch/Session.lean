import ClimateStation.Climate.Simulation
import ClimateStation.Launch.Basic
import ClimateStation.Storage.Image

/-! Whole sessions of the program in a folder: with the given bytes typed, and stopped as soon as
they are used up. A session takes no time and no datagrams come in. -/
namespace ClimateStation.Launch
open Storage Clock

/-- What a session leaves behind. -/
structure Session where
  folder : Folder
  console : String
  /-- Why the program ended by itself, if it did. -/
  failure : Option Failure

namespace Session

/-- What the folder has at the place of the configuration. -/
def slot (d : Folder) (name : String) : Config.Slot :=
  match d.get? name with
  | none => .absent true
  | some (.file content) => .file content
  | some .folder => .other

/-- The folder with the configuration as it is after the launch. -/
def keep (d : Folder) (name : String) : Config.Slot → Folder
  | .file content => d.put name content
  | _ => d

/-- A pass at the time of the launch finds the link up. -/
def around (keys : List UInt8) (clock : Timestamp) : Surroundings :=
  { time := 0, clock, keys, localEcho := false, sensor := .ok (.simulated 0), linkUp := true,
    datagram := none, accepts := fun _ => true }

/-- Passes until no typed bytes are left. Each of them looks at a byte at least, so their number
bounds the passes. -/
def drain (reference : Moment) : Nat → Running → String × Running
  | 0, r => ("", r)
  | n + 1, r =>
    if r.site.keys.isEmpty then ("", r)
    else
      let r := r.pass reference (around [] r.site.clock)
      let (text, last) := drain reference n r
      (r.site.printed ++ text, last)

/-- Lets the started station carry out what is typed. -/
def carryOn (r : Running) (reference : Moment) (keys : List UInt8) : String × Running :=
  let first := r.pass reference (around keys r.site.clock)
  let (text, last) := drain reference keys.length first
  (r.site.printed ++ first.site.printed ++ text, last)

/-- Runs the program in a folder on a configuration file. -/
def run (d : Folder) (configName : String) (reference : Moment) (keys : List UInt8) : Session :=
  let (config, after) := configure (slot d configName)
  let d := keep d configName after
  match config with
  | .error e => ⟨d, "", some (.config e)⟩
  | .ok config =>
    match d.locate config.imagePath with
    | .error e => ⟨d, "", some (.image config.imagePath e)⟩
    | .ok place =>
      let image := Image.openFile (place.bind d.content?) Layout.deviceSize
      let save (r : Running) : Folder :=
        match place with
        | some name => d.put name r.site.device.bytes
        | none => d
      match (Running.initial config image.image reference).start with
      | (.error e, r) => ⟨save r, "", some (.start e)⟩
      | (.ok _, r) =>
        let (console, last) := carryOn r reference keys
        ⟨save last, console, none⟩

end Session

end ClimateStation.Launch
