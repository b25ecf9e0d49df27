import ClimateStation.Binary.Codec
import ClimateStation.Config.Basic
import ClimateStation.Json.Document
import ClimateStation.Text.Decimal

/-! The fields of a configuration: their names and order in a file, and how each is written and
read, as JSON and packed. -/
namespace ClimateStation.Config
open Alarm

inductive Field
  | samplePeriod
  | logPeriod
  | networkPeriod
  | blinkRate
  | fahrenheit
  | defaultGates
  | port
  | imagePath
  | lenient
  deriving DecidableEq, Repr

namespace Field

/-- The order of the fields in a file. -/
def all : List Field :=
  [samplePeriod, logPeriod, networkPeriod, blinkRate, fahrenheit, defaultGates, port, imagePath,
    lenient]

theorem mem_all (f : Field) : f ∈ all := by cases f <;> decide

/-- The key of a field. -/
def name : Field → String
  | samplePeriod => "sample_interval_ms"
  | logPeriod => "log_interval_ms"
  | networkPeriod => "network_poll_interval_ms"
  | blinkRate => "blink_rate_ms"
  | fahrenheit => "fahrenheit"
  | defaultGates => "default_alarm_gates"
  | port => "udp_port"
  | imagePath => "eeprom_path"
  | lenient => "lenient_operands"

def ofName? (key : String) : Option Field := all.find? fun f => f.name == key

/-- The field's value as JSON. -/
def toJson (c : Config) : Field → String
  | samplePeriod => Text.natural c.samplePeriod.toNat
  | logPeriod => Text.natural c.logPeriod.toNat
  | networkPeriod => Text.natural c.networkPeriod.toNat
  | blinkRate => Text.natural c.blinkRate.toNat
  | fahrenheit => boolText c.fahrenheit
  | defaultGates =>
    "[" ++ ",".intercalate (c.defaultGates.toList.map fun v => Text.integer v.toInt) ++ "]"
  | port => Text.natural c.port.toNat
  | imagePath => String.ofList (Json.quoted c.imagePath.toList)
  | lenient => boolText c.lenient
where
  boolText (b : Bool) : String := if b then "true" else "false"

/-- A whole number between the given bounds. -/
def between (low high : Int) (v : Json.Value) : Option Int :=
  match v.integer? with
  | some i => if low ≤ i ∧ i ≤ high then some i else none
  | none => none

def unsigned16? (v : Json.Value) : Option UInt16 :=
  (between 0 65535 v).map fun i => UInt16.ofNat i.toNat

def unsigned32? (v : Json.Value) : Option UInt32 :=
  (between 0 4294967295 v).map fun i => UInt32.ofNat i.toNat

def signed16? (v : Json.Value) : Option Int16 :=
  (between (-32768) 32767 v).map Int16.ofInt

/-- An array of exactly four signed numbers. -/
def gates? : Json.Value → Option Gates
  | .array [a, b, c, d] => do
    let a ← signed16? a
    let b ← signed16? b
    let c ← signed16? c
    let d ← signed16? d
    some ⟨a, b, c, d⟩
  | _ => none

/-- The configuration with the field read from JSON, if the value is of the field's kind. -/
def setJson? (c : Config) (v : Json.Value) : Field → Option Config
  | samplePeriod => (unsigned32? v).map fun samplePeriod => { c with samplePeriod }
  | logPeriod => (unsigned32? v).map fun logPeriod => { c with logPeriod }
  | networkPeriod => (unsigned32? v).map fun networkPeriod => { c with networkPeriod }
  | blinkRate => (unsigned16? v).map fun blinkRate => { c with blinkRate }
  | fahrenheit => v.bool?.map fun fahrenheit => { c with fahrenheit }
  | defaultGates => (gates? v).map fun defaultGates => { c with defaultGates }
  | port => (unsigned16? v).map fun port => { c with port }
  | imagePath => v.text?.map fun imagePath => { c with imagePath }
  | lenient => v.bool?.map fun lenient => { c with lenient }

/-- The field's value in packed form. -/
def pack (c : Config) : Field → List UInt8
  | samplePeriod => Binary.unsigned32 c.samplePeriod
  | logPeriod => Binary.unsigned32 c.logPeriod
  | networkPeriod => Binary.unsigned32 c.networkPeriod
  | blinkRate => Binary.unsigned16 c.blinkRate
  | fahrenheit => Binary.flag c.fahrenheit
  | defaultGates => c.defaultGates.toList.flatMap Binary.signed16
  | port => Binary.unsigned16 c.port
  | imagePath => Binary.text c.imagePath
  | lenient => Binary.flag c.lenient

/-- Four packed numbers. -/
def readGates : Binary.Reader Gates := do
  let a ← Binary.readSigned16
  let b ← Binary.readSigned16
  let c ← Binary.readSigned16
  let d ← Binary.readSigned16
  pure ⟨a, b, c, d⟩

/-- Reads the packed field into a configuration. -/
def unpack (c : Config) : Field → Binary.Reader Config
  | samplePeriod => do
    let samplePeriod ← Binary.readUnsigned32
    pure { c with samplePeriod }
  | logPeriod => do
    let logPeriod ← Binary.readUnsigned32
    pure { c with logPeriod }
  | networkPeriod => do
    let networkPeriod ← Binary.readUnsigned32
    pure { c with networkPeriod }
  | blinkRate => do
    let blinkRate ← Binary.readUnsigned16
    pure { c with blinkRate }
  | fahrenheit => do
    let fahrenheit ← Binary.readFlag
    pure { c with fahrenheit }
  | defaultGates => do
    let defaultGates ← readGates
    pure { c with defaultGates }
  | port => do
    let port ← Binary.readUnsigned16
    pure { c with port }
  | imagePath => do
    let imagePath ← Binary.readText
    pure { c with imagePath }
  | lenient => do
    let lenient ← Binary.readFlag
    pure { c with lenient }

end Field

/-- The packed form: the fields in order, with nothing between them. -/
def toBytes (c : Config) : List UInt8 := Field.all.flatMap (Field.pack c)

/-- Reads a packed configuration. -/
def read : Binary.Reader Config := Field.all.foldlM Field.unpack Config.default

/-- The configuration at the front of the given bytes. -/
def ofBytes? (bytes : List UInt8) : Option Config := (read.run bytes).map (·.1)

end ClimateStation.Config
