import ClimateStation.Alarm.Gates

/-! The configuration of the station, its defaults, and the checks that a configuration must pass
before it is used or saved. The first check that fails is reported. -/
namespace ClimateStation
open Alarm

structure Config where
  /-- Milliseconds from one sample to the next. -/
  samplePeriod : UInt32
  /-- Milliseconds from one log entry to the next. -/
  logPeriod : UInt32
  /-- Milliseconds from one look at the network to the next. -/
  networkPeriod : UInt32
  /-- The half period of blinking at the start, in milliseconds. -/
  blinkRate : UInt16
  /-- Temperatures are shown in Fahrenheit. -/
  fahrenheit : Bool
  /-- The gates used while none are stored. -/
  defaultGates : Gates
  /-- The port on which commands come in. -/
  port : UInt16
  /-- The file that stands for the memory. -/
  imagePath : String
  /-- Bad words are dropped instead of refused. -/
  lenient : Bool
  deriving DecidableEq, Repr

namespace Config

def default : Config :=
  { samplePeriod := 5000
    logPeriod := 900000
    networkPeriod := 50
    blinkRate := 500
    fahrenheit := true
    defaultGates := ⟨60, 70, 80, 90⟩
    port := 8888
    imagePath := "envnode.eeprom"
    lenient := false }

/-- What a configuration can do wrong. -/
inductive Violation
  | samplePeriodZero
  | logPeriodTooShort
  | networkPeriodZero
  | blinkRateZero
  | gatesNotAscending
  | imagePathEmpty
  deriving DecidableEq, Repr

namespace Violation

def message : Violation → String
  | samplePeriodZero => "sample_interval_ms must be > 0"
  | logPeriodTooShort => "log_interval_ms must be >= sample_interval_ms"
  | networkPeriodZero => "network_poll_interval_ms must be > 0"
  | blinkRateZero => "blink_rate_ms must be > 0"
  | gatesNotAscending => "default_alarm_gates must be ascending"
  | imagePathEmpty => "eeprom_path must not be empty"

/-- The order in which a configuration is checked. -/
def all : List Violation :=
  [samplePeriodZero, logPeriodTooShort, networkPeriodZero, blinkRateZero, gatesNotAscending,
    imagePathEmpty]

end Violation

/-- The configuration does this wrong. -/
def Violates (c : Config) : Violation → Prop
  | .samplePeriodZero => c.samplePeriod = 0
  | .logPeriodTooShort => c.logPeriod < c.samplePeriod
  | .networkPeriodZero => c.networkPeriod = 0
  | .blinkRateZero => c.blinkRate = 0
  | .gatesNotAscending => ¬ c.defaultGates.Ascending
  | .imagePathEmpty => c.imagePath = ""

instance (c : Config) (v : Violation) : Decidable (c.Violates v) := by
  cases v <;> unfold Violates <;> infer_instance

def violation? (c : Config) : Option Violation := Violation.all.find? fun v => c.Violates v

example : default.violation? = none := by decide

/-- Nothing is wrong with a configuration exactly if it passes every check. -/
theorem violation?_eq_none_iff (c : Config) : c.violation? = none ↔ ∀ v, ¬ c.Violates v := by
  simp only [violation?, List.find?_eq_none, decide_eq_true_eq]
  refine ⟨fun h v => h v (by cases v <;> decide), fun h v _ => h v⟩

end Config

/-- Why a configuration cannot be used or saved. -/
inductive ConfigError
  /-- There is no file at the path. -/
  | notFound
  /-- The file holds no configuration. -/
  | corrupted
  /-- The configuration fails a check. -/
  | invalid (violation : Config.Violation)
  /-- The file cannot be read or written. -/
  | io
  deriving DecidableEq, Repr

def ConfigError.message : ConfigError → String
  | .notFound => "config not found"
  | .corrupted => "config corrupted"
  | .invalid violation => "validation failed: " ++ violation.message
  | .io => "I/O error"

/-- Refuses a configuration that fails a check. -/
def Config.validate (c : Config) : Except ConfigError Unit :=
  match c.violation? with
  | some v => .error (.invalid v)
  | none => .ok ()

end ClimateStation
