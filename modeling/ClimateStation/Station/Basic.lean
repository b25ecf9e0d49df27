import ClimateStation.Alarm.Level
import ClimateStation.Climate.Reading
import ClimateStation.Command.Sequence
import ClimateStation.Config.Basic
import ClimateStation.Light.Bank
import ClimateStation.Log.Ring
import ClimateStation.Network.Settings
import ClimateStation.Terminal.Editor
import ClimateStation.Timer

/-! The station itself: everything it keeps in memory between two passes of its main loop. -/
namespace ClimateStation

/-- What the station knows of its network. -/
structure Link where
  up : Bool
  /-- A datagram has come in since the start. -/
  learned : Bool
  settings : Network.Settings
  /-- Datagrams received since the start, counted modulo 2 ^ 32. -/
  received : UInt32
  /-- Datagrams sent since the start, counted modulo 2 ^ 32. -/
  sent : UInt32
  deriving DecidableEq, Repr

def Link.initial : Link := ⟨false, false, .initial, 0, 0⟩

structure Station where
  config : Config
  lights : Light.Bank
  display : Climate.Display
  level : Alarm.Level
  gates : Alarm.Gates
  log : Log.Ring
  link : Link
  editor : Terminal.Editor
  sampleTimer : Timer
  logTimer : Timer
  networkTimer : Timer
  /-- The strip may show something else than the lights. -/
  stale : Bool

/-- Why the station does not start. -/
inductive StartError
  | config (cause : ConfigError)
  | storage (cause : Storage.StorageError)
  deriving DecidableEq, Repr

def StartError.message : StartError → String
  | .config cause => "config: " ++ cause.message
  | .storage cause => "storage: " ++ cause.message

namespace Station

/-- A station that has not read its memory yet. -/
def initial (c : Config) : Station :=
  { config := c
    lights := .initial c.blinkRate
    display := .initial c.fahrenheit
    level := .comfortable
    gates := c.defaultGates
    log := .empty
    link := .initial
    editor := .fresh
    sampleTimer := .every c.samplePeriod.toNat
    logTimer := .every c.logPeriod.toNat
    networkTimer := .every c.networkPeriod.toNat
    stale := true }

/-- How the station reads commands. -/
def strictness (s : Station) : Command.Strictness := if s.config.lenient then .lenient else .strict

end Station

end ClimateStation
