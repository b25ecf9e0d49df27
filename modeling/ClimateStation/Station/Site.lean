import ClimateStation.Event
import ClimateStation.Station.Basic

/-! A station at its site: with the memory and the clock it uses, the keys that wait at its console,
and a record of what it did. The record tells what can be seen from outside, and the occasions for
it: samples, lines handed over, datagrams taken in. -/
namespace ClimateStation
open Storage Clock

structure Datagram where
  sender : Network.Endpoint
  payload : List UInt8
  deriving DecidableEq, Repr

/-- Why the station sends a datagram. -/
inductive Purpose
  | alarm
  | reply
  deriving DecidableEq, Repr

/-- What the station does, and on what occasion. -/
inductive Effect
  /-- Text appears on the console. -/
  | print (text : String)
  | show (frame : Frame)
  | report (event : Event)
  /-- The sensor was read. -/
  | sample (outcome : Except Climate.SensorError Climate.Reading)
  /-- An entry was given to the log, which may fail to keep it. -/
  | logAttempt (entry : Log.Entry)
  | setClock (t : Timestamp)
  /-- A line typed on the console was carried out. -/
  | submitted (line : List UInt8)
  /-- The key waited for was pressed. -/
  | dismissed
  | received (datagram : Datagram)
  /-- A datagram was handed to the network, which accepted it or not. -/
  | send (purpose : Purpose) (peer : Network.Endpoint) (text : String) (accepted : Bool)

structure Site where
  station : Station
  device : Device
  clock : Timestamp
  /-- Bytes typed on the console that were not looked at yet. -/
  keys : List UInt8
  /-- What was done, the latest last. -/
  effects : List Effect

namespace Site

/-- A station that has not started, on the given memory. -/
def initial (c : Config) (device : Device) (clock : Timestamp) : Site :=
  ⟨.initial c, device, clock, [], []⟩

def note (s : Site) (e : Effect) : Site := { s with effects := s.effects ++ [e] }

def report (s : Site) (e : Event) : Site := s.note (.report e)

/-- Shows text on the console; empty text leaves no trace. -/
def print (s : Site) (text : String) : Site := if text.isEmpty then s else s.note (.print text)

def printLine (s : Site) (line : String) : Site := s.print (line ++ "\r\n")

def printPrompt (s : Site) : Site := s.print s.station.editor.prompt

def access (s : Site) (a : StateM Device α) : α × Site :=
  let (r, device) := a s.device
  (r, { s with device })

def setLights (s : Site) (lights : Light.Bank) : Site :=
  { s with station.lights := lights }

def setClock (s : Site) (t : Timestamp) : Site := { s with clock := t }.note (.setClock t)

/-- From now on the strip may be behind. -/
def markStale (s : Site) : Site := { s with station.stale := true }

/-- Brings the strip up to date. -/
def refresh (s : Site) : Site :=
  if s.station.stale then { s with station.stale := false }.note (.show s.station.lights.frame)
  else s

end Site

end ClimateStation
