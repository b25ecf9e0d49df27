import ClimateStation.Binary.Codec
import ClimateStation.Storage.Window

/-! Network addresses, and the network settings that outlive a restart. Stored, the settings are a
length byte and their packed form; what cannot be read counts as the settings of a new station. -/
namespace ClimateStation.Network
open Storage

structure Address where
  a : UInt8
  b : UInt8
  c : UInt8
  d : UInt8
  deriving DecidableEq, Repr, Inhabited

namespace Address

def unspecified : Address := ⟨0, 0, 0, 0⟩

def toBytes (x : Address) : List UInt8 := [x.a, x.b, x.c, x.d]

/-- Four numbers with points between them. -/
def text (x : Address) : String :=
  Text.natural x.a.toNat ++ "." ++ Text.natural x.b.toNat ++ "." ++ Text.natural x.c.toNat
    ++ "." ++ Text.natural x.d.toNat

def read : Binary.Reader Address := do
  let a ← Binary.Reader.byte
  let b ← Binary.Reader.byte
  let c ← Binary.Reader.byte
  let d ← Binary.Reader.byte
  pure ⟨a, b, c, d⟩

end Address

/-- An address and a port: where a datagram comes from or goes to. -/
structure Endpoint where
  address : Address
  port : UInt16
  deriving DecidableEq, Repr, Inhabited

def Endpoint.text (e : Endpoint) : String := e.address.text ++ ":" ++ Text.natural e.port.toNat

structure Settings where
  /-- Where alarms are sent; nowhere, while the address is unspecified or the port is 0. -/
  target : Endpoint
  localAddress : Address
  subnet : Address
  gateway : Address
  deriving DecidableEq, Repr

namespace Settings

def initial : Settings :=
  { target := ⟨.unspecified, 0⟩
    localAddress := ⟨192, 168, 1, 177⟩
    subnet := ⟨255, 255, 255, 0⟩
    gateway := ⟨192, 168, 1, 1⟩ }

/-- Where alarms are sent, if that is known. -/
def destination (s : Settings) : Option Endpoint :=
  if s.target.address = .unspecified ∨ s.target.port = 0 then none else some s.target

def toBytes (s : Settings) : List UInt8 :=
  s.target.address.toBytes ++ Binary.unsigned16 s.target.port ++ s.localAddress.toBytes
    ++ s.subnet.toBytes ++ s.gateway.toBytes

def read : Binary.Reader Settings := do
  let address ← Address.read
  let port ← Binary.readUnsigned16
  let localAddress ← Address.read
  let subnet ← Address.read
  let gateway ← Address.read
  pure ⟨⟨address, port⟩, localAddress, subnet, gateway⟩

/-- The settings at the front of the given bytes. -/
def ofBytes? (bytes : List UInt8) : Option Settings := (read.run bytes).map (·.1)

/-- The bytes set aside for the stored form. -/
def regionSize : Nat := 26

/-- The settings in a region of `regionSize` bytes. -/
def ofRegion (bytes : List UInt8) : Settings :=
  let length := (bytes.getD 0 0).toNat
  if 1 + length ≤ regionSize then (ofBytes? (slice bytes 1 length)).getD initial else initial

/-- The length byte and the packed form. -/
def toRegion (s : Settings) : List UInt8 := UInt8.ofNat s.toBytes.length :: s.toBytes

def load (place : Place) : Access Settings := do
  pure (ofRegion (← place.read 0 regionSize))

/-- Writes the length and the packed form; bytes behind them stay. -/
def store (s : Settings) (place : Place) : Access Unit := place.write 0 s.toRegion

end Settings

end ClimateStation.Network
