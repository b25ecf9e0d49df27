import ClimateStation.Config.Field

/-! Configuration files. A file holds one JSON object, whose members override the defaults and may
come in any order, or an array of the fields in order, whose missing tail has the defaults. Unknown
members are skipped, while a field named twice spoils the file. A configuration is checked after it
is read and before it is written, and a file is written without blanks. -/
namespace ClimateStation.Config

/-- The text of a file that holds this configuration. -/
def toText (c : Config) : String :=
  let member (f : Field) : String :=
    String.ofList (Json.quoted f.name.toList) ++ ":" ++ Field.toJson c f
  "\x7b" ++ ",".intercalate (Field.all.map member) ++ "\x7d"

/-- Reads the members of an object into a configuration. `seen` holds the fields read before. -/
def ofMembers? (c : Config) (seen : List Field) : List (Json.Points × Json.Value) → Option Config
  | [] => some c
  | (key, v) :: rest => do
    let key ← Json.chars? key
    match Field.ofName? (String.ofList key) with
    | none => ofMembers? c seen rest
    | some f => if f ∈ seen then none else ofMembers? (← Field.setJson? c v f) (f :: seen) rest

/-- Reads the items of an array into the given fields, one after the other. -/
def ofItems? (c : Config) : List Field → List Json.Value → Option Config
  | _, [] => some c
  | [], _ :: _ => none
  | f :: fields, v :: rest => do ofItems? (← Field.setJson? c v f) fields rest

def ofJson? : Json.Value → Option Config
  | .object members => ofMembers? default [] members
  | .array items => ofItems? default Field.all items
  | _ => none

/-- The configuration that a text holds, before it is checked. -/
def ofText? (text : String) : Option Config := (Json.Value.ofText? text.toList).bind ofJson?

/-- What stands at the place of a configuration. -/
inductive Slot
  /-- No place was named. -/
  | unnamed
  /-- There is no file; one can be made or not. -/
  | absent (writable : Bool)
  | file (content : List UInt8)
  /-- There is something that is no file. -/
  | other
  deriving DecidableEq, Repr

namespace Slot

/-- Reads the configuration. Without a place, the defaults are used. -/
def load : Slot → Except ConfigError Config
  | .unnamed => .ok .default
  | .absent _ => .error .notFound
  | .other => .error .io
  | .file content =>
    match String.fromUTF8? (ByteArray.mk content.toArray) with
    | none => .error .io
    | some text =>
      match ofText? text with
      | none => .error .corrupted
      | some c =>
        match c.validate with
        | .ok _ => .ok c
        | .error e => .error e

/-- Writes the configuration. What fails changes nothing. -/
def save (slot : Slot) (c : Config) : Except ConfigError Unit × Slot :=
  match c.validate, slot with
  | .error e, _ => (.error e, slot)
  | .ok _, .file _ | .ok _, .absent true => (.ok (), .file c.toText.toUTF8.toList)
  | .ok _, _ => (.error .io, slot)

end Slot

end ClimateStation.Config
