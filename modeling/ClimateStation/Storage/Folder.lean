import ClimateStation.Text.Decimal

/-! A folder of files, and the rules by which a path leads to a place for a file. Folders inside the
folder are empty. Of what lies outside nothing is known by name, so a path may end there with a new
file but cannot pass through. -/
namespace ClimateStation.Storage

/-- What the operating system says when it refuses. -/
inductive SystemError
  /-- The path holds a character that no path can hold. -/
  | badPath
  /-- A reason, by its number and its text. -/
  | reason (number : Nat) (text : String)
  deriving DecidableEq, Repr

namespace SystemError

def missing : SystemError := .reason 2 "No such file or directory"
def notFolder : SystemError := .reason 20 "Not a directory"
def isFolder : SystemError := .reason 21 "Is a directory"
def nameTooLong : SystemError := .reason 36 "File name too long"

def message : SystemError → String
  | .badPath => "file name contained an unexpected NUL byte"
  | .reason number text => text ++ " (os error " ++ Text.natural number ++ ")"

end SystemError

inductive Entry
  | file (content : List UInt8)
  | folder
  deriving DecidableEq, Repr

structure Folder where
  entries : List (String × Entry)
  deriving DecidableEq, Repr

namespace Folder

def get? (d : Folder) (name : String) : Option Entry := d.entries.lookup name

def content? (d : Folder) (name : String) : Option (List UInt8) :=
  match d.get? name with
  | some (.file content) => some content
  | _ => none

/-- Puts a file under a name, in place of what was there. -/
def put (d : Folder) (name : String) (content : List UInt8) : Folder :=
  ⟨(name, .file content) :: d.entries⟩

def nameLimit : Nat := 255

def pathLimit : Nat := 4095

/-- Where a path has led so far. -/
inductive Spot
  | here
  /-- In a folder inside this one. -/
  | inside
  | outside
  deriving DecidableEq, Repr

def enter (d : Folder) (spot : Spot) (name : String) : Except SystemError Spot :=
  if name = "" ∨ name = "." then .ok spot
  else if name = ".." then .ok (match spot with | .inside => .here | _ => .outside)
  else if nameLimit < name.utf8ByteSize then .error .nameTooLong
  else match spot, d.get? name with
    | .here, some .folder => .ok .inside
    | .here, some (.file _) => .error .notFolder
    | _, _ => .error .missing

/-- The place for a file at the end of a path: its name, if it lies in this folder. -/
def place (d : Folder) (spot : Spot) (name : String) : Except SystemError (Option String) :=
  if name = "." ∨ name = ".." then .error .isFolder
  else if nameLimit < name.utf8ByteSize then .error .nameTooLong
  else match spot, d.get? name with
    | .here, some .folder => .error .isFolder
    | .here, _ => .ok (some name)
    | _, _ => .ok none

/-- Follows a path to the place for a file, which may exist or not. A path that ends in a slash
leads to a folder, whatever is there. -/
def locate (d : Folder) (path : String) : Except SystemError (Option String) :=
  if '\x00' ∈ path.toList then .error .badPath
  else if path = "" then .error .missing
  else if pathLimit < path.utf8ByteSize then .error .nameTooLong
  else
    let names := path.splitOn "/"
    match names.reverse.dropWhile (· = "") with
    | [] => .error .isFolder
    | last :: before => do
      let start := if names.head? = some "" then Spot.outside else Spot.here
      let spot ← before.reverse.foldlM d.enter start
      if names.getLast? = some "" then .error .isFolder else d.place spot last

end Folder

end ClimateStation.Storage
