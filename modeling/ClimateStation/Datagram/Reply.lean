/-! The text of an outgoing datagram, which holds at most 1024 bytes. Text that does not fit is cut
at a character, and nothing is added after the cut. -/
namespace ClimateStation.Datagram

/-- The most bytes of a reply. -/
def replyLimit : Nat := 1024

structure Reply where
  text : String
  /-- Some text did not fit. -/
  cut : Bool
  deriving DecidableEq, Repr

namespace Reply

def empty : Reply := ⟨"", false⟩

def size (r : Reply) : Nat := r.text.utf8ByteSize

def isEmpty (r : Reply) : Bool := r.size == 0

/-- Adds a character if it fits and nothing was cut before. -/
def push (r : Reply) (c : Char) : Reply :=
  if r.cut then r
  else if r.size + c.utf8Size ≤ replyLimit then { r with text := r.text.push c }
  else { r with cut := true }

def write (r : Reply) (text : String) : Reply := text.toList.foldl push r

def writeLine (r : Reply) (line : String) : Reply := (r.write line).write "\r\n"

/-- The reply that consists of the given lines. -/
def ofLines (lines : List String) : Reply := lines.foldl writeLine empty

/-- Writing in two pieces is writing at once. -/
theorem write_append (r : Reply) (s t : String) : r.write (s ++ t) = (r.write s).write t := by
  simp [write, String.toList_append]

end Reply

end ClimateStation.Datagram
