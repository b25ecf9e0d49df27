import ClimateStation.Text.Ascii

/-! The line editor of the console, one byte at a time. Letters, digits, blanks and hyphens are kept
in small letters, up to 22 of them; backspace takes the last one away; a carriage return or a line
feed hands the line over, and the two together count once; the up arrow, sent as `ESC [ A`, brings
back the line handed over last. While the editor waits for a key, the next key is only reported. -/
namespace ClimateStation.Terminal
open Text

/-- The most characters a line can have. -/
def lineLimit : Nat := 22

def escape : UInt8 := 27
def bracket : UInt8 := 91
def arrowUp : UInt8 := 65
def carriageReturn : UInt8 := 13
def lineFeed : UInt8 := 10
def backspace : UInt8 := 8
def delete : UInt8 := 127

/-- Moves back, blanks the last character and moves back again. -/
def rubout : List UInt8 := [8, 32, 8]

def newline : List UInt8 := [13, 10]

/-- The bytes that a line may hold: letters, digits, space, tab and hyphen. -/
def isTypable (b : UInt8) : Bool := isAlphanumeric b || b == 32 || b == 9 || b == 45

/-- A key as the editor sees it, with escape sequences folded up. -/
inductive Key
  | up
  | byte (b : UInt8)
  deriving DecidableEq, Repr

/-- What a byte led to. -/
inductive Edit
  /-- Nothing to act on. -/
  | pending
  /-- A line that is not empty was handed over. -/
  | submit (line : List UInt8)
  /-- The key waited for was pressed. -/
  | dismissed
  deriving DecidableEq, Repr

structure Editor where
  line : List UInt8
  /-- The line handed over last. -/
  last : List UInt8
  /-- An escape sequence has begun. -/
  escaped : Bool
  /-- The byte before was a carriage return. -/
  afterReturn : Bool
  /-- The next key is only reported. -/
  waiting : Bool
  deriving DecidableEq, Repr

namespace Editor

def fresh : Editor := ⟨[], [], false, false, false⟩

def await (e : Editor) : Editor := { e with waiting := true }

/-- What is shown before the next line. -/
def prompt (e : Editor) : String :=
  if e.waiting then "Press any key to continue...\r\n" else "\r\n>"

/-- Folds escape sequences and drops a line feed after a carriage return. An escape sequence is
`ESC`, any mixture of further `ESC` and `[`, and one more byte; only an `A` there is a key. -/
def decode (e : Editor) (b : UInt8) : Option Key × Editor :=
  let next := { e with afterReturn := b == carriageReturn }
  if b = escape ∨ (e.escaped = true ∧ b = bracket) then (none, { next with escaped := true })
  else if e.escaped then
    (if b = arrowUp then some .up else none, { next with escaped := false })
  else if b = lineFeed ∧ e.afterReturn = true then (none, next)
  else (some (.byte b), next)

/-- Acts on a key: what it led to, what the terminal shows for it, and the editor after it. -/
def press (e : Editor) (key : Key) : Edit × List UInt8 × Editor :=
  match key with
  | .up =>
    (.pending, e.line.flatMap (fun _ => rubout) ++ e.last, { e with line := e.last })
  | .byte b =>
    if b = backspace ∨ b = delete then
      (.pending, if e.line.isEmpty then [] else rubout, { e with line := e.line.dropLast })
    else if b = carriageReturn ∨ b = lineFeed then
      if e.line.isEmpty then (.pending, newline, e)
      else (.submit e.line, newline, { e with line := [], last := e.line })
    else if isTypable b ∧ e.line.length < lineLimit then
      (.pending, [b], { e with line := e.line ++ [lower b] })
    else (.pending, [], e)

/-- A byte that reaches the editor: what it led to, the text shown for it, and the editor after it.
A terminal with local echo is sent no echo, but it is sent the prompt that follows an empty line. -/
def feed (localEcho : Bool) (e : Editor) (b : UInt8) : Edit × String × Editor :=
  match e.decode b with
  | (none, e) => (.pending, "", e)
  | (some key, e) =>
    if e.waiting then (.dismissed, "", { e with waiting := false, line := [] })
    else
      let (edit, shown, next) := e.press key
      let echo := if localEcho then "" else textOf shown
      let isReturn := key = .byte carriageReturn ∨ key = .byte lineFeed
      (edit, if isReturn ∧ e.line.isEmpty then echo ++ next.prompt else echo, next)

end Editor

end ClimateStation.Terminal
