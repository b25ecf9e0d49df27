import ClimateStation.Command.Numeral
import ClimateStation.Command.Symbol

/-! Token sequences: at most eight values, with a mark after the last. Operand bytes share the space
with the codes of symbols; the position decides how a value is read. `Sequence.ofText` reads a line
of text; the first fault met is kept, and reading goes on after it. -/
namespace ClimateStation.Command
open Text

/-- Strict reading refuses a text with a bad word; lenient reading drops the word. -/
inductive Strictness
  | strict
  | lenient
  deriving DecidableEq, Repr

/-- The values before the closing mark, and the first fault met while they were gathered. -/
structure Sequence where
  values : List UInt8
  fault : Option InputError
  deriving DecidableEq, Repr

namespace Sequence

/-- The places of a sequence, the closing mark not counted: the longest command is
`set time` or `set date` with three operands. -/
def capacity : Nat := 8

/-- The most significant characters of a text. -/
def textLimit : Nat := 22

def empty : Sequence := ⟨[], none⟩

def length (s : Sequence) : Nat := s.values.length

/-- Every value, the closing mark included. -/
def toList (s : Sequence) : List UInt8 := s.values ++ [Symbol.endOfLine.code]

/-- Only the first fault is kept. -/
def withFault (s : Sequence) (fault : InputError) : Sequence :=
  { s with fault := s.fault.or (some fault) }

/-- A value that finds no place is dropped and leaves a fault. -/
def push (s : Sequence) (v : UInt8) : Sequence :=
  if s.values.length < capacity then { s with values := s.values ++ [v] }
  else s.withFault .sequenceFull

def pushAll (s : Sequence) (vs : List UInt8) : Sequence := vs.foldl push s

def ofValues (vs : List UInt8) : Sequence := empty.pushAll vs

/-- An operand takes one byte if that is enough and two bytes otherwise. -/
def operand (v : UInt16) : List UInt8 :=
  if v < 256 then [Symbol.byte.code, v.toUInt8]
  else [Symbol.word.code, UInt8.ofNat (v.toNat / 256), UInt8.ofNat (v.toNat % 256)]

/-- The state of reading: the sequence so far, and whether a word before took an operand. -/
abbrev Reading := Sequence × Bool

/-- Reads one word in small letters. -/
def addWord (mode : Strictness) (r : Reading) (word : List UInt8) : Reading :=
  match Symbol.ofWord? word with
  | some symbol => (r.1.push symbol.code, r.2 || symbol.takesOperand)
  | none =>
    if r.2 then
      match Numeral.parse word, mode with
      | .ok v, _ => (r.1.pushAll (operand v), r.2)
      | .error cause, .strict => (r.1.withFault (.numeral cause), r.2)
      | .error _, .lenient => r
    else match mode with
      | .strict => (r.1.withFault .unknownWord, r.2)
      | .lenient => r

/-- Reads a text: what lies beyond the limit is never looked at, and faults a strict reading. -/
def ofText (mode : Strictness) (input : List UInt8) : Sequence :=
  let text := significant input
  let start :=
    if mode = .strict ∧ textLimit < text.length then empty.withFault .tooLong else empty
  (((words (text.take textLimit)).map (·.map lower)).foldl (addWord mode) (start, false)).1

end Sequence

end ClimateStation.Command
