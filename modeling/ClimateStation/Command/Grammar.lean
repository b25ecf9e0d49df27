import ClimateStation.Command.Basic
import ClimateStation.Command.Error
import ClimateStation.Command.Sequence

/-! The grammar of token sequences. The first value selects a family of commands, and each family
reads the positions after it. With `n` for `BYTE v` or `WORD hi lo`, the families are

  LED, RGB      nothing; ON, OFF, BLINK; RED, GREEN, YELLOW; BYTE r BYTE g BYTE b
  DHT           nothing; MONITOR; ALARM; LOG; LOG INFO; LOG CLEAR
  TIME, DATE    nothing
  SET           TIME or DATE and three bytes; BLINK n; DHT SCALE BYTE f; ALARM BYTE i n
  VERSION, HELP nothing

A refusal names the first position that fits no command. -/
namespace ClimateStation.Command

namespace Sequence

/-- The value at a position; beyond the last value stands the closing mark. -/
def valueAt (s : Sequence) (i : Nat) : UInt8 := s.values.getD i Symbol.endOfLine.code

def unexpectedAt (s : Sequence) (i : Nat) : CommandError := .unexpected i (s.valueAt i)

def symbolAt (s : Sequence) (i : Nat) : Except CommandError Symbol :=
  match Symbol.ofCode? (s.valueAt i) with
  | some symbol => .ok symbol
  | none => .error (s.unexpectedAt i)

def expectAt (s : Sequence) (i : Nat) (symbol : Symbol) : Except CommandError Unit :=
  if s.valueAt i = symbol.code then .ok () else .error (s.unexpectedAt i)

/-- An operand byte; the closing mark is none. -/
def operandAt (s : Sequence) (i : Nat) : Except CommandError UInt8 :=
  if i < s.length then .ok (s.valueAt i) else .error (s.unexpectedAt i)

/-- `BYTE v`. -/
def byteAt (s : Sequence) (i : Nat) : Except CommandError UInt8 := do
  s.expectAt i .byte
  s.operandAt (i + 1)

/-- `BYTE v` or `WORD hi lo`, and the position after it. -/
def numberAt (s : Sequence) (i : Nat) : Except CommandError (UInt16 × Nat) := do
  match ← s.symbolAt i with
  | .byte =>
    let v ← s.operandAt (i + 1)
    pure (v.toUInt16, i + 2)
  | .word =>
    let hi ← s.operandAt (i + 1)
    let lo ← s.operandAt (i + 2)
    pure (UInt16.ofNat (hi.toNat * 256 + lo.toNat), i + 3)
  | _ => .error (s.unexpectedAt i)

/-- Accepts a command if nothing follows before the given position. -/
def finishAt (s : Sequence) (i : Nat) (c : Command) : Except CommandError Command :=
  if i = s.length then .ok c else .error (s.unexpectedAt i)

def lightFamily (s : Sequence) : Except CommandError Command := do
  match ← s.symbolAt 1 with
  | .endOfLine => pure .lightStatus
  | .on => s.finishAt 2 (.lightMode .on)
  | .off => s.finishAt 2 (.lightMode .off)
  | .blink => s.finishAt 2 (.lightMode .blink)
  | .red => s.finishAt 2 (.lightColour .pureRed)
  | .green => s.finishAt 2 (.lightColour .pureGreen)
  | .yellow => s.finishAt 2 (.lightColour .yellow)
  | .byte =>
    let r ← s.byteAt 1
    let g ← s.byteAt 3
    let b ← s.byteAt 5
    s.finishAt 7 (.lightColour ⟨r, g, b⟩)
  | _ => .error (s.unexpectedAt 1)

def logFamily (s : Sequence) : Except CommandError Command := do
  match ← s.symbolAt 2 with
  | .endOfLine => pure .logDump
  | .info => s.finishAt 3 .logInfo
  | .clear => s.finishAt 3 .logClear
  | _ => .error (s.unexpectedAt 2)

def climateFamily (s : Sequence) : Except CommandError Command := do
  match ← s.symbolAt 1 with
  | .endOfLine => pure .climateStatus
  | .monitor => s.finishAt 2 .climateMonitor
  | .alarm => s.finishAt 2 .alarmStatus
  | .log => s.logFamily
  | _ => .error (s.unexpectedAt 1)

/-- Three operand bytes and the end, for a time or a date. -/
def threeBytes (s : Sequence) (make : UInt8 → UInt8 → UInt8 → Command) :
    Except CommandError Command := do
  let a ← s.byteAt 2
  let b ← s.byteAt 4
  let c ← s.byteAt 6
  s.finishAt 8 (make a b c)

def setFamily (s : Sequence) : Except CommandError Command := do
  match ← s.symbolAt 1 with
  | .time => s.threeBytes .setTime
  | .date => s.threeBytes .setDate
  | .blink =>
    let (rate, next) ← s.numberAt 2
    s.finishAt next (.setBlinkRate rate)
  | .dht =>
    s.expectAt 2 .scale
    let flag ← s.byteAt 3
    s.finishAt 5 (.setScale flag)
  | .alarm =>
    let index ← s.byteAt 2
    let (value, next) ← s.numberAt 4
    s.finishAt next (.setGate index value)
  | _ => .error (s.unexpectedAt 1)

/-- The command that a sequence without faults stands for. -/
def family (s : Sequence) : Except CommandError Command :=
  let first := s.valueAt 0
  match Symbol.ofCode? first with
  | some .led | some .rgb => s.lightFamily
  | some .dht => s.climateFamily
  | some .time | some .date => s.finishAt 1 .clockStatus
  | some .set => s.setFamily
  | some .version => s.finishAt 1 .version
  | some .help => s.finishAt 1 .help
  | _ => .error (.unknownFamily first)

end Sequence

def ofSequence (s : Sequence) : Except CommandError Command :=
  match s.fault with
  | some fault => .error (.malformed fault)
  | none => if s.values.isEmpty then .error .empty else s.family

def ofText (mode : Strictness) (input : List UInt8) : Except CommandError Command :=
  ofSequence (Sequence.ofText mode input)

end ClimateStation.Command
