/-! JSON values. A number keeps what a whole number needs: its sign, its whole part, and whether
that is all of it. A string keeps its code points, because an escape can name half of a surrogate
pair; only a string without lone halves is a text. -/
namespace ClimateStation.Json

structure Number where
  negative : Bool
  whole : Nat
  /-- There is neither a fraction nor an exponent. -/
  plain : Bool
  deriving DecidableEq, Repr

/-- A whole number is written without fraction and exponent; zero has no sign. -/
def Number.integer? (n : Number) : Option Int :=
  if n.plain = false ∨ (n.negative = true ∧ n.whole = 0) then none
  else some (if n.negative then -(n.whole : Int) else n.whole)

/-- The code points of a string, lone halves of surrogate pairs included. -/
abbrev Points := List Nat

def isHighHalf (point : Nat) : Bool := 0xD800 ≤ point && point < 0xDC00

def isLowHalf (point : Nat) : Bool := 0xDC00 ≤ point && point < 0xE000

/-- The character that two halves stand for. -/
def joinHalves (high low : Nat) : Char :=
  Char.ofNat (0x10000 + (high - 0xD800) * 0x400 + (low - 0xDC00))

/-- The characters of a string: two halves are joined, and a lone half is refused. -/
def chars? : Points → Option (List Char)
  | [] => some []
  | p :: rest =>
    if isHighHalf p then
      match rest with
      | q :: rest => if isLowHalf q then (chars? rest).map (joinHalves p q :: ·) else none
      | [] => none
    else if isLowHalf p then none
    else (chars? rest).map (Char.ofNat p :: ·)

inductive Value
  | null
  | bool (b : Bool)
  | number (n : Number)
  | string (points : Points)
  | array (items : List Value)
  | object (members : List (Points × Value))
  deriving Repr

def Value.bool? : Value → Option Bool
  | .bool b => some b
  | _ => none

def Value.integer? : Value → Option Int
  | .number n => n.integer?
  | _ => none

def Value.text? : Value → Option String
  | .string points => (chars? points).map String.ofList
  | _ => none

/-- How a character is written inside quotes: quote and backslash take a backslash, control
characters their short escape or their number, and all others stand for themselves. -/
def escaped (c : Char) : List Char :=
  if c = '"' then ['\\', '"']
  else if c = '\\' then ['\\', '\\']
  else if c.toNat = 8 then ['\\', 'b']
  else if c.toNat = 9 then ['\\', 't']
  else if c.toNat = 10 then ['\\', 'n']
  else if c.toNat = 12 then ['\\', 'f']
  else if c.toNat = 13 then ['\\', 'r']
  else if c.toNat < 32 then
    ['\\', 'u', '0', '0', Nat.digitChar (c.toNat / 16), Nat.digitChar (c.toNat % 16)]
  else [c]

/-- A text in quotes. -/
def quoted (text : List Char) : List Char := '"' :: text.flatMap escaped ++ ['"']

end ClimateStation.Json
