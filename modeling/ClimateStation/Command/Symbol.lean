/-! The symbols of a token sequence and the words that stand for them. A word is known by its first
two characters and its length, so `lex` means the same as `led`; no two keywords share these three. -/
namespace ClimateStation.Command

inductive Symbol
  | off | on | blink
  | red | green | yellow
  | led | dht | rgb | set | version | help | time | date
  | log | clear | monitor | info | scale | alarm
  /-- One operand byte follows. -/
  | byte
  /-- Two operand bytes follow, the high one first. -/
  | word
  /-- Nothing follows. -/
  | endOfLine
  deriving DecidableEq, Repr

namespace Symbol

/-- The value that stands for a symbol in a sequence. -/
def code : Symbol → UInt8
  | off => 0
  | on => 1
  | blink => 2
  | red => 3
  | green => 4
  | yellow => 5
  | led => 9
  | dht => 10
  | rgb => 11
  | set => 12
  | version => 14
  | help => 15
  | time => 16
  | date => 17
  | log => 20
  | clear => 21
  | monitor => 22
  | info => 23
  | scale => 24
  | alarm => 25
  | byte => 26
  | word => 27
  | endOfLine => 63

def all : List Symbol :=
  [off, on, blink, red, green, yellow, led, dht, rgb, set, version, help, time, date,
    log, clear, monitor, info, scale, alarm, byte, word, endOfLine]

/-- The symbol with the given code, if there is one. -/
def ofCode? (code : UInt8) : Option Symbol := all.find? fun s => s.code == code

theorem mem_all (s : Symbol) : s ∈ all := by cases s <;> decide

@[simp] theorem ofCode?_code (s : Symbol) : ofCode? s.code = some s := by cases s <;> decide

theorem code_of_ofCode? {c : UInt8} {s : Symbol} (h : ofCode? c = some s) : s.code = c := by
  simpa using List.find?_some h

theorem code_injective {s t : Symbol} (h : s.code = t.code) : s = t := by
  have := congrArg ofCode? h
  simpa using this

/-- After one of these, a word that is no keyword is read as a number. -/
def takesOperand : Symbol → Bool
  | set | rgb | led | byte | word => true
  | _ => false

end Symbol

structure Keyword where
  spelling : List Char
  symbol : Symbol
  deriving DecidableEq, Repr

namespace Keyword

/-- What a keyword is known by: its first two characters and its length. -/
def key (k : Keyword) : Option (UInt8 × UInt8 × Nat) :=
  match k.spelling with
  | first :: second :: _ => some (first.toUInt8, second.toUInt8, k.spelling.length)
  | _ => none

def table : List Keyword :=
  [⟨['a', 'l', 'a', 'r', 'm'], .alarm⟩,
   ⟨['b', 'l', 'i', 'n', 'k'], .blink⟩,
   ⟨['c', 'l', 'e', 'a', 'r'], .clear⟩,
   ⟨['d', 'a', 't', 'e'], .date⟩,
   ⟨['d', 'h', 't'], .dht⟩,
   ⟨['g', 'r', 'e', 'e', 'n'], .green⟩,
   ⟨['h', 'e', 'l', 'p'], .help⟩,
   ⟨['i', 'n', 'f', 'o'], .info⟩,
   ⟨['l', 'e', 'd'], .led⟩,
   ⟨['l', 'o', 'g'], .log⟩,
   ⟨['m', 'o', 'n', 'i', 't', 'o', 'r'], .monitor⟩,
   ⟨['o', 'f', 'f'], .off⟩,
   ⟨['o', 'n'], .on⟩,
   ⟨['r', 'e', 'd'], .red⟩,
   ⟨['r', 'g', 'b'], .rgb⟩,
   ⟨['s', 'c', 'a', 'l', 'e'], .scale⟩,
   ⟨['s', 'e', 't'], .set⟩,
   ⟨['t', 'i', 'm', 'e'], .time⟩,
   ⟨['v', 'e', 'r', 's', 'i', 'o', 'n'], .version⟩,
   ⟨['y', 'e', 'l', 'l', 'o', 'w'], .yellow⟩]

/-- The keys of the table are all different, so a word stands for at most one symbol. -/
theorem key_nodup : (table.map key).Nodup := by decide

end Keyword

/-- The symbol that a word in small letters stands for. -/
def Symbol.ofWord? (word : List UInt8) : Option Symbol :=
  match word with
  | first :: second :: _ =>
    (Keyword.table.find? fun k => k.key == some (first, second, word.length)).map (·.symbol)
  | _ => none

end ClimateStation.Command
