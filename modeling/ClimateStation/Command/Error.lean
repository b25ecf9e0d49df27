import ClimateStation.Text.Decimal

/-! Why a command is refused before it is carried out: a word that is no number, a text that has no
token sequence, or a sequence that is no command. Each cause has one wording. -/
namespace ClimateStation.Command

inductive NumeralError
  /-- More than five characters. -/
  | tooLong
  /-- A character is no digit; the digits before it have the value given. -/
  | notANumber (leading : Nat)
  /-- The value is above 65535. -/
  | overflow (value : Nat)
  deriving DecidableEq, Repr

def NumeralError.message : NumeralError → String
  | .tooLong => "Max length of number exceeded."
  | .notANumber _ => "Non-number entered."
  | .overflow _ => "Number exceeds limit."

inductive InputError
  /-- The text has more significant characters than the limit. -/
  | tooLong
  /-- A word is no keyword, and no operand is due. -/
  | unknownWord
  /-- An operand is due, and the word is no number. -/
  | numeral (cause : NumeralError)
  /-- The command needs more places than a sequence has. -/
  | sequenceFull
  deriving DecidableEq, Repr

def InputError.message : InputError → String
  | .tooLong => "Input too long."
  | .unknownWord => "Unrecognised word."
  | .numeral cause => cause.message
  | .sequenceFull => "Too many arguments."

inductive CommandError
  /-- There is nothing to carry out. -/
  | empty
  /-- No command starts with this value. -/
  | unknownFamily (code : UInt8)
  /-- The value at this position fits no command that starts as this one does. -/
  | unexpected (position : Nat) (found : UInt8)
  /-- The text has no sound token sequence. -/
  | malformed (fault : InputError)
  deriving DecidableEq, Repr

def CommandError.message : CommandError → String
  | .empty => "empty command"
  | .unknownFamily code => "unknown leading token " ++ Text.natural code.toNat
  | .unexpected position found =>
    "unexpected token " ++ Text.natural found.toNat ++ " at position " ++ Text.natural position
  | .malformed fault => "malformed input: " ++ fault.message

/-- The line that follows every refused command. -/
def unknownCommand : String :=
  "Incorrect or unknown commands/options. Run help for details."

/-- The lines that answer a refused command: a fault of the text is named first. -/
def CommandError.report : CommandError → List String
  | .malformed fault => [fault.message, unknownCommand]
  | _ => [unknownCommand]

end ClimateStation.Command
