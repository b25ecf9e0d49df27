import ClimateStation.Command.Error
import ClimateStation.Text.Ascii

/-! Decimal operands of at most five digits. The limit is checked after all digits are read, so
`99999` is an overflow that carries its value, and leading zeros count as digits. -/
namespace ClimateStation.Command.Numeral
open Text

def maxDigits : Nat := 5

/-- The value of a list of decimal digits, most significant first. -/
def value (digits : List UInt8) : Nat :=
  digits.foldl (fun v b => v * 10 + digitValue b) 0

/-- Reads an operand between 0 and 65535. -/
def parse (word : List UInt8) : Except NumeralError UInt16 :=
  let digits := word.takeWhile isDigit
  if maxDigits < word.length then .error .tooLong
  else if digits.length < word.length then .error (.notANumber (value digits))
  else if value word < 65536 then .ok (UInt16.ofNat (value word))
  else .error (.overflow (value word))

example : parse (bytesOf ['6', '5', '5', '3', '5']) = .ok 65535 := rfl
example : parse (bytesOf ['1', '2', 'a', '3']) = .error (.notANumber 12) := rfl
example : parse (bytesOf ['9', '9', '9', '9', '9']) = .error (.overflow 99999) := rfl
example : parse [] = .ok 0 := rfl

end ClimateStation.Command.Numeral
