/-! Decimal text of whole numbers: no sign but a minus, no leading zeros unless a width is asked
for. -/
namespace ClimateStation.Text

/-- The decimal digits of a natural number, most significant first. -/
def natural (n : Nat) : String := String.ofList (Nat.toDigits 10 n)

/-- A negative number is written as a minus sign and its magnitude. -/
def integer (i : Int) : String :=
  if i < 0 then "-" ++ natural i.natAbs else natural i.natAbs

/-- At least `width` digits, filled up with zeros on the left. -/
def padded (width n : Nat) : String :=
  let digits := Nat.toDigits 10 n
  String.ofList (List.replicate (width - digits.length) '0' ++ digits)

example : natural 0 = "0" ∧ natural 65535 = "65535" := by decide
example : integer (-40) = "-40" ∧ integer 7 = "7" := by decide
example : padded 2 5 = "05" ∧ padded 2 255 = "255" ∧ padded 4 2000 = "2000" := by decide

end ClimateStation.Text
