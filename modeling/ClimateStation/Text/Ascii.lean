/-! Bytes as ASCII characters: the classes that input is sorted by, lower case, and the words of a
line. Bytes above 127 belong to no class and are left as they are. -/
namespace ClimateStation.Text

/-- Space, tab, line feed, form feed and carriage return separate words. -/
def isBlank (b : UInt8) : Bool :=
  b == 32 || b == 9 || b == 10 || b == 12 || b == 13

def isDigit (b : UInt8) : Bool := 48 ≤ b && b ≤ 57

def isUpper (b : UInt8) : Bool := 65 ≤ b && b ≤ 90

def isLower (b : UInt8) : Bool := 97 ≤ b && b ≤ 122

def isAlphanumeric (b : UInt8) : Bool := isDigit b || isUpper b || isLower b

/-- Capital letters become small ones; every other byte stays. -/
def lower (b : UInt8) : UInt8 := if isUpper b then b + 32 else b

def digitValue (b : UInt8) : Nat := b.toNat - 48

/-- The text before the first NUL byte, without the blanks at its end. -/
def significant (input : List UInt8) : List UInt8 :=
  ((input.takeWhile (· != 0)).reverse.dropWhile isBlank).reverse

/-- The pieces between blanks; two neighbouring blanks enclose an empty piece. -/
def fields : List UInt8 → List (List UInt8)
  | [] => [[]]
  | b :: rest =>
    if isBlank b then [] :: fields rest
    else match fields rest with
      | [] => [[b]]
      | piece :: pieces => (b :: piece) :: pieces

/-- The longest runs of bytes that are not blank, in order. -/
def words (s : List UInt8) : List (List UInt8) :=
  (fields s).filter fun piece => !piece.isEmpty

theorem fields_ne_nil (s : List UInt8) : fields s ≠ [] := by
  cases s with
  | nil => simp [fields]
  | cons b rest =>
    unfold fields
    split
    · simp
    · split <;> simp

theorem ne_nil_of_mem_words (s w : List UInt8) (h : w ∈ words s) : w ≠ [] := by
  simp only [words, List.mem_filter] at h
  intro he
  simp [he] at h

/-- The characters of an ASCII text as bytes. -/
def bytesOf (text : List Char) : List UInt8 := text.map Char.toUInt8

/-- The text whose characters are the given ASCII bytes. -/
def textOf (bytes : List UInt8) : String :=
  String.ofList (bytes.map fun b => Char.ofNat b.toNat)

end ClimateStation.Text
