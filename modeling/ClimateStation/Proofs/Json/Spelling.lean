import ClimateStation.Json.Token
import Mathlib.Tactic.Lemma

/-! How strings and numbers may be written. A character stands for itself or is named by an escape, of
which one beyond the sixteen bits takes two; a number may have a fraction and an exponent. Every
written form is read back, a number if nothing follows that would make it longer. -/
namespace ClimateStation.Json

/-! ## Texts as code points -/

/-- The points stand for the text: each for a character, or two halves together for one that sixteen
bits do not hold. -/
inductive Denotes : Points → List Char → Prop
  | nil : Denotes [] []
  | point (c : Char) {ps cs} (rest : Denotes ps cs) : Denotes (c.toNat :: ps) (c :: cs)
  | halves (c : Char) {ps cs} (beyond : 0x10000 ≤ c.toNat) (rest : Denotes ps cs) :
      Denotes ((0xD800 + (c.toNat - 0x10000) / 0x400) :: (0xDC00 + (c.toNat - 0x10000) % 0x400) :: ps)
        (c :: cs)

lemma denotes_toNat (cs : List Char) : Denotes (cs.map Char.toNat) cs := by
  induction cs with
  | nil => exact .nil
  | cons c cs ih => exact .point c ih

/-- No character is half of a surrogate pair. -/
lemma not_half (c : Char) : isHighHalf c.toNat = false ∧ isLowHalf c.toNat = false := by
  have valid : c.toNat < 0xD800 ∨ 0xDFFF < c.toNat ∧ c.toNat < 0x110000 := c.valid
  simp only [isHighHalf, isLowHalf, Bool.and_eq_false_iff, decide_eq_false_iff_not]
  omega

lemma chars?_point (c : Char) (ps : Points) :
    chars? (c.toNat :: ps) = (chars? ps).map (c :: ·) := by
  obtain ⟨high,low⟩ := not_half c
  rw [chars?.eq_def]
  simp [high,low]

lemma chars?_halves {high low : Nat} (ps : Points) (first : isHighHalf high = true)
    (second : isLowHalf low = true) :
    chars? (high :: low :: ps) = (chars? ps).map (joinHalves high low :: ·) := by
  rw [chars?.eq_def]
  simp [first,second]

/-- Points that stand for a text are read as the text. -/
theorem Denotes.chars?_eq {ps : Points} {cs : List Char} (denotes : Denotes ps cs) :
    chars? ps = some cs := by
  induction denotes with
  | nil => rfl
  | point c rest ih =>
    rw [chars?_point,ih]
    rfl
  | halves c beyond rest ih =>
    have valid : c.toNat < 0xD800 ∨ 0xDFFF < c.toNat ∧ c.toNat < 0x110000 := c.valid
    generalize high : (c.toNat - 0x10000) / 0x400 = h
    generalize low : (c.toNat - 0x10000) % 0x400 = l
    have first : isHighHalf (0xD800 + h) = true := by
      simp only [isHighHalf, Bool.and_eq_true, decide_eq_true_eq]
      omega
    have second : isLowHalf (0xDC00 + l) = true := by
      simp only [isLowHalf, Bool.and_eq_true, decide_eq_true_eq]
      omega
    have joined : 0x10000 + (0xD800 + h - 0xD800) * 0x400 + (0xDC00 + l - 0xDC00) = c.toNat := by
      omega
    rw [chars?_halves _ first second,ih,joinHalves,joined,Char.ofNat_toNat]
    rfl

/-! ## Strings -/

open Token

/-- The characters between the quotes of a string, and the points that they stand for. -/
inductive Spells : List Char → Points → Prop
  | nil : Spells [] []
  | plain {c : Char} {s ps} (quote : c ≠ '"') (backslash : c ≠ '\\') (visible : 32 ≤ c.toNat)
      (rest : Spells s ps) : Spells (c :: s) (c.toNat :: ps)
  | escape {c : Char} {point : Nat} {s ps} (known : escape? c = some point) (rest : Spells s ps) :
      Spells ('\\' :: c :: s) (point :: ps)
  | number {a b c d : Char} {point : Nat} {s ps} (hex : hex4? a b c d = some point)
      (rest : Spells s ps) : Spells ('\\' :: 'u' :: a :: b :: c :: d :: s) (point :: ps)

namespace Token

section
variable (rest : List Char)

lemma string?_escape {c : Char} {point : Nat} (known : escape? c = some point) :
    string? ('\\' :: c :: rest) = (string? rest).map fun (ps, rest) => (point :: ps, rest) := by
  have other : c ≠ 'u' := by
    rintro rfl
    contradiction
  rw [string?.eq_4 c rest fun _ _ _ _ _ same => absurd same other,known]
  cases string? rest <;> rfl

lemma string?_number {a b c d : Char} {point : Nat} (hex : hex4? a b c d = some point) :
    string? ('\\' :: 'u' :: a :: b :: c :: d :: rest) =
      (string? rest).map fun (ps, rest) => (point :: ps, rest) := by
  rw [string?,hex]
  cases string? rest <;> rfl

lemma string?_plain {c : Char} (quote : c ≠ '"') (backslash : c ≠ '\\') (visible : 32 ≤ c.toNat) :
    string? (c :: rest) = (string? rest).map fun (ps, rest) => (c.toNat :: ps, rest) := by
  rw [string?.eq_5 c rest quote (fun _ _ _ _ _ same => absurd same backslash)
    fun _ _ same => absurd same backslash,if_neg (Nat.not_lt.mpr visible)]
  cases string? rest <;> rfl

end

theorem string?_of_spells {s : List Char} {ps : Points} (spells : Spells s ps) (rest : List Char) :
    string? (s ++ '"' :: rest) = some (ps, rest) := by
  induction spells with
  | nil => exact string?.eq_2 rest
  | plain quote backslash visible _ ih =>
    rw [List.cons_append,string?_plain _ quote backslash visible,ih]
    rfl
  | escape known _ ih =>
    rw [List.cons_append,List.cons_append,string?_escape _ known,ih]
    rfl
  | number hex _ ih =>
    simp only [List.cons_append]
    rw [string?_number _ hex,ih]
    rfl

/-! ## Numbers -/

/-- At least one digit, and nothing else. -/
def Digits (s : List Char) : Prop := s ≠ [] ∧ ∀ c ∈ s, c.isDigit = true

/-- What may stand behind the whole part of a number, and whether it does. -/
inductive Fraction : List Char → Bool → Prop
  | absent : Fraction [] false
  | present {ds} (digits : Digits ds) : Fraction ('.' :: ds) true

/-- What may stand at the end of a number, and whether it does. -/
inductive Exponent : List Char → Bool → Prop
  | absent : Exponent [] false
  | present {mark : Char} {sign ds} (marked : mark = 'e' ∨ mark = 'E')
      (signed : sign = [] ∨ sign = ['+'] ∨ sign = ['-']) (digits : Digits ds) :
      Exponent (mark :: (sign ++ ds)) true

/-- The texts of numbers. The whole part has no zero in front, unless it is zero. -/
inductive Numeral : List Char → Number → Prop
  | mk {whole fraction exponent : List Char} {f e : Bool} (negative : Bool) (digits : Digits whole)
      (zero : whole.head? = some '0' → whole.length = 1) (hasFraction : Fraction fraction f)
      (hasExponent : Exponent exponent e) :
      Numeral ((if negative then ['-'] else []) ++ (whole ++ (fraction ++ exponent)))
        ⟨negative,Nat.ofDigitChars 10 whole 0,!f && !e⟩

/-- The text does not go on with a character that a number goes on with. -/
def Apart (s : List Char) : Prop :=
  ∀ c ∈ s.head?, c.isDigit = false ∧ c ≠ '.' ∧ c ≠ 'e' ∧ c ≠ 'E'

lemma apart_nil : Apart [] := by simp [Apart]

lemma Apart.append {s rest : List Char} (first : Apart s) (second : Apart rest) :
    Apart (s ++ rest) := by
  cases s with
  | nil => exact second
  | cons c s => exact first

lemma Digits.starts {ds : List Char} (digits : Digits ds) (rest : List Char) :
    ∃ d more, ds ++ rest = d :: more ∧ d.isDigit = true := by
  obtain ⟨nonempty,digits⟩ := digits
  obtain ⟨d,more,rfl⟩ := List.exists_cons_of_ne_nil nonempty
  exact ⟨d,more ++ rest,rfl,digits d List.mem_cons_self⟩

/-- No text of digits starts with another character. -/
lemma Digits.ne_cons {ds : List Char} (digits : Digits ds) (rest : List Char) {c : Char}
    (other : c.isDigit = false) (t : List Char) : ds ++ rest ≠ c :: t := by
  intro same
  obtain ⟨d,more,split,digit⟩ := digits.starts rest
  obtain ⟨rfl,-⟩ := List.cons.inj (split.symm.trans same)
  rw [digit] at other
  contradiction

/-- Blanks that may stand between two tokens. -/
def Blank (gap : List Char) : Prop := ∀ c ∈ gap, isSpace c = true

instance (gap : List Char) : Decidable (Blank gap) :=
  decidable_of_iff (gap.all isSpace = true) List.all_eq_true

lemma blank_nil : Blank [] := by simp [Blank]

lemma Blank.apart {gap : List Char} (blank : Blank gap) : Apart gap := by
  intro c first
  have space := blank c (List.mem_of_head? first)
  simp only [isSpace, Bool.or_eq_true, beq_iff_eq] at space
  rcases space with ((rfl | rfl) | rfl) | rfl <;> decide

lemma digits?_of_digits {ds rest : List Char} (digits : Digits ds)
    (stop : ∀ c ∈ rest.head?, c.isDigit = false) : digits? (ds ++ rest) = some (ds, rest) := by
  obtain ⟨nonempty,digits⟩ := digits
  have behind : rest.takeWhile Char.isDigit = [] ∧ rest.dropWhile Char.isDigit = rest := by
    cases rest with
    | nil => exact ⟨rfl,rfl⟩
    | cons c rest => simp [stop c rfl]
  unfold digits?
  rw [List.takeWhile_append_of_pos digits,List.dropWhile_append_of_pos digits,behind.1,behind.2,
    List.append_nil]
  split
  · exact absurd rfl nonempty
  · rfl

lemma fraction?_of_fraction {s rest : List Char} {f : Bool} (fraction : Fraction s f)
    (stop : ∀ c ∈ rest.head?, c.isDigit = false ∧ c ≠ '.') :
    fraction? (s ++ rest) = some (f, rest) := by
  cases fraction with
  | absent =>
    rw [List.nil_append]
    unfold fraction?
    split
    · next s => exact absurd rfl (stop '.' rfl).2
    · rfl
  | present digits =>
    rw [List.cons_append,fraction?,digits?_of_digits digits fun c next => (stop c next).1]
    rfl

lemma Fraction.stop {s rest : List Char} {f : Bool} (fraction : Fraction s f)
    (stop : ∀ c ∈ rest.head?, c.isDigit = false) : ∀ c ∈ (s ++ rest).head?, c.isDigit = false := by
  cases fraction with
  | absent => exact stop
  | present =>
    rintro c ⟨⟩
    rfl

lemma exponent?_of_exponent {s rest : List Char} {e : Bool} (exponent : Exponent s e)
    (apart : Apart rest) : exponent? (s ++ rest) = some (e, rest) := by
  cases exponent with
  | absent =>
    rw [List.nil_append]
    unfold exponent?
    split
    · rfl
    · next c s =>
      obtain ⟨-,-,small,capital⟩ := apart c rfl
      exact if_neg (not_or.mpr ⟨small,capital⟩)
  | @present mark sign ds marked signed digits =>
    have behind := digits?_of_digits digits fun c next => (apart c next).1
    rcases signed with rfl | rfl | rfl
    · have plus := digits.ne_cons rest (show '+'.isDigit = false from rfl)
      have minus := digits.ne_cons rest (show '-'.isDigit = false from rfl)
      simp only [List.nil_append, List.cons_append, exponent?.eq_4 _ _ plus minus, if_pos marked,
        behind, Option.map_some]
    · simp only [List.cons_append, List.nil_append, exponent?.eq_2, if_pos marked, behind,
        Option.map_some]
    · simp only [List.cons_append, List.nil_append, exponent?.eq_3, if_pos marked, behind,
        Option.map_some]

lemma Exponent.stop {s rest : List Char} {e : Bool} (exponent : Exponent s e) (apart : Apart rest) :
    ∀ c ∈ (s ++ rest).head?, c.isDigit = false ∧ c ≠ '.' := by
  cases exponent with
  | absent => exact fun c next => ⟨(apart c next).1,(apart c next).2.1⟩
  | present marked =>
    rintro c ⟨⟩
    rcases marked with rfl | rfl <;> decide

lemma Numeral.starts {s : List Char} {n : Number} (numeral : Numeral s n) :
    ∃ c cs, s = c :: cs ∧ (c.isDigit = true ∨ c = '-') := by
  obtain ⟨negative,digits,-,-,-⟩ := numeral
  cases negative with
  | true => exact ⟨'-',_,rfl,.inr rfl⟩
  | false =>
    obtain ⟨d,more,split,digit⟩ := digits.starts _
    exact ⟨d,more,split,.inl digit⟩

lemma foldl_digits (ds : List Char) :
    ds.foldl (fun n c => n * 10 + (c.toNat - 48)) 0 = Nat.ofDigitChars 10 ds 0 := by
  rw [Nat.ofDigitChars_eq_foldl]
  simp [Nat.mul_comm]

theorem number?_of_numeral {s rest : List Char} {n : Number} (numeral : Numeral s n)
    (apart : Apart rest) : number? (s ++ rest) = some (n, rest) := by
  obtain @⟨whole,fraction,exponent,f,e,negative,digits,zero,hasFraction,hasExponent⟩ := numeral
  -- From the back: no part can go on into the next one, which starts with another character.
  have last := exponent?_of_exponent hasExponent apart
  have middle := fraction?_of_fraction hasFraction (hasExponent.stop apart)
  have first := digits?_of_digits digits
    (hasFraction.stop fun c next => (hasExponent.stop apart c next).1)
  have plain : ¬(whole.head? = some '0' ∧ whole.length ≠ 1) := fun ⟨is,long⟩ => long (zero is)
  cases negative with
  | true =>
    simp only [if_true, List.cons_append, List.nil_append, List.append_assoc, number?, first, middle,
      last, Option.bind_eq_bind, Option.bind_some, if_neg plain, foldl_digits]
  | false =>
    have unsigned := digits.ne_cons (fraction ++ (exponent ++ rest)) (show '-'.isDigit = false from rfl)
    simp only [Bool.false_eq_true, if_false, List.nil_append, List.append_assoc,
      number?.eq_2 _ unsigned, first, middle, last, Option.bind_eq_bind, Option.bind_some,
      if_neg plain, foldl_digits]

end Token
end ClimateStation.Json
