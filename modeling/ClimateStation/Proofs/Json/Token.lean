import ClimateStation.Proofs.Json.Spelling
import ClimateStation.Proofs.Text.Size
import Mathlib.Tactic.IntervalCases
import Mathlib.Tactic.SplitIfs

/-! How tokens are read. What quotes and digits write is one way to spell a text or a number, and every
spelling is read as its token. Texts that are read as tokens can be put one behind the other. -/
namespace ClimateStation.Json

/-- A whole number as it is written: without fraction and exponent. -/
def Number.ofInt (i : Int) : Number := ⟨i < 0,i.natAbs,true⟩

@[simp] theorem Number.integer?_ofInt (i : Int) : (Number.ofInt i).integer? = some i := by
  by_cases negative : i < 0
  · have nonzero : i.natAbs ≠ 0 := by omega
    simp [Number.ofInt,Number.integer?,negative,nonzero,abs_of_neg negative]
  · simp [Number.ofInt,Number.integer?,negative,abs_of_nonneg (Int.not_lt.mp negative)]

namespace Token

/-! ## Strings -/

lemma hexDigit?_digitChar : ∀ {n : Nat}, n < 16 → hexDigit? (Nat.digitChar n) = some n := by
  decide

lemma hex4?_control {n : Nat} (control : n < 32) :
    hex4? '0' '0' (Nat.digitChar (n / 16)) (Nat.digitChar (n % 16)) = some n := by
  have zero : hexDigit? '0' = some 0 := by decide
  have high := hexDigit?_digitChar (show n / 16 < 16 by omega)
  have low := hexDigit?_digitChar (show n % 16 < 16 by omega)
  have joined : ((0 * 16 + 0) * 16 + n / 16) * 16 + n % 16 = n := by omega
  simp only [hex4?, zero, high, low, Option.bind_eq_bind, Option.bind_some, joined]

/-- The written form of a character spells it. -/
lemma spells_escaped (c : Char) {s : List Char} {ps : Points} (rest : Spells s ps) :
    Spells (escaped c ++ s) (c.toNat :: ps) := by
  unfold escaped
  split_ifs with quote backslash h8 h9 h10 h12 h13 control
  · subst quote
    exact .escape rfl rest
  · subst backslash
    exact .escape rfl rest
  · rw [h8]
    exact .escape rfl rest
  · rw [h9]
    exact .escape rfl rest
  · rw [h10]
    exact .escape rfl rest
  · rw [h12]
    exact .escape rfl rest
  · rw [h13]
    exact .escape rfl rest
  · exact .number (hex4?_control control) rest
  · exact .plain quote backslash (Nat.le_of_not_lt control) rest

lemma spells_flatMap_escaped (cs : List Char) :
    Spells (cs.flatMap escaped) (cs.map Char.toNat) := by
  induction cs with
  | nil => exact .nil
  | cons c cs ih => exact spells_escaped c ih

/-! ## Numbers -/

lemma head?_toDigits_ne {n : Nat} (positive : 0 < n) : (Nat.toDigits 10 n).head? ≠ some '0' := by
  induction n using Nat.strongRecOn with
  | ind n ih =>
    by_cases single : n < 10
    · rw [Nat.toDigits_of_lt_base single]
      interval_cases n <;> decide
    · have more : 0 < n / 10 := by omega
      rw [Nat.toDigits_of_base_le (by decide) (Nat.le_of_not_lt single),
        List.head?_append_of_ne_nil _ Nat.toDigits_ne_nil]
      exact ih (n / 10) (by omega) more

/-- Only zero starts with a zero, and it has no other digit. -/
lemma toDigits_plain (n : Nat) (zero : (Nat.toDigits 10 n).head? = some '0') :
    (Nat.toDigits 10 n).length = 1 := by
  cases n with
  | zero => rfl
  | succ n => exact absurd zero (head?_toDigits_ne (Nat.succ_pos n))

lemma numeral_integer (i : Int) : Numeral (Text.integer i).toList (.ofInt i) := by
  have digits : Digits (Nat.toDigits 10 i.natAbs) :=
    ⟨Nat.toDigits_ne_nil,fun _ => Text.isDigit_of_mem_digits⟩
  have numeral := Numeral.mk (decide (i < 0)) digits (toDigits_plain _) .absent .absent
  rw [Nat.ofDigitChars_ten_toDigits] at numeral
  by_cases negative : i < 0 <;>
    simpa [Text.integer, Text.natural, Number.ofInt, negative] using numeral

/-! ## Tokens -/

lemma next?_of_digit {c : Char} (starts : c.isDigit = true ∨ c = '-') (s : List Char) :
    next? (c :: s) = (number? (c :: s)).map fun (n, rest) => (number n, rest) := by
  unfold next?
  split <;> simp_all

lemma next?_of_isSpace {c : Char} (space : isSpace c = true) (s : List Char) :
    next? (c :: s) = none := by
  simp only [isSpace, Bool.or_eq_true, beq_iff_eq] at space
  rcases space with ((rfl | rfl) | rfl) | rfl <;> rfl

lemma list?_of_blank {gap : List Char} (blank : Blank gap) (s : List Char) :
    list? (gap ++ s) = list? s := by
  induction gap with
  | nil => rfl
  | cons c gap ih =>
    obtain ⟨space,later⟩ := List.forall_mem_cons.mp blank
    rw [List.cons_append,list?,if_pos space]
    exact ih later

/-- The tokens of a text are the first one and those of the rest. -/
lemma list?_of_next? {s rest : List Char} {t : Token} (read : next? s = some (t, rest)) :
    list? s = (list? rest).map (t :: ·) := by
  cases s with
  | nil => contradiction
  | cons c s =>
    have solid : ¬isSpace c = true := by
      intro space
      rw [next?_of_isSpace space] at read
      contradiction
    rw [list?,if_neg solid]
    split
    · next u tail first =>
      rw [read] at first
      obtain ⟨rfl,rfl⟩ := Prod.mk.inj (Option.some.inj first)
      rfl
    · next none =>
      rw [read] at none
      contradiction

/-! ## Texts -/

/-- The text is read as the tokens, unless something follows that its last number goes on with. -/
def Reads (s : List Char) (ts : List Token) : Prop :=
  ∀ rest, Apart rest → list? (s ++ rest) = (list? rest).map (ts ++ ·)

/-- The text is read as the token, whatever follows. -/
def ReadsAs (s : List Char) (t : Token) : Prop := ∀ rest, next? (s ++ rest) = some (t, rest)

namespace Reads
variable {s s' : List Char} {ts ts' : List Token}

lemma list?_eq (reads : Reads s ts) : list? s = some ts := by
  have whole := reads [] apart_nil
  simpa [list?] using whole

lemma nil : Reads [] [] := by
  intro rest _
  simp

lemma append (first : Reads s ts) (second : Reads s' ts') (apart : Apart s') :
    Reads (s ++ s') (ts ++ ts') := by
  intro rest clear
  rw [List.append_assoc,first _ (apart.append clear),second rest clear,Option.map_map]
  simp [Function.comp_def]

lemma cons {w : List Char} {t : Token} (first : ReadsAs w t) (reads : Reads s ts) :
    Reads (w ++ s) (t :: ts) := by
  intro rest clear
  rw [List.append_assoc,list?_of_next? (first _),reads rest clear,Option.map_map]
  rfl

lemma single {w : List Char} {t : Token} (first : ReadsAs w t) : Reads w [t] := by
  have alone := cons first nil
  rwa [List.append_nil] at alone

/-- Blanks in front are passed over. -/
lemma blanks {gap : List Char} (blank : Blank gap) (reads : Reads s ts) : Reads (gap ++ s) ts := by
  intro rest clear
  rw [List.append_assoc,list?_of_blank blank]
  exact reads rest clear

lemma blank {gap : List Char} (blank : Blank gap) : Reads gap [] := by
  have alone := nil.blanks blank
  rwa [List.append_nil] at alone

lemma numeral {n : Number} (numeral : Numeral s n) : Reads s [number n] := by
  intro rest clear
  obtain ⟨c,cs,rfl,starts⟩ := numeral.starts
  have read := number?_of_numeral numeral clear
  rw [List.cons_append] at read
  have token : next? (c :: (cs ++ rest)) = some (number n, rest) := by
    rw [next?_of_digit starts,read]
    rfl
  rw [List.cons_append,list?_of_next? token]
  rfl

end Reads

lemma readsAs_of_spells {s : List Char} {ps : Points} (spells : Spells s ps) :
    ReadsAs ('"' :: (s ++ ['"'])) (string ps) := by
  intro rest
  change (string? (s ++ ['"'] ++ rest)).map _ = _
  rw [List.append_assoc,List.singleton_append,string?_of_spells spells]
  rfl

lemma readsAs_null : ReadsAs "null".toList null := fun _ => rfl

lemma readsAs_bool (b : Bool) : ReadsAs (if b then "true" else "false").toList (bool b) := by
  intro rest
  cases b <;> rfl

lemma readsAs_openBrace : ReadsAs ['{'] openBrace := fun _ => rfl
lemma readsAs_closeBrace : ReadsAs ['}'] closeBrace := fun _ => rfl
lemma readsAs_openBracket : ReadsAs ['['] openBracket := fun _ => rfl
lemma readsAs_closeBracket : ReadsAs [']'] closeBracket := fun _ => rfl
lemma readsAs_comma : ReadsAs [','] comma := fun _ => rfl
lemma readsAs_colon : ReadsAs [':'] colon := fun _ => rfl

end Token
end ClimateStation.Json
