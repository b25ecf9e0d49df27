import ClimateStation.Proofs.Command.Language
import Mathlib.Data.List.Induction
import Mathlib.Data.List.TakeWhile
import Mathlib.Data.Nat.Digits.Lemmas

/-! Numerals are read exactly. A word of at most five digits is the number that it stands for in base
ten, and every other word is refused for the first of three reasons: its length, its first byte that is
no digit, its value. A loop that adds the digits up in words of 32 bits never wraps and comes to the
same. The grammar gets back the number that was put into a sequence, whatever stands before and behind
it there. -/
namespace ClimateStation.Command
open Text

namespace Numeral
/-- What is read from a word. -/
inductive Reads : List UInt8 → Except NumeralError UInt16 → Prop
  | tooLong {w} (long : 5 < w.length) : Reads w (.error .tooLong)
  | notANumber {digits b rest} (short : (digits ++ b :: rest).length ≤ 5)
      (leading : ∀ d ∈ digits, Digit d) (stop : ¬Digit b) :
      Reads (digits ++ b :: rest) (.error (.notANumber (positional digits)))
  | number {w} {n : UInt16} (short : w.length ≤ 5) (digits : ∀ b ∈ w, Digit b)
      (value : positional w = n.toNat) : Reads w (.ok n)
  | overflow {w} (short : w.length ≤ 5) (digits : ∀ b ∈ w, Digit b)
      (large : 65535 < positional w) : Reads w (.error (.overflow (positional w)))

variable {w : List UInt8} {result : Except NumeralError UInt16}

/-- A word that is not all digits has a first byte that is none. -/
lemma exists_stop (other : ¬∀ b ∈ w, Digit b) :
    ∃ digits b rest, w = digits ++ b :: rest ∧ (∀ d ∈ digits, Digit d) ∧
      ¬Digit b := by
  have more : w.dropWhile (Digit ·) ≠ [] := by simpa [List.dropWhile_eq_nil_iff] using other
  obtain ⟨b,rest,split⟩ := List.exists_cons_of_ne_nil more
  refine ⟨w.takeWhile (Digit ·),b,rest,?_,fun d hd => ?_,?_⟩
  · rw [← split,List.takeWhile_append_dropWhile]
  · have digit := List.mem_takeWhile_imp hd
    exact of_decide_eq_true digit
  · have stop := List.head_dropWhile_not (Digit ·) more
    simp only [split, List.head_cons] at stop
    exact of_decide_eq_false stop

lemma exists_reads (w : List UInt8) : ∃ result, Reads w result := by
  by_cases long : 5 < w.length
  · exact ⟨_,.tooLong long⟩
  have short : w.length ≤ 5 := Nat.le_of_not_lt long
  by_cases digits : ∀ b ∈ w, Digit b
  · by_cases large : 65535 < positional w
    · exact ⟨_,.overflow short digits large⟩
    · refine ⟨.ok (.ofNat (positional w)),.number short digits ?_⟩
      rw [UInt16.toNat_ofNat',Nat.mod_eq_of_lt (by omega)]
  · obtain ⟨digits,b,rest,rfl,leading,stop⟩ := exists_stop digits
    exact ⟨_,.notANumber short leading stop⟩

lemma Reads.parse_eq (reads : Reads w result) : parse w = result := by
  rw [Numeral.parse_eq,outcome]
  cases reads with
  | tooLong long =>
    rw [if_pos long]
    rfl
  | @notANumber digits b rest short leading stop =>
    have front : (digits ++ b :: rest).takeWhile (Digit ·) = digits := by
      rw [List.takeWhile_append_of_pos fun d hd => decide_eq_true (leading d hd),
        List.takeWhile_cons_of_neg (by simpa using stop),List.append_nil]
    rw [if_neg (by omega),if_pos ⟨b,by simp,stop⟩,front]
    rfl
  | @number w n short digits value =>
    have few := n.toNat_lt
    rw [if_neg (by omega),if_neg (by simpa using digits),if_neg (by omega),value]
    exact congrArg Except.ok n.ofNat_toNat
  | overflow short digits large =>
    rw [if_neg (by omega),if_neg (by simpa using digits),if_pos large]
    rfl

theorem parse_eq_iff : parse w = result ↔ Reads w result := by
  obtain ⟨found,reads⟩ := exists_reads w
  constructor
  · rintro rfl
    rwa [reads.parse_eq]
  · exact Reads.parse_eq

/-! ## Words of 32 bits -/

/-- A sum with one digit more behind it. -/
def accumulate (sum : UInt32) (b : UInt8) : UInt32 := sum * 10 + (b - 48).toUInt32

/-- Reads the bytes that are left, with the sum of the digits before them. -/
def loop : UInt32 → List UInt8 → Except NumeralError UInt16
  | sum, [] => if sum < 65536 then .ok sum.toUInt16 else .error (.overflow sum.toNat)
  | sum, b :: rest =>
    if Digit b then loop (accumulate sum b) rest else .error (.notANumber sum.toNat)

/-- Reads an operand in one pass, with a sum of 32 bits. -/
def onePass (word : List UInt8) : Except NumeralError UInt16 :=
  if 5 < word.length then .error .tooLong else loop 0 word

lemma Digit.value_lt {b : UInt8} (digit : Digit b) : b.toNat - 48 < 10 := by
  have high : b.toNat ≤ 57 := UInt8.le_iff_toNat_le.mp digit.2
  omega

lemma toNat_accumulate {sum : UInt32} {b : UInt8} (small : sum.toNat < 10 ^ 8)
    (digit : Digit b) : (accumulate sum b).toNat = sum.toNat * 10 + (b.toNat - 48) := by
  have more := digit.value_lt
  have last : (b - 48).toUInt32.toNat = b.toNat - 48 := by
    rw [UInt8.toNat_toUInt32,UInt8.toNat_sub_of_le _ _ digit.1]
    rfl
  have ten : (10 : UInt32).toNat = 10 := rfl
  rw [accumulate,UInt32.toNat_add,UInt32.toNat_mul,last,ten]
  omega

lemma positional_lt (digits : ∀ b ∈ w, Digit b) : positional w < 10 ^ w.length := by
  have below : ∀ v ∈ w.reverse.map fun b => b.toNat - 48, v < 10 := by
    intro v member
    obtain ⟨b,hb,rfl⟩ := List.mem_map.mp member
    exact (digits b (List.mem_reverse.mp hb)).value_lt
  have bound := Nat.ofDigits_lt_base_pow_length (by decide) below
  rwa [List.length_map,List.length_reverse] at bound

lemma positional_concat (w : List UInt8) (b : UInt8) :
    positional (w ++ [b]) = positional w * 10 + (b.toNat - 48) := by
  unfold positional
  rw [List.reverse_append,List.reverse_singleton,List.singleton_append,List.map_cons,
    Nat.ofDigits_cons,Nat.add_comm,Nat.mul_comm]

/-- The sum stays below a power of ten that 32 bits hold, so it never wraps. -/
lemma toNat_foldl_accumulate (short : w.length ≤ 9) (digits : ∀ b ∈ w, Digit b) :
    (w.foldl accumulate 0).toNat = positional w := by
  induction w using List.reverseRecOn with
  | nil => rfl
  | append_singleton w b ih =>
    rw [List.length_append,List.length_singleton] at short
    have before : ∀ d ∈ w, Digit d := fun d hd => digits d (List.mem_append_left _ hd)
    have last : Digit b := digits b (List.mem_append_right _ (List.mem_singleton_self b))
    have sum := ih (by omega) before
    have small : positional w < 10 ^ 8 :=
      (positional_lt before).trans_le (Nat.pow_le_pow_right (by decide) (by omega))
    rw [List.foldl_append,List.foldl_cons,List.foldl_nil,toNat_accumulate (sum ▸ small) last,sum,
      positional_concat]

lemma loop_append {digits : List UInt8} (leading : ∀ d ∈ digits, Digit d) (sum : UInt32)
    (rest : List UInt8) : loop sum (digits ++ rest) = loop (digits.foldl accumulate sum) rest := by
  induction digits generalizing sum with
  | nil => rfl
  | cons d digits ih =>
    obtain ⟨first,others⟩ := List.forall_mem_cons.mp leading
    rw [List.cons_append,loop,if_pos first,ih others,List.foldl_cons]

lemma loop_digits (digits : ∀ b ∈ w, Digit b) (sum : UInt32) :
    loop sum w = loop (w.foldl accumulate sum) [] := by
  have all := loop_append digits sum []
  rwa [List.append_nil] at all

lemma Reads.onePass_eq (reads : Reads w result) : onePass w = result := by
  unfold onePass
  cases reads with
  | tooLong long => exact if_pos long
  | @notANumber digits b rest short leading stop =>
    have fewer : digits.length ≤ 9 := by
      rw [List.length_append] at short
      omega
    rw [if_neg (by omega),loop_append leading,loop,if_neg stop,
      toNat_foldl_accumulate fewer leading]
  | @number w n short digits value =>
    have sum := toNat_foldl_accumulate (by omega) digits
    have small : w.foldl accumulate 0 < 65536 := by
      rw [UInt32.lt_iff_toNat_lt,sum,value]
      exact n.toNat_lt
    rw [if_neg (by omega),loop_digits digits,loop,if_pos small,Except.ok.injEq,← UInt16.toNat_inj,
      UInt32.toNat_toUInt16,sum,value]
    exact Nat.mod_eq_of_lt n.toNat_lt
  | overflow short digits large =>
    have sum := toNat_foldl_accumulate (by omega) digits
    have outside : ¬w.foldl accumulate 0 < 65536 := by
      rw [UInt32.lt_iff_toNat_lt,sum]
      exact Nat.not_lt.mpr large
    rw [if_neg (by omega),loop_digits digits,loop,if_neg outside,sum]

end Numeral

/-! ## Numbers in a sequence -/

namespace Sequence
variable {fault : Option InputError}

/-- What the grammar reads at a place where a number stands. -/
structure Gives (s : Sequence) (i : Nat) (n : UInt16) : Prop where
  number : s.numberAt i = .ok (n,i + (operand n).length)
  byte : ∀ v : UInt8, s.byteAt i = .ok v ↔ v.toUInt16 = n

lemma operandAt_append (fault : Option InputError) (front marks rest : List UInt8) (v : UInt8) :
    operandAt ⟨front ++ (marks ++ v :: rest),fault⟩ (front.length + marks.length) = .ok v := by
  rw [← List.length_append,← List.append_assoc]
  unfold operandAt
  rw [if_pos (by simp [length]),valueAt_append]
  rfl

lemma byteAt_append (front rest : List UInt8) (v : UInt8) :
    byteAt ⟨front ++ Symbol.byte.code :: v :: rest,fault⟩ front.length = .ok v := by
  have mark : expectAt ⟨front ++ Symbol.byte.code :: v :: rest,fault⟩ front.length .byte =
      .ok () := by
    unfold expectAt
    rw [valueAt_append]
    rfl
  exact bind_eq_ok.mpr ⟨(),mark,operandAt_append fault front [Symbol.byte.code] rest v⟩

lemma numberAt_append {n : UInt16} {part : List UInt8} (spelled : valueSpelling.number n part)
    (front rest : List UInt8) :
    numberAt ⟨front ++ (part ++ rest),fault⟩ front.length =
      .ok (n,front.length + part.length) := by
  rcases spelled with ⟨v,rfl,rfl⟩ | ⟨hi,lo,rfl,rfl⟩
  · have mark : symbolAt ⟨front ++ ([Symbol.byte.code,v] ++ rest),fault⟩ front.length = .ok .byte :=
      (symbolAt_ok_iff ..).mpr rfl
    have value := operandAt_append fault front [Symbol.byte.code] rest v
    exact bind_eq_ok.mpr ⟨_,mark,bind_eq_ok.mpr ⟨v,value,rfl⟩⟩
  · have mark : symbolAt ⟨front ++ ([Symbol.word.code,hi,lo] ++ rest),fault⟩ front.length =
        .ok .word := (symbolAt_ok_iff ..).mpr rfl
    have high := operandAt_append fault front [Symbol.word.code] (lo :: rest) hi
    have low := operandAt_append fault front [Symbol.word.code,hi] rest lo
    exact bind_eq_ok.mpr ⟨_,mark,bind_eq_ok.mpr ⟨hi,high,bind_eq_ok.mpr ⟨lo,low,rfl⟩⟩⟩

/-- A mark tells one value from two, so a number that needs two is not taken for a byte. -/
lemma gives_operand (n : UInt16) (front rest : List UInt8) :
    Gives ⟨front ++ (operand n ++ rest),fault⟩ front.length n where
  number := numberAt_append (operand_spelled n) front rest
  byte v := by
    constructor
    · intro read
      obtain ⟨tail,split⟩ := byteAt_ok _ _ read
      exact (number_unique (operand_spelled n) (number_of_byte (marked v)) split).1.symm
    · rintro rfl
      rw [operand_of_byte]
      exact byteAt_append front rest v

/-- What is pushed goes behind the values that are there. -/
lemma values_pushAll (s : Sequence) (vs : List UInt8) :
    ∃ rest, (s.pushAll vs).values = s.values ++ rest := by
  induction vs generalizing s with
  | nil => exact ⟨[],(List.append_nil _).symm⟩
  | cons v vs ih =>
    obtain ⟨rest,behind⟩ := ih (s.push v)
    have step : s.pushAll (v :: vs) = (s.push v).pushAll vs := rfl
    rw [step,behind,push_eq]
    split
    · exact ⟨v :: rest,List.append_assoc ..⟩
    · exact ⟨rest,rfl⟩

lemma gives_pushed (n : UInt16) (s : Sequence) (after : List UInt8)
    (room : s.length + (operand n).length ≤ 8) :
    ((s.pushAll (operand n)).pushAll after).Gives s.length n := by
  have stored : s.pushAll (operand n) = ⟨s.values ++ operand n,s.fault⟩ := pushAll_of_le _ room
  obtain ⟨rest,behind⟩ := values_pushAll (s.pushAll (operand n)) after
  rw [stored,List.append_assoc] at behind
  rw [stored]
  have pushed : pushAll ⟨s.values ++ operand n,s.fault⟩ after =
      ⟨s.values ++ (operand n ++ rest),(pushAll ⟨s.values ++ operand n,s.fault⟩ after).fault⟩ := by
    rw [← behind]
  rw [pushed]
  exact gives_operand n s.values rest

variable {mode : Strictness} {n : UInt16} {w : List UInt8}

/-- A word that is a number becomes an operand behind a word that takes one. -/
lemma addWord_of_parse (value : Numeral.parse w = .ok n) (s : Sequence) :
    addWord mode (s,true) w = (s.pushAll (operand n),true) := by
  have digits : ∀ b ∈ w, Numeral.Digit b := ((Numeral.parse_ok_iff w n).mp value).2.1
  exact addWord_number (Symbol.ofWord?_eq_none_of_digits digits) value

end Sequence

open Sequence in
/-- The number of a word of digits, the word's first fault otherwise, and the same number again from
the values that it becomes. What the digits read so far stand for never exceeds 99999. -/
theorem Numeral.numerals_exact (w : List UInt8) :
    (∀ result, parse w = result ↔ Reads w result) ∧
    (onePass w = parse w ∧ ∀ before after, w.length ≤ 5 → w = before ++ after →
      (∀ b ∈ before, Digit b) →
        loop 0 w = loop (before.foldl accumulate 0) after ∧
        (before.foldl accumulate 0).toNat = positional before ∧ positional before ≤ 99999) ∧
    ∀ n, parse w = .ok n → ∀ (mode : Strictness) (s : Sequence),
      addWord mode (s,true) w = (s.pushAll (operand n),true) ∧
      (s.length + (operand n).length ≤ 8 →
        ∀ after, ((s.pushAll (operand n)).pushAll after).Gives s.length n) ∧
      (s.length ≤ 8 → 8 < s.length + (operand n).length →
        (s.pushAll (operand n)).fault ≠ none) := by
  obtain ⟨result,reads⟩ := exists_reads w
  refine ⟨fun _ => parse_eq_iff,⟨reads.onePass_eq.trans reads.parse_eq.symm,?_⟩,?_⟩
  · rintro before after short rfl digits
    have fewer : before.length ≤ 5 := by
      rw [List.length_append] at short
      omega
    have small : positional before < 10 ^ 5 :=
      (positional_lt digits).trans_le (Nat.pow_le_pow_right (by decide) fewer)
    exact ⟨loop_append digits 0 after,toNat_foldl_accumulate (by omega) digits,by omega⟩
  · intro n value mode s
    exact ⟨addWord_of_parse value s,fun room after => gives_pushed n s after room,
      pushAll_of_lt _⟩

/-- Zeros in front count among the five digits and change nothing else; five hundred needs two
values behind its mark, and six values leave it no room. -/
theorem Numeral.numerals_exact_leading_zeros :
    let w : List UInt8 := [48,48,53,48,48]
    let gate : Sequence := ⟨[Symbol.set.code,Symbol.alarm.code,Symbol.byte.code,1],none⟩
    let crowded : Sequence := ⟨gate.values ++ [Symbol.byte.code,2],none⟩
    Reads w (.ok 500) ∧ loop 0 w = loop 5 [48,48] ∧
      Sequence.addWord .strict (gate,true) w =
        (⟨gate.values ++ [Symbol.word.code,1,244],none⟩,true) ∧
      Sequence.Gives ⟨gate.values ++ [Symbol.word.code,1,244,Symbol.on.code],none⟩ 4 500 ∧
      (crowded.pushAll (Sequence.operand 500)).fault ≠ none := by
  intro w gate crowded
  have exact := Numeral.numerals_exact w
  have read : parse w = .ok 500 := by decide
  have digits : ∀ b ∈ ([48,48,53] : List UInt8), Digit b := by simp [Digit]
  obtain ⟨sum,-⟩ := exact.2.1.2 [48,48,53] [48,48] (by decide) rfl digits
  obtain ⟨added,given,-⟩ := exact.2.2 500 read .strict gate
  obtain ⟨-,-,full⟩ := exact.2.2 500 read .strict crowded
  exact ⟨(exact.1 _).mp read,sum,added,given (by decide) [Symbol.on.code],
    full (by decide) (by decide)⟩

end ClimateStation.Command
