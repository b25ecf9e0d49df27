import ClimateStation.Text.Decimal
import Mathlib.Data.String.Basic
import Mathlib.Tactic.Lemma

/-! How many bytes the text of a number takes: one for each digit and one for a minus. A padded number
takes the width that is asked for, unless the number alone is wider. -/
namespace ClimateStation.Text

lemma utf8Size_of_isDigit {c : Char} (digit : c.isDigit = true) : c.utf8Size = 1 := by
  rw [Char.utf8Size_eq_one_iff]
  simp only [Char.isDigit, Bool.and_eq_true, decide_eq_true_eq] at digit
  exact UInt32.le_trans digit.2 (by decide)

lemma utf8ByteSize_ofList_of_digits {cs : List Char} (digits : ∀ c ∈ cs, c.isDigit = true) :
    (String.ofList cs).utf8ByteSize = cs.length := by
  rw [String.utf8ByteSize_ofList]
  induction cs with
  | nil => rfl
  | cons c cs ih =>
    obtain ⟨first,rest⟩ := List.forall_mem_cons.mp digits
    rw [String.utf8Len_cons,ih rest,utf8Size_of_isDigit first,List.length_cons]

lemma isDigit_of_mem_digits {n : Nat} {c : Char} (member : c ∈ Nat.toDigits 10 n) :
    c.isDigit = true :=
  Nat.isDigit_of_mem_toDigits (by decide) (Nat.le_refl 10) member

lemma utf8ByteSize_natural (n : Nat) : (natural n).utf8ByteSize = (Nat.toDigits 10 n).length :=
  utf8ByteSize_ofList_of_digits fun _ => isDigit_of_mem_digits

lemma utf8ByteSize_natural_le_iff {n k : Nat} (positive : 0 < k) :
    (natural n).utf8ByteSize ≤ k ↔ n < 10 ^ k := by
  rw [utf8ByteSize_natural]
  exact Nat.length_toDigits_le_iff (by decide) positive

/-- A minus takes the place of a digit. -/
theorem utf8ByteSize_integer_le_iff (i : Int) (k : Nat) :
    (integer i).utf8ByteSize ≤ k + 1 ↔ -(10 ^ k : Nat) < i ∧ i < (10 ^ (k + 1) : Nat) := by
  have larger : 10 ^ k ≤ 10 ^ (k + 1) := Nat.pow_le_pow_right (by decide) (Nat.le_succ k)
  have positive : 0 < 10 ^ k := Nat.pow_pos (by decide)
  unfold integer
  split
  · next negative =>
    have minus : "-".utf8ByteSize = 1 := by decide
    rw [String.utf8ByteSize_append,minus,Nat.add_comm,Nat.add_le_add_iff_right]
    have digits : (natural i.natAbs).utf8ByteSize ≤ k ↔ i.natAbs < 10 ^ k := by
      cases k with
      | zero =>
        have some : 0 < (natural i.natAbs).utf8ByteSize := by
          rw [utf8ByteSize_natural]
          exact Nat.length_toDigits_pos
        rw [Nat.pow_zero]
        omega
      | succ k => exact utf8ByteSize_natural_le_iff (Nat.succ_pos k)
    rw [digits]
    omega
  · rw [utf8ByteSize_natural_le_iff (Nat.succ_pos k)]
    omega

lemma utf8ByteSize_natural_byte (n : UInt8) : (natural n.toNat).utf8ByteSize ≤ 3 :=
  (utf8ByteSize_natural_le_iff (by decide)).mpr (Nat.lt_trans n.toNat_lt (by decide))

lemma utf8ByteSize_natural_word (n : UInt16) : (natural n.toNat).utf8ByteSize ≤ 5 :=
  (utf8ByteSize_natural_le_iff (by decide)).mpr (Nat.lt_trans n.toNat_lt (by decide))

lemma utf8ByteSize_integer_word (i : Int16) : (integer i.toInt).utf8ByteSize ≤ 6 := by
  have low := i.le_toInt
  have high := i.toInt_lt
  refine (utf8ByteSize_integer_le_iff _ 5).mpr ⟨?_,?_⟩ <;> omega

theorem utf8ByteSize_padded (width n : Nat) :
    (padded width n).utf8ByteSize = max width (natural n).utf8ByteSize := by
  have digits : ∀ c ∈ List.replicate (width - (Nat.toDigits 10 n).length) '0' ++ Nat.toDigits 10 n,
      c.isDigit = true := by
    refine List.forall_mem_append.mpr ⟨fun c zero => ?_,fun _ => isDigit_of_mem_digits⟩
    rw [List.eq_of_mem_replicate zero]
    rfl
  unfold padded
  dsimp only
  rw [utf8ByteSize_ofList_of_digits digits,List.length_append,List.length_replicate,
    utf8ByteSize_natural]
  omega

lemma utf8ByteSize_padded_eq {width n : Nat} (positive : 0 < width) (narrow : n < 10 ^ width) :
    (padded width n).utf8ByteSize = width := by
  rw [utf8ByteSize_padded]
  exact Nat.max_eq_left ((utf8ByteSize_natural_le_iff positive).mpr narrow)

end ClimateStation.Text
