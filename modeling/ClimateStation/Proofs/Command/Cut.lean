import ClimateStation.Proofs.Command.Faults
import Mathlib.Data.List.DropRight

/-! A text that is cut before it is read. Reading looks at the first bytes only, so a cut behind
them leaves all words; but a strict reading also asks how long the text is, and blanks before the
cut can hide that it goes on. -/
namespace ClimateStation

namespace Text

lemma fields_blanks {pad : List UInt8} (h : ∀ b ∈ pad, isBlank b = true) :
    fields pad = [] :: pad.map fun _ => [] := by
  induction pad with
  | nil => rfl
  | cons b pad ih =>
    obtain ⟨hb,hp⟩ := List.forall_mem_cons.mp h
    rw [fields,if_pos hb,ih hp,List.map_cons]

lemma fields_append_blanks (s : List UInt8) {pad : List UInt8}
    (h : ∀ b ∈ pad, isBlank b = true) : fields (s ++ pad) = fields s ++ pad.map fun _ => [] := by
  induction s with
  | nil => exact fields_blanks h
  | cons b s ih =>
    rw [List.cons_append,fields,fields,ih]
    split
    · rfl
    · cases hf : fields s with
      | nil => exact absurd hf (fields_ne_nil s)
      | cons piece pieces => rfl

/-- Blanks at the end add no word. -/
lemma words_append_blanks (s : List UInt8) {pad : List UInt8}
    (h : ∀ b ∈ pad, isBlank b = true) : words (s ++ pad) = words s := by
  have hn : (pad.map fun _ => ([] : List UInt8)).filter (fun piece => !piece.isEmpty) = [] := by
    simp
  rw [words,fields_append_blanks s h,List.filter_append,hn,List.append_nil,words]

lemma rdropWhile_isPrefix {α : Type} {p : α → Bool} {s t : List α} (h : s <+: t) :
    s.rdropWhile p <+: t.rdropWhile p := by
  induction t using List.reverseRecOn with
  | nil =>
    obtain rfl := List.prefix_nil.mp h
    exact List.prefix_refl _
  | append_singleton t x ih =>
    rcases List.prefix_concat_iff.mp h with rfl | h
    · exact List.prefix_refl _
    · rw [List.rdropWhile_concat]
      split
      · exact ih h
      · exact (List.rdropWhile_prefix p s).trans (h.trans (List.prefix_append t [x]))

variable (input : List UInt8) (n : Nat)

/-- A cut leaves no more significant than there was. -/
lemma significant_take_isPrefix : significant (input.take n) <+: significant input := by
  apply rdropWhile_isPrefix
  rw [← List.take_takeWhile]
  exact List.take_prefix _ _

/-- What is not significant at the end is blank. -/
lemma exists_blanks : ∃ pad, (∀ b ∈ pad, isBlank b = true) ∧
    input.takeWhile (· != 0) = significant input ++ pad :=
  ⟨_,fun _ hb => List.mem_rtakeWhile_imp hb,List.rdropWhile_append_rtakeWhile.symm⟩

lemma words_take_significant :
    words ((significant input).take n) = words ((input.takeWhile (· != 0)).take n) := by
  obtain ⟨pad,blank,split⟩ := exists_blanks input
  rw [split,List.take_append]
  exact (words_append_blanks _ fun b hb => blank b (List.mem_of_mem_take hb)).symm

/-- The words at the beginning of a text are the same if the text is cut behind them. -/
lemma words_significant_take {k : Nat} (h : k ≤ n) :
    words ((significant (input.take n)).take k) = words ((significant input).take k) := by
  rw [words_take_significant,words_take_significant,← List.take_takeWhile,List.take_take,
    Nat.min_eq_left h]

end Text

open Text

namespace Command
variable {mode : Strictness} {input input' : List UInt8} {n : Nat}

lemma Sequence.ofText_congr
    (same : words ((significant input).take textLimit) = words ((significant input').take textLimit))
    (long : mode = .strict →
      (textLimit < (significant input).length ↔ textLimit < (significant input').length)) :
    ofText mode input = ofText mode input' := by
  have start : (mode = .strict ∧ textLimit < (significant input).length) =
      (mode = .strict ∧ textLimit < (significant input').length) :=
    propext (and_congr_right long)
  unfold ofText
  dsimp only
  rw [same]
  simp only [start]

/-- A text is refused for its length by strict readings, and only for its significant length. -/
theorem ofText_tooLong_iff : ofText mode input = .error (.malformed .tooLong) ↔
    mode = .strict ∧ Sequence.textLimit < (significant input).length := by
  unfold ofText
  rw [ofSequence_malformed_iff]
  unfold Sequence.ofText
  dsimp only
  split
  · next long =>
    exact iff_of_true ((Sequence.lasting_eq_some .tooLong).foldl _ rfl) long
  · next short =>
    exact iff_of_false (Sequence.lasting_ne_tooLong.foldl _ nofun) short

/-- A text is too long, but what is left of it by a cut is not. -/
def LongBeyond (n : Nat) (input : List UInt8) : Prop :=
  (significant (input.take n)).length ≤ Sequence.textLimit ∧
    Sequence.textLimit < (significant input).length

/-- A cut behind what is read changes the meaning of a text exactly if a strict reading no longer
sees that the text is too long. -/
theorem ofText_take_eq_iff (h : Sequence.textLimit ≤ n) :
    ofText mode (input.take n) = ofText mode input ↔ ¬(mode = .strict ∧ LongBeyond n input) := by
  constructor
  · rintro same ⟨rfl,short,long⟩
    rw [ofText_tooLong_iff.mpr ⟨rfl,long⟩,ofText_tooLong_iff] at same
    exact absurd same.2 (Nat.not_lt.mpr short)
  · intro seen
    have le := (significant_take_isPrefix input n).length_le
    refine congrArg ofSequence (Sequence.ofText_congr (words_significant_take input n h) ?_)
    intro strict
    refine ⟨fun long => Nat.lt_of_lt_of_le long le,fun long => ?_⟩
    by_contra short
    exact seen ⟨strict,Nat.not_lt.mp short,long⟩

/-- Where the cut hides the length, the first bytes are read as if they were the text. -/
lemma ofText_take_of_longBeyond (h : Sequence.textLimit ≤ n) (beyond : LongBeyond n input) :
    ofText mode (input.take n) = ofText mode (input.take Sequence.textLimit) := by
  have cut : (input.take n).take Sequence.textLimit = input.take Sequence.textLimit := by
    rw [List.take_take,Nat.min_eq_left h]
  rw [← cut,eq_comm,ofText_take_eq_iff (Nat.le_refl _)]
  exact fun ⟨_,_,long⟩ => absurd long (Nat.not_lt.mpr beyond.1)

end Command
end ClimateStation
