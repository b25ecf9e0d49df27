import ClimateStation.Proofs.Command.Contributions
import ClimateStation.Proofs.Command.Values

/-! Lenient readings. A bad word does nothing to a lenient reading, not even to what the words after
it mean, so the text might as well have been written without it; and without bad words, within the
limit of a text, both ways of reading are the same. -/
namespace ClimateStation.Command
open Text

/-- A word is a keyword, or a number after a word that takes operands. -/
def Understood (before : List (List UInt8)) (w : List UInt8) : Prop :=
  (∃ s, Means w s) ∨
    (∃ earlier ∈ before, TakesOperand earlier) ∧ ∃ n : UInt16, Numeral.Writes w n.toNat

instance (w : List UInt8) : Decidable (∃ s, Means w s) :=
  decidable_of_iff ((Symbol.ofWord? w).isSome = true) <| by
    simp only [Option.isSome_iff_exists,Symbol.ofWord?_eq_some_iff]

instance (w : List UInt8) : Decidable (∃ n : UInt16, Numeral.Writes w n.toNat) :=
  decidable_of_iff (w ≠ [] ∧ (Numeral.parse w).toOption.isSome = true) <| by
    simp only [Numeral.writes_iff,exists_and_left]
    cases Numeral.parse w <;> simp [Except.toOption]

instance (before : List (List UInt8)) (w : List UInt8) : Decidable (Understood before w) :=
  inferInstanceAs (Decidable (_ ∨ _ ∧ _))

/-- The words that are left when every bad word is taken out, as they are spelled. -/
def withoutBadWords (ws : List (List UInt8)) : List (List UInt8) :=
  ((withEarlier ws).filter fun (before,w) =>
    Understood (before.map (·.map small)) (w.map small)).map Prod.snd

example : joined (withoutBadWords (words (bytesOf "12 Set foo 12".toList))) =
    bytesOf "Set 12".toList := by decide

variable {before ws : List (List UInt8)} {w part : List UInt8} {fault : InputError}

lemma understood_of_ok (hw : w ≠ []) (h : contribution before w = .ok part) :
    Understood before w := by
  rw [contribution_eq] at h
  split at h
  · next s hs => exact .inl ⟨s,(Symbol.ofWord?_eq_some_iff w s).mp hs⟩
  · split at h
    · next due =>
      split at h
      · next n hn => exact .inr ⟨due,n,Numeral.writes_iff.mpr ⟨hw,hn⟩⟩
      · exact nomatch h
    · exact nomatch h

lemma not_understood_of_error (h : contribution before w = .error fault) :
    ¬Understood before w := by
  rw [contribution_eq] at h
  split at h
  · exact nomatch h
  · next none =>
    rintro (⟨s,hs⟩ | ⟨due,n,hn⟩)
    · rw [(Symbol.ofWord?_eq_some_iff w s).mpr hs] at none
      exact nomatch none
    · rw [if_pos due,(Numeral.writes_iff.mp hn).2] at h
      exact nomatch h

lemma withoutBadWords_concat (ws : List (List UInt8)) (w : List UInt8) :
    withoutBadWords (ws ++ [w]) = withoutBadWords ws ++
      if Understood (ws.map (·.map small)) (w.map small) then [w] else [] := by
  rw [withoutBadWords,withEarlier_concat,List.filter_append,List.map_append,withoutBadWords]
  congr 1
  by_cases h : Understood (ws.map (·.map small)) (w.map small) <;> simp [h]

lemma withoutBadWords_sublist (ws : List (List UInt8)) : (withoutBadWords ws).Sublist ws := by
  induction ws using List.reverseRecOn with
  | nil => exact List.Sublist.slnil
  | append_singleton ws w ih =>
    rw [withoutBadWords_concat]
    refine ih.append ?_
    split
    · exact List.Sublist.refl _
    · exact List.nil_sublist _

namespace Sequence

lemma addWord_of_ok (s : Sequence) (h : contribution before w = .ok part) :
    addWord .lenient (s,decide (∃ earlier ∈ before, TakesOperand earlier)) w =
      addWord .strict (s,decide (∃ earlier ∈ before, TakesOperand earlier)) w := by
  simp only [addWord_eq,h]

/-- A lenient reading stays as it is at a bad word. -/
lemma addWord_of_error (s : Sequence) (h : contribution before w = .error fault) :
    addWord .lenient (s,decide (∃ earlier ∈ before, TakesOperand earlier)) w =
      (s,decide (∃ earlier ∈ before, TakesOperand earlier)) := by
  have none : Symbol.ofWord? w = none := by
    cases hk : Symbol.ofWord? w with
    | none => rfl
    | some k =>
      rw [contribution_eq,hk] at h
      cases h
  simp only [addWord_eq,h,exists_takesOperand_concat,not_takesOperand none,or_false]

/-- Without its bad words, the words of a text are the same to strict and lenient readings. -/
lemma foldl_withoutBadWords (h : ∀ w ∈ ws, w ≠ []) :
    (ws.map (·.map small)).foldl (addWord .lenient) (empty,false) =
      ((withoutBadWords ws).map (·.map small)).foldl (addWord .strict) (empty,false) := by
  induction ws using List.reverseRecOn with
  | nil => rfl
  | append_singleton ws w ih =>
    have front := ih fun w hw => h w (List.mem_append_left _ hw)
    have hw : w.map small ≠ [] := by simpa using h w (by simp)
    obtain ⟨s,so_far⟩ : ∃ s, (ws.map (·.map small)).foldl (addWord .lenient) (empty,false) =
        (s,decide (∃ earlier ∈ ws.map fun w : List UInt8 => w.map small, TakesOperand earlier)) :=
      ⟨_,foldl_addWord none _⟩
    rw [withoutBadWords_concat,List.map_append,List.foldl_append,List.map_append,List.foldl_append,
      ← front,so_far,List.map_singleton,List.foldl_cons,List.foldl_nil]
    cases hc : contribution (ws.map (·.map small)) (w.map small) with
    | ok part =>
      rw [if_pos (understood_of_ok hw hc),addWord_of_ok s hc]
      rfl
    | error fault =>
      rw [if_neg (not_understood_of_error hc),addWord_of_error s hc]
      rfl

/-- Where a strict reading finds no fault, neither does a lenient one, and they are the same. -/
lemma ofText_lenient_of_strict {input : List UInt8} (h : (ofText .strict input).fault = none) :
    ofText .lenient input = ofText .strict input := by
  rw [ofText_eq] at h
  obtain ⟨short,sound⟩ := Option.or_eq_none_iff.mp h
  have mild : firstFault .lenient (wordsRead input) = none := by
    rw [firstFault,List.findSome?_eq_none_iff] at sound ⊢
    rintro ⟨before,w⟩ hw
    have still : faultAt .strict before w = none := sound _ hw
    change faultAt .lenient before w = none
    cases hc : contribution before w with
    | ok part => rwa [faultAt_of_ok hc,← faultAt_of_ok hc]
    | error fault => exact faultAt_lenient_of_error hc
  rw [ofText_eq,ofText_eq,mild,short,sound]
  rfl

/-- What a lenient reading drops might as well not have been written. -/
lemma ofText_lenient (input : List UInt8) : ofText .lenient input =
    ofText .strict (joined (withoutBadWords (words ((significant input).take textLimit)))) := by
  set ws := words ((significant input).take textLimit)
  have kept := withoutBadWords_sublist ws
  have isWord : ∀ w ∈ withoutBadWords ws, IsWord w :=
    fun w hw => isWord_of_mem_words (kept.mem hw)
  have noZero : ∀ w ∈ withoutBadWords ws, 0 ∉ w := fun w hw h0 =>
    zero_notMem_significant input (List.mem_of_mem_take (mem_of_mem_words (kept.mem hw) h0))
  have short : (joined (withoutBadWords ws)).length ≤ textLimit :=
    (length_joined_le kept).trans (List.length_take_le _ _)
  have limited : ¬(Strictness.strict = .strict ∧
      textLimit < (significant (joined (withoutBadWords ws))).length) := by
    rw [significant_joined isWord noZero]
    exact fun h => absurd h.2 (Nat.not_lt.mpr short)
  have read : wordsRead input = ws.map (·.map small) := by rw [wordsRead_eq,lower_eq_small]
  calc ofText .lenient input
    _ = ((wordsRead input).foldl (addWord .lenient) (empty,false)).1 :=
      ofText_eq_foldl fun h => absurd h.1 (by decide)
    _ = (((withoutBadWords ws).map (·.map small)).foldl (addWord .strict) (empty,false)).1 := by
      rw [read,foldl_withoutBadWords fun w hw => (isWord_of_mem_words hw).nonempty]
    _ = ofText .strict (joined (withoutBadWords ws)) := by
      rw [ofText_eq_foldl limited,wordsRead_joined isWord noZero short]

end Sequence

/-- A lenient reading of a text is a strict reading of what is left of it when it is cut at the
limit and every bad word is taken out. -/
theorem lenient_reads_without_bad_words (input : List UInt8) :
    let text := (input.takeWhile (· != 0)).rdropWhile (· ∈ blanks)
    let ws := ((text.take 22).splitOnP (· ∈ blanks)).filter (· ≠ [])
    ofText .lenient input = ofText .strict (joined (withoutBadWords ws)) ∧
      (∀ c, ofText .strict input = .ok c → ofText .lenient input = .ok c) ∧
      ∀ fault, (Sequence.ofText .lenient input).fault = some fault → fault = .sequenceFull := by
  intro text ws
  have spelled : words ((significant input).take Sequence.textLimit) = ws := by
    rw [words_eq,significant_eq,Sequence.textLimit]
  refine ⟨?_,?_,?_⟩
  · rw [← spelled]
    exact congrArg ofSequence (Sequence.ofText_lenient input)
  · intro c h
    have sound : (Sequence.ofText .strict input).fault = none := by
      by_contra fault
      exact ofSequence_ne_ok fault h
    rw [ofText,Sequence.ofText_lenient_of_strict sound]
    exact h
  · intro fault h
    rw [Sequence.fault_ofText_lenient] at h
    unfold overfull at h
    split at h
    · exact (Option.some.inj h).symm
    · cases h

end ClimateStation.Command
