import ClimateStation.Proofs.Command.Language
import ClimateStation.Proofs.Text.Words
import Mathlib.Data.List.Infix

/-! What the words of a text come to, each in the light of the words before it. A word contributes
values or is at fault; the sequence holds the first values of all contributions together, and the
first fault of all. Reading goes from word to word and knows of those before it only what it has
put into the sequence, and whether one of them takes operands. -/
namespace ClimateStation

namespace Text
variable {α : Type}

/-- Every element with those that stand before it. -/
def withEarlier (xs : List α) : List (List α × α) := xs.inits.zip xs

lemma withEarlier_cons (x : α) (xs : List α) :
    withEarlier (x :: xs) = ([],x) :: (withEarlier xs).map (Prod.map (x :: ·) id) := by
  rw [withEarlier,List.inits_cons,List.zip_cons_cons,List.zip_map_left,withEarlier]

lemma withEarlier_concat (xs : List α) (x : α) :
    withEarlier (xs ++ [x]) = withEarlier xs ++ [(xs,x)] := by
  induction xs with
  | nil => rfl
  | cons y xs ih =>
    rw [List.cons_append,withEarlier_cons,ih,withEarlier_cons,List.map_append]
    rfl

end Text

open Text

namespace Command

/-- After these words a word that is no keyword is read as a number. -/
def TakesOperand (w : List UInt8) : Prop := Means w .set ∨ Means w .rgb ∨ Means w .led

instance (w : List UInt8) : Decidable (TakesOperand w) :=
  inferInstanceAs (Decidable (_ ∨ _))

/-- The values that a word contributes after the words before it, or why it is a bad word there. A
number below 256 is one value behind its mark, and a larger one is two, the high one first. -/
def contribution (before : List (List UInt8)) (w : List UInt8) : Except InputError (List UInt8) :=
  match Symbol.all.find? (Means w ·) with
  | some s => .ok [s.code]
  | none =>
    if ∃ earlier ∈ before, TakesOperand earlier then
      match Numeral.outcome w with
      | .ok n =>
        if n < 256 then .ok [Symbol.byte.code, .ofNat n]
        else .ok [Symbol.word.code, .ofNat (n / 256), .ofNat (n % 256)]
      | .error cause => .error (.numeral cause)
    else .error .unknownWord

/-- The values of all words together. A bad word contributes nothing. -/
def contributions (ws : List (List UInt8)) : List UInt8 :=
  (withEarlier ws).flatMap fun (before,w) => (contribution before w).toOption.getD []

/-- More values than a sequence holds are a fault. -/
def overfull (vs : List UInt8) : Option InputError :=
  if 8 < vs.length then some .sequenceFull else none

/-- The fault that reading finds at a word: why it is a bad word, or that the contributions up to
this one are more than a sequence holds. A lenient reading minds no bad word. -/
def faultAt (mode : Strictness) (before : List (List UInt8)) (w : List UInt8) :
    Option InputError :=
  match contribution before w, mode with
  | .ok _, _ => overfull (contributions (before ++ [w]))
  | .error fault, .strict => some fault
  | .error _, .lenient => none

/-- The fault at the first word that has one. -/
def firstFault (mode : Strictness) (ws : List (List UInt8)) : Option InputError :=
  (withEarlier ws).findSome? fun (before,w) => faultAt mode before w

/-- The words that are read of a text, in small letters. -/
def wordsRead (input : List UInt8) : List (List UInt8) :=
  let text := (input.takeWhile (· != 0)).rdropWhile (· ∈ blanks)
  (((text.take 22).splitOnP (· ∈ blanks)).filter (· ≠ [])).map (·.map small)

variable {mode : Strictness} {ws before : List (List UInt8)} {w part : List UInt8}
  {fault : InputError}

lemma wordsRead_eq (input : List UInt8) :
    wordsRead input = (words ((significant input).take Sequence.textLimit)).map (·.map lower) := by
  rw [words_eq,significant_eq,lower_eq_small,wordsRead,Sequence.textLimit]

lemma Symbol.find?_means (w : List UInt8) : all.find? (Means w ·) = ofWord? w := by
  have means {s : Symbol} (found : all.find? (Means w ·) = some s) : ofWord? w = some s := by
    have same := List.find?_some found
    exact (ofWord?_eq_some_iff w s).mpr (of_decide_eq_true same)
  cases found : all.find? (Means w ·) with
  | some s => exact (means found).symm
  | none =>
    have other := List.find?_eq_none.mp found
    cases meant : ofWord? w with
    | none => rfl
    | some s =>
      exact absurd (decide_eq_true ((ofWord?_eq_some_iff w s).mp meant)) (other s s.mem_all)

lemma Sequence.operand_eq (v : UInt16) : operand v =
    if v.toNat < 256 then [Symbol.byte.code, .ofNat v.toNat]
    else [Symbol.word.code, .ofNat (v.toNat / 256), .ofNat (v.toNat % 256)] := rfl

/-- A word contributes what is pushed for it. -/
lemma contribution_eq (before : List (List UInt8)) (w : List UInt8) : contribution before w =
    match Symbol.ofWord? w with
    | some s => .ok [s.code]
    | none =>
      if ∃ earlier ∈ before, TakesOperand earlier then
        match Numeral.parse w with
        | .ok n => .ok (Sequence.operand n)
        | .error cause => .error (.numeral cause)
      else .error .unknownWord := by
  rw [contribution,Symbol.find?_means,Numeral.parse_eq]
  cases read : Numeral.outcome w with
  | error cause => rfl
  | ok n =>
    have few : n ≤ 65535 := (Numeral.outcome_ok_iff.mp read).2.2.2
    have same : (UInt16.ofNat n).toNat = n := by
      rw [UInt16.toNat_ofNat',Nat.mod_eq_of_lt (by omega)]
    simp only [Except.map, Sequence.operand_eq, same, apply_ite]

lemma contributions_concat (ws : List (List UInt8)) (w : List UInt8) :
    contributions (ws ++ [w]) = contributions ws ++ (contribution ws w).toOption.getD [] := by
  rw [contributions,withEarlier_concat,List.flatMap_append,List.flatMap_singleton]
  rfl

lemma contributions_of_ok (h : contribution ws w = .ok part) :
    contributions (ws ++ [w]) = contributions ws ++ part := by
  rw [contributions_concat,h]
  rfl

lemma contributions_of_error (h : contribution ws w = .error fault) :
    contributions (ws ++ [w]) = contributions ws := by
  rw [contributions_concat,h]
  exact List.append_nil _

lemma firstFault_concat (mode : Strictness) (ws : List (List UInt8)) (w : List UInt8) :
    firstFault mode (ws ++ [w]) = (firstFault mode ws).or (faultAt mode ws w) := by
  rw [firstFault,withEarlier_concat,List.findSome?_append,List.findSome?_singleton]
  rfl

lemma faultAt_of_ok (h : contribution before w = .ok part) :
    faultAt mode before w = overfull (contributions before ++ part) := by
  unfold faultAt
  rw [h,contributions_of_ok h]

lemma faultAt_strict_of_error (h : contribution before w = .error fault) :
    faultAt .strict before w = some fault := by
  unfold faultAt
  rw [h]

lemma faultAt_lenient_of_error (h : contribution before w = .error fault) :
    faultAt .lenient before w = none := by
  unfold faultAt
  rw [h]

lemma exists_takesOperand_concat : (∃ earlier ∈ ws ++ [w], TakesOperand earlier) ↔
    (∃ earlier ∈ ws, TakesOperand earlier) ∨ TakesOperand w := by
  simp [or_and_right,exists_or]

/-- The marks of operands take operands too, but no word stands for them. -/
lemma Means.takesOperand_iff {s : Symbol} (h : Means w s) :
    TakesOperand w ↔ s.takesOperand = true := by
  have only {t : Symbol} : Means w t ↔ s = t := by
    rw [← Symbol.ofWord?_eq_some_iff,(Symbol.ofWord?_eq_some_iff w s).mpr h,Option.some.injEq]
  have word := h.isWord
  rw [TakesOperand,only,only,only]
  cases s <;> first | decide | exact nomatch word

lemma not_takesOperand (h : Symbol.ofWord? w = none) : ¬TakesOperand w := by
  simp only [TakesOperand,← Symbol.ofWord?_eq_some_iff,h]
  exact nofun

lemma overfull_or_append (vs part : List UInt8) :
    (overfull vs).or (overfull (vs ++ part)) = overfull (vs ++ part) := by
  unfold overfull
  rw [List.length_append]
  by_cases full : 8 < vs.length
  · rw [if_pos full,if_pos (by omega)]
    rfl
  · rw [if_neg full,Option.none_or]

namespace Sequence

lemma push_take (all : List UInt8) (f : Option InputError) (v : UInt8) :
    push ⟨all.take capacity,f⟩ v = ⟨(all ++ [v]).take capacity,f.or (overfull (all ++ [v]))⟩ := by
  have places : capacity = 8 := rfl
  unfold push overfull
  rw [List.length_take,List.length_append,List.length_singleton]
  split
  · next room =>
    have fits : all.length < capacity := by omega
    have fits' : (all ++ [v]).length ≤ capacity := by
      rw [List.length_append]
      exact fits
    rw [if_neg (by omega),Option.or_none,List.take_of_length_le fits',
      List.take_of_length_le (Nat.le_of_lt fits)]
  · next noRoom =>
    have full : capacity ≤ all.length := by omega
    rw [if_pos (by omega),List.take_append_of_le_length full]
    rfl

/-- A sequence holds the first of all values pushed, and knows if there were more. -/
lemma pushAll_take {part : List UInt8} (all : List UInt8) (f : Option InputError)
    (h : part ≠ []) : pushAll ⟨all.take capacity,f⟩ part =
      ⟨(all ++ part).take capacity,f.or (overfull (all ++ part))⟩ := by
  induction part generalizing all f with
  | nil => exact absurd rfl h
  | cons v part ih =>
    have step : pushAll ⟨all.take capacity,f⟩ (v :: part) =
        (push ⟨all.take capacity,f⟩ v).pushAll part := rfl
    rw [step,push_take]
    cases part with
    | nil => rfl
    | cons v' part =>
      rw [ih _ _ (List.cons_ne_nil _ _),Option.or_assoc,overfull_or_append,List.append_assoc]
      rfl

lemma operand_ne_nil (n : UInt16) : operand n ≠ [] := by
  unfold operand
  split <;> exact List.cons_ne_nil _ _

/-- Reading a word makes of it what it is behind the words before. -/
lemma addWord_eq (s : Sequence) (before : List (List UInt8)) (w : List UInt8) :
    addWord mode (s,decide (∃ earlier ∈ before, TakesOperand earlier)) w =
      (match contribution before w, mode with
        | .ok part, _ => s.pushAll part
        | .error fault, .strict => s.withFault fault
        | .error _, .lenient => s,
        decide (∃ earlier ∈ before ++ [w], TakesOperand earlier)) := by
  simp only [exists_takesOperand_concat,contribution_eq,addWord]
  cases hk : Symbol.ofWord? w with
  | some k =>
    have hw := (Symbol.ofWord?_eq_some_iff w k).mp hk
    simp only [hw.takesOperand_iff,Bool.decide_or,Bool.decide_eq_true]
    rfl
  | none =>
    have same := not_takesOperand hk
    by_cases due : ∃ earlier ∈ before, TakesOperand earlier
    · simp only [due,same,or_false,decide_true,if_true]
      cases Numeral.parse w <;> cases mode <;> rfl
    · simp only [due,same,or_false,decide_false,if_false]
      cases mode <;> rfl

lemma contribution_ne_nil {before : List (List UInt8)} {part : List UInt8}
    (h : contribution before w = .ok part) : part ≠ [] := by
  rw [contribution_eq] at h
  split at h
  · cases h
    exact List.cons_ne_nil _ _
  · split at h
    · split at h
      · cases h
        exact operand_ne_nil _
      · exact nomatch h
    · exact nomatch h

/-- After some words the sequence holds the first of their values, and their first fault. -/
lemma foldl_addWord (start : Option InputError) (ws : List (List UInt8)) :
    ws.foldl (addWord mode) (⟨[],start⟩,false) =
      (⟨(contributions ws).take capacity,start.or (firstFault mode ws)⟩,
        decide (∃ earlier ∈ ws, TakesOperand earlier)) := by
  induction ws using List.reverseRecOn with
  | nil => simp [contributions,firstFault,withEarlier]
  | append_singleton ws w ih =>
    rw [List.foldl_append,ih,List.foldl_cons,List.foldl_nil,addWord_eq,firstFault_concat,
      ← Option.or_assoc]
    cases h : contribution ws w with
    | ok part =>
      rw [faultAt_of_ok h,contributions_of_ok h]
      exact congrArg (·,_) (pushAll_take _ _ (contribution_ne_nil h))
    | error fault =>
      rw [contributions_of_error h]
      cases mode with
      | strict =>
        rw [faultAt_strict_of_error h]
        rfl
      | lenient =>
        rw [faultAt_lenient_of_error h,Option.or_none]

end Sequence

/-- A lenient reading can only find too many values. -/
lemma firstFault_lenient (ws : List (List UInt8)) :
    firstFault .lenient ws = overfull (contributions ws) := by
  induction ws using List.reverseRecOn with
  | nil => rfl
  | append_singleton ws w ih =>
    rw [firstFault_concat,ih]
    cases h : contribution ws w with
    | ok part => rw [faultAt_of_ok h,contributions_of_ok h,overfull_or_append]
    | error fault => rw [faultAt_lenient_of_error h,contributions_of_error h,Option.or_none]

/-- The sequence of a text holds the first values that its words contribute. -/
lemma Sequence.ofText_eq (mode : Strictness) (input : List UInt8) : Sequence.ofText mode input =
    ⟨(contributions (wordsRead input)).take capacity,
      (if mode = .strict ∧ textLimit < (significant input).length then some .tooLong
        else none).or (firstFault mode (wordsRead input))⟩ := by
  have start : (if mode = .strict ∧ textLimit < (significant input).length
      then empty.withFault .tooLong else empty) = ⟨[],
        if mode = .strict ∧ textLimit < (significant input).length then some .tooLong else none⟩ := by
    split <;> rfl
  unfold ofText
  dsimp only
  rw [start,← wordsRead_eq,foldl_addWord]

lemma Sequence.fault_ofText_lenient (input : List UInt8) :
    (ofText .lenient input).fault = overfull (contributions (wordsRead input)) := by
  have mild : ¬(Strictness.lenient = .strict ∧ textLimit < (significant input).length) :=
    fun h => nomatch h.1
  rw [ofText_eq,if_neg mild,Option.none_or,firstFault_lenient]

lemma Sequence.ofText_eq_foldl {input : List UInt8}
    (h : ¬(mode = .strict ∧ textLimit < (significant input).length)) :
    ofText mode input = ((wordsRead input).foldl (addWord mode) (empty,false)).1 := by
  unfold ofText
  dsimp only
  rw [if_neg h,wordsRead_eq]

lemma wordsRead_joined (h : ∀ w ∈ ws, IsWord w) (h0 : ∀ w ∈ ws, 0 ∉ w)
    (short : (joined ws).length ≤ Sequence.textLimit) :
    wordsRead (joined ws) = ws.map (·.map small) := by
  rw [wordsRead_eq,significant_joined h h0,List.take_of_length_le short,words_joined h,
    lower_eq_small]

/-- Reading a text is told by its words alone. The sequence is the first eight of their values, with
one mark at the end. A strict reading is at fault for the length of the text, or else for its first
word that is bad or finds no place; a lenient one only if the values find no place. -/
theorem text_read_word_by_word (mode : Strictness) (input : List UInt8) :
    let text := (input.takeWhile (· != 0)).rdropWhile (· ∈ blanks)
    let ws := (((text.take 22).splitOnP (· ∈ blanks)).filter (· ≠ [])).map (·.map small)
    (Sequence.ofText mode input).toList = (contributions ws).take 8 ++ [Symbol.endOfLine.code] ∧
      (Sequence.ofText mode input).fault = match mode with
        | .strict => if 22 < text.length then some .tooLong else firstFault .strict ws
        | .lenient => if 8 < (contributions ws).length then some .sequenceFull else none := by
  intro text ws
  have counts : significant input = text := significant_eq input
  have read : wordsRead input = ws := rfl
  constructor
  · rw [Sequence.toList,Sequence.ofText_eq,read,Sequence.capacity]
  · cases mode with
    | strict =>
      rw [Sequence.ofText_eq,read,counts]
      by_cases long : 22 < text.length
      · rw [if_pos ⟨rfl,long⟩]
        exact (if_pos long).symm
      · rw [if_neg fun h => long h.2,Option.none_or]
        exact (if_neg long).symm
    | lenient => rw [Sequence.fault_ofText_lenient,read,overfull]

/-- A strict reading passes over a word that is no number, and is at fault for it. A lenient one does
not mind it, but of the last number only the mark finds a place. -/
theorem text_read_word_by_word_mixed :
    let colour := bytesOf "Set foo 300 7".toList
    let crowded := bytesOf "RGB x 1 2 3 300".toList
    (Sequence.ofText .strict colour).toList = [12,27,1,44,26,7,63] ∧
      (Sequence.ofText .strict colour).fault = some (.numeral (.notANumber 0)) ∧
      (Sequence.ofText .lenient crowded).toList = [11,26,1,26,2,26,3,27,63] ∧
      (Sequence.ofText .lenient crowded).fault = some .sequenceFull := by
  intro colour crowded
  have strict := text_read_word_by_word .strict colour
  have lenient := text_read_word_by_word .lenient crowded
  exact ⟨strict.1.trans (by decide +kernel),strict.2.trans (by decide +kernel),
    lenient.1.trans (by decide +kernel),lenient.2.trans (by decide +kernel)⟩

end Command
end ClimateStation
