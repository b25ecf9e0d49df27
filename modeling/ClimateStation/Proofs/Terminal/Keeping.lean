import ClimateStation.Proofs.Command.Cut
import ClimateStation.Proofs.Command.Phrase
import ClimateStation.Proofs.Terminal.Feeding

/-! What an editor keeps, whatever was done to it since it was fresh. Its lines hold no more than 22
small letters, digits, hyphens and blanks, and reading a text asks for no less: a line that is handed
over is read to its end. -/
namespace ClimateStation.Terminal
open Text

/-- A line as an editor keeps it: small letters, digits, hyphens and blanks, up to the limit. -/
structure Kept (line : List UInt8) : Prop where
  short : line.length ≤ 22
  plain : ∀ b ∈ line, isPlain b = true ∨ b = 32 ∨ b = 9 ∨ b = 45

/-- A character is kept in small letters. -/
lemma plain_lower {b : UInt8} (typable : isTypable b = true) :
    isPlain (lower b) = true ∨ lower b = 32 ∨ lower b = 9 ∨ lower b = 45 := by
  unfold isTypable isAlphanumeric at typable
  unfold lower
  cases upper : isUpper b with
  | true =>
    have small : isLower (b + 32) = true := by
      simp only [isUpper,isLower,Bool.and_eq_true,decide_eq_true_eq,UInt8.le_iff_toNat_le,
        UInt8.toNat_add,UInt8.reduceToNat] at upper ⊢
      omega
    exact .inl (Bool.or_eq_true_iff.mpr (.inl small))
  | false => simpa [upper,isPlain_eq,or_assoc,or_left_comm,or_comm] using typable

namespace Kept
variable {line : List UInt8} {b : UInt8}

lemma nil : Kept [] := ⟨Nat.zero_le _,List.forall_mem_nil _⟩

lemma concat (kept : Kept line) (typable : isTypable b = true) (room : line.length < lineLimit) :
    Kept (line ++ [lower b]) where
  short := by
    rw [List.length_append]
    exact room
  plain := List.forall_mem_append.mpr
    ⟨kept.plain,List.forall_mem_singleton.mpr (plain_lower typable)⟩

lemma dropLast (kept : Kept line) : Kept line.dropLast where
  short := by
    have := kept.short
    rw [List.length_dropLast]
    omega
  plain b member := kept.plain b (List.mem_of_mem_dropLast member)

lemma typable (kept : Kept line) (member : b ∈ line) : isTypable b = true := by
  rcases kept.plain b member with plain | rfl | rfl | rfl
  · exact isTypable_of_isPlain plain
  · decide
  · decide
  · decide

lemma lower_eq (kept : Kept line) (member : b ∈ line) : lower b = b := by
  rcases kept.plain b member with plain | rfl | rfl | rfl
  · exact lower_of_isPlain plain
  · decide
  · decide
  · decide

lemma takeWhile_eq (kept : Kept line) : line.takeWhile (· != 0) = line := by
  refine List.takeWhile_eq_self_iff.mpr fun b member => bne_iff_ne.mpr ?_
  rintro rfl
  exact absurd (kept.typable member) (by decide)

lemma length_significant_le (kept : Kept line) :
    (significant line).length ≤ Command.Sequence.textLimit := by
  have front : significant line <+: line.takeWhile (· != 0) := List.rdropWhile_prefix isBlank _
  rw [kept.takeWhile_eq] at front
  exact front.length_le.trans kept.short

/-- No word of the line is lost or changed when the line is read. -/
lemma wordsRead_eq (kept : Kept line) :
    Command.wordsRead line = (line.splitOnP (· ∈ blanks)).filter (· ≠ []) := by
  have short : line.length ≤ Command.Sequence.textLimit := kept.short
  have small {w : List UInt8} (hw : w ∈ words line) : w.map lower = w := by
    rw [List.map_congr_left fun b hb => kept.lower_eq (mem_of_mem_words hw hb),List.map_id']
  rw [Command.wordsRead_eq,← words_eq,words_take_significant,kept.takeWhile_eq,List.take_of_length_le short,
    List.map_congr_left fun w hw => small hw,List.map_id']

/-- So a strict reading of the line is one of all its words. -/
lemma ofText_eq (kept : Kept line) : Command.Sequence.ofText .strict line =
    (((line.splitOnP (· ∈ blanks)).filter (· ≠ [])).foldl (Command.Sequence.addWord .strict)
      (.empty,false)).1 := by
  have fits : ¬(Command.Strictness.strict = .strict ∧
      Command.Sequence.textLimit < (significant line).length) := fun long =>
    absurd kept.length_significant_le (Nat.not_le.mpr long.2)
  rw [Command.Sequence.ofText_eq_foldl fits,kept.wordsRead_eq]

end Kept

namespace Editor

/-- What calls make of a fresh editor, and the lines it has handed over. -/
inductive Reached : List (List UInt8) → Editor → Prop
  | fresh : Reached [] fresh
  | await {lines e} (h : Reached lines e) : Reached lines e.await
  | feed {lines e} (h : Reached lines e) (localEcho : Bool) (b : UInt8) :
      Reached (lines ++ submitted [(e.feed localEcho b).1]) (e.feed localEcho b).2.2

variable {e : Editor} {b : UInt8} {localEcho : Bool} {lines : List (List UInt8)}

/-- What is kept is left in order by every byte, and nothing else is handed over. -/
lemma Fed.kept {r : Edit × String × Editor} (fed : e.Fed localEcho b r) (line : Kept e.line)
    (last : Kept e.last) : Kept r.2.2.line ∧ Kept r.2.2.last ∧
      ∀ handed ∈ submitted [r.1], handed ≠ [] ∧ Kept handed := by
  cases fed with
  | idle | blank => exact ⟨line,last,nofun⟩
  | dismissed => exact ⟨.nil,last,nofun⟩
  | recalled => exact ⟨last,last,nofun⟩
  | erased => exact ⟨line.dropLast,last,nofun⟩
  | typed _ typable room => exact ⟨line.concat typable room,last,nofun⟩
  | handed _ _ more => exact ⟨.nil,line,List.forall_mem_singleton.mpr ⟨more,line⟩⟩

lemma Reached.kept (h : Reached lines e) :
    Kept e.line ∧ Kept e.last ∧ ∀ line ∈ lines, line ≠ [] ∧ Kept line := by
  induction h with
  | fresh => exact ⟨.nil,.nil,nofun⟩
  | await _ ih => exact ih
  | feed _ localEcho b ih =>
    obtain ⟨line,last,handed⟩ := ih
    obtain ⟨line',last',new⟩ := (feed_fed localEcho _ b).kept line last
    exact ⟨line',last',List.forall_mem_append.mpr ⟨handed,new⟩⟩

/-- A stream of bytes is fed one by one. -/
lemma Reached.after (h : Reached lines e) (localEcho : Bool) (bytes : List UInt8) :
    Reached (lines ++ submitted (e.edits localEcho bytes)) (e.after localEcho bytes) := by
  induction bytes generalizing lines e with
  | nil =>
    rw [edits,submitted,List.filterMap_nil,List.append_nil]
    exact h
  | cons b bytes ih =>
    rw [edits,submitted_cons,← List.append_assoc]
    exact ih (h.feed localEcho b)

lemma Reached.stream {all : List (List UInt8)} (h : Reached lines e) (localEcho : Bool)
    (bytes : List UInt8) (same : lines ++ submitted (e.edits localEcho bytes) = all) :
    Reached all (e.after localEcho bytes) := same ▸ h.after localEcho bytes

/-- Whatever is typed, and whenever a key is waited for: the lines that an editor keeps and hands
over fit into what is read of a text, and none that is handed over is empty. So a strict reading never
finds such a line too long and never stops within it: it reads each of its words. -/
theorem typed_lines_fit (h : Reached lines e) : Kept e.line ∧ Kept e.last ∧
    ∀ line ∈ lines, line ≠ [] ∧ Kept line ∧ line.takeWhile (· != 0) = line ∧
      (Command.Sequence.ofText .strict line).fault ≠ some .tooLong ∧
      Command.Sequence.ofText .strict line =
        (((line.splitOnP (· ∈ blanks)).filter (· ≠ [])).foldl (Command.Sequence.addWord .strict)
          (.empty,false)).1 := by
  obtain ⟨line,last,handed⟩ := h.kept
  refine ⟨line,last,fun line member => ?_⟩
  obtain ⟨more,kept⟩ := handed line member
  refine ⟨more,kept,kept.takeWhile_eq,?_,kept.ofText_eq⟩
  rw [kept.ofText_eq]
  exact Command.Sequence.lasting_ne_tooLong.foldl _ nofun

/-- A line with a NUL and blanks at its end, a key that is waited for and comes while characters are
typed, and a line that is too long. -/
theorem typed_lines_fit_awaiting :
    let first := bytesOf "LED\x00 Blink  ".toList
    let second := bytesOf "rgb 255 255 255 255 25".toList
    let e := (fresh.after true (first ++ newline)).await.after false
      (bytesOf "\x1b[Aq\x7f".toList ++ second ++ bytesOf "5 255\r".toList)
    let lines := [bytesOf "led blink  ".toList,second]
    Reached lines e ∧ Kept e.last ∧ ∀ line ∈ lines, line ≠ [] ∧ Kept line ∧
      (Command.Sequence.ofText .strict line).fault ≠ some .tooLong := by
  intro first second e lines
  have begun : Reached [bytesOf "led blink  ".toList] (fresh.after true (first ++ newline)) :=
    Reached.fresh.stream true _ (by decide +kernel)
  have reached : Reached lines e := begun.await.stream false _ (by decide +kernel)
  obtain ⟨-,last,fit⟩ := typed_lines_fit reached
  exact ⟨reached,last,fun line member => ⟨(fit line member).1,(fit line member).2.1,
    (fit line member).2.2.2.1⟩⟩

end Editor
end ClimateStation.Terminal
