import ClimateStation.Datagram.Reply
import Mathlib.Tactic.Lemma

/-! What a reply holds of the text written to it: as much from the beginning as fits, however the
text was split into pieces. -/
namespace ClimateStation.Datagram

/-- The longest beginning of a text that has at most `limit` bytes. It ends between two
characters. -/
structure LongestBeginning (limit : Nat) (text part : String) : Prop where
  beginning : part.toList <+: text.toList
  fits : part.utf8ByteSize ≤ limit
  longest : ∀ other : String, other.toList <+: text.toList → other.utf8ByteSize ≤ limit →
    other.toList <+: part.toList

lemma utf8ByteSize_le_of_beginning {part text : String} (h : part.toList <+: text.toList) :
    part.utf8ByteSize ≤ text.utf8ByteSize := by
  obtain ⟨rest,split⟩ := h
  have joined : text = part ++ String.ofList rest := by
    apply String.toList_inj.mp
    rw [String.toList_append,String.toList_ofList,split]
  rw [joined,String.utf8ByteSize_append]
  exact Nat.le_add_right _ _

namespace Reply

/-- A reply that a text was written to. It has the whole text, or what stands before the first
character that did not fit. -/
inductive Holds : Reply → String → Prop
  | whole {text} (fits : text.utf8ByteSize ≤ replyLimit) : Holds ⟨text,false⟩ text
  | cut {part c rest} (fits : part.utf8ByteSize ≤ replyLimit)
      (excess : replyLimit < (part.push c).utf8ByteSize) : Holds ⟨part,true⟩ (part.push c ++ rest)

lemma holds_empty : empty.Holds "" := .whole (by decide)

namespace Holds
variable {r : Reply} {text : String}

lemma push (h : r.Holds text) (c : Char) : (r.push c).Holds (text.push c) := by
  cases h with
  | whole fits =>
    have size : (Reply.mk text false).size + c.utf8Size = (text.push c).utf8ByteSize :=
      String.utf8ByteSize_push.symm
    unfold Reply.push
    rw [if_neg Bool.false_ne_true,size]
    split
    · next room => exact .whole room
    · next full =>
      rw [← String.append_empty (s := text.push c)]
      exact .cut fits (Nat.lt_of_not_le full)
  | @cut part d rest fits excess =>
    have later : (part.push d ++ rest).push c = part.push d ++ rest.push c := by
      rw [String.push_eq_append,String.append_assoc,← String.push_eq_append]
    rw [later]
    exact .cut fits excess

lemma write (h : r.Holds text) (more : String) : (r.write more).Holds (text ++ more) := by
  have chars (cs : List Char) : (cs.foldl Reply.push r).Holds (text ++ String.ofList cs) := by
    induction cs generalizing r text with
    | nil => rwa [String.ofList_nil,String.append_empty]
    | cons c cs ih =>
      have next : text ++ String.ofList (c :: cs) = text.push c ++ String.ofList cs := by
        apply String.toList_inj.mp
        simp
      rw [next]
      exact ih (h.push c)
  have all := chars more.toList
  rwa [String.ofList_toList] at all

/-- It does not matter how a text is split into pieces. -/
lemma writes (h : r.Holds text) (pieces : List String) :
    (pieces.foldl Reply.write r).Holds (text ++ String.join pieces) := by
  induction pieces generalizing r text with
  | nil => rwa [String.join_nil,String.append_empty]
  | cons piece pieces ih =>
    rw [String.join_cons,← String.append_assoc]
    exact ih (h.write piece)

theorem longestBeginning (h : r.Holds text) : LongestBeginning replyLimit text r.text := by
  cases h with
  | whole fits => exact ⟨List.prefix_refl _,fits,fun _ part _ => part⟩
  | @cut part c rest fits excess =>
    have split : (part.push c ++ rest).toList = (part.toList ++ [c]) ++ rest.toList := by
      rw [String.toList_append,String.toList_push]
    refine ⟨?_,fits,fun other start short => ?_⟩
    · rw [split,List.append_assoc]
      exact List.prefix_append _ _
    · -- whatever reaches beyond the cut has the character that did not fit
      have bigger : ¬(part.push c).toList <+: other.toList := fun within =>
        absurd (Nat.le_trans (utf8ByteSize_le_of_beginning within) short) (Nat.not_le.mpr excess)
      rw [String.toList_push] at bigger
      rw [split] at start
      rcases List.prefix_or_prefix_of_prefix start (List.prefix_append _ _) with inside | beyond
      · rcases List.prefix_concat_iff.mp inside with same | inside
        · exact absurd (same ▸ List.prefix_refl _) bigger
        · exact inside
      · exact absurd beyond bigger

lemma text_eq (h : r.Holds text) (fits : text.utf8ByteSize ≤ replyLimit) : r.text = text := by
  cases h with
  | whole => rfl
  | cut _ excess =>
    rw [String.utf8ByteSize_append] at fits
    exact absurd (Nat.le_trans (Nat.le_add_right _ _) fits) (Nat.not_le.mpr excess)

/-- What is one byte too long loses its last character. -/
lemma text_eq_of_push {front : String} {c : Char} (h : r.Holds (front.push c))
    (long : (front.push c).utf8ByteSize = replyLimit + 1) : r.text = front := by
  generalize whole : front.push c = text at h long
  cases h with
  | whole fits => exact absurd long (Nat.ne_of_lt (Nat.lt_succ_of_le fits))
  | @cut part d rest _ excess =>
    rw [String.utf8ByteSize_append] at long
    have none : rest.utf8ByteSize = 0 := by omega
    rw [String.utf8ByteSize_eq_zero_iff.mp none,String.append_empty] at whole
    have chars := congrArg String.toList whole
    rw [String.toList_push,String.toList_push] at chars
    exact (String.toList_inj.mp (List.append_inj_left' chars rfl)).symm

end Holds

/-- The text of an answer: every line with its end. -/
def linesText (lines : List String) : String := String.join (lines.map (· ++ "\r\n"))

lemma linesText_cons (line : String) (lines : List String) :
    linesText (line :: lines) = line ++ "\r\n" ++ linesText lines := String.join_cons

theorem holds_ofLines (lines : List String) : (ofLines lines).Holds (linesText lines) := by
  have line : writeLine = fun r l => r.write (l ++ "\r\n") := by
    funext r l
    exact (write_append r l "\r\n").symm
  have joined := holds_empty.writes (lines.map (· ++ "\r\n"))
  rw [String.empty_append,List.foldl_map] at joined
  unfold ofLines
  rw [line]
  exact joined

lemma linesText_eq_push {lines : List String} (some : lines ≠ []) :
    ∃ front : String, linesText lines = front.push '\n' := by
  induction lines with
  | nil => exact absurd rfl some
  | cons line lines ih =>
    cases lines with
    | nil =>
      refine ⟨line.push '\r',?_⟩
      apply String.toList_inj.mp
      simp [linesText]
    | cons next rest =>
      obtain ⟨front,last⟩ := ih (List.cons_ne_nil _ _)
      refine ⟨line ++ "\r\n" ++ front,?_⟩
      rw [linesText_cons,last]
      simp only [String.push_eq_append, String.append_assoc]

lemma utf8ByteSize_linesText_cons (line : String) (lines : List String) :
    (linesText (line :: lines)).utf8ByteSize =
      line.utf8ByteSize + 2 + (linesText lines).utf8ByteSize := by
  have ending : "\r\n".utf8ByteSize = 2 := by decide
  simp only [linesText_cons, String.utf8ByteSize_append, ending]

end Reply
end ClimateStation.Datagram
