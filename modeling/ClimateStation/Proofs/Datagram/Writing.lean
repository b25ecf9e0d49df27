import ClimateStation.Proofs.Datagram.Reply
import ClimateStation.Proofs.Text.Size

/-! Writing to a reply. A text can come at once, as a line, or as a line in formatted pieces; what the
reply holds in the end depends on nothing but all that was written. -/
namespace ClimateStation.Datagram

lemma LongestBeginning.unique {limit : Nat} {text part other : String}
    (h : LongestBeginning limit text part) (h' : LongestBeginning limit text other) :
    part = other := by
  have forth := h'.longest part h.beginning h.fits
  have back := h.longest other h'.beginning h'.fits
  exact String.toList_inj.mp (forth.eq_of_length_le back.length_le)

/-- The bytes of a beginning are the first bytes of the text. -/
lemma toUTF8_of_beginning {part text : String} (h : part.toList <+: text.toList) :
    part.toUTF8 = text.toUTF8.extract 0 part.utf8ByteSize := by
  obtain ⟨rest,split⟩ := h
  have joined : text = part ++ String.ofList rest := by
    apply String.toList_inj.mp
    rw [String.toList_append,String.toList_ofList,split]
  subst joined
  have bytes : (part ++ String.ofList rest).toUTF8 = part.toUTF8 ++ (String.ofList rest).toUTF8 := by
    simp
  rw [bytes]
  exact (ByteArray.extract_append_eq_left rfl).symm

namespace Reply

/-- A way of writing to a reply. -/
inductive Call
  | write (text : String)
  | writeLine (line : String)
  /-- A formatted line comes in pieces. -/
  | writePieces (pieces : List String)
  deriving DecidableEq, Repr

namespace Call

def carryOut (r : Reply) : Call → Reply
  | write text => r.write text
  | writeLine line => r.writeLine line
  | writePieces pieces => (pieces.foldl Reply.write r).write "\r\n"

/-- What a call writes. -/
def text : Call → String
  | write text => text
  | writeLine line => line ++ "\r\n"
  | writePieces pieces => String.join pieces ++ "\r\n"

end Call

/-- The reply after some calls. -/
def after (calls : List Call) : Reply := calls.foldl Call.carryOut empty

/-- All that some calls write. -/
def written (calls : List Call) : String := String.join (calls.map Call.text)

variable {r : Reply} {text : String}

/-! ## A cut reply -/

lemma write_of_cut (cut : r.cut = true) (more : String) : r.write more = r := by
  have chars (cs : List Char) : cs.foldl push r = r := by
    induction cs with
    | nil => rfl
    | cons c cs ih =>
      have still : r.push c = r := if_pos cut
      rw [List.foldl_cons,still,ih]
  exact chars more.toList

lemma carryOut_of_cut (cut : r.cut = true) (call : Call) : call.carryOut r = r := by
  cases call with
  | write text => exact write_of_cut cut text
  | writeLine line => simp only [Call.carryOut, writeLine, write_of_cut cut]
  | writePieces pieces =>
    have still : pieces.foldl Reply.write r = r := by
      induction pieces with
      | nil => rfl
      | cons piece pieces ih => rw [List.foldl_cons,write_of_cut cut,ih]
    simp only [Call.carryOut, still, write_of_cut cut]

lemma foldl_of_cut (cut : r.cut = true) (calls : List Call) : calls.foldl Call.carryOut r = r := by
  induction calls with
  | nil => rfl
  | cons call calls ih => rw [List.foldl_cons,carryOut_of_cut cut,ih]

/-! ## What calls leave -/

namespace Holds

lemma cut_iff (h : r.Holds text) : r.cut = true ↔ replyLimit < text.utf8ByteSize := by
  cases h with
  | whole fits => simpa using fits
  | @cut part c rest _ excess =>
    refine iff_of_true rfl ?_
    rw [String.utf8ByteSize_append]
    exact Nat.lt_of_lt_of_le excess (Nat.le_add_right _ _)

/-- A text leaves a single reply. -/
lemma unique {s : Reply} (h : r.Holds text) (h' : s.Holds text) : r = s := by
  have texts : r.text = s.text := h.longestBeginning.unique h'.longestBeginning
  have cuts : r.cut = s.cut := Bool.eq_iff_iff.mpr (h.cut_iff.trans h'.cut_iff.symm)
  cases r
  cases s
  simp_all

/-- A text that fits is added whole. -/
lemma write_of_fits (h : r.Holds text) (uncut : r.cut = false) (more : String)
    (fits : r.size + more.utf8ByteSize ≤ replyLimit) : r.write more = ⟨r.text ++ more,false⟩ := by
  cases h with
  | whole room =>
    have size : (text ++ more).utf8ByteSize ≤ replyLimit := by
      rwa [String.utf8ByteSize_append]
    exact ((Holds.whole room).write more).unique (.whole size)
  | cut _ _ => contradiction

lemma carryOut (h : r.Holds text) (call : Call) : (call.carryOut r).Holds (text ++ call.text) := by
  cases call with
  | write more => exact h.write more
  | writeLine line =>
    rw [Call.text,← String.append_assoc]
    exact (h.write line).write "\r\n"
  | writePieces pieces =>
    rw [Call.text,← String.append_assoc]
    exact (h.writes pieces).write "\r\n"

lemma calls (h : r.Holds text) (calls : List Call) :
    (calls.foldl Call.carryOut r).Holds (text ++ written calls) := by
  induction calls generalizing r text with
  | nil => simpa [written] using h
  | cons call calls ih =>
    have all : text ++ written (call :: calls) = text ++ call.text ++ written calls := by
      simp [written,String.append_assoc]
    rw [all]
    exact ih (h.carryOut call)

end Holds

theorem holds_after (calls : List Call) : (after calls).Holds (written calls) := by
  have all := holds_empty.calls calls
  rwa [String.empty_append] at all

end Reply

/-- After any calls, a reply is the longest beginning of all that was written that ends between two
characters and fits. It is cut exactly if not all fits, and other calls that write the same text leave
the same reply. A text for which there is room is added whole, and to a cut reply nothing is added.
The datagram carries the first bytes of the text, which are whole characters. -/
theorem reply_is_longest_beginning (calls : List Reply.Call) :
    let r := Reply.after calls
    let text := Reply.written calls
    LongestBeginning replyLimit text r.text ∧
    (r.cut = true ↔ replyLimit < text.utf8ByteSize) ∧
    (∀ others : List Reply.Call, Reply.written others = text → Reply.after others = r) ∧
    (r.cut = false → ∀ more : String, r.size + more.utf8ByteSize ≤ replyLimit →
      r.write more = ⟨r.text ++ more,false⟩) ∧
    (r.cut = true → ∀ more : List Reply.Call, Reply.after (calls ++ more) = r) ∧
    r.text.toUTF8 = text.toUTF8.extract 0 r.size ∧ (text.toUTF8.extract 0 r.size).IsValidUTF8 := by
  intro r text
  have holds : r.Holds text := Reply.holds_after calls
  have bytes := toUTF8_of_beginning holds.longestBeginning.beginning
  refine ⟨holds.longestBeginning,holds.cut_iff,?_,holds.write_of_fits,?_,bytes,?_⟩
  · intro others same
    have other := Reply.holds_after others
    rw [same] at other
    exact other.unique holds
  · intro cut more
    have later : Reply.after (calls ++ more) = more.foldl Reply.Call.carryOut r :=
      List.foldl_append
    rw [later,Reply.foldl_of_cut cut]
  · rw [Reply.size,← bytes]
    exact r.text.isValidUTF8

/-- Behind 1023 digits a letter of two bytes is left out, and so is all that follows it, although a
digit would fit. -/
theorem reply_is_longest_beginning_wide :
    let digits := String.ofList (List.replicate 1023 '0')
    let r := Reply.after [.write digits, .write "é"]
    Reply.empty.write digits = ⟨"" ++ digits,false⟩ ∧ r.cut = true ∧
    Reply.after [.write (digits ++ "é")] = r ∧
    Reply.after [.write digits, .write "é", .write "1"] = r := by
  intro digits r
  have size : digits.utf8ByteSize = 1023 := by
    have zeros : ∀ c ∈ List.replicate 1023 '0', c.isDigit = true :=
      List.forall_mem_replicate.mpr (.inr rfl)
    exact (Text.utf8ByteSize_ofList_of_digits zeros).trans List.length_replicate
  clear_value digits
  have letter : "é".utf8ByteSize = 2 := by decide
  have all : Reply.written [.write digits, .write "é"] = digits ++ "é" := by
    simp [Reply.written,Reply.Call.text]
  obtain ⟨-,-,-,fits,-⟩ := reply_is_longest_beginning []
  obtain ⟨-,cut,others,-,closed,-⟩ := reply_is_longest_beginning [.write digits, .write "é"]
  have excess : r.cut = true := by
    rw [cut,all,String.utf8ByteSize_append,size,letter]
    decide
  refine ⟨fits rfl digits ?_,excess,others [.write (digits ++ "é")] ?_,closed excess [.write "1"]⟩
  · have room : 0 + 1023 ≤ replyLimit := by decide
    rwa [← size] at room
  · rw [all]
    simp [Reply.written,Reply.Call.text]

end ClimateStation.Datagram
