import ClimateStation.Proofs.Terminal.Stroke

/-! What typed characters do to the line. As long as no escape sequence has begun and no key is
waited for, a printable character only adds to the line: the characters that a line may hold are
kept, in small letters, until the line is full. -/
namespace ClimateStation.Terminal
open Text

/-- Space and the visible characters. -/
def Printable (b : UInt8) : Prop := 32 ≤ b ∧ b ≤ 126

lemma Printable.ne {b c : UInt8} (h : Printable b) (hc : c < 32 ∨ 126 < c) : b ≠ c := by
  rintro rfl
  rcases hc with low | high
  · exact absurd h.1 (UInt8.not_le.mpr low)
  · exact absurd h.2 (UInt8.not_le.mpr high)

/-- The line after a typed character. -/
def typed (line : List UInt8) (b : UInt8) : List UInt8 :=
  if isTypable b ∧ line.length < lineLimit then line ++ [lower b] else line

/-- A line takes what it may hold until it is full. -/
lemma foldl_typed (line bytes : List UInt8) : bytes.foldl typed line =
    line ++ ((bytes.filter isTypable).map lower).take (lineLimit - line.length) := by
  induction bytes generalizing line with
  | nil => simp
  | cons b bytes ih =>
    rw [List.foldl_cons,ih,typed]
    by_cases room : line.length < lineLimit
    · by_cases keep : isTypable b = true
      · have left : lineLimit - line.length = lineLimit - (line.length + 1) + 1 := by omega
        rw [if_pos ⟨keep,room⟩,List.filter_cons_of_pos keep,List.map_cons,List.length_append,
          List.length_singleton,left,List.take_succ_cons,List.append_assoc,List.singleton_append]
      · rw [if_neg fun h => keep h.1,List.filter_cons_of_neg keep]
    · have full : lineLimit - line.length = 0 := by omega
      rw [if_neg fun h => room h.2,full,List.take_zero,List.take_zero]

namespace Editor

/-- What each of some bytes leads to. -/
def edits (localEcho : Bool) : Editor → List UInt8 → List Edit
  | _, [] => []
  | e, b :: rest => (e.feed localEcho b).1 :: edits localEcho (e.feed localEcho b).2.2 rest

/-- The editor after some bytes. -/
def after (localEcho : Bool) (e : Editor) (bytes : List UInt8) : Editor :=
  bytes.foldl (fun e b => (e.feed localEcho b).2.2) e

/-- No escape sequence has begun, and no key is waited for. -/
structure Ready (e : Editor) : Prop where
  outside : e.escaped = false
  idle : e.waiting = false

variable {e : Editor} {b : UInt8} {bytes : List UInt8} (localEcho : Bool)

lemma edits_append (e : Editor) (front rest : List UInt8) :
    e.edits localEcho (front ++ rest) =
      e.edits localEcho front ++ (e.after localEcho front).edits localEcho rest := by
  induction front generalizing e with
  | nil => rfl
  | cons b front ih => exact congrArg _ (ih _)

lemma after_append (e : Editor) (front rest : List UInt8) :
    e.after localEcho (front ++ rest) =
      (e.after localEcho front).after localEcho rest := List.foldl_append ..

lemma decode_printable (ready : e.Ready) (h : Printable b) :
    e.decode b = (some (.byte b),{ e with afterReturn := false }) := by
  have notEscape : b ≠ escape := h.ne (by decide)
  have notFeed : b ≠ lineFeed := h.ne (by decide)
  have notReturn : (b == carriageReturn) = false := beq_eq_false_iff_ne.mpr (h.ne (by decide))
  unfold decode
  simp only [ready.outside,notEscape,notFeed,notReturn,false_and,Bool.false_eq_true,or_false,
    if_false]

lemma press_printable (e : Editor) (h : Printable b) :
    (e.press (.byte b)).1 = .pending ∧
      (e.press (.byte b)).2.2 = { e with line := typed e.line b } := by
  have notErasing : ¬(b = backspace ∨ b = delete) :=
    not_or.mpr ⟨h.ne (by decide),h.ne (by decide)⟩
  have notEnding : ¬(b = carriageReturn ∨ b = lineFeed) :=
    not_or.mpr ⟨h.ne (by decide),h.ne (by decide)⟩
  unfold press typed
  simp only [if_neg notErasing,if_neg notEnding]
  split <;> exact ⟨rfl,rfl⟩

lemma feed_printable (ready : e.Ready) (h : Printable b) : ∃ shown, e.feed localEcho b =
    (.pending,shown,{ e with line := typed e.line b, afterReturn := false }) := by
  obtain ⟨shown,fed⟩ := feed_idle localEcho (decode_printable ready h) ready.idle
  obtain ⟨quiet,grown⟩ := press_printable { e with afterReturn := false } h
  exact ⟨shown,by rw [fed,quiet,grown]⟩

/-- Typing printable characters is quiet, and it is all about the line. -/
lemma type_printable (ready : e.Ready) (h : ∀ b ∈ bytes, Printable b) :
    e.edits localEcho bytes = List.replicate bytes.length .pending ∧ ∃ afterReturn,
      e.after localEcho bytes = { e with line := bytes.foldl typed e.line, afterReturn } := by
  induction bytes generalizing e with
  | nil => exact ⟨rfl,e.afterReturn,rfl⟩
  | cons b bytes ih =>
    obtain ⟨hb,hbs⟩ := List.forall_mem_cons.mp h
    obtain ⟨shown,fed⟩ := feed_printable localEcho ready hb
    obtain ⟨quiet,flag,grown⟩ := ih
      (e := { e with line := typed e.line b, afterReturn := false }) ⟨ready.outside,ready.idle⟩ hbs
    constructor
    · rw [edits,fed,quiet]
      rfl
    · refine ⟨flag,?_⟩
      rw [after,List.foldl_cons,fed]
      exact grown

/-- A return key hands over a line that is not empty. -/
lemma feed_return (ready : e.Ready) (h : e.line ≠ []) :
    (e.feed localEcho carriageReturn).1 = .submit e.line := by
  have complete : e.decode carriageReturn =
      (some (.byte carriageReturn),{ e with afterReturn := true }) := by
    unfold decode
    simp only [ready.outside,Bool.false_eq_true,false_and,or_false]
    rfl
  obtain ⟨shown,fed⟩ := feed_idle localEcho complete ready.idle
  rw [fed]
  unfold press
  simp [h,carriageReturn,backspace,delete]

/-- A line that can be typed is handed over as it is typed. -/
lemma edits_fresh_line (hn : bytes ≠ []) (short : bytes.length ≤ lineLimit)
    (h : ∀ b ∈ bytes, Printable b ∧ isTypable b = true ∧ lower b = b) :
    fresh.edits localEcho (bytes ++ [carriageReturn]) =
      List.replicate bytes.length .pending ++ [.submit bytes] := by
  obtain ⟨quiet,flag,grown⟩ := type_printable (e := fresh) localEcho ⟨rfl,rfl⟩ fun b hb => (h b hb).1
  have kept : bytes.filter isTypable = bytes := List.filter_eq_self.mpr fun b hb => (h b hb).2.1
  have small : bytes.map lower = bytes := by
    rw [List.map_congr_left fun b hb => (h b hb).2.2,List.map_id']
  have whole : bytes.foldl typed [] = bytes := by
    rw [foldl_typed,kept,small]
    exact List.take_of_length_le short
  have handed := feed_return (e := { fresh with line := bytes, afterReturn := flag }) localEcho
    ⟨rfl,rfl⟩ hn
  rw [edits_append,quiet,grown]
  change _ ++ [(Editor.feed localEcho { fresh with line := bytes.foldl typed [], afterReturn := flag }
    carriageReturn).1] = _
  rw [whole,handed]

end Editor
end ClimateStation.Terminal
