import ClimateStation.Proofs.Terminal.Capture

/-! Everything that a byte can do to an editor, with what is shown for it. The two flags that fold
escape sequences and pairs of line ends decide which of these things happens, but they have no part
in what happens then; so whatever is proved about lines, about what is handed over and about the
display is a case analysis over them. -/
namespace ClimateStation.Terminal
open Text

namespace Editor

/-- What a terminal is sent for some bytes; with local echo it shows them by itself. -/
def echo (localEcho : Bool) (shown : List UInt8) : String := if localEcho then "" else textOf shown

@[simp] lemma echo_nil (localEcho : Bool) : echo localEcho [] = "" := by
  cases localEcho <;> rfl

/-- What a byte leads to, the text shown for it, and the editor after it. -/
inductive Fed (localEcho : Bool) (e : Editor) (b : UInt8) : Edit × String × Editor → Prop
  /-- The byte completes no key, or a key that has no use or finds no room. -/
  | idle {escaped afterReturn} : Fed localEcho e b (.pending,"",{ e with escaped, afterReturn })
  | dismissed {escaped afterReturn} (waits : e.waiting = true) : Fed localEcho e b
      (.dismissed,"",{ e with line := [], waiting := false, escaped, afterReturn })
  /-- The line is rubbed out, and the last line is shown in its place. -/
  | recalled {escaped afterReturn} (idle : e.waiting = false) : Fed localEcho e b
      (.pending,echo localEcho (e.line.flatMap (fun _ => rubout) ++ e.last),
        { e with line := e.last, escaped, afterReturn })
  | erased {escaped afterReturn} (idle : e.waiting = false) (more : e.line ≠ []) :
      Fed localEcho e b
        (.pending,echo localEcho rubout,{ e with line := e.line.dropLast, escaped, afterReturn })
  | typed {escaped afterReturn} (idle : e.waiting = false) (typable : isTypable b = true)
      (room : e.line.length < lineLimit) : Fed localEcho e b
        (.pending,echo localEcho [b],{ e with line := e.line ++ [lower b], escaped, afterReturn })
  | handed {escaped afterReturn} (idle : e.waiting = false) (ends : isEnding b = true)
      (more : e.line ≠ []) : Fed localEcho e b (.submit e.line,echo localEcho newline,
        { e with line := [], last := e.line, escaped, afterReturn })
  /-- An empty line is answered by the prompt, even where nothing else is shown. -/
  | blank {escaped afterReturn} (idle : e.waiting = false) (ends : isEnding b = true)
      (none : e.line = []) : Fed localEcho e b
        (.pending,echo localEcho newline ++ "\r\n>",{ e with escaped, afterReturn })

variable {e : Editor} {b : UInt8} (localEcho : Bool)

/-- Decoding is about the two flags. -/
lemma decode_kept (e : Editor) (b : UInt8) : ∃ escaped afterReturn,
    (e.decode b).2 = { e with escaped, afterReturn } := by
  unfold decode
  dsimp only
  split
  · exact ⟨_,_,rfl⟩
  · split
    · exact ⟨_,_,rfl⟩
    · split <;> exact ⟨e.escaped,_,rfl⟩

lemma decode_byte {c : UInt8} (h : (e.decode b).1 = some (.byte c)) : c = b := by
  unfold decode at h
  dsimp only at h
  split at h
  · cases h
  · split at h
    · split at h <;> cases h
    · split at h
      · cases h
      · cases h
        rfl

/-! One equation for each thing that a key can be. -/

lemma press_erasing (e : Editor) (erases : b = backspace ∨ b = delete) : e.press (.byte b) =
    (.pending,if e.line.isEmpty then [] else rubout,{ e with line := e.line.dropLast }) :=
  if_pos erases

lemma press_blank (ends : isEnding b = true) (none : e.line = []) :
    e.press (.byte b) = (.pending,newline,e) := by
  have notErasing : ¬(b = backspace ∨ b = delete) := by
    rcases isEnding_iff.mp ends with rfl | rfl <;> decide
  unfold press
  simp only [if_neg notErasing,if_pos (isEnding_iff.mp ends),none,List.isEmpty_nil,if_true]

lemma press_handed (ends : isEnding b = true) (more : e.line ≠ []) :
    e.press (.byte b) = (.submit e.line,newline,{ e with line := [], last := e.line }) := by
  have notErasing : ¬(b = backspace ∨ b = delete) := by
    rcases isEnding_iff.mp ends with rfl | rfl <;> decide
  unfold press
  simp only [if_neg notErasing,if_pos (isEnding_iff.mp ends),List.isEmpty_iff,if_neg more]

lemma press_writing (e : Editor) (keeps : ¬(b = backspace ∨ b = delete)) (goesOn : isEnding b = false) :
    e.press (.byte b) = if isTypable b ∧ e.line.length < lineLimit then
      (.pending,[b],{ e with line := e.line ++ [lower b] }) else (.pending,[],e) := by
  have notEnding : ¬(b = carriageReturn ∨ b = lineFeed) := by
    rw [← isEnding_iff,goesOn]
    exact Bool.false_ne_true
  unfold press
  simp only [if_neg keeps,if_neg notEnding]

lemma feed_up {next : Editor} (complete : e.decode b = (some .up,next))
    (idle : next.waiting = false) : e.feed localEcho b =
      (.pending,echo localEcho (next.line.flatMap (fun _ => rubout) ++ next.last),
        { next with line := next.last }) := by
  unfold feed
  rw [complete]
  exact if_neg (Bool.eq_false_iff.mp idle)

lemma feed_blank {next : Editor} (complete : e.decode b = (some (.byte b),next))
    (idle : next.waiting = false) (ends : isEnding b = true) (none : next.line = []) :
    e.feed localEcho b = (.pending,echo localEcho newline ++ "\r\n>",next) := by
  have notWaiting := Bool.eq_false_iff.mp idle
  unfold feed
  simp only [complete,if_neg notWaiting,press_blank ends none,Key.byte.injEq,isEnding_iff.mp ends,
    List.isEmpty_iff,none,and_self,if_true,prompt]
  rfl

lemma feed_handed {next : Editor} (complete : e.decode b = (some (.byte b),next))
    (idle : next.waiting = false) (ends : isEnding b = true) (more : next.line ≠ []) :
    e.feed localEcho b = (.submit next.line,echo localEcho newline,
      { next with line := [], last := next.line }) := by
  have notWaiting := Bool.eq_false_iff.mp idle
  unfold feed
  simp only [complete,if_neg notWaiting,press_handed ends more,List.isEmpty_iff,more,and_false,
    if_false]
  rfl

lemma feed_writing {next : Editor} (complete : e.decode b = (some (.byte b),next))
    (idle : next.waiting = false) (goesOn : isEnding b = false) : e.feed localEcho b =
      ((next.press (.byte b)).1,echo localEcho (next.press (.byte b)).2.1,
        (next.press (.byte b)).2.2) := by
  have notWaiting := Bool.eq_false_iff.mp idle
  have notEnding : ¬(b = carriageReturn ∨ b = lineFeed) := by
    rw [← isEnding_iff,goesOn]
    exact Bool.false_ne_true
  unfold feed
  simp only [complete,if_neg notWaiting,Key.byte.injEq,notEnding,false_and,if_false]
  rfl

/-- Every byte is one of these. -/
theorem feed_fed (e : Editor) (b : UInt8) : e.Fed localEcho b (e.feed localEcho b) := by
  obtain ⟨escaped,afterReturn,kept⟩ := decode_kept e b
  rcases decoded : e.decode b with ⟨_ | key,next⟩
  · obtain rfl : next = _ := decoded ▸ kept
    rw [feed_folded localEcho decoded]
    exact .idle
  obtain rfl : next = _ := decoded ▸ kept
  cases waits : e.waiting with
  | true =>
    rw [feed_waiting localEcho decoded waits]
    exact .dismissed waits
  | false =>
    cases key with
    | up =>
      rw [feed_up localEcho decoded waits]
      exact .recalled waits
    | byte c =>
      obtain rfl := decode_byte (congrArg Prod.fst decoded)
      cases ends : isEnding c with
      | true =>
        by_cases none : e.line = []
        · rw [feed_blank localEcho decoded waits ends none]
          exact .blank waits ends none
        · rw [feed_handed localEcho decoded waits ends none]
          exact .handed waits ends none
      | false =>
        rw [feed_writing localEcho decoded waits ends]
        by_cases erases : c = backspace ∨ c = delete
        · rw [press_erasing _ erases]
          by_cases none : e.line = []
          · simp only [none,List.isEmpty_nil,if_true,List.dropLast_nil,echo_nil]
            exact none ▸ .idle
          · simp only [List.isEmpty_iff,none,if_false]
            exact .erased waits none
        · rw [press_writing _ erases ends]
          split
          · next fits => exact .typed waits fits.1 fits.2
          · rw [echo_nil]
            exact .idle

end Editor
end ClimateStation.Terminal
