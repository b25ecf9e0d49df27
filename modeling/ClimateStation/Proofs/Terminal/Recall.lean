import ClimateStation.Proofs.Terminal.ControlSequence
import ClimateStation.Proofs.Terminal.Keeping

/-! The arrow up brings back the line that was handed over last. Only handing over a line changes
what the editor brings back, and the `ESC` of the arrow begins an escape sequence in whatever state
the bytes before it left the editor. -/
namespace ClimateStation.Terminal
open Text

namespace Editor
variable {e : Editor} {b : UInt8} {bytes line : List UInt8} {lines : List (List UInt8)}
  (localEcho : Bool)

/-- What is handed over is what can be brought back; nothing else changes that. -/
lemma Fed.last_eq {localEcho : Bool} {r : Edit × String × Editor} (fed : e.Fed localEcho b r) :
    r.2.2.last = (submitted [r.1]).getLast?.getD e.last := by
  cases fed <;> rfl

lemma Reached.last_eq (h : Reached lines e) : e.last = lines.getLast?.getD [] := by
  induction h with
  | fresh => rfl
  | await _ ih => exact ih
  | feed h localEcho b ih =>
    rw [(feed_fed localEcho _ b).last_eq,ih,List.getLast?_append]
    cases (submitted _).getLast? <;> rfl

/-- While no key is waited for, a byte that does not end the line hands nothing over. -/
lemma Fed.quiet {localEcho : Bool} {r : Edit × String × Editor} (fed : e.Fed localEcho b r)
    (idle : e.waiting = false) (goesOn : isEnding b = false) : r.1 = .pending := by
  cases fed with
  | idle | recalled | erased | typed => rfl
  | dismissed waits => exact absurd (waits.symm.trans idle) nofun
  | handed _ ends | blank _ ends => exact absurd (ends.symm.trans goesOn) nofun

lemma quiet_stream (idle : e.waiting = false) (goesOn : ∀ b ∈ bytes, isEnding b = false) :
    e.edits localEcho bytes = List.replicate bytes.length .pending ∧
      (e.after localEcho bytes).last = e.last := by
  induction bytes generalizing e with
  | nil => exact ⟨rfl,rfl⟩
  | cons b bytes ih =>
    obtain ⟨hb,hbs⟩ := List.forall_mem_cons.mp goesOn
    have fed := feed_fed localEcho e b
    have quiet := fed.quiet idle hb
    have kept := fed.last_eq
    rw [quiet] at kept
    obtain ⟨rest,keptRest⟩ := ih (feed_waiting_of_idle localEcho idle b) hbs
    refine ⟨?_,keptRest.trans kept⟩
    rw [edits,quiet,rest,List.length_cons,List.replicate_succ]

/-- The bytes of the arrow up. -/
def arrow : List UInt8 := [escape,bracket,arrowUp]

/-- The arrow is silent and brings the last line back, also behind a part of another escape
sequence. -/
lemma feed_arrow (idle : e.waiting = false) :
    e.edits localEcho arrow = [.pending,.pending,.pending] ∧ e.after localEcho arrow =
      { e with line := e.last, escaped := false, afterReturn := false } := by
  obtain ⟨quiet,back⟩ := feed_recall localEcho
    (e := { e with escaped := true, afterReturn := false }) rfl idle
  rw [arrow,edits_opened,after_opened,edits,after,List.foldl_cons,quiet,back]
  exact ⟨rfl,rfl⟩

/-- Behind it, a carriage return hands that line over, if there is one. -/
lemma feed_arrow_return (idle : e.waiting = false) :
    e.edits localEcho (arrow ++ [carriageReturn]) = [.pending,.pending,.pending,
        if e.last = [] then .pending else .submit e.last] ∧
      (e.after localEcho (arrow ++ [carriageReturn])).line = [] := by
  obtain ⟨quiet,back⟩ := feed_arrow localEcho idle
  obtain ⟨shown,last,fed⟩ := feed_ending localEcho
    (e := { e with line := e.last, escaped := false, afterReturn := false }) ⟨rfl,idle⟩
    (b := carriageReturn) rfl fun paired => absurd paired.1 (by decide)
  rw [edits_append,after_append,quiet,back,edits,after,List.foldl_cons,fed]
  exact ⟨rfl,rfl⟩

/-- Whatever is typed without ending a line, the arrow up and a carriage return hand over the line
that was handed over last. If none was, the line is empty behind the arrow and stays so. -/
theorem arrow_recalls_last (h : Reached lines e) (idle : e.waiting = false)
    (goesOn : ∀ b ∈ bytes, b ≠ carriageReturn ∧ b ≠ lineFeed) :
    let keys := bytes ++ [escape,bracket,arrowUp]
    (∀ line, lines.getLast? = some line → e.edits localEcho (keys ++ [carriageReturn]) =
      List.replicate keys.length .pending ++ [.submit line]) ∧
    (lines = [] → e.edits localEcho (keys ++ [carriageReturn]) =
        List.replicate (keys.length + 1) .pending ∧
      (e.after localEcho keys).line = [] ∧
      (e.after localEcho (keys ++ [carriageReturn])).line = []) := by
  intro keys
  have solid : ∀ b ∈ bytes, isEnding b = false := fun b hb => by
    simpa [isEnding] using goesOn b hb
  obtain ⟨quiet,kept⟩ := quiet_stream localEcho idle solid
  have still := after_waiting localEcho idle bytes
  obtain ⟨handed,blank⟩ := feed_arrow_return localEcho still
  obtain ⟨-,back⟩ := feed_arrow localEcho still
  have split : keys ++ [carriageReturn] = bytes ++ (arrow ++ [carriageReturn]) :=
    List.append_assoc ..
  have whole : e.edits localEcho (keys ++ [carriageReturn]) =
      List.replicate keys.length .pending ++
        [if e.last = [] then .pending else .submit e.last] := by
    rw [split,edits_append,quiet,handed,kept]
    simp [keys,List.replicate_add]
  have lastLine := h.last_eq
  refine ⟨fun line last => ?_,?_⟩
  · have more : line ≠ [] := (h.kept.2.2 line (List.mem_of_getLast? last)).1
    rw [last,Option.getD_some] at lastLine
    rw [whole,lastLine,if_neg more]
  · rintro rfl
    have none : e.last = [] := lastLine
    refine ⟨?_,?_,?_⟩
    · rw [whole,if_pos none,List.replicate_succ']
    · rw [after_append,← arrow,back]
      exact kept.trans none
    · rw [split,after_append]
      exact blank

/-- Behind a correction and half an escape sequence; the key that is waited for comes in between. -/
theorem arrow_recalls_last_line :
    let e := (fresh.after false (bytesOf "dht log\r".toList)).await.after false (bytesOf " \x1b".toList)
    let w := bytesOf "[Ax\x7f\x7f help\x1b[".toList
    Reached [bytesOf "dht log".toList] e ∧ e.waiting = false ∧
      (∀ b ∈ w, b ≠ carriageReturn ∧ b ≠ lineFeed) ∧
      e.edits false (w ++ [escape,bracket,arrowUp] ++ [carriageReturn]) =
        List.replicate 15 .pending ++ [.submit (bytesOf "dht log".toList)] := by
  intro e w
  have begun : Reached [bytesOf "dht log".toList]
      (fresh.after false (bytesOf "dht log\r".toList)) :=
    Reached.fresh.stream false _ (by decide +kernel)
  have reached : Reached [bytesOf "dht log".toList] e := begun.await.stream false _ (by decide +kernel)
  have idle : e.waiting = false := by decide +kernel
  have goesOn : ∀ b ∈ w, b ≠ carriageReturn ∧ b ≠ lineFeed := by decide +kernel
  obtain ⟨recalled,-⟩ := arrow_recalls_last false reached idle goesOn
  exact ⟨reached,idle,goesOn,recalled (bytesOf "dht log".toList) rfl⟩

end Editor
end ClimateStation.Terminal
