import ClimateStation.Proofs.Terminal.Typing

/-! Which lines a stream of bytes hands over. As long as no escape sequence begins and no key is
waited for, the stream might as well be cut at the bytes that end a line, and each piece be typed by
itself. Between two ends the editor is told by the bytes since the first of them, and whether the
byte before was a carriage return, by that byte. -/
namespace ClimateStation.Terminal
open Text

def isEnding (b : UInt8) : Bool := b == carriageReturn || b == lineFeed

/-- A stream without the line feeds that stand right behind a carriage return, which may also be
what came before the stream. -/
def unpaired (before : Option UInt8) (bytes : List UInt8) : List UInt8 :=
  (((before :: bytes.map some).zip bytes).filter
    (· ≠ (some carriageReturn,lineFeed))).map Prod.snd

/-- The line after a byte that does not end it: what a line may hold is put on top, in small letters
and up to the limit, and backspace takes the top away. -/
def edited (line : List UInt8) (b : UInt8) : List UInt8 :=
  if b = backspace ∨ b = delete then line.dropLast else typed line b

/-- What typing some bytes makes of an empty line. -/
def captured (piece : List UInt8) : List UInt8 := piece.foldl edited []

/-- What the pieces of a stream leave that have an end, but for empty lines. -/
def linesOf (stream : List UInt8) : List (List UInt8) :=
  ((stream.splitOnP isEnding).dropLast.map captured).filter (· ≠ [])

/-- The lines handed over. -/
def submitted (edits : List Edit) : List (List UInt8) :=
  edits.filterMap fun
    | .submit line => some line
    | _ => none

example : captured (bytesOf "lEt!\x7fd".toList) = bytesOf "led".toList := by decide

/-- What ends a line that is typed. -/
inductive Ending
  | cr
  | lf
  | crlf
  deriving DecidableEq, Repr

def Ending.bytes : Ending → List UInt8
  | cr => [carriageReturn]
  | lf => [lineFeed]
  | crlf => newline

/-- Lines as they are typed, each with what ends it. -/
def written (lines : List (List UInt8 × Ending)) : List UInt8 :=
  lines.flatMap fun (line,ending) => line ++ ending.bytes

variable {before : Option UInt8} {b : UInt8} {bytes held line : List UInt8}

lemma unpaired_cons (before : Option UInt8) (b : UInt8) (rest : List UInt8) :
    unpaired before (b :: rest) =
      if before = some carriageReturn ∧ b = lineFeed then unpaired (some b) rest
      else b :: unpaired (some b) rest := by
  by_cases h : before = some carriageReturn ∧ b = lineFeed
  · simp [unpaired,h]
  · rw [if_neg h]
    have kept : (before,b) ≠ (some carriageReturn,lineFeed) := fun same =>
      h ⟨congrArg Prod.fst same,congrArg Prod.snd same⟩
    simp [unpaired,kept]

lemma captured_concat (held : List UInt8) (b : UInt8) :
    captured (held ++ [b]) = edited (captured held) b := List.foldl_append ..

lemma isEnding_iff : isEnding b = true ↔ b = carriageReturn ∨ b = lineFeed := by
  simp [isEnding]

lemma linesOf_solid (solid : ∀ b ∈ held, isEnding b = false) : linesOf held = [] := by
  rw [linesOf,List.splitOnP_eq_singleton solid]
  rfl

lemma linesOf_append_cons (solid : ∀ b ∈ held, isEnding b = false) (ends : isEnding b = true)
    (rest : List UInt8) :
    linesOf (held ++ b :: rest) = [captured held].filter (· ≠ []) ++ linesOf rest := by
  have more : rest.splitOnP isEnding ≠ [] := List.splitOnP_ne_nil isEnding rest
  rw [linesOf,List.splitOnP_append_cons_of_forall_mem solid b ends,
    List.dropLast_cons_of_ne_nil more,List.map_cons,← List.singleton_append,List.filter_append,
    linesOf]

lemma submitted_cons (edit : Edit) (edits : List Edit) :
    submitted (edit :: edits) = submitted [edit] ++ submitted edits :=
  List.filterMap_append (l := [edit])

namespace Editor
variable {e : Editor} (localEcho : Bool)

lemma decode_plain (ready : e.Ready) (h : b ≠ escape) : e.decode b =
    (if b = lineFeed ∧ e.afterReturn = true then none else some (.byte b),
      { e with afterReturn := b == carriageReturn }) := by
  unfold decode
  simp only [ready.outside,h,Bool.false_eq_true,false_and,or_false,if_false]
  split <;> rfl

lemma press_ending (e : Editor) (h : isEnding b = true) : ∃ last,
    (e.press (.byte b)).1 = (if e.line = [] then .pending else .submit e.line) ∧
      (e.press (.byte b)).2.2 = { e with line := [], last } := by
  have ends := isEnding_iff.mp h
  have notErasing : ¬(b = backspace ∨ b = delete) := by
    rcases ends with rfl | rfl <;> decide
  unfold press
  simp only [if_neg notErasing,if_pos ends]
  obtain ⟨line,last,escaped,afterReturn,waiting⟩ := e
  cases line with
  | nil => exact ⟨last,rfl,rfl⟩
  | cons c line => exact ⟨c :: line,rfl,rfl⟩

lemma press_other (e : Editor) (h : isEnding b = false) : (e.press (.byte b)).1 = .pending ∧
    (e.press (.byte b)).2.2 = { e with line := edited e.line b } := by
  have goesOn : ¬(b = carriageReturn ∨ b = lineFeed) := by
    rw [← isEnding_iff,h]
    exact Bool.false_ne_true
  unfold press edited typed
  simp only [if_neg goesOn]
  split
  · exact ⟨rfl,rfl⟩
  · split <;> exact ⟨rfl,rfl⟩

/-- A line feed right behind a carriage return is passed over. -/
lemma feed_paired (ready : e.Ready) (paired : e.afterReturn = true) :
    e.feed localEcho lineFeed = (.pending,"",{ e with afterReturn := false }) := by
  have part := decode_plain ready (b := lineFeed) (by decide)
  rw [if_pos ⟨rfl,paired⟩] at part
  exact feed_folded localEcho part

/-- Any other end of a line hands it over, unless it is empty. -/
lemma feed_ending (ready : e.Ready) (h : isEnding b = true)
    (single : ¬(b = lineFeed ∧ e.afterReturn = true)) : ∃ shown last,
      e.feed localEcho b = (if e.line = [] then .pending else .submit e.line,shown,
        { e with line := [], last, afterReturn := b == carriageReturn }) := by
  have notEscape : b ≠ escape := by rintro rfl; exact absurd h (by decide)
  have complete := decode_plain ready notEscape
  rw [if_neg single] at complete
  obtain ⟨shown,fed⟩ := feed_idle localEcho complete ready.idle
  obtain ⟨last,edit,next⟩ := press_ending { e with afterReturn := b == carriageReturn } h
  exact ⟨shown,last,by rw [fed,edit,next]⟩

/-- A byte that does not end the line is quiet. -/
lemma feed_other (ready : e.Ready) (h : isEnding b = false) (notEscape : b ≠ escape) : ∃ shown,
    e.feed localEcho b =
      (.pending,shown,{ e with line := edited e.line b, afterReturn := false }) := by
  obtain ⟨notReturn,notFeed⟩ := Bool.or_eq_false_iff.mp h
  have complete := decode_plain ready notEscape
  rw [if_neg fun paired => beq_eq_false_iff_ne.mp notFeed paired.1,notReturn] at complete
  obtain ⟨shown,fed⟩ := feed_idle localEcho complete ready.idle
  obtain ⟨quiet,next⟩ := press_other { e with afterReturn := false } h
  exact ⟨shown,by rw [fed,quiet,next]⟩

/-- The lines that an editor hands over, from the middle of a line on: the editor holds what was
typed since the last line ended. -/
theorem submitted_edits (held : List UInt8) (before : Option UInt8) (ready : e.Ready)
    (h : escape ∉ bytes) (line : e.line = captured held) (solid : ∀ b ∈ held, isEnding b = false)
    (flag : e.afterReturn = true ↔ before = some carriageReturn) :
    submitted (e.edits localEcho bytes) = linesOf (held ++ unpaired before bytes) := by
  induction bytes generalizing e held before with
  | nil =>
    rw [unpaired,List.zip_nil_right,List.filter_nil,List.map_nil,List.append_nil,
      linesOf_solid solid]
    rfl
  | cons b bytes ih =>
    have notEscape : b ≠ escape := fun same => h (same ▸ List.mem_cons_self)
    have later : escape ∉ bytes := fun member => h (List.mem_cons_of_mem b member)
    rw [edits,unpaired_cons,submitted_cons]
    by_cases paired : before = some carriageReturn ∧ b = lineFeed
    · obtain ⟨behind,rfl⟩ := paired
      rw [feed_paired localEcho ready (flag.mpr behind),if_pos ⟨behind,rfl⟩]
      exact ih (e := { e with afterReturn := false }) held (some lineFeed)
        ⟨ready.outside,ready.idle⟩ later line solid
        ⟨(absurd · Bool.false_ne_true),fun same => absurd (Option.some.inj same) (by decide)⟩
    · rw [if_neg paired]
      have flag' : (b == carriageReturn) = true ↔ some b = some carriageReturn := by simp
      cases ending : isEnding b with
      | true =>
        have single : ¬(b = lineFeed ∧ e.afterReturn = true) := fun both =>
          paired ⟨flag.mp both.2,both.1⟩
        obtain ⟨shown,last,fed⟩ := feed_ending localEcho ready ending single
        have rest := ih (e := { e with line := [], last, afterReturn := b == carriageReturn })
          [] (some b) ⟨ready.outside,ready.idle⟩ later rfl (List.forall_mem_nil _) flag'
        rw [linesOf_append_cons solid ending,← line,fed,rest,List.nil_append]
        by_cases empty : e.line = [] <;> simp [empty,submitted]
      | false =>
        obtain ⟨shown,fed⟩ := feed_other localEcho ready ending notEscape
        have notReturn : (b == carriageReturn) = false := (Bool.or_eq_false_iff.mp ending).1
        rw [notReturn] at flag'
        rw [fed,List.append_cons]
        refine ih (e := { e with line := edited e.line b, afterReturn := false })
          (held ++ [b]) (some b) ⟨ready.outside,ready.idle⟩ later ?_ ?_ flag'
        · rw [captured_concat,← line]
        · exact List.forall_mem_append.mpr ⟨solid,List.forall_mem_singleton.mpr ending⟩

end Editor

/-! ## Lines as they are typed -/

/-- Within a line nothing is paired, and only an empty line leaves a carriage return before its
end. -/
lemma unpaired_append (solid : ∀ b ∈ line, isEnding b = false) (before : Option UInt8)
    (rest : List UInt8) : ∃ last, unpaired before (line ++ rest) = line ++ unpaired last rest ∧
      (last = some carriageReturn → line = [] ∧ last = before) := by
  induction line generalizing before with
  | nil => exact ⟨before,rfl,fun _ => ⟨rfl,rfl⟩⟩
  | cons b line ih =>
    obtain ⟨hb,hl⟩ := List.forall_mem_cons.mp solid
    obtain ⟨notReturn,notFeed⟩ := Bool.or_eq_false_iff.mp hb
    have single : ¬(before = some carriageReturn ∧ b = lineFeed) := fun both =>
      beq_eq_false_iff_ne.mp notFeed both.2
    obtain ⟨last,same,empty⟩ := ih hl (some b)
    refine ⟨last,by rw [List.cons_append,unpaired_cons,if_neg single,same,List.cons_append],?_⟩
    intro behind
    have last_eq := (empty behind).2
    rw [behind,Option.some.injEq] at last_eq
    exact absurd last_eq.symm (beq_eq_false_iff_ne.mp notReturn)

/-- A line that is typed is left as it would be by itself, however it ends. -/
lemma linesOf_line (solid : ∀ b ∈ line, isEnding b = false) (ending : Ending)
    (before : Option UInt8) (rest : List UInt8) :
    ∃ last, linesOf (unpaired before (line ++ (ending.bytes ++ rest))) =
      [captured line].filter (· ≠ []) ++ linesOf (unpaired last rest) := by
  obtain ⟨last,same,behind⟩ := unpaired_append solid before (ending.bytes ++ rest)
  have feed_return : lineFeed ≠ carriageReturn := by decide
  rw [same]
  cases ending with
  | cr =>
    refine ⟨some carriageReturn,?_⟩
    rw [Ending.bytes,List.singleton_append,unpaired_cons,if_neg fun h => feed_return h.2.symm]
    exact linesOf_append_cons solid rfl _
  | lf =>
    refine ⟨some lineFeed,?_⟩
    rw [Ending.bytes,List.singleton_append,unpaired_cons]
    by_cases paired : last = some carriageReturn
    · -- The line feed is taken for the end of the line before, and this line is empty.
      rw [if_pos ⟨paired,rfl⟩,(behind paired).1]
      rfl
    · rw [if_neg fun h => paired h.1]
      exact linesOf_append_cons solid rfl _
  | crlf =>
    refine ⟨some lineFeed,?_⟩
    change linesOf (line ++ unpaired last (carriageReturn :: lineFeed :: rest)) = _
    rw [unpaired_cons,if_neg fun h => feed_return h.2.symm,unpaired_cons,if_pos ⟨rfl,rfl⟩]
    exact linesOf_append_cons solid rfl _

/-- Lines that are typed one after the other are left one after the other. -/
lemma linesOf_written {lines : List (List UInt8 × Ending)}
    (solid : ∀ line ∈ lines, ∀ b ∈ line.1, isEnding b = false) (before : Option UInt8) :
    linesOf (unpaired before (written lines)) =
      (lines.map fun line => captured line.1).filter (· ≠ []) := by
  induction lines generalizing before with
  | nil => rfl
  | cons line lines ih =>
    obtain ⟨hl,hls⟩ := List.forall_mem_cons.mp solid
    obtain ⟨last,same⟩ := linesOf_line hl line.2 before (written lines)
    have split : written (line :: lines) = line.1 ++ (line.2.bytes ++ written lines) := by
      rw [written,List.flatMap_cons,List.append_assoc]
      rfl
    rw [split,same,ih hls,List.map_cons,← List.filter_append,List.singleton_append]

/-- Without escape sequences, and with no key waited for, a fresh editor hands over what the ended
pieces of the stream leave, where a carriage return and a line feed right behind it are one end. So
a line that is typed is handed over once, whichever of the three ends it, unless nothing of it is
left. -/
theorem lines_captured (localEcho : Bool) (bytes : List UInt8) (h : escape ∉ bytes) :
    submitted (Editor.fresh.edits localEcho bytes) =
        (((unpaired none bytes).splitOnP isEnding).dropLast.map captured).filter (· ≠ []) ∧
      ∀ lines, bytes = written lines → (∀ line ∈ lines, ∀ b ∈ line.1, isEnding b = false) →
        submitted (Editor.fresh.edits localEcho bytes) =
          (lines.map fun line => captured line.1).filter (· ≠ []) := by
  have whole : submitted (Editor.fresh.edits localEcho bytes) = linesOf (unpaired none bytes) :=
    Editor.submitted_edits (e := .fresh) localEcho [] none ⟨rfl,rfl⟩ h rfl nofun ⟨nofun,nofun⟩
  refine ⟨whole,?_⟩
  rintro lines rfl solid
  rw [whole,linesOf_written solid]

/-- Corrections, a line that is too long, and each of the three ends; the second line feed ends an
empty line, and the last line has no end. -/
theorem lines_captured_mixed :
    let bytes := bytesOf "LEDx\x7f On\r\n\n\x08dht!\nrgb 255 255 255 255 255 255\rhelp".toList
    escape ∉ bytes ∧
      submitted (Editor.fresh.edits true bytes) =
        [bytesOf "led on".toList,bytesOf "dht".toList,bytesOf "rgb 255 255 255 255 25".toList] := by
  intro bytes
  have noEscape : escape ∉ bytes := by decide
  exact ⟨noEscape,(lines_captured true bytes noEscape).1.trans (by decide +kernel)⟩

end ClimateStation.Terminal
