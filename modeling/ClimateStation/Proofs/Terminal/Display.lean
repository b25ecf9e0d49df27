import ClimateStation.Proofs.Terminal.ControlSequence
import ClimateStation.Proofs.Terminal.Keeping

/-! What a terminal shows that does not echo by itself. Its line is a row of cells, and what the
editor sends for the typed bytes keeps them equal to the line that it holds, but for capital
letters: so what is seen is what will be handed over. -/
namespace ClimateStation.Terminal
open Text

/-- The cells after some text. A character fills one more cell, moving back, blanking and moving
back again frees the last one, and a line break leaves none; so does a prompt, which begins with one. -/
def display (cells : List Char) : List Char → List Char
  | [] => cells
  | '\x08' :: ' ' :: '\x08' :: rest => display cells.dropLast rest
  | '\r' :: '\n' :: '>' :: rest => display [] rest
  | '\r' :: '\n' :: rest => display [] rest
  | c :: rest => display (cells ++ [c]) rest

/-- The characters of a line. -/
def charsOf (line : List UInt8) : List Char := line.map fun b => Char.ofNat b.toNat

/-- The cells hold the line, in letters of either size. -/
def Shows (cells : List Char) (line : List UInt8) : Prop := cells.map Char.toLower = charsOf line

section Cells
variable {cells rest text : List Char} {line : List UInt8} {b : UInt8}

lemma toList_textOf (line : List UInt8) : (textOf line).toList = charsOf line := String.toList_ofList

/-- The text neither moves back nor breaks the line, and it begins no prompt. -/
def Visible (text : List Char) : Prop := ∀ c ∈ text, c ≠ '\x08' ∧ c ≠ '\r' ∧ c ≠ '>'

lemma display_visible (visible : Visible text) (rest : List Char) :
    display cells (text ++ rest) = display (cells ++ text) rest := by
  induction text generalizing cells with
  | nil => rw [List.nil_append,List.append_nil]
  | cons c text ih =>
    obtain ⟨⟨notBack,notReturn,-⟩,later⟩ := List.forall_mem_cons.mp visible
    have first : display cells (c :: (text ++ rest)) = display (cells ++ [c]) (text ++ rest) := by
      rw [display]
      · exact fun _ same => absurd same notBack
      · exact fun _ same => absurd same notReturn
      · exact fun _ same => absurd same notReturn
    rw [List.cons_append,first,ih later,List.append_assoc]
    rfl

lemma Visible.noPrompt (visible : Visible text) (h : rest.head? ≠ some '>') :
    (text ++ rest).head? ≠ some '>' := by
  cases text with
  | nil => exact h
  | cons c text => exact fun same => (visible c List.mem_cons_self).2.2 (Option.some.inj same)

/-- A line that is rubbed out. -/
lemma display_rubouts (line : List UInt8) (length : cells.length = line.length) (rest : List Char) :
    display cells (charsOf (line.flatMap fun _ => rubout) ++ rest) = display [] rest := by
  induction line generalizing cells with
  | nil =>
    obtain rfl := List.eq_nil_of_length_eq_zero length
    rfl
  | cons b line ih =>
    have fewer : cells.dropLast.length = line.length := by
      rw [List.length_dropLast,length]
      rfl
    exact ih fewer

lemma display_break (noPrompt : rest.head? ≠ some '>') :
    display cells ('\r' :: '\n' :: rest) = display [] rest := by
  rw [display]
  rintro r rfl
  exact noPrompt rfl

/-- What may be typed is visible, and is shown in the size that was typed. -/
lemma visible_of_isTypable (typable : isTypable b = true) : Visible (charsOf [b]) := by
  have all : ∀ b, isTypable b = true → Char.ofNat b.toNat ≠ '\x08' ∧
      Char.ofNat b.toNat ≠ '\r' ∧ Char.ofNat b.toNat ≠ '>' := forall_byte (by decide +kernel)
  exact List.forall_mem_singleton.mpr (all b typable)

lemma Kept.visible (kept : Kept line) : Visible (charsOf line) := by
  intro c member
  obtain ⟨b,hb,rfl⟩ := List.mem_map.mp member
  exact visible_of_isTypable (kept.typable hb) _ List.mem_cons_self

/-- A line shows itself. -/
lemma Kept.shows (kept : Kept line) : Shows (charsOf line) line := by
  unfold Shows charsOf
  rw [List.map_map]
  refine List.map_congr_left fun b hb => ?_
  rw [Function.comp_apply,toLower_ofNat,kept.lower_eq hb]

lemma Shows.concat (shows : Shows cells line) (b : UInt8) :
    Shows (cells ++ charsOf [b]) (line ++ [lower b]) := by
  unfold Shows charsOf at *
  rw [List.map_append,shows,List.map_append,List.map_singleton,List.map_singleton,toLower_ofNat,
    List.map_singleton]

lemma Shows.dropLast (shows : Shows cells line) : Shows cells.dropLast line.dropLast := by
  unfold Shows charsOf at *
  rw [List.map_dropLast,shows,List.map_dropLast]

lemma Shows.length_eq (shows : Shows cells line) : cells.length = line.length := by
  have same := congrArg List.length shows
  simpa [charsOf] using same

end Cells

namespace Editor
variable {e : Editor} {b : UInt8} {r : Edit × String × Editor} {cells rest : List Char}
  {lines : List (List UInt8)}

/-- What is shown for some bytes. -/
def shown (localEcho : Bool) : Editor → List UInt8 → String
  | _, [] => ""
  | e, b :: rest => (e.feed localEcho b).2.1 ++ shown localEcho (e.feed localEcho b).2.2 rest

lemma toList_echo (bytes : List UInt8) : (echo false bytes).toList = charsOf bytes := toList_textOf bytes

/-- Only a line break begins a prompt, so what is shown for a byte never completes one. -/
lemma Fed.noPrompt (fed : e.Fed false b r) (last : Kept e.last) (h : rest.head? ≠ some '>') :
    (r.2.1.toList ++ rest).head? ≠ some '>' := by
  cases fed with
  | idle | dismissed => exact h
  | recalled =>
    rw [toList_echo]
    cases e.line with
    | nil => exact last.visible.noPrompt h
    | cons b line => exact nofun
  | typed _ typable =>
    rw [toList_echo]
    exact (visible_of_isTypable typable).noPrompt h
  | erased | handed =>
    rw [toList_echo]
    exact nofun
  | blank =>
    rw [String.toList_append,toList_echo]
    exact nofun

/-- The cells follow the line. -/
lemma Fed.shows (fed : e.Fed false b r) (idle : e.waiting = false) (last : Kept e.last)
    (shows : Shows cells e.line) (h : rest.head? ≠ some '>') :
    ∃ next, display cells (r.2.1.toList ++ rest) = display next rest ∧ Shows next r.2.2.line := by
  cases fed with
  | idle => exact ⟨cells,rfl,shows⟩
  | dismissed waits => exact absurd (waits.symm.trans idle) nofun
  | recalled =>
    refine ⟨charsOf e.last,?_,last.shows⟩
    rw [toList_echo,charsOf,List.map_append,List.append_assoc]
    exact (display_rubouts e.line shows.length_eq _).trans (display_visible last.visible rest)
  | erased =>
    refine ⟨cells.dropLast,?_,shows.dropLast⟩
    rw [toList_echo]
    rfl
  | typed _ typable =>
    refine ⟨cells ++ charsOf [b],?_,shows.concat b⟩
    rw [toList_echo]
    exact display_visible (visible_of_isTypable typable) rest
  | handed =>
    refine ⟨[],?_,rfl⟩
    rw [toList_echo]
    exact display_break h
  | blank _ _ none =>
    refine ⟨[],?_,by rw [none]; rfl⟩
    rw [String.toList_append,toList_echo,List.append_assoc]
    exact display_break nofun

lemma shown_noPrompt (h : Reached lines e) (bytes : List UInt8) :
    (e.shown false bytes).toList.head? ≠ some '>' := by
  induction bytes generalizing lines e with
  | nil => exact nofun
  | cons b bytes ih =>
    rw [shown,String.toList_append]
    exact (feed_fed false e b).noPrompt h.kept.2.1 (ih (h.feed false b))

/-- From cells that show the line on, they go on showing it. -/
lemma shown_shows (h : Reached lines e) (idle : e.waiting = false) (shows : Shows cells e.line)
    (bytes : List UInt8) :
    Shows (display cells (e.shown false bytes).toList) (e.after false bytes).line := by
  induction bytes generalizing lines e cells with
  | nil => exact shows
  | cons b bytes ih =>
    have later := h.feed false b
    obtain ⟨next,same,showsNext⟩ := (feed_fed false e b).shows idle h.kept.2.1 shows
      (shown_noPrompt later bytes)
    rw [shown,String.toList_append,same]
    exact ih later (feed_waiting_of_idle false idle b) showsNext

/-- A terminal that does not echo by itself shows at any time the line that the editor holds, but for
capital letters. So a carriage return that is no part of an escape sequence hands over what is
seen. -/
theorem display_is_line (h : Reached lines e) (idle : e.waiting = false) (blank : e.line = [])
    (bytes : List UInt8) :
    let cells := display [] (e.shown false bytes).toList
    let later := e.after false bytes
    cells.map Char.toLower = (textOf later.line).toList ∧
      (later.escaped = false → (later.feed false carriageReturn).1 =
        if cells = [] then .pending else .submit later.line) := by
  intro cells later
  have shows : Shows cells later.line := shown_shows h idle (by rw [blank]; rfl) bytes
  have blank_iff : cells = [] ↔ later.line = [] := by
    rw [← List.length_eq_zero_iff,shows.length_eq,List.length_eq_zero_iff]
  refine ⟨shows.trans (toList_textOf _).symm,fun outside => ?_⟩
  have ready : later.Ready := ⟨outside,after_waiting false idle bytes⟩
  obtain ⟨text,last,fed⟩ := feed_ending false ready (b := carriageReturn) rfl
    fun paired => absurd paired.1 (by decide)
  simp only [fed,blank_iff]

/-- Capital letters, characters past the limit, corrections, an unknown byte and the line before
brought back; then a carriage return. -/
theorem display_is_line_recalled :
    let e := fresh.after false (bytesOf "DHT Log\r\n".toList)
    let bytes := bytesOf "\r\x7fRGB 1234567890 1234567890!\x08\x08\x1b[Bx\x1b[A\x08G".toList
    let cells := display [] (e.shown false bytes).toList
    Reached [bytesOf "dht log".toList] e ∧ e.waiting = false ∧ e.line = [] ∧
      cells = "dht loG".toList ∧ (e.after false bytes).line = bytesOf "dht log".toList ∧
      cells.map Char.toLower = (textOf (e.after false bytes).line).toList := by
  intro e bytes cells
  have reached : Reached [bytesOf "dht log".toList] e :=
    Reached.fresh.stream false _ (by decide +kernel)
  have idle : e.waiting = false := by decide +kernel
  have blank : e.line = [] := by decide +kernel
  exact ⟨reached,idle,blank,by decide +kernel,by decide +kernel,
    (display_is_line reached idle blank bytes).1⟩

end Editor
end ClimateStation.Terminal
