import ClimateStation.Proofs.Terminal.Typing
import Mathlib.Data.List.Induction

/-! What a control sequence does to the line. The editor keeps one flag for it: `ESC` raises it, `[`
keeps it up, and the next byte lets it down. So a sequence is swallowed as far as the first byte
behind `ESC [`, and whatever is left of a longer one is typed. -/
namespace ClimateStation.Terminal
open Text

/-- `ESC [`, parameters, intermediate bytes and a final byte. -/
structure ControlSequence where
  parameters : List UInt8
  intermediates : List UInt8
  final : UInt8
  parameters_range : ∀ b ∈ parameters, 0x30 ≤ b ∧ b ≤ 0x3F
  intermediates_range : ∀ b ∈ intermediates, 0x20 ≤ b ∧ b ≤ 0x2F
  final_range : 0x40 ≤ final ∧ final ≤ 0x7E

namespace ControlSequence

/-- What stands behind `ESC [`. -/
def body (s : ControlSequence) : List UInt8 := s.parameters ++ s.intermediates ++ [s.final]

def bytes (s : ControlSequence) : List UInt8 := escape :: bracket :: s.body

variable (s : ControlSequence)

lemma printable_final : Printable s.final :=
  ⟨UInt8.le_trans (by decide) s.final_range.1,s.final_range.2⟩

/-- Parameters and intermediate bytes are neither letters nor brackets. -/
lemma range_of_mem {b : UInt8} (h : b ∈ s.parameters ++ s.intermediates) : 0x20 ≤ b ∧ b ≤ 0x3F := by
  rcases List.mem_append.mp h with h | h
  · exact ⟨UInt8.le_trans (by decide) (s.parameters_range b h).1,(s.parameters_range b h).2⟩
  · exact ⟨(s.intermediates_range b h).1,
      UInt8.le_trans (s.intermediates_range b h).2 (by decide)⟩

lemma printable_of_mem {b : UInt8} (h : b ∈ s.parameters ++ s.intermediates) : Printable b :=
  ⟨(s.range_of_mem h).1,UInt8.le_trans (s.range_of_mem h).2 (by decide)⟩

/-- Only a final byte can be a bracket or the arrow. -/
lemma body_cases : s.body = [bracket] ∨ s.body = [arrowUp] ∨
    ∃ first rest, s.body = first :: rest ∧ Printable first ∧ first ≠ bracket ∧ first ≠ arrowUp ∧
      ∀ b ∈ rest, Printable b := by
  unfold body
  cases front : s.parameters ++ s.intermediates with
  | nil =>
    by_cases hb : s.final = bracket
    · exact .inl (by rw [hb]; rfl)
    · by_cases ha : s.final = arrowUp
      · exact .inr (.inl (by rw [ha]; rfl))
      · exact .inr (.inr ⟨s.final,[],rfl,s.printable_final,hb,ha,nofun⟩)
  | cons first more =>
    have inner {b : UInt8} (hb : b ∈ first :: more) : b ∈ s.parameters ++ s.intermediates :=
      front ▸ hb
    have notHigh {c : UInt8} (hc : 0x3F < c) : first ≠ c := by
      rintro rfl
      exact absurd (s.range_of_mem (inner List.mem_cons_self)).2 (UInt8.not_le.mpr hc)
    refine .inr (.inr ⟨first,more ++ [s.final],rfl,s.printable_of_mem (inner List.mem_cons_self),
      notHigh (by decide),notHigh (by decide),List.forall_mem_append.mpr ⟨fun b hb => ?_,?_⟩⟩)
    · exact s.printable_of_mem (inner (List.mem_cons_of_mem first hb))
    · exact List.forall_mem_singleton.mpr s.printable_final

end ControlSequence

/-- The bytes end with `ESC` and a mixture of further `ESC` and `[`. -/
def EndsInEscape (bytes : List UInt8) : Prop :=
  ∃ before mixture, bytes = before ++ escape :: mixture ∧ ∀ b ∈ mixture, b = escape ∨ b = bracket

lemma not_endsInEscape_nil : ¬EndsInEscape [] := by
  rintro ⟨before,mixture,same,-⟩
  exact absurd same.symm (List.append_ne_nil_of_right_ne_nil _ (List.cons_ne_nil _ _))

lemma endsInEscape_concat (bytes : List UInt8) (b : UInt8) : EndsInEscape (bytes ++ [b]) ↔
    b = escape ∨ EndsInEscape bytes ∧ b = bracket := by
  constructor
  · rintro ⟨before,mixture,same,mixed⟩
    rcases mixture.eq_nil_or_concat with rfl | ⟨mixture,c,rfl⟩
    · exact .inl (List.singleton_inj.mp (List.append_inj_right' same rfl))
    · rw [List.concat_eq_append,← List.cons_append,← List.append_assoc] at same
      obtain ⟨rfl,last⟩ := List.append_inj' same rfl
      obtain rfl := List.singleton_inj.mp last
      rw [List.concat_eq_append,List.forall_mem_append] at mixed
      exact (mixed.2 b List.mem_cons_self).imp_right fun hb => ⟨⟨before,mixture,rfl,mixed.1⟩,hb⟩
  · rintro (rfl | ⟨⟨before,mixture,rfl,mixed⟩,rfl⟩)
    · exact ⟨bytes,[],rfl,nofun⟩
    · refine ⟨before,mixture ++ [bracket],by simp,List.forall_mem_append.mpr ⟨mixed,?_⟩⟩
      exact List.forall_mem_singleton.mpr (.inr rfl)

namespace Editor
variable {e : Editor} {b : UInt8} {bytes : List UInt8} (localEcho : Bool)

/-- `ESC` begins an escape sequence, and `[` leaves it open. -/
lemma decode_open (h : b = escape ∨ e.escaped = true ∧ b = bracket) :
    e.decode b = (none,{ e with escaped := true, afterReturn := b == carriageReturn }) := by
  unfold decode
  exact if_pos h

/-- Any other byte ends it, and is a key only if it is the arrow. -/
lemma decode_ends (inside : e.escaped = true) (h : ¬(b = escape ∨ e.escaped = true ∧ b = bracket)) :
    e.decode b = (if b = arrowUp then some .up else none,
      { e with escaped := false, afterReturn := b == carriageReturn }) := by
  unfold decode
  dsimp only
  rw [if_neg h,if_pos inside]

lemma decode_outside (outside : e.escaped = false) (h : b ≠ escape) :
    (e.decode b).1 ≠ some .up ∧ (e.decode b).2.escaped = false := by
  unfold decode
  simp only [outside,h,Bool.false_eq_true,false_and,or_false,if_false]
  split
  · exact ⟨nofun,rfl⟩
  · exact ⟨nofun,rfl⟩

lemma decode_eq_up_iff : (e.decode b).1 = some .up ↔ b = arrowUp ∧ e.escaped = true := by
  by_cases still : b = escape ∨ e.escaped = true ∧ b = bracket
  · rw [decode_open still]
    refine ⟨nofun,?_⟩
    rintro ⟨rfl,-⟩
    rcases still with same | ⟨-,same⟩ <;> exact absurd same (by decide)
  · cases inside : e.escaped with
    | true =>
      rw [decode_ends inside still]
      simp
    | false =>
      have := (decode_outside inside fun h => still (.inl h)).1
      simp [this]

lemma escaped_decode_iff :
    (e.decode b).2.escaped = true ↔ b = escape ∨ e.escaped = true ∧ b = bracket := by
  by_cases still : b = escape ∨ e.escaped = true ∧ b = bracket
  · rw [decode_open still]
    exact iff_of_true rfl still
  · refine iff_of_false (Bool.eq_false_iff.mp ?_) still
    cases inside : e.escaped with
    | true => rw [decode_ends inside still]
    | false => exact (decode_outside inside fun h => still (.inl h)).2

lemma press_escaped (e : Editor) (key : Key) : (e.press key).2.2.escaped = e.escaped := by
  cases key with
  | up => rfl
  | byte b =>
    unfold press
    dsimp only
    split
    · rfl
    · split <;> split <;> rfl

lemma feed_escaped (e : Editor) (b : UInt8) :
    (e.feed localEcho b).2.2.escaped = (e.decode b).2.escaped := by
  unfold feed
  rcases e.decode b with ⟨_ | key,next⟩
  · rfl
  · dsimp only
    split
    · rfl
    · exact next.press_escaped key

lemma feed_waiting_of_idle (idle : e.waiting = false) (b : UInt8) :
    (e.feed localEcho b).2.2.waiting = false := by
  have same := (e.decode_waiting b).trans idle
  rcases decoded : e.decode b with ⟨_ | key,next⟩
  · rw [feed_folded localEcho decoded]
    rwa [decoded] at same
  · rw [decoded] at same
    obtain ⟨shown,fed⟩ := feed_idle localEcho decoded same
    rw [fed]
    exact (next.press_waiting key).trans same

lemma after_concat (e : Editor) (bytes : List UInt8) (b : UInt8) :
    e.after localEcho (bytes ++ [b]) = ((e.after localEcho bytes).feed localEcho b).2.2 :=
  after_append localEcho e bytes [b]

lemma after_waiting (idle : e.waiting = false) (bytes : List UInt8) :
    (e.after localEcho bytes).waiting = false := by
  induction bytes using List.reverseRecOn with
  | nil => exact idle
  | append_singleton bytes b ih =>
    rw [after_concat]
    exact feed_waiting_of_idle localEcho ih b

/-- Which bytes leave an escape sequence open. -/
lemma after_escaped_iff (outside : e.escaped = false) (bytes : List UInt8) :
    (e.after localEcho bytes).escaped = true ↔ EndsInEscape bytes := by
  induction bytes using List.reverseRecOn with
  | nil => exact iff_of_false (Bool.eq_false_iff.mp outside) not_endsInEscape_nil
  | append_singleton bytes b ih =>
    rw [after_concat,feed_escaped,escaped_decode_iff,ih,endsInEscape_concat]

/-- Some of these bytes bring the last line back. -/
def Recalls (e : Editor) (bytes : List UInt8) : Prop :=
  ∃ front b rest, bytes = front ++ b :: rest ∧ ((e.after localEcho front).decode b).1 = some .up ∧
    (e.after localEcho front).waiting = false

lemma recalls_iff (ready : e.Ready) : e.Recalls localEcho bytes ↔
    ∃ front rest, bytes = front ++ arrowUp :: rest ∧ EndsInEscape front := by
  simp only [Recalls,decode_eq_up_iff,after_escaped_iff localEcho ready.outside,
    after_waiting localEcho ready.idle,and_true]
  constructor
  · rintro ⟨front,b,rest,same,rfl,inside⟩
    exact ⟨front,rest,same,inside⟩
  · rintro ⟨front,rest,same,inside⟩
    exact ⟨front,arrowUp,rest,same,rfl,inside⟩

/-- The arrow brings the last line back. -/
lemma feed_recall (inside : e.escaped = true) (idle : e.waiting = false) :
    (e.feed localEcho arrowUp).1 = .pending ∧ (e.feed localEcho arrowUp).2.2 =
      { e with line := e.last, escaped := false, afterReturn := false } := by
  have complete := decode_ends (b := arrowUp) inside (by simp [arrowUp,escape,bracket])
  obtain ⟨shown,fed⟩ := feed_idle localEcho complete idle
  rw [fed]
  exact ⟨rfl,rfl⟩

/-- A byte that ends a control sequence does nothing unless it is the arrow. -/
lemma feed_swallowed (inside : e.escaped = true) (h : Printable b) (notBracket : b ≠ bracket)
    (notArrow : b ≠ arrowUp) :
    e.feed localEcho b = (.pending,"",{ e with escaped := false, afterReturn := false }) := by
  have notEscape : b ≠ escape := h.ne (by decide)
  have notReturn : (b == carriageReturn) = false := beq_eq_false_iff_ne.mpr (h.ne (by decide))
  have ends := decode_ends inside fun still => still.elim notEscape fun h => notBracket h.2
  rw [if_neg notArrow,notReturn] at ends
  exact feed_folded localEcho ends

lemma edits_opened (e : Editor) (rest : List UInt8) :
    e.edits localEcho (escape :: bracket :: rest) = .pending :: .pending ::
      { e with escaped := true, afterReturn := false }.edits localEcho rest := rfl

lemma after_opened (e : Editor) (rest : List UInt8) :
    e.after localEcho (escape :: bracket :: rest) =
      { e with escaped := true, afterReturn := false }.after localEcho rest := rfl

/-- The bytes behind `ESC [`: the first is swallowed, or brings the last line back; the others are
typed. -/
lemma feed_body (s : ControlSequence) (inside : e.escaped = true) (idle : e.waiting = false) :
    e.edits localEcho s.body = List.replicate s.body.length .pending ∧
      (e.after localEcho s.body).last = e.last ∧
      (e.after localEcho s.body).line =
        if s.body = [arrowUp] then e.last else s.body.tail.foldl typed e.line := by
  rcases s.body_cases with body | body | ⟨first,rest,body,hf,notBracket,notArrow,hr⟩
  · have fed := feed_folded localEcho (decode_open (e := e) (.inr ⟨inside,rfl⟩))
    rw [body,edits,after,List.foldl_cons,fed]
    exact ⟨rfl,rfl,rfl⟩
  · obtain ⟨quiet,back⟩ := feed_recall localEcho inside idle
    rw [body,edits,after,List.foldl_cons,back,quiet]
    exact ⟨rfl,rfl,rfl⟩
  · have fed := feed_swallowed localEcho inside hf notBracket notArrow
    obtain ⟨quiet,flag,grown⟩ := type_printable localEcho
      (e := { e with escaped := false, afterReturn := false }) ⟨rfl,idle⟩ hr
    have notOnlyArrow : first :: rest ≠ [arrowUp] := fun same => notArrow (List.cons.inj same).1
    rw [after] at grown
    rw [body,edits,after,List.foldl_cons,fed,if_neg notOnlyArrow,quiet,grown]
    exact ⟨rfl,rfl,rfl⟩

/-- A control sequence is silent and leaves the last line alone. It is swallowed as far as the first
byte behind `ESC [`; what is left of a longer one is typed. The arrow brings the last line back
wherever nothing but `ESC` and `[` stands between it and an `ESC`. -/
theorem control_sequence_swallowed_in_part (e : Editor) (s : ControlSequence) (ready : e.Ready) :
    e.edits localEcho s.bytes = List.replicate s.bytes.length .pending ∧
      (e.after localEcho s.bytes).last = e.last ∧
      (e.after localEcho s.bytes).line = (if s.body = [arrowUp] then e.last else
        e.line ++ ((s.body.tail.filter isTypable).map lower).take (lineLimit - e.line.length)) ∧
      ∀ bytes, e.Recalls localEcho bytes ↔
        ∃ front rest, bytes = front ++ arrowUp :: rest ∧ EndsInEscape front := by
  obtain ⟨quiet,kept,line⟩ := feed_body localEcho
    (e := { e with escaped := true, afterReturn := false }) s rfl ready.idle
  rw [ControlSequence.bytes,edits_opened,after_opened,quiet,kept,line,foldl_typed]
  exact ⟨rfl,rfl,rfl,fun bytes => recalls_iff localEcho ready⟩

/-- The right arrow with the control key, `ESC [ 1 ; 5 C`. -/
def controlRight : ControlSequence :=
  ⟨[0x31, 0x3B, 0x35], [], 0x43, by simp, nofun, by decide⟩

/-- Behind `on`, it types a 5 and a small c. -/
theorem controlRight_swallowed_in_part :
    (fresh.after true [111, 110]).Ready ∧
      (fresh.after true [111, 110]).edits true controlRight.bytes = List.replicate 6 .pending ∧
      ((fresh.after true [111, 110]).after true controlRight.bytes).line = [111, 110, 53, 99] := by
  have ready : (fresh.after true [111, 110]).Ready := ⟨rfl,rfl⟩
  obtain ⟨quiet,-,line,-⟩ := control_sequence_swallowed_in_part true _ controlRight ready
  exact ⟨ready,quiet.trans rfl,line.trans (by decide)⟩

/-- So control sequences do change the line, and an arrow right behind `ESC` is enough to bring the
last line back. -/
theorem controlRight_changes_line :
    let e := fresh.after true [111, 110]
    e.Ready ∧ controlRight.bytes ≠ [escape, bracket, arrowUp] ∧
      (e.after true controlRight.bytes).line ≠ e.line ∧
      ¬[escape, bracket, arrowUp] <:+: [escape, arrowUp] ∧ e.Recalls true [escape, arrowUp] :=
  ⟨⟨rfl,rfl⟩,by decide,by decide,by decide,[escape],arrowUp,[],rfl,rfl,rfl⟩

end Editor
end ClimateStation.Terminal
