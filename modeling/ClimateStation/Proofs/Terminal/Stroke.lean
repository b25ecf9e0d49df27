import ClimateStation.Proofs.Terminal.Transcript

/-! What one typed byte does, and why monitoring and waiting for a key always go together. A byte
may be part of no key yet; a key dismisses if one is waited for, and else it is typed, and may hand
a line over. So the next key ends monitoring, and no other key is taken for one. -/
namespace ClimateStation.Terminal

namespace Editor
variable (e : Editor) (b : UInt8)

lemma decode_waiting : (e.decode b).2.waiting = e.waiting := by
  unfold decode
  dsimp only
  split
  · rfl
  · split
    · rfl
    · split <;> rfl

lemma press_waiting (key : Key) : (e.press key).2.2.waiting = e.waiting := by
  cases key with
  | up => rfl
  | byte b =>
    unfold press
    dsimp only
    split
    · rfl
    · split
      · split <;> rfl
      · split <;> rfl

lemma press_not_dismissed (key : Key) : (e.press key).1 ≠ .dismissed := by
  cases key with
  | up => exact nofun
  | byte b =>
    unfold press
    dsimp only
    split
    · exact nofun
    · split
      · split <;> exact nofun
      · split <;> exact nofun

variable {e b} {next : Editor} {key : Key}

lemma feed_folded (localEcho : Bool) (part : e.decode b = (none,next)) :
    e.feed localEcho b = (.pending,"",next) := by
  unfold feed
  rw [part]

lemma feed_waiting (localEcho : Bool) (complete : e.decode b = (some key,next))
    (waits : next.waiting = true) :
    e.feed localEcho b = (.dismissed,"",{ next with waiting := false, line := [] }) := by
  unfold feed
  rw [complete]
  exact if_pos waits

lemma feed_idle (localEcho : Bool) (complete : e.decode b = (some key,next))
    (idle : next.waiting = false) :
    ∃ shown, e.feed localEcho b = ((next.press key).1,shown,(next.press key).2.2) := by
  unfold feed
  rw [complete]
  exact ⟨_,if_neg (Bool.eq_false_iff.mp idle)⟩

variable (e b)

/-- Among these bytes is one that completes a key. -/
def meetsKey (e : Editor) : List UInt8 → Bool
  | [] => false
  | b :: rest =>
    match e.decode b with
    | (some _, _) => true
    | (none, next) => next.meetsKey rest

variable {e b}

lemma meetsKey_folded (part : e.decode b = (none,next)) (rest : List UInt8) :
    e.meetsKey (b :: rest) = next.meetsKey rest := by
  rw [meetsKey,part]

lemma meetsKey_complete (complete : e.decode b = (some key,next)) (rest : List UInt8) :
    e.meetsKey (b :: rest) = true := by
  rw [meetsKey,complete]

/-- A byte that is a key by itself. -/
def Plain (b : UInt8) : Prop := b ≠ escape ∧ b ≠ bracket ∧ b ≠ lineFeed

lemma isSome_decode_of_plain (plain : Plain b) (outside : e.escaped = false) :
    (e.decode b).1.isSome = true := by
  obtain ⟨notEscape,-,notFeed⟩ := plain
  unfold decode
  rw [outside]
  simp [notEscape,notFeed]

/-- A plain byte ends an escape sequence, if it is in one. -/
lemma escaped_decode_of_plain (plain : Plain b) : (e.decode b).2.escaped = false := by
  obtain ⟨notEscape,notBracket,notFeed⟩ := plain
  unfold decode
  cases outside : e.escaped <;> simp [notEscape,notBracket,notFeed]

/-- Two plain bytes complete a key, whatever came before them. -/
lemma meetsKey_of_plain {b' : UInt8} (first : Plain b) (second : Plain b') (rest : List UInt8) :
    e.meetsKey (b :: b' :: rest) = true := by
  have ended := escaped_decode_of_plain (e := e) first
  rcases decoded : e.decode b with ⟨_ | key,next⟩
  · rw [decoded] at ended
    obtain ⟨key,known⟩ := Option.isSome_iff_exists.mp (isSome_decode_of_plain second ended)
    rw [meetsKey_folded decoded]
    exact meetsKey_complete (Prod.ext known rfl) rest
  · exact meetsKey_complete decoded _

end Editor

namespace Desk

/-- What a byte comes to. -/
inductive Stroke (d : Desk) (b : UInt8) : Desk → Prop
  /-- The byte completes no key. -/
  | folded {editor} (part : d.editor.decode b = (none,editor))
      (kept : editor.waiting = d.editor.waiting) : Stroke d b { d with editor }
  | dismissed {key editor} (complete : d.editor.decode b = (some key,editor))
      (waits : d.editor.waiting = true) :
      Stroke d b ({ d with editor := { editor with waiting := false, line := [] } }.handle .dismissed)
  | typed {key editor} {next : Editor} (complete : d.editor.decode b = (some key,editor))
      (idle : d.editor.waiting = false) (still : next.waiting = false) :
      Stroke d b { d with editor := next }
  | handed {key editor line} {next : Editor} (complete : d.editor.decode b = (some key,editor))
      (idle : d.editor.waiting = false) (still : next.waiting = false) :
      Stroke d b ({ d with editor := next }.handle (.submitted line))

lemma typeByte_stroke (d : Desk) (b : UInt8) : d.Stroke b (d.typeByte b) := by
  have kept := d.editor.decode_waiting b
  rcases decoded : d.editor.decode b with ⟨key?,editor⟩
  rw [decoded] at kept
  have same : editor.waiting = d.editor.waiting := kept
  cases key? with
  | none =>
    rw [typeByte_of_feed (Editor.feed_folded true decoded)]
    exact .folded decoded same
  | some key =>
    cases waits : d.editor.waiting with
    | true =>
      rw [typeByte_of_feed (Editor.feed_waiting true decoded (same.trans waits))]
      exact .dismissed decoded waits
    | false =>
      obtain ⟨shown,fed⟩ := Editor.feed_idle true decoded (same.trans waits)
      have still := (editor.press_waiting key).trans (same.trans waits)
      rw [typeByte_of_feed fed]
      cases edit : (editor.press key).1 with
      | pending => exact .typed decoded waits still
      | submit line => exact .handed decoded waits still
      | dismissed => exact absurd edit (editor.press_not_dismissed key)

/-- The station monitors its sensor exactly while the editor waits for a key. -/
def Agrees (d : Desk) : Prop := d.monitoring = d.editor.waiting

lemma Agrees.obey {d : Desk} (off : d.monitoring = false) (idle : d.editor.waiting = false)
    (meaning : Except Command.CommandError Command) : (d.obey meaning).Agrees := by
  unfold Desk.obey
  split
  · rw [if_neg (Bool.eq_false_iff.mp off)]
    rfl
  · exact off.trans idle.symm

lemma Stroke.agrees {d next : Desk} {b : UInt8} (stroke : d.Stroke b next) (agrees : d.Agrees) :
    next.Agrees := by
  cases stroke with
  | folded _ kept => exact agrees.trans kept.symm
  | dismissed => rfl
  | typed _ idle still => exact (agrees.trans idle).trans still.symm
  | @handed _ _ line editor _ idle still =>
    exact .obey (d := { d with editor }.record (.submitted line)) (agrees.trans idle) still _

/-- Whatever is typed, after every byte. -/
theorem typeAll_agrees {d : Desk} (agrees : d.Agrees) (bytes : List UInt8) :
    (d.typeAll bytes).Agrees := by
  induction bytes generalizing d with
  | nil => exact agrees
  | cons b bytes ih => exact ih ((d.typeByte_stroke b).agrees agrees)

/-! ## Turns -/

namespace Turn
variable {d next next' : Desk} {read read' left left' : List UInt8}

/-- A turn is decided by what is there to be read. -/
theorem unique (h : Turn d read left next) (h' : Turn d read' left' next')
    (same : read ++ left = read' ++ left') : left = left' ∧ next = next' := by
  -- The turns read byte for byte the same, and stop at the same one: a byte makes something happen
  -- or not, whatever comes after it.
  induction h generalizing read' with
  | drained =>
    obtain ⟨rfl,rfl⟩ := List.append_eq_nil_iff.mp same.symm
    exact ⟨rfl,h'.typeAll_eq.symm⟩
  | happens new =>
    cases h' with
    | drained => exact nomatch same
    | happens =>
      obtain ⟨rfl,rfl⟩ := List.cons_eq_cons.mp same
      exact ⟨rfl,rfl⟩
    | pending quiet =>
      obtain ⟨rfl,-⟩ := List.cons_eq_cons.mp same
      simp [quiet] at new
  | pending quiet _ ih =>
    cases h' with
    | drained => exact nomatch same
    | happens new =>
      obtain ⟨rfl,-⟩ := List.cons_eq_cons.mp same
      simp [quiet] at new
    | pending _ tail =>
      obtain ⟨rfl,rest⟩ := List.cons_eq_cons.mp same
      exact ih tail rest

/-- While a key is waited for, nothing can happen but that it comes. -/
theorem waiting (h : Turn d read left next) (waits : d.editor.waiting = true) :
    if d.editor.meetsKey (read ++ left) then
      next.happened = d.happened ++ [.dismissed] ∧ next.monitoring = false
    else next.happened = d.happened ∧ next.monitoring = d.monitoring ∧ left = [] := by
  induction h with
  | drained => exact ⟨rfl,rfl,rfl⟩
  | @happens d b left e new =>
    have stroke := d.typeByte_stroke b
    generalize d.typeByte b = next at new stroke
    cases stroke with
    | folded => simp at new
    | dismissed complete =>
      rw [List.singleton_append,Editor.meetsKey_complete complete]
      exact ⟨rfl,rfl⟩
    | typed _ idle | handed _ idle => exact absurd (waits.symm.trans idle) nofun
  | @pending d b read left next quiet tail ih =>
    have stroke := d.typeByte_stroke b
    generalize d.typeByte b = later at quiet tail ih stroke
    cases stroke with
    | folded part kept =>
      rw [List.cons_append,Editor.meetsKey_folded part]
      exact ih (kept.trans waits)
    | dismissed => simp [handle,record] at quiet
    | typed _ idle | handed _ idle => exact absurd (waits.symm.trans idle) nofun

/-- While none is, no key is dismissed. -/
theorem idle (h : Turn d read left next) (idle : d.editor.waiting = false) :
    next.happened ≠ d.happened ++ [.dismissed] := by
  induction h with
  | drained => simp
  | @happens d b left e new =>
    have stroke := d.typeByte_stroke b
    generalize d.typeByte b = next at new stroke
    cases stroke with
    | folded | typed => simp at new
    | dismissed _ waits => exact absurd (waits.symm.trans idle) nofun
    | handed => simp [handle_happened]
  | @pending d b read left next quiet tail ih =>
    have stroke := d.typeByte_stroke b
    generalize d.typeByte b = later at quiet tail ih stroke
    cases stroke with
    | folded _ kept => exact ih (kept.trans idle)
    | typed _ _ still => exact ih still
    | dismissed _ waits => exact absurd (waits.symm.trans idle) nofun
    | handed => simp [handle_happened] at quiet

end Turn
end Desk
end ClimateStation.Terminal
