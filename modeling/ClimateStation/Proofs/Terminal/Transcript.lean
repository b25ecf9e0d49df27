import ClimateStation.Command.Grammar
import ClimateStation.Terminal.Editor
import Mathlib.Tactic.Lemma

/-! What typed bytes come to, taken one at a time and with nothing else going on. The transcript of
a stream is the lines that it hands over and the keys that it dismisses, in order. Reading it in
turns, each up to the next of these events, makes no difference. -/
namespace ClimateStation.Terminal

lemma Editor.feed_localEcho (localEcho : Bool) (e : Editor) (b : UInt8) :
    (e.feed localEcho b).1 = (e.feed true b).1 ∧
      (e.feed localEcho b).2.2 = (e.feed true b).2.2 := by
  unfold feed
  rcases e.decode b with ⟨_ | key,next⟩
  · exact ⟨rfl,rfl⟩
  · dsimp only
    split <;> exact ⟨rfl,rfl⟩

/-- What happens at the console, apart from what is shown. -/
inductive Happening
  | submitted (line : List UInt8)
  | dismissed
  deriving DecidableEq, Repr

def Edit.happening? : Edit → Option Happening
  | .pending => none
  | .submit line => some (.submitted line)
  | .dismissed => some .dismissed

/-- All that decides what a typed byte comes to, and what happened before. -/
structure Desk where
  mode : Command.Strictness
  editor : Editor
  monitoring : Bool
  happened : List Happening

namespace Desk

/-- Nothing was typed yet. -/
def fresh (mode : Command.Strictness) : Desk := ⟨mode,.fresh,false,[]⟩

def record (d : Desk) (e : Happening) : Desk := { d with happened := d.happened ++ [e] }

/-- One command among all has to do with the console: it switches monitoring, and once that is on,
the editor waits for a key. -/
def obey (d : Desk) : Except Command.CommandError Command → Desk
  | .ok .climateMonitor =>
    if d.monitoring then { d with monitoring := false }
    else { d with monitoring := true, editor := d.editor.await }
  | _ => d

def handle (d : Desk) : Happening → Desk
  | .submitted line => (d.record (.submitted line)).obey (Command.ofText d.mode line)
  | .dismissed => { d with monitoring := false }.record .dismissed

def typeByte (d : Desk) (b : UInt8) : Desk :=
  let (edit, _, editor) := d.editor.feed true b
  match edit.happening? with
  | none => { d with editor }
  | some e => { d with editor }.handle e

lemma typeByte_of_feed {d : Desk} {localEcho : Bool} {b : UInt8} {edit : Edit} {shown : String}
    {editor : Editor} (fed : d.editor.feed localEcho b = (edit,shown,editor)) : d.typeByte b =
      match edit.happening? with
      | none => { d with editor }
      | some e => { d with editor }.handle e := by
  obtain ⟨sameEdit,sameEditor⟩ := Editor.feed_localEcho localEcho d.editor b
  rw [fed] at sameEdit sameEditor
  dsimp only at sameEdit sameEditor
  rw [typeByte,sameEdit,sameEditor]

def typeAll (d : Desk) (bytes : List UInt8) : Desk := bytes.foldl typeByte d

lemma typeAll_append (d : Desk) (first rest : List UInt8) :
    d.typeAll (first ++ rest) = (d.typeAll first).typeAll rest := List.foldl_append ..

lemma typeAll_cons (d : Desk) (b : UInt8) (rest : List UInt8) :
    d.typeAll (b :: rest) = (d.typeByte b).typeAll rest := rfl

/-! ## Turns -/

/-- A turn reads typed bytes until something happens or all are read, and leaves the rest. -/
inductive Turn : Desk → List UInt8 → List UInt8 → Desk → Prop
  | drained {d} : Turn d [] [] d
  | happens {d b left e} (new : (d.typeByte b).happened = d.happened ++ [e]) :
      Turn d [b] left (d.typeByte b)
  | pending {d b read left next} (quiet : (d.typeByte b).happened = d.happened)
      (tail : Turn (d.typeByte b) read left next) : Turn d (b :: read) left next

namespace Turn
variable {d next : Desk} {read left : List UInt8}

lemma typeAll_eq (h : Turn d read left next) : next = d.typeAll read := by
  induction h with
  | drained => rfl
  | happens => rfl
  | pending _ _ ih => exact ih

/-- Either nothing happens and nothing is left, or one thing happens at the last byte read. -/
theorem at_most_one (h : Turn d read left next) :
    left = [] ∧ next.happened = d.happened ∨ ∃ e, next.happened = d.happened ++ [e] ∧
      ∀ before, before <+: read → before ≠ read →
        (d.typeAll before).happened = d.happened := by
  induction h with
  | drained => exact .inl ⟨rfl,rfl⟩
  | happens new =>
    refine .inr ⟨_,new,fun before start short => ?_⟩
    cases before with
    | nil => rfl
    | cons c rest =>
      obtain ⟨rfl,inner⟩ := List.cons_prefix_cons.mp start
      rw [List.prefix_nil.mp inner] at short
      exact absurd rfl short
  | pending quiet _ ih =>
    rcases ih with ⟨nothing,same⟩ | ⟨e,new,last⟩
    · exact .inl ⟨nothing,same.trans quiet⟩
    · refine .inr ⟨e,quiet ▸ new,fun before start short => ?_⟩
      cases before with
      | nil => rfl
      | cons c rest =>
        obtain ⟨rfl,inner⟩ := List.cons_prefix_cons.mp start
        rw [typeAll_cons,last rest inner fun same => short (congrArg _ same),quiet]

end Turn

lemma obey_happened (d : Desk) (meaning : Except Command.CommandError Command) :
    (d.obey meaning).happened = d.happened := by
  unfold obey
  split
  · split <;> rfl
  · rfl

lemma handle_happened (d : Desk) (e : Happening) :
    (d.handle e).happened = d.happened ++ [e] := by
  cases e with
  | submitted line => exact obey_happened ..
  | dismissed => rfl

/-- What happened stays, and what is typed only adds to it. -/
lemma typeByte_happened (d : Desk) (b : UInt8) : d.happened <+: (d.typeByte b).happened := by
  unfold typeByte
  dsimp only
  split
  · exact List.prefix_refl _
  · rw [handle_happened]
    exact List.prefix_append _ _

lemma typeAll_happened (d : Desk) (bytes : List UInt8) :
    d.happened <+: (d.typeAll bytes).happened := by
  induction bytes generalizing d with
  | nil => exact List.prefix_refl _
  | cons b bytes ih => exact (d.typeByte_happened b).trans (ih _)

end Desk

/-- What a stream of typed bytes comes to. -/
def transcript (mode : Command.Strictness) (bytes : List UInt8) : List Happening :=
  ((Desk.fresh mode).typeAll bytes).happened

/-- Monitoring takes the next key, and the keys after it are typed as before. -/
example : transcript .strict (Text.bytesOf
    ['d','h','t',' ','m','o','n','i','t','o','r','\r','q','o','n','\r']) =
      [.submitted (Text.bytesOf ['d','h','t',' ','m','o','n','i','t','o','r']),.dismissed,
        .submitted (Text.bytesOf ['o','n'])] := by
  decide +kernel

end ClimateStation.Terminal
