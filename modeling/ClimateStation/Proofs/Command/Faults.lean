import ClimateStation.Proofs.Command.Forward

/-! The faults of a text. Reading goes on after a fault and keeps the first one, for which the
sequence is refused. The grammar itself never speaks of such a fault: it refuses a sequence for a
value and its position. -/
namespace ClimateStation.Command

namespace Sequence

/-- A property of the kept fault that the words still to be read cannot change. They leave every
fault but that the text is too long. -/
def Lasting (P : Option InputError → Prop) : Prop :=
  ∀ ⦃kept fault⦄, fault ≠ InputError.tooLong → P kept → P (kept.or (some fault))

lemma lasting_ne_none : Lasting (· ≠ none) := fun kept _ _ _ => by cases kept <;> exact nofun

lemma lasting_eq_some (fault : InputError) : Lasting (· = some fault) := by
  rintro _ _ - rfl
  rfl

lemma lasting_ne_tooLong : Lasting (· ≠ some .tooLong) := by
  intro kept fault new old
  cases kept with
  | none => exact fun h => new (Option.some.inj h)
  | some _ => exact old

namespace Lasting
variable {P : Option InputError → Prop} {mode : Strictness} {s : Sequence}

lemma push (lasting : Lasting P) (v : UInt8) (h : P s.fault) : P (s.push v).fault := by
  unfold Sequence.push
  split
  · exact h
  · exact lasting nofun h

lemma pushAll (lasting : Lasting P) (vs : List UInt8) (h : P s.fault) :
    P (s.pushAll vs).fault := by
  induction vs generalizing s with
  | nil => exact h
  | cons v vs ih => exact ih (lasting.push v h)

lemma addWord (lasting : Lasting P) {r : Reading} (w : List UInt8) (h : P r.1.fault) :
    P (addWord mode r w).1.fault := by
  unfold Sequence.addWord
  split
  · exact lasting.push _ h
  · split
    · split
      · exact lasting.pushAll _ h
      · exact lasting nofun h
      · exact h
    · split
      · exact lasting nofun h
      · exact h

lemma foldl (lasting : Lasting P) {r : Reading} (ws : List (List UInt8)) (h : P r.1.fault) :
    P (ws.foldl (Sequence.addWord mode) r).1.fault := by
  induction ws generalizing r with
  | nil => exact h
  | cons w ws ih => exact ih (lasting.addWord w h)

end Lasting
end Sequence

/-! ## Refusals of the grammar -/

lemma Sequence.family_ne_malformed (s : Sequence) (fault : InputError) :
    s.family ≠ .error (.malformed fault) := by
  intro h
  by_cases known : s.valueAt 0 ∈ families.map Symbol.code
  · obtain ⟨i,named,-⟩ := family_refused known h
    exact nomatch named
  · rw [family_unknown known] at h
    exact nomatch h

/-- A sequence is refused for a fault of its text exactly if that fault was kept. -/
theorem ofSequence_malformed_iff (s : Sequence) (fault : InputError) :
    ofSequence s = .error (.malformed fault) ↔ s.fault = some fault := by
  unfold ofSequence
  cases hf : s.fault with
  | some kept => simp
  | none =>
    refine iff_of_false ?_ nofun
    dsimp only
    split
    · exact nofun
    · exact s.family_ne_malformed fault

end ClimateStation.Command
