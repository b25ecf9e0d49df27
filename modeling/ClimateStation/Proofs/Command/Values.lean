import ClimateStation.Proofs.Command.Encoding
import ClimateStation.Proofs.Command.Words

/-! Which values are a command. They have to be a sentence from the first to the last, with one
exception: the commands that may end early also end at a closing mark among the values, and
whatever follows the mark is never looked at. -/
namespace ClimateStation.Command
variable {vs p : List UInt8} {c : Command}

/-! ## Lengths -/

lemma length_symbol {s : Symbol} (h : valueSpelling.symbol s p) : p.length = 1 := by
  obtain ⟨-,rfl⟩ := h
  rfl

lemma length_either {s t : Symbol} (h : valueSpelling.either s t p) : p.length = 1 :=
  h.elim length_symbol length_symbol

lemma length_byte {v : UInt8} (h : valueSpelling.byte v p) : p.length = 2 := by
  cases h
  rfl

lemma length_number_le {n : UInt16} (h : valueSpelling.number n p) : p.length ≤ 3 := by
  rcases h with ⟨v,-,rfl⟩ | ⟨hi,lo,-,rfl⟩ <;> simp

/-- Every command finds a place in a sequence; the longest sets the time or the date. -/
lemma length_le_of_sentence (h : Sentence valueSpelling vs c) : vs.length ≤ 8 := by
  cases h with
  | lightStatus family => rw [length_either family]; decide
  | lightWord family word =>
    rw [List.length_append,length_either family,length_symbol word]
    decide
  | lightColour family red green blue =>
    simp only [List.length_append, length_either family, length_byte red, length_byte green,
      length_byte blue]
    decide
  | climateStatus family => rw [length_symbol family]; decide
  | climateWord family word =>
    rw [List.length_append,length_symbol family,length_symbol word]
    decide
  | logWord family log word =>
    simp only [List.length_append, length_symbol family, length_symbol log, length_symbol word]
    decide
  | clockStatus family => rw [length_either family]; decide
  | setTime family word hour minute second =>
    simp only [List.length_append, length_symbol family, length_symbol word, length_byte hour,
      length_byte minute, length_byte second]
    decide
  | setDate family word year month day =>
    simp only [List.length_append, length_symbol family, length_symbol word, length_byte year,
      length_byte month, length_byte day]
    decide
  | setBlinkRate family word rate =>
    have hn := length_number_le rate
    simp only [List.length_append, length_symbol family, length_symbol word]
    omega
  | setScale family dht word flag =>
    simp only [List.length_append, length_symbol family, length_symbol dht, length_symbol word,
      length_byte flag]
    decide
  | setGate family word index value =>
    have hn := length_number_le value
    simp only [List.length_append, length_symbol family, length_symbol word, length_byte index]
    omega
  | version family => rw [length_symbol family]; decide
  | help family => rw [length_symbol family]; decide

/-! ## Acceptance -/

namespace Sequence

lemma ofValues_of_le (h : vs.length ≤ 8) : ofValues vs = ⟨vs,none⟩ := by
  have hl : ([] : List UInt8).length + vs.length ≤ 8 := by simpa using h
  exact pushAll_of_le vs hl

lemma fault_ofValues (h : 8 < vs.length) : (ofValues vs).fault ≠ none := by
  have hl : 8 < ([] : List UInt8).length + vs.length := by simpa using h
  exact pushAll_of_lt vs (Nat.zero_le _) hl

end Sequence

lemma ofSequence_ne_ok {s : Sequence} (h : s.fault ≠ none) : ofSequence s ≠ .ok c := by
  obtain ⟨fault,hf⟩ := Option.ne_none_iff_exists'.mp h
  unfold ofSequence
  rw [hf]
  exact nofun

/-- Values are carried out as a command exactly if they are that command in full, or have one of
the commands that may end early before a closing mark. -/
theorem values_accepted_iff (vs : List UInt8) (c : Command) :
    ofSequence (Sequence.ofValues vs) = .ok c ↔
      Sentence valueSpelling vs c ∨ vs.length ≤ 8 ∧ Closed vs c := by
  by_cases hl : vs.length ≤ 8
  · rw [Sequence.ofValues_of_le hl,Sequence.ofSequence_ok_iff]
    exact or_congr_right (iff_and_self.mpr fun _ => hl)
  · constructor
    · intro h
      exact absurd h (ofSequence_ne_ok (Sequence.fault_ofValues (Nat.lt_of_not_le hl)))
    · rintro (h | h)
      · exact absurd (length_le_of_sentence h) hl
      · exact absurd h.1 hl

lemma length_of_lightStatus (h : Sentence valueSpelling vs .lightStatus) : vs.length = 1 := by
  cases h with
  | lightStatus family => exact length_either family
  | lightWord _ _ meaning => exact nomatch meaning
  | climateWord _ _ meaning => exact nomatch meaning
  | logWord _ _ _ meaning => exact nomatch meaning

/-- What stands behind a closing mark is overlooked: `led`, the mark and `on` show the lights. -/
theorem closing_mark_hides_value :
    let vs := [Symbol.led.code,Symbol.endOfLine.code,Symbol.on.code]
    ofSequence (Sequence.ofValues vs) = .ok .lightStatus ∧
      ¬Sentence valueSpelling vs .lightStatus :=
  ⟨rfl,fun h => absurd (length_of_lightStatus h) (by decide)⟩

end ClimateStation.Command
