import ClimateStation.Proofs.Command.Encoding
import ClimateStation.Proofs.Command.Words
import ClimateStation.Proofs.Text.Words

/-! The language that a strict reading of a text accepts: the sentences written in words. -/
namespace ClimateStation.Command
open Text

/-- A symbol is a word that means it, and an operand is a word that is its number. -/
def wordSpelling : Spelling (List UInt8) where
  symbol s ws := ∃ w, ws = [w] ∧ Means w s
  byte v ws := ∃ w, ws = [w] ∧ Numeral.Writes w v.toNat
  number n ws := ∃ w, ws = [w] ∧ Numeral.Writes w n.toNat

lemma Means.isWord {w : List UInt8} {s : Symbol} (h : Means w s) : s.isWord := by
  have some := h.keyword
  cases s <;> first | rfl | exact absurd rfl some

namespace Sequence

lemma operand_spelled (n : UInt16) : valueSpelling.number n (operand n) := by
  unfold operand
  have hn := n.toNat_lt
  split
  · next h =>
    rw [UInt16.lt_iff_toNat_lt] at h
    refine .inl ⟨n.toUInt8,?_,rfl⟩
    apply UInt16.toNat_inj.mp
    rw [UInt8.toNat_toUInt16,UInt16.toNat_toUInt8]
    exact (Nat.mod_eq_of_lt h).symm
  · refine .inr ⟨_,_,?_,rfl⟩
    apply UInt16.toNat_inj.mp
    rw [UInt16.toNat_ofNat',UInt8.toNat_ofNat',UInt8.toNat_ofNat']
    omega

lemma operand_of_byte (v : UInt8) : operand v.toUInt16 = [Symbol.byte.code,v] := by
  have hv := v.toNat_lt
  have h : v.toUInt16 < 256 := by
    rw [UInt16.lt_iff_toNat_lt,UInt8.toNat_toUInt16]
    exact hv
  unfold operand
  rw [if_pos h]
  simp

lemma number_of_byte {v : UInt8} {p : List UInt8} (h : valueSpelling.byte v p) :
    valueSpelling.number v.toUInt16 p := .inl ⟨v,rfl,h⟩

/-- A number ends where its mark says, so it is told apart from what follows it. -/
lemma number_unique {n n' : UInt16} {p p' rest rest' : List UInt8}
    (h : valueSpelling.number n p) (h' : valueSpelling.number n' p') (he : p ++ rest = p' ++ rest') :
    n = n' ∧ rest = rest' := by
  rcases h with ⟨v,rfl,rfl⟩ | ⟨hi,lo,rfl,rfl⟩
  · rcases h' with ⟨v',rfl,rfl⟩ | ⟨hi',lo',rfl,rfl⟩
    · cases he
      exact ⟨rfl,rfl⟩
    · exact absurd he (by simp [Symbol.code])
  · rcases h' with ⟨v',rfl,rfl⟩ | ⟨hi',lo',rfl,rfl⟩
    · exact absurd he (by simp [Symbol.code])
    · cases he
      exact ⟨rfl,rfl⟩

/-- Reading words from their values: what begins with the code of a symbol comes from a word for
it. -/
lemma Read.of_code {due : Bool} {ws : List (List UInt8)} {vs : List UInt8} {s : Symbol}
    (hs : s.isWord ∨ s = .endOfLine) (h : Read due ws (s.code :: vs)) :
    ∃ w tail next, ws = w :: tail ∧ Means w s ∧ Read next tail vs := by
  generalize hv : s.code :: vs = all at h
  cases h with
  | nil => exact nomatch hv
  | keyword t hw tail =>
    obtain ⟨hc,rfl⟩ := List.cons.inj hv
    obtain rfl := Symbol.code_injective hc
    exact ⟨_,_,_,rfl,Symbol.means_of_ofWord? hw,tail⟩
  | number n hw hn tail =>
    have hc : s.code = Symbol.byte.code ∨ s.code = Symbol.word.code := by
      rcases operand_spelled n with ⟨v,-,ho⟩ | ⟨hi,lo,-,ho⟩
      · rw [ho] at hv
        exact .inl (List.cons.inj hv).1
      · rw [ho] at hv
        exact .inr (List.cons.inj hv).1
    rcases hc with hc | hc
    · obtain rfl := Symbol.code_injective hc
      exact absurd hs (by decide)
    · obtain rfl := Symbol.code_injective hc
      exact absurd hs (by decide)

lemma Read.of_number {due : Bool} {ws : List (List UInt8)} {p vs : List UInt8} {n : UInt16}
    (hp : valueSpelling.number n p) (h : Read due ws (p ++ vs)) :
    ∃ w tail next, ws = w :: tail ∧ Numeral.Writes w n.toNat ∧ Read next tail vs := by
  generalize hv : p ++ vs = all at h
  cases h with
  | nil =>
    rcases hp with ⟨v,rfl,rfl⟩ | ⟨hi,lo,rfl,rfl⟩
    · exact nomatch hv
    · exact nomatch hv
  | keyword t hw tail =>
    have ht := (Symbol.means_of_ofWord? hw).isWord
    rcases hp with ⟨v,rfl,rfl⟩ | ⟨hi,lo,rfl,rfl⟩
    · obtain rfl := Symbol.code_injective (s := .byte) (List.cons.inj hv).1
      exact nomatch ht
    · obtain rfl := Symbol.code_injective (s := .word) (List.cons.inj hv).1
      exact nomatch ht
  | number m hw hm tail =>
    obtain ⟨rfl,rfl⟩ := number_unique hp (operand_spelled m) hv
    exact ⟨_,_,_,rfl,hm,tail⟩

/-- Every part of the values comes from the words that spell it. -/
lemma values_carry_words :
    valueSpelling.Carries wordSpelling fun vs ws => ∃ due, Read due ws vs where
  nil := by
    rintro ws ⟨due,h⟩
    generalize hv : [] = vs at h
    cases h with
    | nil => rfl
    | keyword => exact nomatch hv
    | number n =>
      rcases operand_spelled n with ⟨v,-,ho⟩ | ⟨hi,lo,-,ho⟩
      · rw [ho] at hv
        exact nomatch hv
      · rw [ho] at hv
        exact nomatch hv
  symbol := by
    rintro s p rest ws ⟨hs,rfl⟩ ⟨due,h⟩
    obtain ⟨w,tail,next,rfl,hw,ht⟩ := h.of_code (.inl hs)
    exact ⟨[w],tail,rfl,⟨w,rfl,hw⟩,next,ht⟩
  byte := by
    rintro v p rest ws hp ⟨due,h⟩
    obtain ⟨w,tail,next,rfl,hw,ht⟩ := h.of_number (number_of_byte hp)
    rw [UInt8.toNat_toUInt16] at hw
    exact ⟨[w],tail,rfl,⟨w,rfl,hw⟩,next,ht⟩
  number := by
    rintro n p rest ws hp ⟨due,h⟩
    obtain ⟨w,tail,next,rfl,hw,ht⟩ := h.of_number hp
    exact ⟨[w],tail,rfl,⟨w,rfl,hw⟩,next,ht⟩

/-- No word stands for the closing mark. -/
lemma not_closed_of_read {due : Bool} {ws : List (List UInt8)} {vs : List UInt8} {c : Command}
    (h : Read due ws vs) : ¬Closed vs c := by
  have mark {due : Bool} {ws : List (List UInt8)} {vs : List UInt8}
      (h : Read due ws (Symbol.endOfLine.code :: vs)) : False := by
    obtain ⟨w,-,-,-,hw,-⟩ := h.of_code (.inr rfl)
    exact nomatch hw.isWord
  intro hc
  cases hc with
  | light family =>
    obtain ⟨_,_,_,_,_,ht⟩ := values_carry_words.either family ⟨due,h⟩
    exact mark ht
  | climate family =>
    obtain ⟨_,_,_,_,_,ht⟩ := values_carry_words.symbol family ⟨due,h⟩
    exact mark ht
  | log family log =>
    obtain ⟨_,_,_,_,ht⟩ := values_carry_words.symbol family ⟨due,h⟩
    obtain ⟨_,_,_,_,_,ht⟩ := values_carry_words.symbol log ht
    exact mark ht

section Encoded
variable {due : Bool} {s : Symbol} {v : UInt8} {n : UInt16} {p rest : List (List UInt8)}
  {vs : List UInt8} {c : Command}

lemma Read.symbol (h : wordSpelling.symbol s p) (tail : Read (due || s.takesOperand) rest vs) :
    Read due (p ++ rest) ([s.code] ++ vs) := by
  obtain ⟨w,rfl,hw⟩ := h
  exact .keyword s ((Symbol.ofWord?_eq_some_iff w s).mpr hw) tail

lemma Read.operand (h : wordSpelling.number n p) (tail : Read true rest vs) :
    Read true (p ++ rest) (operand n ++ vs) := by
  obtain ⟨w,rfl,hw⟩ := h
  exact .number n (Symbol.ofWord?_eq_none_of_digits hw.digits) hw tail

lemma Read.byte (h : wordSpelling.byte v p) (tail : Read true rest vs) :
    Read true (p ++ rest) ([Symbol.byte.code,v] ++ vs) := by
  rw [← operand_of_byte]
  refine .operand ?_ tail
  obtain ⟨w,rfl,hw⟩ := h
  exact ⟨w,rfl,by rwa [UInt8.toNat_toUInt16]⟩

lemma Read.lastSymbol (h : wordSpelling.symbol s p) : Read due p [s.code] := by
  rw [← List.append_nil p]
  exact .symbol h .nil

lemma Read.lastOperand (h : wordSpelling.number n p) : Read true p (Sequence.operand n) := by
  rw [← List.append_nil p,← List.append_nil (Sequence.operand n)]
  exact .operand h .nil

lemma Read.lastByte (h : wordSpelling.byte v p) : Read true p [Symbol.byte.code,v] := by
  rw [← List.append_nil p]
  exact .byte h .nil

lemma length_operand_le (n : UInt16) : (operand n).length ≤ 3 := by
  unfold operand
  split
  · simp
  · simp

/-- The words of a command are understood, and their values are the same command. No command needs
more than the places of a sequence. -/
lemma encoded {ws : List (List UInt8)} (h : Sentence wordSpelling ws c) :
    ∃ vs, Read false ws vs ∧ vs.length ≤ 8 ∧ Sentence valueSpelling vs c := by
  cases h with
  | lightStatus family =>
    rcases family with family | family
    · exact ⟨_,.lastSymbol family,by decide,.lightStatus (.inl (coded rfl))⟩
    · exact ⟨_,.lastSymbol family,by decide,.lightStatus (.inr (coded rfl))⟩
  | @lightWord _ _ t _ family word meaning =>
    have ht : t.isWord := by cases meaning <;> rfl
    rcases family with family | family
    · exact ⟨_,.symbol family (.lastSymbol word),by simp,
        .lightWord (.inl (coded rfl)) (coded ht) meaning⟩
    · exact ⟨_,.symbol family (.lastSymbol word),by simp,
        .lightWord (.inr (coded rfl)) (coded ht) meaning⟩
  | lightColour family red green blue =>
    rcases family with family | family
    · exact ⟨_,.symbol family (.byte red (.byte green (.lastByte blue))),by simp,
        .lightColour (.inl (coded rfl)) (marked _) (marked _) (marked _)⟩
    · exact ⟨_,.symbol family (.byte red (.byte green (.lastByte blue))),by simp,
        .lightColour (.inr (coded rfl)) (marked _) (marked _) (marked _)⟩
  | climateStatus family =>
    exact ⟨_,.lastSymbol family,by simp,.climateStatus (coded rfl)⟩
  | @climateWord _ _ t _ family word meaning =>
    have ht : t.isWord := by cases meaning <;> rfl
    exact ⟨_,.symbol family (.lastSymbol word),by simp,
      .climateWord (coded rfl) (coded ht) meaning⟩
  | @logWord _ _ _ t _ family log word meaning =>
    have ht : t.isWord := by cases meaning <;> rfl
    exact ⟨_,.symbol family (.symbol log (.lastSymbol word)),by simp,
      .logWord (coded rfl) (coded rfl) (coded ht) meaning⟩
  | clockStatus family =>
    rcases family with family | family
    · exact ⟨_,.lastSymbol family,by simp,.clockStatus (.inl (coded rfl))⟩
    · exact ⟨_,.lastSymbol family,by simp,.clockStatus (.inr (coded rfl))⟩
  | setTime family word hour minute second =>
    exact ⟨_,.symbol family (.symbol word (.byte hour (.byte minute (.lastByte second)))),by simp,
      .setTime (coded rfl) (coded rfl) (marked _) (marked _) (marked _)⟩
  | setDate family word year month day =>
    exact ⟨_,.symbol family (.symbol word (.byte year (.byte month (.lastByte day)))),by simp,
      .setDate (coded rfl) (coded rfl) (marked _) (marked _) (marked _)⟩
  | @setBlinkRate _ _ _ n family word rate =>
    have hn := length_operand_le n
    refine ⟨_,.symbol family (.symbol word (.lastOperand rate)),?_,
      .setBlinkRate (coded rfl) (coded rfl) (operand_spelled n)⟩
    simp only [List.length_append, List.length_singleton]
    omega
  | setScale family dht word flag =>
    exact ⟨_,.symbol family (.symbol dht (.symbol word (.lastByte flag))),by simp,
      .setScale (coded rfl) (coded rfl) (coded rfl) (marked _)⟩
  | @setGate _ _ _ _ _ n family word index value =>
    have hn := length_operand_le n
    refine ⟨_,.symbol family (.symbol word (.byte index (.lastOperand value))),?_,
      .setGate (coded rfl) (coded rfl) (marked _) (operand_spelled n)⟩
    simp only [List.length_append, List.length_cons, List.length_nil]
    omega
  | version family => exact ⟨_,.lastSymbol family,by simp,.version (coded rfl)⟩
  | help family => exact ⟨_,.lastSymbol family,by simp,.help (coded rfl)⟩

end Encoded
end Sequence

/-- A strict reading has no fault if the text is short enough and all its words are understood. -/
lemma Sequence.ofText_strict_iff (input : List UInt8) (vs : List UInt8) :
    Sequence.ofText .strict input = ⟨vs,none⟩ ↔ (significant input).length ≤ 22 ∧
      Sequence.Read false ((words (significant input)).map (·.map lower)) vs ∧ vs.length ≤ 8 := by
  have hlimit : Sequence.textLimit = 22 := rfl
  have hne : ∀ w ∈ (words (significant input)).map (·.map lower), w ≠ [] := by
    intro w hw
    obtain ⟨w',hw',rfl⟩ := List.mem_map.mp hw
    simpa using ne_nil_of_mem_words _ w' hw'
  unfold Sequence.ofText
  by_cases hl : Sequence.textLimit < (significant input).length
  · dsimp only
    rw [if_pos ⟨rfl,hl⟩]
    constructor
    · intro h
      exact absurd (congrArg Sequence.fault h)
        (Sequence.lasting_ne_none.foldl _ (Sequence.fault_withFault _ _))
    · rintro ⟨h,-⟩
      omega
  · dsimp only
    rw [if_neg (fun h => hl h.2),List.take_of_length_le (Nat.le_of_not_lt hl)]
    rw [Sequence.empty,Sequence.foldl_eq_iff hne (Nat.zero_le _)]
    constructor
    · rintro ⟨new,hr,rfl,hn⟩
      rw [List.length_nil,Nat.zero_add] at hn
      exact ⟨by omega,hr,hn⟩
    · rintro ⟨-,hr,hn⟩
      exact ⟨vs,hr,rfl,by simpa using hn⟩

/-- A strict reading accepts a text as a command exactly if the text has at most 22 significant
characters and its words, in small letters, are that command. -/
theorem strict_accepts_iff (input : List UInt8) (c : Command) :
    let text := (input.takeWhile (· != 0)).rdropWhile (· ∈ blanks)
    let ws := ((text.splitOnP (· ∈ blanks)).filter (· ≠ [])).map (·.map small)
    ofText .strict input = .ok c ↔ text.length ≤ 22 ∧ Sentence wordSpelling ws c := by
  intro text ws
  have counts : significant input = text := significant_eq input
  have read : (words (significant input)).map (·.map lower) = ws := by
    rw [counts,words_eq,lower_eq_small]
  constructor
  · intro h
    rcases hs : Sequence.ofText .strict input with ⟨vs,f⟩
    rw [ofText,hs] at h
    cases f with
    | some f => exact nomatch h
    | none =>
      obtain ⟨hl,hr,-⟩ := (Sequence.ofText_strict_iff input vs).mp hs
      rw [counts] at hl
      rw [read] at hr
      rcases (Sequence.ofSequence_ok_iff vs c).mp h with h | h
      · exact ⟨hl,h.carry Sequence.values_carry_words ⟨false,hr⟩⟩
      · exact absurd h (Sequence.not_closed_of_read hr)
  · rintro ⟨hl,h⟩
    obtain ⟨vs,hr,hn,h⟩ := Sequence.encoded h
    rw [← counts] at hl
    rw [← read] at hr
    rw [ofText,(Sequence.ofText_strict_iff input vs).mpr ⟨hl,hr,hn⟩]
    exact (Sequence.ofSequence_ok_iff vs c).mpr (.inl h)

/-- Capital letters, blanks of any kind, a word that is like a keyword, zeros in front and what
stands behind a NUL do no harm. Twenty-three characters are too many, and a gate has no index above
255. -/
theorem strict_accepts_iff_unusual :
    let gate := bytesOf " SET\tAlexa\x0c007  30000\r\n\x00 help".toList
    let long := bytesOf "set blink          9999".toList
    let beyond := bytesOf "set alarm 256 1".toList
    ofText .strict gate = .ok (.setGate 7 30000) ∧ (∀ c, ofText .strict long ≠ .ok c) ∧
      (∀ c, ofText .strict beyond ≠ .ok c) ∧ ∀ c, ¬Sentence wordSpelling
        [bytesOf "set".toList,bytesOf "alarm".toList,bytesOf "256".toList,bytesOf "1".toList] c := by
  intro gate long beyond
  have index : Numeral.Writes (bytesOf "007".toList) (7 : UInt16).toNat :=
    Numeral.writes_iff.mpr ⟨by decide,by decide⟩
  have value : Numeral.Writes (bytesOf "30000".toList) (30000 : UInt16).toNat :=
    Numeral.writes_iff.mpr ⟨by decide,by decide⟩
  have sentence : Sentence wordSpelling ([bytesOf "set".toList] ++ ([bytesOf "alexa".toList] ++
      ([bytesOf "007".toList] ++ [bytesOf "30000".toList]))) (.setGate 7 30000) :=
    .setGate ⟨_,rfl,by decide⟩ ⟨_,rfl,by decide⟩ ⟨_,rfl,index⟩ ⟨_,rfl,value⟩
  have refused (c : Command) : ofText .strict beyond ≠ .ok c := by
    have found : ofText .strict beyond = .error (.unexpected 2 Symbol.word.code) := by decide
    rw [found]
    exact nofun
  refine ⟨(strict_accepts_iff gate _).mpr ⟨by decide +kernel,sentence⟩,fun c accepted => ?_,refused,
    fun c sentence => ?_⟩
  · exact absurd ((strict_accepts_iff long c).mp accepted).1 (by decide +kernel)
  · exact refused c ((strict_accepts_iff beyond c).mpr ⟨by decide +kernel,sentence⟩)

end ClimateStation.Command
