import ClimateStation.Command.Grammar
import ClimateStation.Proofs.Command.Sentence
import Mathlib.Tactic.Lemma

/-! What the grammar of token sequences accepts: the sentences written in values. An operand byte
and the code of a symbol may be the same value, so every position is read where it stands, behind
the values before it. -/
namespace ClimateStation.Command

/-- The symbols that a word can stand for. -/
def Symbol.isWord : Symbol → Bool
  | byte | word | endOfLine => false
  | _ => true

/-- A symbol is its code, and an operand carries its mark before it. -/
def valueSpelling : Spelling UInt8 where
  symbol s vs := s.isWord ∧ vs = [s.code]
  byte v vs := vs = [Symbol.byte.code,v]
  number n vs := (∃ v : UInt8, n = v.toUInt16 ∧ vs = [Symbol.byte.code,v]) ∨
    ∃ hi lo : UInt8, n = UInt16.ofNat (hi.toNat * 256 + lo.toNat) ∧
      vs = [Symbol.word.code,hi,lo]

lemma coded {s : Symbol} (h : s.isWord) : valueSpelling.symbol s [s.code] := ⟨h,rfl⟩

lemma marked (v : UInt8) : valueSpelling.byte v [Symbol.byte.code,v] := rfl

/-- A closing mark among the values ends the shortest commands, and what follows it is not read. -/
inductive Closed : List UInt8 → Command → Prop
  | light {f rest} (family : valueSpelling.either .led .rgb f) :
      Closed (f ++ Symbol.endOfLine.code :: rest) .lightStatus
  | climate {f rest} (family : valueSpelling.symbol .dht f) :
      Closed (f ++ Symbol.endOfLine.code :: rest) .climateStatus
  | log {f l rest} (family : valueSpelling.symbol .dht f) (log : valueSpelling.symbol .log l) :
      Closed (f ++ (l ++ Symbol.endOfLine.code :: rest)) .logDump

lemma bind_eq_ok {ε α β : Type} {x : Except ε α} {f : α → Except ε β} {b : β} :
    x >>= f = .ok b ↔ ∃ a, x = .ok a ∧ f a = .ok b := by
  cases x with
  | error e => exact ⟨fun h => (nomatch h),fun ⟨_,h,_⟩ => (nomatch h)⟩
  | ok a => exact ⟨fun h => ⟨a,rfl,h⟩,fun ⟨_,h,hf⟩ => by cases h; exact hf⟩

namespace Sequence
variable {fault : Option InputError} {c c' : Command}

lemma valueAt_append (front rest : List UInt8) :
    valueAt ⟨front ++ rest,fault⟩ front.length = rest.headD Symbol.endOfLine.code := by
  cases rest with
  | nil => simp [valueAt]
  | cons v rest => simp [valueAt]

lemma symbolAt_ok_iff (front rest : List UInt8) (t : Symbol) :
    symbolAt ⟨front ++ rest,fault⟩ front.length = .ok t ↔
      rest.headD Symbol.endOfLine.code = t.code := by
  unfold symbolAt
  rw [valueAt_append]
  cases h : Symbol.ofCode? (rest.headD Symbol.endOfLine.code) with
  | none =>
    refine ⟨fun hc => (nomatch hc),fun hc => ?_⟩
    rw [hc,Symbol.ofCode?_code] at h
    exact nomatch h
  | some s =>
    have hs := Symbol.code_of_ofCode? h
    constructor
    · intro ht
      cases ht
      exact hs.symm
    · intro ht
      rw [Symbol.code_injective (hs.trans ht)]

lemma head_ne_endOfLine {rest : List UInt8} {t : Symbol} (ht : t ≠ .endOfLine)
    (h : rest.headD Symbol.endOfLine.code = t.code) : ∃ tail, rest = t.code :: tail := by
  cases rest with
  | nil => exact absurd (Symbol.code_injective (s := .endOfLine) h).symm ht
  | cons v tail =>
    have hv : v = t.code := h
    exact ⟨tail,by rw [hv]⟩

lemma head_eq_endOfLine {rest : List UInt8}
    (h : rest.headD Symbol.endOfLine.code = Symbol.endOfLine.code) :
    rest = [] ∨ ∃ tail, rest = Symbol.endOfLine.code :: tail := by
  cases rest with
  | nil => exact .inl rfl
  | cons v tail =>
    have hv : v = Symbol.endOfLine.code := h
    exact .inr ⟨tail,by rw [hv]⟩

lemma expectAt_ok (front rest : List UInt8) {t : Symbol} (ht : t ≠ .endOfLine)
    (h : expectAt ⟨front ++ rest,fault⟩ front.length t = .ok ()) :
    ∃ tail, rest = t.code :: tail := by
  unfold expectAt at h
  split at h
  · next hv =>
    rw [valueAt_append] at hv
    exact head_ne_endOfLine ht hv
  · exact nomatch h

lemma operandAt_ok (front rest : List UInt8) {v : UInt8}
    (h : operandAt ⟨front ++ rest,fault⟩ front.length = .ok v) : ∃ tail, rest = v :: tail := by
  unfold operandAt at h
  split at h
  · next hl =>
    rw [valueAt_append] at h
    cases rest with
    | nil => simp [length] at hl
    | cons w tail =>
      cases h
      exact ⟨tail,rfl⟩
  · cases h

lemma byteAt_ok (front rest : List UInt8) {v : UInt8}
    (h : byteAt ⟨front ++ rest,fault⟩ front.length = .ok v) :
    ∃ tail, rest = Symbol.byte.code :: v :: tail := by
  obtain ⟨_,hm,hv⟩ := bind_eq_ok.mp h
  obtain ⟨tail,rfl⟩ := expectAt_ok front rest (by decide) hm
  have hl : front.length + 1 = (front ++ [Symbol.byte.code]).length := by simp
  rw [List.append_cons,hl] at hv
  obtain ⟨tail,rfl⟩ := operandAt_ok _ _ hv
  exact ⟨tail,rfl⟩

lemma numberAt_ok (front rest : List UInt8) {n : UInt16} {next : Nat}
    (h : numberAt ⟨front ++ rest,fault⟩ front.length = .ok (n,next)) :
    ∃ part tail, valueSpelling.number n part ∧ rest = part ++ tail ∧
      next = (front ++ part).length := by
  obtain ⟨t,ht,h⟩ := bind_eq_ok.mp h
  rw [symbolAt_ok_iff] at ht
  cases t with
  | byte =>
    obtain ⟨tail,rfl⟩ := head_ne_endOfLine (by decide) ht
    dsimp only at h
    obtain ⟨v,hv,hn⟩ := bind_eq_ok.mp h
    have hl : front.length + 1 = (front ++ [Symbol.byte.code]).length := by simp
    rw [List.append_cons,hl] at hv
    obtain ⟨tail,rfl⟩ := operandAt_ok _ _ hv
    cases hn
    exact ⟨[Symbol.byte.code,v],tail,.inl ⟨v,rfl,rfl⟩,rfl,by simp⟩
  | word =>
    obtain ⟨tail,rfl⟩ := head_ne_endOfLine (by decide) ht
    dsimp only at h
    obtain ⟨hi,hhi,h⟩ := bind_eq_ok.mp h
    obtain ⟨lo,hlo,hn⟩ := bind_eq_ok.mp h
    have hl : front.length + 1 = (front ++ [Symbol.word.code]).length := by simp
    rw [List.append_cons,hl] at hhi
    obtain ⟨tail,rfl⟩ := operandAt_ok _ _ hhi
    have hl : front.length + 2 = (front ++ [Symbol.word.code] ++ [hi]).length := by simp
    rw [List.append_cons,List.append_cons _ hi,hl] at hlo
    obtain ⟨tail,rfl⟩ := operandAt_ok _ _ hlo
    cases hn
    exact ⟨[Symbol.word.code,hi,lo],tail,.inr ⟨hi,lo,rfl,rfl⟩,rfl,by simp⟩
  | _ => exact nomatch h

lemma finishAt_ok (front rest : List UInt8)
    (h : finishAt ⟨front ++ rest,fault⟩ front.length c = .ok c') : rest = [] ∧ c = c' := by
  unfold finishAt at h
  split at h
  · next hl =>
    cases h
    refine ⟨List.eq_nil_of_length_eq_zero ?_,rfl⟩
    simp only [length, List.length_append] at hl
    omega
  · cases h

/-- A command that ends with a word ends there. -/
lemma finishAt_word (front rest : List UInt8) {t : Symbol} (ht : t ≠ .endOfLine)
    (head : rest.headD Symbol.endOfLine.code = t.code)
    (h : finishAt ⟨front ++ rest,fault⟩ (front.length + 1) c = .ok c') :
    rest = [t.code] ∧ c = c' := by
  obtain ⟨tail,rfl⟩ := head_ne_endOfLine ht head
  have hl : front.length + 1 = (front ++ [t.code]).length := by simp
  rw [List.append_cons,hl] at h
  obtain ⟨rfl,hc⟩ := finishAt_ok _ _ h
  exact ⟨rfl,hc⟩

lemma lightFamily_ok {first : UInt8} (family : valueSpelling.either .led .rgb [first])
    (rest : List UInt8) (h : lightFamily ⟨first :: rest,fault⟩ = .ok c) :
    Sentence valueSpelling (first :: rest) c ∨ Closed (first :: rest) c := by
  obtain ⟨t,ht,h⟩ := bind_eq_ok.mp h
  have ht := (symbolAt_ok_iff [first] rest t).mp ht
  have word {t : Symbol} {c' : Command} (hw : t.isWord) (meaning : LightWord t c')
      (ht : rest.headD Symbol.endOfLine.code = t.code)
      (h : finishAt ⟨first :: rest,fault⟩ 2 c' = .ok c) :
      Sentence valueSpelling (first :: rest) c := by
    obtain ⟨rfl,rfl⟩ := finishAt_word [first] rest (by rintro rfl; exact nomatch hw) ht h
    exact .lightWord family (coded hw) meaning
  cases t with
  | endOfLine =>
    cases h
    obtain rfl | ⟨tail,rfl⟩ := head_eq_endOfLine ht
    · exact .inl (.lightStatus family)
    · exact .inr (.light family)
  | on => exact .inl (word rfl .on ht h)
  | off => exact .inl (word rfl .off ht h)
  | blink => exact .inl (word rfl .blink ht h)
  | red => exact .inl (word rfl .red ht h)
  | green => exact .inl (word rfl .green ht h)
  | yellow => exact .inl (word rfl .yellow ht h)
  | byte =>
    dsimp only at h
    obtain ⟨r,hr,h⟩ := bind_eq_ok.mp h
    obtain ⟨g,hg,h⟩ := bind_eq_ok.mp h
    obtain ⟨b,hb,h⟩ := bind_eq_ok.mp h
    obtain ⟨tail,rfl⟩ := byteAt_ok [first] _ hr
    obtain ⟨tail,rfl⟩ := byteAt_ok [first,_,r] _ hg
    obtain ⟨tail,rfl⟩ := byteAt_ok [first,_,r,_,g] _ hb
    obtain ⟨rfl,rfl⟩ := finishAt_ok [first,_,r,_,g,_,b] _ h
    exact .inl (.lightColour family (marked r) (marked g) (marked b))
  | _ => exact nomatch h

lemma logFamily_ok (rest : List UInt8)
    (h : logFamily ⟨Symbol.dht.code :: Symbol.log.code :: rest,fault⟩ = .ok c) :
    Sentence valueSpelling (Symbol.dht.code :: Symbol.log.code :: rest) c ∨
      Closed (Symbol.dht.code :: Symbol.log.code :: rest) c := by
  obtain ⟨t,ht,h⟩ := bind_eq_ok.mp h
  have ht := (symbolAt_ok_iff [_,_] rest t).mp ht
  cases t with
  | endOfLine =>
    cases h
    obtain rfl | ⟨tail,rfl⟩ := head_eq_endOfLine ht
    · exact .inl (.climateWord (coded rfl) (coded rfl) .log)
    · exact .inr (.log (coded rfl) (coded rfl))
  | info =>
    obtain ⟨rfl,rfl⟩ := finishAt_word [_,_] rest (by decide) ht h
    exact .inl (.logWord (coded rfl) (coded rfl) (coded rfl) .info)
  | clear =>
    obtain ⟨rfl,rfl⟩ := finishAt_word [_,_] rest (by decide) ht h
    exact .inl (.logWord (coded rfl) (coded rfl) (coded rfl) .clear)
  | _ => exact nomatch h

lemma climateFamily_ok (rest : List UInt8)
    (h : climateFamily ⟨Symbol.dht.code :: rest,fault⟩ = .ok c) :
    Sentence valueSpelling (Symbol.dht.code :: rest) c ∨ Closed (Symbol.dht.code :: rest) c := by
  obtain ⟨t,ht,h⟩ := bind_eq_ok.mp h
  have ht := (symbolAt_ok_iff [_] rest t).mp ht
  cases t with
  | endOfLine =>
    cases h
    obtain rfl | ⟨tail,rfl⟩ := head_eq_endOfLine ht
    · exact .inl (.climateStatus (coded rfl))
    · exact .inr (.climate (coded rfl))
  | monitor =>
    obtain ⟨rfl,rfl⟩ := finishAt_word [_] rest (by decide) ht h
    exact .inl (.climateWord (coded rfl) (coded rfl) .monitor)
  | alarm =>
    obtain ⟨rfl,rfl⟩ := finishAt_word [_] rest (by decide) ht h
    exact .inl (.climateWord (coded rfl) (coded rfl) .alarm)
  | log =>
    obtain ⟨tail,rfl⟩ := head_ne_endOfLine (by decide) ht
    exact logFamily_ok tail h
  | _ => exact nomatch h

lemma threeBytes_ok {first second : UInt8} {make : UInt8 → UInt8 → UInt8 → Command}
    (rest : List UInt8) (h : threeBytes ⟨first :: second :: rest,fault⟩ make = .ok c) :
    ∃ x y z : UInt8, c = make x y z ∧
      rest = [Symbol.byte.code,x] ++ ([Symbol.byte.code,y] ++ [Symbol.byte.code,z]) := by
  obtain ⟨x,hx,h⟩ := bind_eq_ok.mp h
  obtain ⟨y,hy,h⟩ := bind_eq_ok.mp h
  obtain ⟨z,hz,h⟩ := bind_eq_ok.mp h
  obtain ⟨tail,rfl⟩ := byteAt_ok [first,second] _ hx
  obtain ⟨tail,rfl⟩ := byteAt_ok [first,second,_,x] _ hy
  obtain ⟨tail,rfl⟩ := byteAt_ok [first,second,_,x,_,y] _ hz
  obtain ⟨rfl,rfl⟩ := finishAt_ok [first,second,_,x,_,y,_,z] _ h
  exact ⟨x,y,z,rfl,rfl⟩

lemma setFamily_ok (rest : List UInt8)
    (h : setFamily ⟨Symbol.set.code :: rest,fault⟩ = .ok c) :
    Sentence valueSpelling (Symbol.set.code :: rest) c := by
  obtain ⟨t,ht,h⟩ := bind_eq_ok.mp h
  have ht := (symbolAt_ok_iff [_] rest t).mp ht
  cases t with
  | time =>
    obtain ⟨tail,rfl⟩ := head_ne_endOfLine (by decide) ht
    obtain ⟨x,y,z,rfl,rfl⟩ := threeBytes_ok tail h
    exact .setTime (coded rfl) (coded rfl) (marked _) (marked _) (marked _)
  | date =>
    obtain ⟨tail,rfl⟩ := head_ne_endOfLine (by decide) ht
    obtain ⟨x,y,z,rfl,rfl⟩ := threeBytes_ok tail h
    exact .setDate (coded rfl) (coded rfl) (marked _) (marked _) (marked _)
  | blink =>
    obtain ⟨tail,rfl⟩ := head_ne_endOfLine (by decide) ht
    dsimp only at h
    obtain ⟨⟨n,next⟩,hn,h⟩ := bind_eq_ok.mp h
    obtain ⟨part,tail,hp,rfl,rfl⟩ := numberAt_ok [_,_] tail hn
    rw [← List.cons_append,← List.cons_append] at h
    obtain ⟨rfl,rfl⟩ := finishAt_ok _ tail h
    rw [List.append_nil]
    exact .setBlinkRate (coded rfl) (coded rfl) hp
  | dht =>
    obtain ⟨tail,rfl⟩ := head_ne_endOfLine (by decide) ht
    dsimp only at h
    obtain ⟨_,hs,h⟩ := bind_eq_ok.mp h
    obtain ⟨tail,rfl⟩ := expectAt_ok [_,_] tail (by decide) hs
    obtain ⟨v,hv,h⟩ := bind_eq_ok.mp h
    obtain ⟨tail,rfl⟩ := byteAt_ok [_,_,_] tail hv
    obtain ⟨rfl,rfl⟩ := finishAt_ok [_,_,_,_,_] tail h
    exact .setScale (coded rfl) (coded rfl) (coded rfl) (marked _)
  | alarm =>
    obtain ⟨tail,rfl⟩ := head_ne_endOfLine (by decide) ht
    dsimp only at h
    obtain ⟨v,hv,h⟩ := bind_eq_ok.mp h
    obtain ⟨⟨n,next⟩,hn,h⟩ := bind_eq_ok.mp h
    obtain ⟨tail,rfl⟩ := byteAt_ok [_,_] tail hv
    obtain ⟨part,tail,hp,rfl,rfl⟩ := numberAt_ok [_,_,_,_] tail hn
    rw [← List.cons_append,← List.cons_append,← List.cons_append,← List.cons_append] at h
    obtain ⟨rfl,rfl⟩ := finishAt_ok _ tail h
    rw [List.append_nil]
    exact .setGate (coded rfl) (coded rfl) (marked _) hp
  | _ => exact nomatch h

lemma family_ok (first : UInt8) (rest : List UInt8)
    (h : family ⟨first :: rest,fault⟩ = .ok c) :
    Sentence valueSpelling (first :: rest) c ∨ Closed (first :: rest) c := by
  have hv : valueAt ⟨first :: rest,fault⟩ 0 = first := rfl
  simp only [family, hv] at h
  cases hs : Symbol.ofCode? first with
  | none =>
    rw [hs] at h
    exact nomatch h
  | some s =>
    rw [hs] at h
    obtain rfl := Symbol.code_of_ofCode? hs
    cases s with
    | led => exact lightFamily_ok (.inl (coded rfl)) rest h
    | rgb => exact lightFamily_ok (.inr (coded rfl)) rest h
    | dht => exact climateFamily_ok rest h
    | set => exact .inl (setFamily_ok rest h)
    | time =>
      obtain ⟨rfl,rfl⟩ := finishAt_ok [_] rest h
      exact .inl (.clockStatus (.inl (coded rfl)))
    | date =>
      obtain ⟨rfl,rfl⟩ := finishAt_ok [_] rest h
      exact .inl (.clockStatus (.inr (coded rfl)))
    | version =>
      obtain ⟨rfl,rfl⟩ := finishAt_ok [_] rest h
      exact .inl (.version (coded rfl))
    | help =>
      obtain ⟨rfl,rfl⟩ := finishAt_ok [_] rest h
      exact .inl (.help (coded rfl))
    | _ => exact nomatch h

lemma ofSequence_of_sentence {vs : List UInt8} (h : Sentence valueSpelling vs c) :
    ofSequence ⟨vs,none⟩ = .ok c := by
  cases h with
  | lightStatus family => rcases family with ⟨-,rfl⟩ | ⟨-,rfl⟩ <;> rfl
  | lightWord family word meaning =>
    obtain ⟨-,rfl⟩ := word
    rcases family with ⟨-,rfl⟩ | ⟨-,rfl⟩ <;> cases meaning <;> rfl
  | lightColour family red green blue =>
    cases red
    cases green
    cases blue
    rcases family with ⟨-,rfl⟩ | ⟨-,rfl⟩ <;> rfl
  | climateStatus family =>
    obtain ⟨-,rfl⟩ := family
    rfl
  | climateWord family word meaning =>
    obtain ⟨-,rfl⟩ := family
    obtain ⟨-,rfl⟩ := word
    cases meaning <;> rfl
  | logWord family log word meaning =>
    obtain ⟨-,rfl⟩ := family
    obtain ⟨-,rfl⟩ := log
    obtain ⟨-,rfl⟩ := word
    cases meaning <;> rfl
  | clockStatus family => rcases family with ⟨-,rfl⟩ | ⟨-,rfl⟩ <;> rfl
  | setTime family word hour minute second =>
    obtain ⟨-,rfl⟩ := family
    obtain ⟨-,rfl⟩ := word
    cases hour
    cases minute
    cases second
    rfl
  | setDate family word year month day =>
    obtain ⟨-,rfl⟩ := family
    obtain ⟨-,rfl⟩ := word
    cases year
    cases month
    cases day
    rfl
  | setBlinkRate family word rate =>
    obtain ⟨-,rfl⟩ := family
    obtain ⟨-,rfl⟩ := word
    rcases rate with ⟨v,rfl,rfl⟩ | ⟨hi,lo,rfl,rfl⟩ <;> rfl
  | setScale family dht word flag =>
    obtain ⟨-,rfl⟩ := family
    obtain ⟨-,rfl⟩ := dht
    obtain ⟨-,rfl⟩ := word
    cases flag
    rfl
  | setGate family word index value =>
    obtain ⟨-,rfl⟩ := family
    obtain ⟨-,rfl⟩ := word
    cases index
    rcases value with ⟨v,rfl,rfl⟩ | ⟨hi,lo,rfl,rfl⟩ <;> rfl
  | version family =>
    obtain ⟨-,rfl⟩ := family
    rfl
  | help family =>
    obtain ⟨-,rfl⟩ := family
    rfl

lemma ofSequence_of_closed {vs : List UInt8} (h : Closed vs c) :
    ofSequence ⟨vs,none⟩ = .ok c := by
  cases h with
  | light family => rcases family with ⟨-,rfl⟩ | ⟨-,rfl⟩ <;> rfl
  | climate family =>
    obtain ⟨-,rfl⟩ := family
    rfl
  | log family log =>
    obtain ⟨-,rfl⟩ := family
    obtain ⟨-,rfl⟩ := log
    rfl

/-- A sequence without faults is carried out as the command it encodes. -/
theorem ofSequence_ok_iff (vs : List UInt8) (c : Command) :
    ofSequence ⟨vs,none⟩ = .ok c ↔ Sentence valueSpelling vs c ∨ Closed vs c := by
  constructor
  · intro h
    cases vs with
    | nil => exact nomatch h
    | cons first rest => exact family_ok first rest h
  · rintro (h | h)
    · exact ofSequence_of_sentence h
    · exact ofSequence_of_closed h

end Sequence
end ClimateStation.Command
