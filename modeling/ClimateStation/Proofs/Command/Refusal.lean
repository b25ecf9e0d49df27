import ClimateStation.Proofs.Command.Forward
import ClimateStation.Proofs.Command.Lenient
import Mathlib.Order.Bounds.Basic

/-! Why a text is refused. The values before the position that a refusal names begin some command,
and together with the value at that position they begin none. The position is the length of the
longest part of the values that could still have become a command. -/
namespace ClimateStation.Command
variable {fault : Option InputError} {front rest vs : List UInt8} {first : UInt8} {c : Command}
  {e : CommandError}

/-- Some command begins with these values. -/
def Viable (front : List UInt8) : Prop := ∃ rest c, Sentence valueSpelling (front ++ rest) c

lemma Sentence.viable (h : Sentence valueSpelling vs c) : Viable vs :=
  ⟨[],c,by rwa [List.append_nil]⟩

lemma Viable.left (h : Viable (front ++ rest)) : Viable front := by
  obtain ⟨more,c,sentence⟩ := h
  rw [List.append_assoc] at sentence
  exact ⟨_,c,sentence⟩

lemma Viable.through {v : UInt8} (h : Viable (front ++ v :: rest)) : Viable (front ++ [v]) := by
  rw [List.append_cons] at h
  exact h.left

namespace Sequence

/-- The refusal names a position, and the values before it begin a command. -/
def RefusedBehind (s : Sequence) (e : CommandError) : Prop :=
  ∃ i ≤ s.length, e = s.unexpectedAt i ∧ Viable (s.values.take i)

/-! ## Readers

A reader that stands behind values with which a command begins either refuses what it finds there,
or takes it from the rest and leaves the refusal to the next. -/

section Readers
variable {α : Type} {t : Symbol}

lemma refusedBehind_at (front rest : List UInt8) (viable : Viable front)
    (named : e = unexpectedAt ⟨front ++ rest,fault⟩ front.length) :
    RefusedBehind ⟨front ++ rest,fault⟩ e := by
  refine ⟨front.length,?_,named,?_⟩
  · simp [length]
  · rwa [List.take_left]

lemma refusedBehind_symbolAt {f : Symbol → Except CommandError α} (front rest : List UInt8)
    (viable : Viable front)
    (h : symbolAt ⟨front ++ rest,fault⟩ front.length >>= f = .error e)
    (next : ∀ t, rest.headD Symbol.endOfLine.code = t.code → f t = .error e →
      RefusedBehind ⟨front ++ rest,fault⟩ e) : RefusedBehind ⟨front ++ rest,fault⟩ e := by
  rcases bind_eq_error.mp h with refused | ⟨t,found,refused⟩
  · exact refusedBehind_at front rest viable (refuses_symbolAt _ refused).1
  · exact next t ((symbolAt_ok_iff front rest t).mp found) refused

lemma refusedBehind_expectAt {f : Unit → Except CommandError α} (front rest : List UInt8)
    (viable : Viable front) (ht : t ≠ .endOfLine)
    (h : expectAt ⟨front ++ rest,fault⟩ front.length t >>= f = .error e)
    (next : ∀ tail, rest = t.code :: tail → f () = .error e →
      RefusedBehind ⟨front ++ rest,fault⟩ e) : RefusedBehind ⟨front ++ rest,fault⟩ e := by
  rcases bind_eq_error.mp h with refused | ⟨_,found,refused⟩
  · exact refusedBehind_at front rest viable (refuses_expectAt _ t refused).1
  · obtain ⟨tail,split⟩ := expectAt_ok front rest ht found
    exact next tail split refused

/-- An operand is refused only if nothing follows its mark. -/
lemma refusedBehind_operandAt {f : UInt8 → Except CommandError α} (front rest : List UInt8)
    {mark : UInt8} (viable : Viable (front ++ [mark]))
    (h : operandAt ⟨front ++ mark :: rest,fault⟩ (front.length + 1) >>= f = .error e)
    (next : ∀ v tail, rest = v :: tail → f v = .error e →
      RefusedBehind ⟨front ++ mark :: rest,fault⟩ e) :
    RefusedBehind ⟨front ++ mark :: rest,fault⟩ e := by
  have behind : front.length + 1 = (front ++ [mark]).length := by simp
  rw [List.append_cons] at h next ⊢
  rw [behind] at h
  rcases bind_eq_error.mp h with refused | ⟨v,found,refused⟩
  · exact refusedBehind_at _ rest viable (refuses_operandAt _ refused).1
  · obtain ⟨tail,split⟩ := operandAt_ok _ rest found
    exact next v tail split refused

lemma refusedBehind_finishAt (front rest : List UInt8) (viable : Viable front)
    (h : finishAt ⟨front ++ rest,fault⟩ front.length c = .error e) :
    RefusedBehind ⟨front ++ rest,fault⟩ e :=
  refusedBehind_at front rest viable (refuses_finishAt _ c h).1

/-- A command that ends with a word is refused for what follows the word. -/
lemma refusedBehind_word (front rest : List UInt8) (ht : t ≠ .endOfLine)
    (viable : Viable (front ++ [t.code])) (head : rest.headD Symbol.endOfLine.code = t.code)
    (h : finishAt ⟨front ++ rest,fault⟩ (front.length + 1) c = .error e) :
    RefusedBehind ⟨front ++ rest,fault⟩ e := by
  obtain ⟨tail,rfl⟩ := head_ne_endOfLine ht head
  have behind : front.length + 1 = (front ++ [t.code]).length := by simp
  rw [List.append_cons] at h ⊢
  rw [behind] at h
  exact refusedBehind_finishAt _ tail viable h

lemma refusedBehind_byteAt {f : UInt8 → Except CommandError α} (front rest : List UInt8)
    (viable : ∀ v, Viable (front ++ [Symbol.byte.code,v]))
    (h : byteAt ⟨front ++ rest,fault⟩ front.length >>= f = .error e)
    (next : ∀ v tail, rest = Symbol.byte.code :: v :: tail → f v = .error e →
      RefusedBehind ⟨front ++ rest,fault⟩ e) : RefusedBehind ⟨front ++ rest,fault⟩ e := by
  rw [byteAt,bind_assoc] at h
  refine refusedBehind_expectAt front rest (viable 0).left (by decide) h ?_
  rintro tail rfl h
  refine refusedBehind_operandAt front tail (viable 0).through h ?_
  rintro v tail rfl h
  exact next v tail rfl h

lemma refusedBehind_numberAt {f : UInt16 × Nat → Except CommandError α} (front rest : List UInt8)
    (viable : ∀ n part, valueSpelling.number n part → Viable (front ++ part))
    (h : numberAt ⟨front ++ rest,fault⟩ front.length >>= f = .error e)
    (next : ∀ n part tail, valueSpelling.number n part → rest = part ++ tail →
      f (n,(front ++ part).length) = .error e → RefusedBehind ⟨front ++ rest,fault⟩ e) :
    RefusedBehind ⟨front ++ rest,fault⟩ e := by
  have narrow := viable _ _ (.inl ⟨0,rfl,rfl⟩)
  have wide (hi : UInt8) := viable _ _ (.inr ⟨hi,0,rfl,rfl⟩)
  rcases bind_eq_error.mp h with refused | ⟨⟨n,i⟩,found,refused⟩
  · refine refusedBehind_symbolAt front rest narrow.left refused ?_
    intro t head refused
    cases t with
    | byte =>
      obtain ⟨tail,rfl⟩ := head_ne_endOfLine (by decide) head
      exact refusedBehind_operandAt front tail narrow.through refused fun _ _ _ h => nomatch h
    | word =>
      obtain ⟨tail,rfl⟩ := head_ne_endOfLine (by decide) head
      refine refusedBehind_operandAt front tail (wide 0).through refused ?_
      rintro hi tail rfl refused
      -- The low byte is read behind the high one, whichever it is.
      have behind : front.length + 2 = (front ++ [Symbol.word.code]).length + 1 := by simp
      have both := wide hi
      rw [List.append_cons] at both refused ⊢
      rw [behind] at refused
      exact refusedBehind_operandAt _ tail both.through refused fun _ _ _ h => nomatch h
    | _ => exact refusedBehind_at front rest narrow.left (Except.error.inj refused).symm
  · obtain ⟨part,tail,number,split,rfl⟩ := numberAt_ok front rest found
    exact next n part tail number split refused

end Readers

/-! ## Families -/

lemma refusedBehind_lightFamily (family : valueSpelling.either .led .rgb [first])
    (rest : List UInt8) (h : lightFamily ⟨first :: rest,fault⟩ = .error e) :
    RefusedBehind ⟨first :: rest,fault⟩ e := by
  have word {t : Symbol} {c : Command} (ht : t.isWord) (meaning : LightWord t c)
      (head : rest.headD Symbol.endOfLine.code = t.code)
      (h : finishAt ⟨first :: rest,fault⟩ 2 c = .error e) : RefusedBehind ⟨first :: rest,fault⟩ e :=
    refusedBehind_word [first] rest (by rintro rfl; exact nomatch ht)
      (Sentence.lightWord family (coded ht) meaning).viable head h
  have colour (r g b : UInt8) := Sentence.lightColour family (marked r) (marked g) (marked b)
  refine refusedBehind_symbolAt [first] rest (Sentence.lightStatus family).viable h ?_
  intro t head h
  cases t with
  | endOfLine => exact nomatch h
  | on => exact word rfl .on head h
  | off => exact word rfl .off head h
  | blink => exact word rfl .blink head h
  | red => exact word rfl .red head h
  | green => exact word rfl .green head h
  | yellow => exact word rfl .yellow head h
  | byte =>
    refine refusedBehind_byteAt [first] rest (fun r => ⟨_,_,colour r 0 0⟩) h ?_
    rintro r rest rfl h
    refine refusedBehind_byteAt [first,_,r] rest (fun g => ⟨_,_,colour r g 0⟩) h ?_
    rintro g rest rfl h
    refine refusedBehind_byteAt [first,_,r,_,g] rest (fun b => (colour r g b).viable) h ?_
    rintro b rest rfl h
    exact refusedBehind_finishAt [first,_,r,_,g,_,b] rest (colour r g b).viable h
  | _ =>
    refine refusedBehind_at [first] rest (Sentence.lightStatus family).viable ?_
    exact (Except.error.inj h).symm

lemma refusedBehind_logFamily (rest : List UInt8)
    (h : logFamily ⟨Symbol.dht.code :: Symbol.log.code :: rest,fault⟩ = .error e) :
    RefusedBehind ⟨Symbol.dht.code :: Symbol.log.code :: rest,fault⟩ e := by
  have dump := Sentence.climateWord (coded (s := .dht) rfl) (coded rfl) .log
  refine refusedBehind_symbolAt [_,_] rest dump.viable h ?_
  intro t head h
  cases t with
  | endOfLine => exact nomatch h
  | info =>
    exact refusedBehind_word [_,_] rest (by decide)
      (Sentence.logWord (coded rfl) (coded rfl) (coded rfl) .info).viable head h
  | clear =>
    exact refusedBehind_word [_,_] rest (by decide)
      (Sentence.logWord (coded rfl) (coded rfl) (coded rfl) .clear).viable head h
  | _ => exact refusedBehind_at [_,_] rest dump.viable (Except.error.inj h).symm

lemma refusedBehind_climateFamily (rest : List UInt8)
    (h : climateFamily ⟨Symbol.dht.code :: rest,fault⟩ = .error e) :
    RefusedBehind ⟨Symbol.dht.code :: rest,fault⟩ e := by
  have status := Sentence.climateStatus (coded (s := .dht) rfl)
  refine refusedBehind_symbolAt [_] rest status.viable h ?_
  intro t head h
  cases t with
  | endOfLine => exact nomatch h
  | monitor =>
    exact refusedBehind_word [_] rest (by decide)
      (Sentence.climateWord (coded rfl) (coded rfl) .monitor).viable head h
  | alarm =>
    exact refusedBehind_word [_] rest (by decide)
      (Sentence.climateWord (coded rfl) (coded rfl) .alarm).viable head h
  | log =>
    obtain ⟨rest,rfl⟩ := head_ne_endOfLine (by decide) head
    exact refusedBehind_logFamily rest h
  | _ => exact refusedBehind_at [_] rest status.viable (Except.error.inj h).symm

lemma refusedBehind_threeBytes {second : UInt8} {make : UInt8 → UInt8 → UInt8 → Command}
    (sentence : ∀ x y z, Sentence valueSpelling ([first,second] ++
      ([Symbol.byte.code,x] ++ ([Symbol.byte.code,y] ++ [Symbol.byte.code,z]))) (make x y z))
    (rest : List UInt8) (h : threeBytes ⟨first :: second :: rest,fault⟩ make = .error e) :
    RefusedBehind ⟨first :: second :: rest,fault⟩ e := by
  refine refusedBehind_byteAt [first,second] rest (fun x => ⟨_,_,sentence x 0 0⟩) h ?_
  rintro x rest rfl h
  refine refusedBehind_byteAt [first,second,_,x] rest (fun y => ⟨_,_,sentence x y 0⟩) h ?_
  rintro y rest rfl h
  refine refusedBehind_byteAt [first,second,_,x,_,y] rest (fun z => (sentence x y z).viable) h ?_
  rintro z rest rfl h
  exact refusedBehind_finishAt [first,second,_,x,_,y,_,z] rest (sentence x y z).viable h

lemma refusedBehind_setFamily (rest : List UInt8)
    (h : setFamily ⟨Symbol.set.code :: rest,fault⟩ = .error e) :
    RefusedBehind ⟨Symbol.set.code :: rest,fault⟩ e := by
  have set : valueSpelling.symbol .set [_] := coded rfl
  have time (x y z : UInt8) := Sentence.setTime set (coded rfl) (marked x) (marked y) (marked z)
  have date (x y z : UInt8) := Sentence.setDate set (coded rfl) (marked x) (marked y) (marked z)
  refine refusedBehind_symbolAt [_] rest ⟨_,_,time 0 0 0⟩ h ?_
  intro t head h
  cases t with
  | time =>
    obtain ⟨rest,rfl⟩ := head_ne_endOfLine (by decide) head
    exact refusedBehind_threeBytes time rest h
  | date =>
    obtain ⟨rest,rfl⟩ := head_ne_endOfLine (by decide) head
    exact refusedBehind_threeBytes date rest h
  | blink =>
    obtain ⟨rest,rfl⟩ := head_ne_endOfLine (by decide) head
    have rate {n : UInt16} {part : List UInt8} (number : valueSpelling.number n part) :=
      Sentence.setBlinkRate set (coded rfl) number
    refine refusedBehind_numberAt [_,_] rest (fun _ _ number => (rate number).viable) h ?_
    rintro n part rest number rfl h
    exact refusedBehind_finishAt _ rest (rate number).viable h
  | dht =>
    obtain ⟨rest,rfl⟩ := head_ne_endOfLine (by decide) head
    have scale (v : UInt8) := Sentence.setScale set (coded rfl) (coded rfl) (marked v)
    refine refusedBehind_expectAt [_,_] rest ⟨_,_,scale 0⟩ (by decide) h ?_
    rintro rest rfl h
    refine refusedBehind_byteAt [_,_,_] rest (fun v => (scale v).viable) h ?_
    rintro v rest rfl h
    exact refusedBehind_finishAt [_,_,_,_,_] rest (scale v).viable h
  | alarm =>
    obtain ⟨rest,rfl⟩ := head_ne_endOfLine (by decide) head
    have gate (v : UInt8) {n : UInt16} {part : List UInt8}
        (number : valueSpelling.number n part) :=
      Sentence.setGate set (coded rfl) (marked v) number
    refine refusedBehind_byteAt [_,_] rest (fun v => ⟨_,_,gate v (.inl ⟨0,rfl,rfl⟩)⟩) h ?_
    rintro v rest rfl h
    refine refusedBehind_numberAt [_,_,_,_] rest (fun _ _ number => (gate v number).viable) h ?_
    rintro n part rest number rfl h
    exact refusedBehind_finishAt _ rest (gate v number).viable h
  | _ => exact refusedBehind_at [_] rest ⟨_,_,time 0 0 0⟩ (Except.error.inj h).symm

lemma refusedBehind_behind {t : Symbol} (member : t ∈ families) (rest : List UInt8)
    (h : behind t ⟨t.code :: rest,fault⟩ = .error e) :
    RefusedBehind ⟨t.code :: rest,fault⟩ e := by
  cases t with
  | led => exact refusedBehind_lightFamily (.inl (coded rfl)) rest h
  | rgb => exact refusedBehind_lightFamily (.inr (coded rfl)) rest h
  | dht => exact refusedBehind_climateFamily rest h
  | set => exact refusedBehind_setFamily rest h
  | time =>
    exact refusedBehind_finishAt [_] rest (Sentence.clockStatus (.inl (coded rfl))).viable h
  | date =>
    exact refusedBehind_finishAt [_] rest (Sentence.clockStatus (.inr (coded rfl))).viable h
  | version => exact refusedBehind_finishAt [_] rest (Sentence.version (coded rfl)).viable h
  | help => exact refusedBehind_finishAt [_] rest (Sentence.help (coded rfl)).viable h
  | _ => exact absurd member (by decide)

/-! ## Offences -/

lemma family_of_sentence (h : Sentence valueSpelling vs c) : family ⟨vs,none⟩ = .ok c := by
  have accepted := ofSequence_of_sentence h
  unfold ofSequence at accepted
  dsimp only at accepted
  split at accepted
  · exact nomatch accepted
  · exact accepted

/-- With the value at the position that a refusal names, the values begin no command: it would be
refused as they are. -/
lemma not_viable_of_refused {i n : Nat} (h : i < n) (hn : n ≤ vs.length)
    (stays : ∀ s', AgreeTo i ⟨vs,none⟩ s' → s'.family = .error e) : ¬Viable (vs.take n) := by
  rintro ⟨more,c,sentence⟩
  have agree : AgreeTo i ⟨vs,none⟩ ⟨vs.take n ++ more,none⟩ := by
    intro j hj
    have within : j < n := Nat.lt_of_le_of_lt hj h
    have here : j < (vs.take n).length := by
      rwa [List.length_take_of_le hn]
    rw [List.getElem?_append_left here,List.getElem?_take_of_lt within]
  exact nomatch (family_of_sentence sentence).symm.trans (stays _ agree)

/-- Behind a value that starts a command, the refusal names the end of the longest part that begins
some command. -/
lemma family_unexpected (known : first ∈ families.map Symbol.code)
    (refused : family ⟨first :: rest,none⟩ = .error e) :
    ∃ i, e = .unexpected i ((first :: rest).getD i Symbol.endOfLine.code) ∧
      IsGreatest {n | n ≤ (first :: rest).length ∧ Viable ((first :: rest).take n)} i := by
  obtain ⟨i,named,stays⟩ := family_refused (s := ⟨first :: rest,none⟩) known refused
  obtain ⟨t,member,rfl⟩ := List.mem_map.mp known
  rw [family_eq_behind rfl] at refused
  obtain ⟨j,within,same,viable⟩ := refusedBehind_behind member rest refused
  -- Both walks through the family end at the position that the refusal names.
  obtain ⟨rfl,-⟩ := CommandError.unexpected.inj (named.symm.trans same)
  refine ⟨i,named,⟨within,viable⟩,fun n ⟨inside,also⟩ => ?_⟩
  exact Nat.not_lt.mp fun beyond => not_viable_of_refused beyond inside stays also

end Sequence

open Sequence (families)

/-- Why a sequence is refused, and with what. -/
inductive Refusal : Sequence → CommandError → Prop
  | malformed {vs : List UInt8} {kept : InputError} : Refusal ⟨vs,some kept⟩ (.malformed kept)
  | empty : Refusal ⟨[],none⟩ .empty
  | unknownFamily {first : UInt8} {rest : List UInt8} (unknown : first ∉ families.map Symbol.code) :
      Refusal ⟨first :: rest,none⟩ (.unknownFamily first)
  | unexpected {first : UInt8} {rest : List UInt8} {i : Nat}
      (known : first ∈ families.map Symbol.code)
      (incomplete : ∀ c, ¬Sentence valueSpelling (first :: rest) c)
      (longest : IsGreatest {n | n ≤ (first :: rest).length ∧ Viable ((first :: rest).take n)} i) :
      Refusal ⟨first :: rest,none⟩
        (.unexpected i ((first :: rest).getD i Symbol.endOfLine.code))

variable {s : Sequence}

lemma refusal_of_error (h : ofSequence s = .error e) : Refusal s e := by
  rcases s with ⟨vs,_ | kept⟩
  · cases vs with
    | nil =>
      cases h
      exact .empty
    | cons first rest =>
      have refused : Sequence.family ⟨first :: rest,none⟩ = .error e := h
      by_cases known : first ∈ families.map Symbol.code
      · obtain ⟨i,rfl,longest⟩ := Sequence.family_unexpected known refused
        refine .unexpected known (fun c sentence => ?_) longest
        exact nomatch (Sequence.ofSequence_of_sentence sentence).symm.trans h
      · rw [Sequence.family_unknown (s := ⟨first :: rest,none⟩) known] at refused
        cases refused
        exact .unknownFamily known
  · cases h
    exact .malformed

/-- A sequence with a closing mark among its values may be accepted without being a sentence; for
any other, what the refusal should be is what it is. -/
theorem ofSequence_error_iff (unclosed : s.fault = none → ∀ c, ¬Closed s.values c) :
    ofSequence s = .error e ↔ Refusal s e := by
  refine ⟨refusal_of_error,fun h => ?_⟩
  cases h with
  | malformed => rfl
  | empty => rfl
  | unknownFamily unknown => exact Sequence.family_unknown (s := ⟨_ :: _,none⟩) unknown
  | @unexpected first rest i known incomplete longest =>
    cases outcome : ofSequence ⟨first :: rest,none⟩ with
    | ok c =>
      rcases (Sequence.ofSequence_ok_iff _ c).mp outcome with sentence | closed
      · exact absurd sentence (incomplete c)
      · exact absurd closed (unclosed rfl c)
    | error e =>
      cases refusal_of_error outcome with
      | unknownFamily unknown => exact absurd known unknown
      | unexpected _ _ same => rw [longest.unique same]

lemma refusal_empty_iff : Refusal s .empty ↔ s.fault = none ∧ s.values = [] := by
  constructor
  · rintro ⟨⟩
    exact ⟨rfl,rfl⟩
  · rcases s with ⟨vs,fault⟩
    rintro ⟨rfl,rfl⟩
    exact .empty

lemma refusal_unknownFamily_iff {v : UInt8} : Refusal s (.unknownFamily v) ↔
    s.fault = none ∧ s.values.head? = some v ∧ v ∉ families.map Symbol.code := by
  constructor
  · intro h
    cases h with
    | unknownFamily unknown => exact ⟨rfl,rfl,unknown⟩
  · rcases s with ⟨vs,fault⟩
    rintro ⟨rfl,starts,unknown⟩
    obtain ⟨rest,rfl⟩ := List.head?_eq_some_iff.mp starts
    exact .unknownFamily unknown

lemma refusal_unexpected_iff {i : Nat} {found : UInt8} : Refusal s (.unexpected i found) ↔
    s.fault = none ∧ (∃ v ∈ families.map Symbol.code, s.values.head? = some v) ∧
      (∀ c, ¬Sentence valueSpelling s.values c) ∧
      IsGreatest {n | n ≤ s.values.length ∧ Viable (s.values.take n)} i ∧
      found = s.values.getD i Symbol.endOfLine.code := by
  constructor
  · intro h
    cases h with
    | unexpected known incomplete longest =>
      exact ⟨rfl,⟨_,known,rfl⟩,incomplete,longest,rfl⟩
  · rcases s with ⟨vs,fault⟩
    rintro ⟨rfl,⟨v,known,starts⟩,incomplete,longest,rfl⟩
    obtain ⟨rest,rfl⟩ := List.head?_eq_some_iff.mp starts
    exact .unexpected known incomplete longest

/-! ## Texts -/

open Text

lemma contributions_eq_nil_iff {ws : List (List UInt8)} : contributions ws = [] ↔
    ∀ before w, (before,w) ∈ withEarlier ws → ∀ part, contribution before w ≠ .ok part := by
  rw [contributions,List.flatMap_eq_nil_iff]
  constructor
  · intro silent before w hw part h
    have none : (contribution before w).toOption.getD [] = [] := silent _ hw
    rw [h] at none
    exact Sequence.contribution_ne_nil h none
  · rintro bad ⟨before,w⟩ hw
    cases h : contribution before w with
    | ok part => exact absurd h (bad before w hw part)
    | error fault => simp [h,Except.toOption]

lemma Sequence.values_ofText_eq_nil_iff {mode : Strictness} {input : List UInt8} :
    (ofText mode input).values = [] ↔ contributions (wordsRead input) = [] := by
  rw [ofText_eq,List.take_eq_nil_iff]
  exact or_iff_right (by decide)

/-- No text comes to a closing mark among its values. -/
lemma Sequence.not_closed_ofText {mode : Strictness} {input : List UInt8}
    (sound : (ofText mode input).fault = none) : ¬Closed (ofText mode input).values c := by
  have strict (input : List UInt8) (sound : (ofText .strict input).fault = none) :
      ¬Closed (ofText .strict input).values c := by
    have read := (ofText_strict_iff input (ofText .strict input).values).mp (by rw [← sound])
    exact not_closed_of_read read.2.1
  cases mode with
  | strict => exact strict input sound
  | lenient =>
    rw [ofText_lenient] at sound ⊢
    exact strict _ sound

lemma ofText_error_iff {mode : Strictness} {input : List UInt8} :
    ofText mode input = .error e ↔ Refusal (Sequence.ofText mode input) e :=
  ofSequence_error_iff fun sound _ => Sequence.not_closed_ofText sound

/-- A refusal of a text points at its first offence: the first fault of its words, that none of them
has a value, the first value if no command starts with it, or else the value behind the longest part
that begins some command, which is the closing mark if that part is everything. -/
theorem refusals_name_first_offence (mode : Strictness) (input : List UInt8) :
    let s := Sequence.ofText mode input
    (∀ fault, ofText mode input = .error (.malformed fault) ↔ s.fault = some fault) ∧
      (ofText mode input = .error .empty ↔ s.fault = none ∧
        ∀ before w, (before,w) ∈ withEarlier (wordsRead input) →
          ∀ part, contribution before w ≠ .ok part) ∧
      (∀ v, ofText mode input = .error (.unknownFamily v) ↔
        s.fault = none ∧ s.values.head? = some v ∧ v ∉ families.map Symbol.code) ∧
      ∀ position found, ofText mode input = .error (.unexpected position found) ↔
        s.fault = none ∧ (∃ v ∈ families.map Symbol.code, s.values.head? = some v) ∧
          (∀ c, ¬Sentence valueSpelling s.values c) ∧
          IsGreatest {n | n ≤ s.values.length ∧ Viable (s.values.take n)} position ∧
          found = s.values.getD position Symbol.endOfLine.code := by
  refine ⟨fun fault => ?_,?_,fun v => ?_,fun position found => ?_⟩
  · exact ofSequence_malformed_iff _ fault
  · rw [ofText_error_iff,refusal_empty_iff,Sequence.values_ofText_eq_nil_iff,
      contributions_eq_nil_iff]
  · rw [ofText_error_iff,refusal_unknownFamily_iff]
  · rw [ofText_error_iff,refusal_unexpected_iff]

/-- A colour takes no `WORD`. -/
example : ofText .strict (bytesOf "rgb 10 300 30".toList) =
    .error (.unexpected 3 Symbol.word.code) := by decide

end ClimateStation.Command
