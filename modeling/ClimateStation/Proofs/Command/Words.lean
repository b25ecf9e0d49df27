import ClimateStation.Proofs.Command.Faults
import Mathlib.Data.List.Nodup
import Mathlib.Data.List.TakeWhile
import Mathlib.Data.Nat.Digits.Defs
import Mathlib.Tactic.Lemma

/-! How typed words become the values of a sequence. A word is a keyword or a decimal number; a
number is read as long as some word before it takes operands. -/
namespace ClimateStation.Command
open Text

/-- The keyword of a symbol. The marks of operands and of the end have none. -/
def Symbol.keyword : Symbol → List UInt8
  | .off => bytesOf "off".toList
  | .on => bytesOf "on".toList
  | .blink => bytesOf "blink".toList
  | .red => bytesOf "red".toList
  | .green => bytesOf "green".toList
  | .yellow => bytesOf "yellow".toList
  | .led => bytesOf "led".toList
  | .dht => bytesOf "dht".toList
  | .rgb => bytesOf "rgb".toList
  | .set => bytesOf "set".toList
  | .version => bytesOf "version".toList
  | .help => bytesOf "help".toList
  | .time => bytesOf "time".toList
  | .date => bytesOf "date".toList
  | .log => bytesOf "log".toList
  | .clear => bytesOf "clear".toList
  | .monitor => bytesOf "monitor".toList
  | .info => bytesOf "info".toList
  | .scale => bytesOf "scale".toList
  | .alarm => bytesOf "alarm".toList
  | .byte | .word | .endOfLine => []

/-- A word stands for the symbol of the keyword that shares its first two characters and its
length. -/
structure Means (w : List UInt8) (s : Symbol) : Prop where
  keyword : s.keyword ≠ []
  front : w.take 2 = s.keyword.take 2
  length : w.length = s.keyword.length

instance (w : List UInt8) (s : Symbol) : Decidable (Means w s) :=
  decidable_of_iff (s.keyword ≠ [] ∧ w.take 2 = s.keyword.take 2 ∧ w.length = s.keyword.length)
    ⟨fun ⟨k,f,l⟩ => ⟨k,f,l⟩,fun ⟨k,f,l⟩ => ⟨k,f,l⟩⟩

namespace Numeral

/-- A decimal digit. -/
def Digit (b : UInt8) : Prop := 48 ≤ b ∧ b ≤ 57

instance (b : UInt8) : Decidable (Digit b) := inferInstanceAs (Decidable (_ ∧ _))

/-- The number that digits stand for in base ten, the first of them for the most. -/
def positional (digits : List UInt8) : Nat :=
  Nat.ofDigits 10 (digits.reverse.map fun b => b.toNat - 48)

/-- One to five decimal digits; leading zeros are digits too. -/
structure Writes (w : List UInt8) (n : Nat) : Prop where
  nonempty : w ≠ []
  short : w.length ≤ 5
  digits : ∀ b ∈ w, Digit b
  value : positional w = n

/-- The number that a word is, or why it is none. -/
def outcome (w : List UInt8) : Except NumeralError Nat :=
  if 5 < w.length then .error .tooLong
  else if ∃ b ∈ w, ¬Digit b then .error (.notANumber (positional (w.takeWhile (Digit ·))))
  else if 65535 < positional w then .error (.overflow (positional w))
  else .ok (positional w)

lemma isDigit_eq : isDigit = fun b => decide (Digit b) := by
  funext b
  exact (Bool.decide_and ..).symm

lemma value_eq (w : List UInt8) : value w = positional w := by
  rw [positional,Nat.ofDigits_eq_foldr,List.foldr_map,List.foldr_reverse,value]
  refine List.foldl_ext _ _ _ fun v b _ => ?_
  rw [Nat.cast_id,Nat.mul_comm,Nat.add_comm]
  rfl

lemma length_takeWhile_lt_iff (w : List UInt8) :
    (w.takeWhile (Digit ·)).length < w.length ↔ ∃ b ∈ w, ¬Digit b := by
  have whole : w.takeWhile (Digit ·) = w ↔ ¬∃ b ∈ w, ¬Digit b := by
    simp only [List.takeWhile_eq_self_iff, decide_eq_true_eq, not_exists, not_and, not_not]
  constructor
  · intro less
    by_contra none
    rw [whole.mpr none] at less
    exact Nat.lt_irrefl _ less
  · intro other
    by_contra long
    exact whole.mp ((List.takeWhile_prefix _).eq_of_length_le (Nat.le_of_not_lt long)) other

lemma parse_eq (w : List UInt8) : parse w = (outcome w).map .ofNat := by
  have most : maxDigits = 5 := rfl
  unfold parse outcome
  dsimp only
  rw [isDigit_eq,most]
  by_cases long : 5 < w.length
  · rw [if_pos long,if_pos long]
    rfl
  rw [if_neg long,if_neg long]
  by_cases other : ∃ b ∈ w, ¬Digit b
  · rw [if_pos other,if_pos ((length_takeWhile_lt_iff w).mpr other),value_eq]
    rfl
  rw [if_neg other,if_neg fun less => other ((length_takeWhile_lt_iff w).mp less),value_eq]
  by_cases large : 65535 < positional w
  · rw [if_pos large,if_neg (by omega)]
    rfl
  · rw [if_neg large,if_pos (by omega)]
    rfl

lemma outcome_ok_iff {w : List UInt8} {n : Nat} : outcome w = .ok n ↔
    w.length ≤ 5 ∧ (∀ b ∈ w, Digit b) ∧ positional w = n ∧ n ≤ 65535 := by
  unfold outcome
  by_cases long : 5 < w.length
  · rw [if_pos long]
    exact iff_of_false nofun fun h => absurd h.1 (by omega)
  rw [if_neg long]
  by_cases other : ∃ b ∈ w, ¬Digit b
  · rw [if_pos other]
    obtain ⟨b,hb,no⟩ := other
    exact iff_of_false nofun fun h => no (h.2.1 b hb)
  have digits : ∀ b ∈ w, Digit b := by simpa using other
  rw [if_neg other]
  by_cases large : 65535 < positional w
  · rw [if_pos large]
    exact iff_of_false nofun fun h => by omega
  · rw [if_neg large,Except.ok.injEq]
    exact ⟨fun h => ⟨by omega,digits,h,by omega⟩,fun h => h.2.2.1⟩

theorem parse_ok_iff (w : List UInt8) (n : UInt16) :
    parse w = .ok n ↔ w.length ≤ 5 ∧ (∀ b ∈ w, Digit b) ∧ positional w = n.toNat := by
  have few := n.toNat_lt
  have ok : parse w = .ok n ↔ outcome w = .ok n.toNat := by
    rw [parse_eq]
    cases read : outcome w with
    | error e => exact iff_of_false nofun nofun
    | ok m =>
      have small : m ≤ 65535 := (outcome_ok_iff.mp read).2.2.2
      rw [Except.map,Except.ok.injEq,Except.ok.injEq,← UInt16.toNat_inj,UInt16.toNat_ofNat',
        Nat.mod_eq_of_lt (by omega)]
  rw [ok,outcome_ok_iff]
  exact ⟨fun h => ⟨h.1,h.2.1,h.2.2.1⟩,fun h => ⟨h.1,h.2.1,h.2.2,by omega⟩⟩

lemma writes_iff {w : List UInt8} {n : UInt16} :
    Writes w n.toNat ↔ w ≠ [] ∧ parse w = .ok n := by
  rw [parse_ok_iff]
  exact ⟨fun h => ⟨h.nonempty,h.short,h.digits,h.value⟩,fun ⟨hn,hs,hd,hv⟩ => ⟨hn,hs,hd,hv⟩⟩

end Numeral

namespace Symbol

lemma key_eq_some_iff (k : Keyword) (a b : UInt8) (n : Nat) :
    k.key = some (a,b,n) ↔
      (k.spelling.map Char.toUInt8).take 2 = [a,b] ∧ k.spelling.length = n := by
  unfold Keyword.key
  rcases k.spelling with _ | ⟨x,_ | ⟨y,rest⟩⟩ <;> simp [and_assoc]

/-- The table has every keyword, as it is spelled. -/
lemma spelling_of_mem : ∀ k ∈ Keyword.table,
    k.symbol.keyword ≠ [] ∧ k.spelling.map Char.toUInt8 = k.symbol.keyword := by decide

lemma exists_of_keyword {s : Symbol} (h : s.keyword ≠ []) : ∃ k ∈ Keyword.table, k.symbol = s := by
  cases s <;> first | decide | exact absurd rfl h

lemma means_of_ofWord? {w : List UInt8} {s : Symbol} (h : ofWord? w = some s) : Means w s := by
  rcases w with _ | ⟨a,_ | ⟨b,w⟩⟩
  · exact nomatch h
  · exact nomatch h
  · obtain ⟨k,hk,rfl⟩ := Option.map_eq_some_iff.mp h
    have hkey := List.find?_some hk
    rw [beq_iff_eq,key_eq_some_iff] at hkey
    obtain ⟨some,spelled⟩ := spelling_of_mem k (List.mem_of_find?_eq_some hk)
    refine ⟨some,?_,?_⟩
    · rw [← spelled]
      exact hkey.1.symm
    · rw [← spelled,List.length_map]
      exact hkey.2.symm

/-- No two keywords share their key, so the first one found is the one meant. -/
theorem ofWord?_eq_some_iff (w : List UInt8) (s : Symbol) : ofWord? w = some s ↔ Means w s := by
  refine ⟨means_of_ofWord?,?_⟩
  rintro ⟨some,ht,hl⟩
  obtain ⟨k,hk,rfl⟩ := exists_of_keyword some
  rw [← (spelling_of_mem k hk).2] at ht hl
  rw [List.length_map] at hl
  have hlong : ∀ k ∈ Keyword.table, 2 ≤ k.spelling.length := by decide
  rcases w with _ | ⟨a,_ | ⟨b,w⟩⟩
  · exact absurd (hl ▸ hlong k hk) (by simp)
  · exact absurd (hl ▸ hlong k hk) (by simp)
  · have hkey : k.key = .some (a,b,(a :: b :: w).length) :=
      (key_eq_some_iff ..).mpr ⟨ht.symm,hl.symm⟩
    cases hf : Keyword.table.find? fun k => k.key == .some (a,b,(a :: b :: w).length) with
    | none =>
      have hn := List.find?_eq_none.mp hf k hk
      rw [hkey] at hn
      exact absurd (beq_self_eq_true _) hn
    | some k' =>
      have hk' := List.find?_some hf
      rw [beq_iff_eq] at hk'
      have he := List.inj_on_of_nodup_map Keyword.key_nodup hk (List.mem_of_find?_eq_some hf)
        (hkey.trans hk'.symm)
      rw [ofWord?,hf,he]
      rfl

/-- A number matches no keyword: every keyword starts with a letter. -/
lemma ofWord?_eq_none_of_digits {w : List UInt8} (h : ∀ b ∈ w, Numeral.Digit b) :
    ofWord? w = none := by
  cases hw : ofWord? w with
  | none => rfl
  | some s =>
    obtain ⟨some,ht,-⟩ := means_of_ofWord? hw
    have hletter : ∃ b ∈ s.keyword.take 2, ¬Numeral.Digit b := by
      cases s <;> first | decide | exact absurd rfl some
    obtain ⟨b,hb,hn⟩ := hletter
    rw [← ht] at hb
    exact absurd (h b (List.mem_of_mem_take hb)) hn

end Symbol

namespace Sequence

/-- Words that are all understood, and the values they contribute. The flag says whether a word
before them takes operands. -/
inductive Read : Bool → List (List UInt8) → List UInt8 → Prop
  | nil {due} : Read due [] []
  | keyword {due w ws vs} (s : Symbol) (hw : Symbol.ofWord? w = some s)
      (tail : Read (due || s.takesOperand) ws vs) : Read due (w :: ws) (s.code :: vs)
  | number {w ws vs} (n : UInt16) (hw : Symbol.ofWord? w = none) (hn : Numeral.Writes w n.toNat)
      (tail : Read true ws vs) : Read true (w :: ws) (operand n ++ vs)

variable {mode : Strictness} {s : Sequence}

lemma push_eq (vs : List UInt8) (f : Option InputError) (v : UInt8) : push ⟨vs,f⟩ v =
    if vs.length < 8 then ⟨vs ++ [v],f⟩ else withFault ⟨vs,f⟩ .sequenceFull := rfl

lemma fault_withFault (s : Sequence) (f : InputError) : (s.withFault f).fault ≠ none := by
  cases h : s.fault <;> simp [withFault,h]

lemma pushAll_of_le {vs : List UInt8} {f : Option InputError} (part : List UInt8)
    (h : vs.length + part.length ≤ 8) : pushAll ⟨vs,f⟩ part = ⟨vs ++ part,f⟩ := by
  induction part generalizing vs with
  | nil =>
    rw [List.append_nil]
    rfl
  | cons v part ih =>
    rw [List.length_cons] at h
    have hl : (vs ++ [v]).length = vs.length + 1 := by simp
    have hc : pushAll ⟨vs,f⟩ (v :: part) = (push ⟨vs,f⟩ v).pushAll part := rfl
    rw [hc,push_eq,if_pos (by omega),ih (by omega),List.append_assoc]
    rfl

lemma pushAll_of_lt {vs : List UInt8} {f : Option InputError} (part : List UInt8)
    (hs : vs.length ≤ 8) (h : 8 < vs.length + part.length) :
    (pushAll ⟨vs,f⟩ part).fault ≠ none := by
  induction part generalizing vs with
  | nil => exact absurd h (by simpa using hs)
  | cons v part ih =>
    rw [List.length_cons] at h
    have hc : pushAll ⟨vs,f⟩ (v :: part) = (push ⟨vs,f⟩ v).pushAll part := rfl
    rw [hc,push_eq]
    split
    · have hl : (vs ++ [v]).length = vs.length + 1 := by simp
      exact ih (by omega) (by omega)
    · exact lasting_ne_none.pushAll part (fault_withFault _ _)

lemma addWord_keyword {w : List UInt8} {k : Symbol} (due : Bool)
    (hw : Symbol.ofWord? w = some k) :
    addWord mode (s,due) w = (s.pushAll [k.code],due || k.takesOperand) := by
  unfold addWord
  rw [hw]
  rfl

lemma addWord_number {w : List UInt8} {n : UInt16} (hw : Symbol.ofWord? w = none)
    (hn : Numeral.parse w = .ok n) :
    addWord mode (s,true) w = (s.pushAll (operand n),true) := by
  unfold addWord
  rw [hw,hn]
  rfl

lemma addWord_unknown {w : List UInt8} (hw : Symbol.ofWord? w = none) :
    addWord .strict (s,false) w = (s.withFault .unknownWord,false) := by
  unfold addWord
  rw [hw]
  rfl

lemma addWord_not_number {w : List UInt8} {e : NumeralError} (hw : Symbol.ofWord? w = none)
    (hn : Numeral.parse w = .error e) :
    addWord .strict (s,true) w = (s.withFault (.numeral e),true) := by
  unfold addWord
  rw [hw,hn]
  rfl

/-- A strict reading finds no fault if every word is understood and all values find a place. -/
lemma foldl_eq_iff {vs out : List UInt8} {due : Bool} {ws : List (List UInt8)}
    (hw : ∀ w ∈ ws, w ≠ []) (h : vs.length ≤ 8) :
    (ws.foldl (addWord .strict) (⟨vs,none⟩,due)).1 = ⟨out,none⟩ ↔
      ∃ new, Read due ws new ∧ out = vs ++ new ∧ vs.length + new.length ≤ 8 := by
  constructor
  · intro hr
    induction ws generalizing vs due with
    | nil =>
      cases hr
      exact ⟨[],.nil,by simp,h⟩
    | cons w ws ih =>
      rw [List.foldl_cons] at hr
      have hf : (addWord .strict (⟨vs,none⟩,due) w).1.fault = none := by
        by_contra hf
        exact lasting_ne_none.foldl ws hf (by rw [hr])
      -- one word's part fits, and the words after it are read behind that part
      have grow {part : List UInt8} {next : Bool}
          (ha : addWord .strict (⟨vs,none⟩,due) w = ((⟨vs,none⟩ : Sequence).pushAll part,next)) :
          ∃ new, Read next ws new ∧ out = vs ++ (part ++ new) ∧
            vs.length + (part ++ new).length ≤ 8 := by
        rw [ha] at hr hf
        have hl : vs.length + part.length ≤ 8 := by
          by_contra hl
          exact pushAll_of_lt part h (Nat.lt_of_not_le hl) hf
        rw [pushAll_of_le part hl] at hr
        have hw' : ∀ w ∈ ws, w ≠ [] := fun w h => hw w (List.mem_cons_of_mem _ h)
        obtain ⟨new,hnew,ho,hl⟩ := ih hw' (by rwa [List.length_append]) hr
        refine ⟨new,hnew,by rw [ho,List.append_assoc],?_⟩
        rw [List.length_append] at hl ⊢
        omega
      cases hk : Symbol.ofWord? w with
      | some k =>
        obtain ⟨new,hnew,ho⟩ := grow (addWord_keyword due hk)
        exact ⟨k.code :: new,.keyword k hk hnew,ho⟩
      | none =>
        cases due with
        | false =>
          rw [addWord_unknown hk] at hf
          exact absurd hf (fault_withFault _ _)
        | true =>
          cases hn : Numeral.parse w with
          | error e =>
            rw [addWord_not_number hk hn] at hf
            exact absurd hf (fault_withFault _ _)
          | ok n =>
            obtain ⟨new,hnew,ho⟩ := grow (addWord_number hk hn)
            have hwr := Numeral.writes_iff.mpr ⟨hw w List.mem_cons_self,hn⟩
            exact ⟨operand n ++ new,.number n hk hwr hnew,ho⟩
  · rintro ⟨new,hr,rfl,hl⟩
    clear hw
    induction hr generalizing vs with
    | nil => simp
    | @keyword due w ws new k hw tail ih =>
      rw [List.length_cons] at hl
      have hp : vs.length + [k.code].length ≤ 8 := by
        rw [List.length_singleton]
        omega
      rw [List.foldl_cons,addWord_keyword due hw,pushAll_of_le _ hp,
        ih (by rwa [List.length_append]) (by rw [List.length_append,List.length_singleton]; omega),
        List.append_assoc]
      rfl
    | @number w ws new n hw hn tail ih =>
      rw [List.length_append] at hl
      have hp : vs.length + (operand n).length ≤ 8 := by omega
      rw [List.foldl_cons,addWord_number hw (Numeral.writes_iff.mp hn).2,
        pushAll_of_le _ hp,
        ih (by rwa [List.length_append]) (by rw [List.length_append]; omega),List.append_assoc]

end Sequence
end ClimateStation.Command
