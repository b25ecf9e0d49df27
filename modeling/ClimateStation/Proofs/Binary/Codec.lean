import ClimateStation.Binary.Codec
import ClimateStation.Binary.Word
import ClimateStation.Proofs.Text.Bytes
import Mathlib.Algebra.Group.Nat.Defs
import Mathlib.Tactic.Lemma

/-! Numbers, flags and texts read back as they were written, whatever follows them: numbers in two
bytes or in seven-bit groups, flags in a byte, and texts behind their length. In groups a number has
other forms than the one that is written, and these are read too. -/
namespace ClimateStation.Binary

/-- Two bytes that stand for a number are the bytes of that number. -/
lemma lowHigh_ofLowHigh (low high : UInt8) : lowHigh (ofLowHigh low high) = [low,high] := by
  have hl := low.toNat_lt
  have hh := high.toNat_lt
  have h₁ : (low.toNat + 256 * high.toNat) % 256 = low.toNat := by omega
  have h₂ : (low.toNat + 256 * high.toNat) / 256 % 256 = high.toNat := by omega
  simp only [lowHigh, ofLowHigh, h₁, h₂, UInt8.ofNat_toNat]

lemma signedBytes_signedOfBytes (low high : UInt8) :
    signedBytes (signedOfBytes low high) = [low,high] := by
  have h : (UInt16.ofNat (ofLowHigh low high)).toNat = ofLowHigh low high := by
    rw [UInt16.toNat_ofNat',Nat.mod_eq_of_lt (ofLowHigh_lt low high)]
  rw [signedBytes,signedOfBytes,UInt16.toUInt16_toInt16,h,lowHigh_ofLowHigh]

/-- The two bytes of a signed number, read back. -/
lemma signedOfBytes_lowHigh (i : Int16) :
    signedOfBytes (UInt8.ofNat (i.toUInt16.toNat % 256))
      (UInt8.ofNat (i.toUInt16.toNat / 256 % 256)) = i := by
  have hi := i.toUInt16.toNat_lt
  rw [signedOfBytes,ofLowHigh_lowHigh,Nat.mod_eq_of_lt hi,UInt16.ofNat_toNat,Int16.toInt16_toUInt16]

lemma Reader.bind_apply {α β : Type} (r : Reader α) (f : α → Reader β) (bytes : List UInt8) :
    (r >>= f) bytes = (r bytes).bind fun p => f p.1 p.2 := rfl

/-- A reader that succeeds has succeeded in its first part. -/
lemma Reader.some_of_bind {α β : Type} {r : Reader α} {f : α → Reader β} {bytes rest : List UInt8}
    {y : β} (read : (r >>= f) bytes = some (y,rest)) :
    ∃ x after, r bytes = some (x,after) ∧ f x after = some (y,rest) := by
  rw [Reader.bind_apply] at read
  obtain ⟨⟨x,after⟩,first,second⟩ := Option.bind_eq_some_iff.mp read
  exact ⟨x,after,first,second⟩

lemma varint_of_lt {n : Nat} (h : n < 128) : varint n = [UInt8.ofNat n] := by
  rw [varint,if_pos h]

lemma varint_of_le {n : Nat} (h : 128 ≤ n) :
    varint n = UInt8.ofNat (n % 128 + 128) :: varint (n / 128) := by
  rw [varint,if_neg (by omega)]

theorem length_varint_le {places n : Nat} (h : n < 128 ^ (places + 1)) :
    (varint n).length ≤ places + 1 := by
  induction places generalizing n with
  | zero =>
    rw [varint_of_lt (by simpa using h)]
    exact Nat.le_refl 1
  | succ places ih =>
    by_cases hn : n < 128
    · rw [varint_of_lt hn,List.length_singleton]
      omega
    · rw [Nat.pow_succ] at h
      rw [varint_of_le (by omega),List.length_cons]
      have := ih (n := n / 128) (Nat.div_lt_of_lt_mul (by omega))
      omega

lemma readVarint_last {top places : Nat} {b : UInt8} (hb : b < 128)
    (ht : places = 0 → b.toNat ≤ top) (rest : List UInt8) :
    readVarint top (places + 1) (b :: rest) = some (b.toNat,rest) := by
  have hn : ¬(places = 0 ∧ top < b.toNat) := fun h => absurd (ht h.1) (by omega)
  rw [readVarint,Reader.bind_apply]
  change (if b < 128 then _ else _ : Reader Nat) rest = _
  rw [if_pos hb,if_neg hn]
  rfl

lemma readVarint_more {top places n : Nat} {b : UInt8} {bytes rest : List UInt8} (hb : 128 ≤ b)
    (h : readVarint top places bytes = some (n,rest)) :
    readVarint top (places + 1) (b :: bytes) = some (b.toNat % 128 + 128 * n,rest) := by
  rw [readVarint,Reader.bind_apply]
  change (if b < 128 then _ else _ : Reader Nat) bytes = _
  rw [if_neg (UInt8.not_lt.mpr hb),Reader.bind_apply,h]
  rfl

/-- One more place makes room for 128 times as much. -/
lemma pow_succ_mul (places top : Nat) :
    128 ^ (places + 1) * (top + 1) = 128 * (128 ^ places * (top + 1)) := by
  rw [Nat.pow_succ,Nat.mul_comm (128 ^ places) 128,Nat.mul_assoc]

/-- A number that fits the places allowed reads back, and the bytes after it are left. -/
theorem readVarint_varint {top places n : Nat} (ht : top < 128) (h : n < 128 ^ places * (top + 1))
    (rest : List UInt8) :
    readVarint top (places + 1) (varint n ++ rest) = some (n,rest) := by
  induction places generalizing n with
  | zero =>
    rw [Nat.pow_zero,Nat.one_mul] at h
    have hb : (UInt8.ofNat n).toNat = n := by
      rw [UInt8.toNat_ofNat']
      omega
    have hlt : UInt8.ofNat n < 128 := by
      rw [UInt8.lt_iff_toNat_lt,hb]
      exact Nat.lt_of_lt_of_le h ht
    rw [varint_of_lt (by omega),List.singleton_append,readVarint_last hlt fun _ => by omega,hb]
  | succ places ih =>
    by_cases hn : n < 128
    · have hb : (UInt8.ofNat n).toNat = n := by
        rw [UInt8.toNat_ofNat']
        omega
      have hlt : UInt8.ofNat n < 128 := by
        rw [UInt8.lt_iff_toNat_lt,hb]
        exact hn
      rw [varint_of_lt hn,List.singleton_append,
        readVarint_last hlt (fun h => absurd h (Nat.succ_ne_zero places)),hb]
    · have hb : (UInt8.ofNat (n % 128 + 128)).toNat = n % 128 + 128 := by
        rw [UInt8.toNat_ofNat']
        omega
      have hd : n / 128 < 128 ^ places * (top + 1) := by
        rw [pow_succ_mul] at h
        exact Nat.div_lt_of_lt_mul h
      have hge : 128 ≤ UInt8.ofNat (n % 128 + 128) := by
        rw [UInt8.le_iff_toNat_le,hb]
        exact Nat.le_add_left ..
      rw [varint_of_le (by omega),List.cons_append,readVarint_more hge (ih hd),hb]
      congr 2
      omega

theorem readUnsigned16_unsigned16 (n : UInt16) (rest : List UInt8) :
    readUnsigned16 (unsigned16 n ++ rest) = some (n,rest) := by
  have hn : n.toNat < 128 ^ 2 * (3 + 1) := n.toNat_lt
  rw [readUnsigned16,Reader.bind_apply,unsigned16,readVarint_varint (by decide) hn rest]
  change some (UInt16.ofNat n.toNat,rest) = _
  rw [UInt16.ofNat_toNat]

theorem length_unsigned16_le (n : UInt16) : (unsigned16 n).length ≤ 3 :=
  length_varint_le (Nat.lt_of_lt_of_le n.toNat_lt (by decide))

theorem readUnsigned32_unsigned32 (n : UInt32) (rest : List UInt8) :
    readUnsigned32 (unsigned32 n ++ rest) = some (n,rest) := by
  have hn : n.toNat < 128 ^ 4 * (15 + 1) := n.toNat_lt
  rw [readUnsigned32,Reader.bind_apply,unsigned32,readVarint_varint (by decide) hn rest]
  change some (UInt32.ofNat n.toNat,rest) = _
  rw [UInt32.ofNat_toNat]

lemma zigzag_lt (i : Int16) : zigzag i.toInt < 65536 := by
  have above := i.le_toInt
  have below := i.toInt_lt
  unfold zigzag
  split <;> omega

theorem readSigned16_signed16 (i : Int16) (rest : List UInt8) :
    readSigned16 (signed16 i ++ rest) = some (i,rest) := by
  have folded : (UInt16.ofNat (zigzag i.toInt)).toNat = zigzag i.toInt :=
    UInt16.toNat_ofNat_of_lt' (zigzag_lt i)
  have form : signed16 i = unsigned16 (.ofNat (zigzag i.toInt)) := by
    rw [signed16,unsigned16,folded]
  rw [readSigned16,Reader.bind_apply,form,readUnsigned16_unsigned16]
  change some (Int16.ofInt (unzigzag (UInt16.ofNat (zigzag i.toInt)).toNat),rest) = _
  rw [folded,unzigzag_zigzag,Int16.ofInt_toInt]

theorem readFlag_flag (b : Bool) (rest : List UInt8) : readFlag (flag b ++ rest) = some (b,rest) := by
  cases b <;> rfl

/-- A text reads back if its length is a number of 64 bits. -/
theorem readText_text {s : String} (small : s.utf8ByteSize < 2 ^ 64) (rest : List UInt8) :
    readText (text s ++ rest) = some (s,rest) := by
  have size : s.utf8ByteSize < 128 ^ 9 * (1 + 1) := small
  have split : Reader.take s.utf8ByteSize (s.toUTF8.toList ++ rest) = some (s.toUTF8.toList,rest) := by
    have here : s.toUTF8.toList.length = s.utf8ByteSize := Text.length_toUTF8 s
    simp [Reader.take, ← here]
  rw [readText,Reader.bind_apply,text,List.append_assoc,readVarint_varint (by decide) size,
    Option.bind_some,Reader.bind_apply,split,Option.bind_some,Text.fromUTF8?_toUTF8]
  rfl

/-! ## Every form of a number -/

/-- Bytes that stand for a number in seven-bit groups, the lowest first. Groups of zeros may come at
the end, so a number has more than one form. -/
inductive Grouped : List UInt8 → Nat → Prop
  | last {b : UInt8} (small : b < 128) : Grouped [b] b.toNat
  | more {b : UInt8} {bytes n} (large : 128 ≤ b) (rest : Grouped bytes n) :
      Grouped (b :: bytes) (b.toNat % 128 + 128 * n)

/-- There are at most so many bytes, and the last of so many is at most `top`. -/
def Short (top places : Nat) (form : List UInt8) : Prop :=
  form.length ≤ places ∧ (form.length = places → ∀ b ∈ form.getLast?, b.toNat ≤ top)

lemma Grouped.ne_nil {form : List UInt8} {n : Nat} (grouped : Grouped form n) : form ≠ [] := by
  cases grouped with
  | last | more => exact List.cons_ne_nil _ _

lemma short_cons {top places : Nat} {b : UInt8} {form : List UInt8} (more : form ≠ []) :
    Short top (places + 1) (b :: form) ↔ Short top places form := by
  unfold Short
  rw [List.length_cons,Nat.add_le_add_iff_right,Nat.add_right_cancel_iff,
    List.getLast?_cons_of_ne_nil more]

lemma readVarint_cons {top places : Nat} (b : UInt8) (bytes : List UInt8) :
    readVarint top (places + 1) (b :: bytes) =
      if b < 128 then if places = 0 ∧ top < b.toNat then none else some (b.toNat,bytes)
      else (readVarint top places bytes).map fun p => (b.toNat % 128 + 128 * p.1,p.2) := by
  rw [readVarint,Reader.bind_apply]
  change (if b < 128 then _ else _ : Reader Nat) bytes = _
  split
  · change (if places = 0 ∧ top < b.toNat then _ else _ : Reader Nat) bytes = _
    split <;> rfl
  · rw [Reader.bind_apply]
    cases readVarint top places bytes <;> rfl

/-- A reader takes every short form of a number, and nothing else. -/
theorem readVarint_eq_some_iff {top places n : Nat} {bytes rest : List UInt8} :
    readVarint top places bytes = some (n,rest) ↔
      ∃ form, Grouped form n ∧ Short top places form ∧ bytes = form ++ rest := by
  induction places generalizing bytes n with
  | zero =>
    refine iff_of_false nofun ?_
    rintro ⟨form,grouped,⟨short,-⟩,-⟩
    exact grouped.ne_nil (List.length_eq_zero_iff.mp (Nat.le_zero.mp short))
  | succ places ih =>
    cases bytes with
    | nil =>
      refine iff_of_false nofun ?_
      rintro ⟨form,grouped,-,split⟩
      exact grouped.ne_nil (List.append_eq_nil_iff.mp split.symm).1
    | cons b bytes =>
      rw [readVarint_cons]
      by_cases small : b < 128
      · rw [if_pos small]
        have form : (∃ form, Grouped form n ∧ Short top (places + 1) form ∧ b :: bytes = form ++ rest) ↔
            (places = 0 → b.toNat ≤ top) ∧ b.toNat = n ∧ bytes = rest := by
          constructor
          · rintro ⟨form,grouped,short,split⟩
            cases grouped with
            | last =>
              obtain ⟨rfl,rfl⟩ := List.cons.inj split
              exact ⟨fun none => short.2 (by rw [none]; rfl) b rfl,rfl,rfl⟩
            | more large =>
              obtain ⟨rfl,-⟩ := List.cons.inj split
              exact absurd small (UInt8.not_lt.mpr large)
          · rintro ⟨top,rfl,rfl⟩
            refine ⟨[b],.last small,⟨Nat.le_add_left _ _,fun none b' last => ?_⟩,rfl⟩
            obtain rfl := Option.some.inj last
            exact top (Nat.add_right_cancel none).symm
        rw [form]
        split
        · next high => exact iff_of_false nofun fun fits => absurd (fits.1 high.1) (by omega)
        · next low =>
          rw [Option.some_inj,Prod.mk.injEq]
          exact (and_iff_right fun none => Nat.not_lt.mp fun high => low ⟨none,high⟩).symm
      · rw [if_neg small,Option.map_eq_some_iff]
        constructor
        · rintro ⟨⟨m,rest'⟩,read,same⟩
          obtain ⟨rfl,rfl⟩ := Prod.mk.inj same
          obtain ⟨form,grouped,short,rfl⟩ := ih.mp read
          exact ⟨b :: form,.more (UInt8.not_lt.mp small) grouped,
            (short_cons grouped.ne_nil).mpr short,rfl⟩
        · rintro ⟨form,grouped,short,split⟩
          cases grouped with
          | last =>
            obtain ⟨rfl,-⟩ := List.cons.inj split
            contradiction
          | @more b' form m large grouped =>
            obtain ⟨rfl,rfl⟩ := List.cons.inj split
            exact ⟨(m,rest),ih.mpr ⟨form,grouped,(short_cons grouped.ne_nil).mp short,rfl⟩,rfl⟩

/-- What a number of so many places can be at most. -/
lemma Grouped.lt_of_short {top places n : Nat} {form : List UInt8} (grouped : Grouped form n)
    (short : Short top (places + 1) form) : n < 128 ^ places * (top + 1) := by
  induction grouped generalizing places with
  | @last b small =>
    cases places with
    | zero =>
      have := short.2 rfl b rfl
      omega
    | succ places =>
      have hb : b.toNat < 128 := UInt8.lt_iff_toNat_lt.mp small
      have hp : 0 < 128 ^ places * (top + 1) := Nat.mul_pos (Nat.pow_pos (by decide)) top.succ_pos
      rw [pow_succ_mul]
      omega
  | @more b bytes n large rest ih =>
    rw [short_cons rest.ne_nil] at short
    cases places with
    | zero => exact absurd (List.length_eq_zero_iff.mp (Nat.le_zero.mp short.1)) rest.ne_nil
    | succ places =>
      have hn := ih short
      rw [pow_succ_mul]
      omega

/-- The forms of a sixteen-bit number. -/
def Grouped16 (form : List UInt8) (n : UInt16) : Prop := Grouped form n.toNat ∧ Short 3 3 form

theorem readUnsigned16_eq_some_iff {n : UInt16} {bytes rest : List UInt8} :
    readUnsigned16 bytes = some (n,rest) ↔ ∃ form, Grouped16 form n ∧ bytes = form ++ rest := by
  have read : readUnsigned16 bytes = (readVarint 3 3 bytes).map fun p => (UInt16.ofNat p.1,p.2) := by
    rw [readUnsigned16,Reader.bind_apply]
    cases readVarint 3 3 bytes <;> rfl
  rw [read,Option.map_eq_some_iff]
  constructor
  · rintro ⟨⟨m,rest'⟩,read,same⟩
    obtain ⟨rfl,rfl⟩ := Prod.mk.inj same
    obtain ⟨form,grouped,short,split⟩ := readVarint_eq_some_iff.mp read
    have small : m < 2 ^ 16 := grouped.lt_of_short short
    refine ⟨form,⟨?_,short⟩,split⟩
    rw [UInt16.toNat_ofNat',Nat.mod_eq_of_lt small]
    exact grouped
  · rintro ⟨form,⟨grouped,short⟩,split⟩
    refine ⟨(n.toNat,rest),readVarint_eq_some_iff.mpr ⟨form,grouped,short,split⟩,?_⟩
    rw [UInt16.ofNat_toNat]

/-- No text that is read is longer than its length can say. -/
theorem utf8ByteSize_lt_of_readText {s : String} {bytes rest : List UInt8}
    (read : readText bytes = some (s,rest)) : s.utf8ByteSize < 2 ^ 64 := by
  obtain ⟨n,more,length,read⟩ := Reader.some_of_bind read
  obtain ⟨form,grouped,short,-⟩ := readVarint_eq_some_iff.mp length
  have small : n < 128 ^ 9 * (1 + 1) := grouped.lt_of_short short
  obtain ⟨taken,after,cut,read⟩ := Reader.some_of_bind read
  have whole : taken.length = n := by
    dsimp only [Reader.take] at cut
    split at cut
    · next enough =>
      cases cut
      exact List.length_take_of_le enough
    · cases cut
  cases decoded : String.fromUTF8? (ByteArray.mk taken.toArray) with
  | none =>
    rw [decoded] at read
    cases read
  | some found =>
    rw [decoded] at read
    cases read
    rw [Text.utf8ByteSize_of_fromUTF8? decoded,whole]
    exact small

end ClimateStation.Binary
