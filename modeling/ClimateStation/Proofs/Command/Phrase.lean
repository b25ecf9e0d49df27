import ClimateStation.Proofs.Command.Lenient
import ClimateStation.Proofs.Terminal.Typing

/-! The phrase of a command: its keywords in small letters and its operands in decimal, with single
spaces between them. Every command has one, whatever its operands are: it is no longer than a text
may be, its values find a place in a sequence, it can be typed as it is, and it means the command to
strict and lenient readings. -/
namespace ClimateStation

namespace Text
variable {n k : Nat} {b : UInt8}

/-- The decimal digits of a number, without leading zeros. -/
def decimal (n : Nat) : List UInt8 := bytesOf (Nat.toDigits 10 n)

lemma length_decimal_le (hk : 0 < k) (h : n < 10 ^ k) : (decimal n).length ≤ k := by
  rw [decimal,bytesOf,List.length_map]
  exact (Nat.length_toDigits_le_iff (by decide) hk).mpr h

lemma toNat_toUInt8_of_isDigit {c : Char} (h : c.isDigit = true) :
    c.toUInt8.toNat = c.toNat ∧ 48 ≤ c.toNat ∧ c.toNat ≤ 57 := by
  simp only [Char.isDigit,ge_iff_le,Bool.and_eq_true,decide_eq_true_eq,UInt32.le_iff_toNat_le] at h
  have low : 48 ≤ c.toNat := h.1
  have high : c.toNat ≤ 57 := h.2
  refine ⟨?_,low,high⟩
  calc c.toUInt8.toNat = c.toNat % 256 := UInt32.toNat_toUInt8 c.val
    _ = c.toNat := Nat.mod_eq_of_lt (by omega)

lemma digit_of_mem_decimal (h : b ∈ decimal n) : Command.Numeral.Digit b := by
  obtain ⟨c,hc,rfl⟩ := List.mem_map.mp h
  obtain ⟨same,low,high⟩ := toNat_toUInt8_of_isDigit
    (Nat.isDigit_of_mem_toDigits (by decide) (by decide) hc)
  simp [Command.Numeral.Digit,UInt8.le_iff_toNat_le,same,low,high]

/-- Small letters and digits. -/
def isPlain (b : UInt8) : Bool := 97 ≤ b && b ≤ 122 || 48 ≤ b && b ≤ 57

lemma isPlain_eq (b : UInt8) : isPlain b = (isLower b || isDigit b) := rfl

lemma isPlain_range (h : isPlain b = true) :
    97 ≤ b.toNat ∧ b.toNat ≤ 122 ∨ 48 ≤ b.toNat ∧ b.toNat ≤ 57 := by
  simpa [isPlain,UInt8.le_iff_toNat_le] using h

lemma isBlank_of_isPlain (h : isPlain b = true) : isBlank b = false := by
  have range := isPlain_range h
  simp only [isBlank,Bool.or_eq_false_iff,beq_eq_false_iff_ne,ne_eq,← UInt8.toNat_inj,
    UInt8.reduceToNat]
  omega

lemma lower_of_isPlain (h : isPlain b = true) : lower b = b := by
  have range := isPlain_range h
  have notUpper : isUpper b = false := by
    simp only [isUpper,Bool.and_eq_false_iff,decide_eq_false_iff_not,UInt8.le_iff_toNat_le,
      UInt8.reduceToNat]
    omega
  rw [lower,notUpper]
  rfl

lemma isTypable_of_isPlain (h : isPlain b = true) : Terminal.isTypable b = true := by
  rw [isPlain_eq] at h
  unfold Terminal.isTypable isAlphanumeric
  rcases Bool.or_eq_true_iff.mp h with h | h <;> simp [h]

lemma printable_of_isPlain (h : isPlain b = true) : Terminal.Printable b := by
  have range := isPlain_range h
  simp only [Terminal.Printable,UInt8.le_iff_toNat_le,UInt8.reduceToNat]
  omega

/-- A word that is written the way it is read. -/
structure PlainWord (w : List UInt8) : Prop where
  nonempty : w ≠ []
  plain : ∀ b ∈ w, isPlain b = true

lemma PlainWord.isWord {w : List UInt8} (h : PlainWord w) : IsWord w :=
  ⟨h.nonempty,fun b hb => isBlank_of_isPlain (h.plain b hb)⟩

lemma PlainWord.zero_notMem {w : List UInt8} (h : PlainWord w) : 0 ∉ w :=
  fun h0 => absurd (h.plain 0 h0) (by decide)

lemma PlainWord.map_lower {w : List UInt8} (h : PlainWord w) : w.map lower = w := by
  rw [List.map_congr_left fun b hb => lower_of_isPlain (h.plain b hb),List.map_id']

lemma plainWord_decimal (n : Nat) : PlainWord (decimal n) where
  nonempty h := Nat.toDigits_ne_nil (List.map_eq_nil_iff.mp h)
  plain _ hb := by
    have digit := digit_of_mem_decimal hb
    simp [isPlain,digit.1,digit.2]

end Text

open Text

namespace Command

/-- Read as digits, the decimal digits of a number are that number. -/
lemma Numeral.value_decimal (n : Nat) : value (decimal n) = n := by
  rw [value,decimal,bytesOf,List.foldl_map]
  calc _ = Nat.ofDigitChars 10 (Nat.toDigits 10 n) 0 := by
        refine List.foldl_ext _ _ _ fun v c hc => ?_
        obtain ⟨same,-,-⟩ := toNat_toUInt8_of_isDigit
          (Nat.isDigit_of_mem_toDigits (by decide) (by decide) hc)
        rw [digitValue,same,Nat.mul_comm]
        rfl
    _ = n := Nat.ofDigitChars_ten_toDigits

lemma Numeral.writes_decimal {n : Nat} (h : n < 10 ^ 5) : Writes (decimal n) n where
  nonempty := (plainWord_decimal n).nonempty
  short := length_decimal_le (by decide) h
  digits _ hb := digit_of_mem_decimal hb
  value := by rw [← value_eq,value_decimal]

lemma means_keyword {s : Symbol} (h : s.isWord = true) : Means s.keyword s where
  keyword := by cases s <;> first | decide | exact nomatch h
  front := rfl
  length := rfl

lemma plainWord_keyword {s : Symbol} (h : s.isWord = true) : PlainWord s.keyword := by
  cases s <;> first | exact ⟨by decide,List.all_eq_true.mp (by decide)⟩ | exact nomatch h

lemma keyword_spelled {s : Symbol} (h : s.isWord = true) : wordSpelling.symbol s [s.keyword] :=
  ⟨_,rfl,means_keyword h⟩

lemma byte_spelled (v : UInt8) : wordSpelling.byte v [decimal v.toNat] :=
  ⟨_,rfl,Numeral.writes_decimal (v.toNat_lt.trans (by decide))⟩

lemma number_spelled (n : UInt16) : wordSpelling.number n [decimal n.toNat] :=
  ⟨_,rfl,Numeral.writes_decimal (n.toNat_lt.trans (by decide))⟩

/-- The word for a mode of the lights. -/
def modeWord : Light.Mode → Symbol
  | .off => .off
  | .on => .on
  | .blink => .blink

end Command

/-- The words of a command. -/
def Command.phrase : Command → List (List UInt8)
  | .lightStatus => [Symbol.led.keyword]
  | .lightMode mode => [Symbol.led.keyword, (modeWord mode).keyword]
  | .lightColour ⟨r, g, b⟩ =>
    [Symbol.rgb.keyword, decimal r.toNat, decimal g.toNat, decimal b.toNat]
  | .climateStatus => [Symbol.dht.keyword]
  | .climateMonitor => [Symbol.dht.keyword, Symbol.monitor.keyword]
  | .logDump => [Symbol.dht.keyword, Symbol.log.keyword]
  | .logInfo => [Symbol.dht.keyword, Symbol.log.keyword, Symbol.info.keyword]
  | .logClear => [Symbol.dht.keyword, Symbol.log.keyword, Symbol.clear.keyword]
  | .alarmStatus => [Symbol.dht.keyword, Symbol.alarm.keyword]
  | .clockStatus => [Symbol.time.keyword]
  | .setTime a b c =>
    [Symbol.set.keyword, Symbol.time.keyword, decimal a.toNat, decimal b.toNat, decimal c.toNat]
  | .setDate a b c =>
    [Symbol.set.keyword, Symbol.date.keyword, decimal a.toNat, decimal b.toNat, decimal c.toNat]
  | .setBlinkRate n => [Symbol.set.keyword, Symbol.blink.keyword, decimal n.toNat]
  | .setScale v =>
    [Symbol.set.keyword, Symbol.dht.keyword, Symbol.scale.keyword, decimal v.toNat]
  | .setGate v n =>
    [Symbol.set.keyword, Symbol.alarm.keyword, decimal v.toNat, decimal n.toNat]
  | .version => [Symbol.version.keyword]
  | .help => [Symbol.help.keyword]

namespace Command

lemma sentence_phrase (c : Command) : Sentence wordSpelling c.phrase c := by
  cases c with
  | lightStatus => exact .lightStatus (.inl (keyword_spelled rfl))
  | lightMode mode =>
    cases mode with
    | off => exact .lightWord (.inl (keyword_spelled rfl)) (keyword_spelled rfl) .off
    | on => exact .lightWord (.inl (keyword_spelled rfl)) (keyword_spelled rfl) .on
    | blink => exact .lightWord (.inl (keyword_spelled rfl)) (keyword_spelled rfl) .blink
  | lightColour colour =>
    exact .lightColour (.inr (keyword_spelled rfl)) (byte_spelled _) (byte_spelled _)
      (byte_spelled _)
  | climateStatus => exact .climateStatus (keyword_spelled rfl)
  | climateMonitor => exact .climateWord (keyword_spelled rfl) (keyword_spelled rfl) .monitor
  | logDump => exact .climateWord (keyword_spelled rfl) (keyword_spelled rfl) .log
  | logInfo =>
    exact .logWord (keyword_spelled rfl) (keyword_spelled rfl) (keyword_spelled rfl) .info
  | logClear =>
    exact .logWord (keyword_spelled rfl) (keyword_spelled rfl) (keyword_spelled rfl) .clear
  | alarmStatus => exact .climateWord (keyword_spelled rfl) (keyword_spelled rfl) .alarm
  | clockStatus => exact .clockStatus (.inl (keyword_spelled rfl))
  | setTime a b c =>
    exact .setTime (keyword_spelled rfl) (keyword_spelled rfl) (byte_spelled a) (byte_spelled b)
      (byte_spelled c)
  | setDate a b c =>
    exact .setDate (keyword_spelled rfl) (keyword_spelled rfl) (byte_spelled a) (byte_spelled b)
      (byte_spelled c)
  | setBlinkRate n =>
    exact .setBlinkRate (keyword_spelled rfl) (keyword_spelled rfl) (number_spelled n)
  | setScale v =>
    exact .setScale (keyword_spelled rfl) (keyword_spelled rfl) (keyword_spelled rfl)
      (byte_spelled v)
  | setGate v n =>
    exact .setGate (keyword_spelled rfl) (keyword_spelled rfl) (byte_spelled v) (number_spelled n)
  | version => exact .version (keyword_spelled rfl)
  | help => exact .help (keyword_spelled rfl)

lemma plainWord_of_mem_phrase (c : Command) : ∀ w ∈ c.phrase, PlainWord w := by
  have mode (m : Light.Mode) : PlainWord (modeWord m).keyword :=
    plainWord_keyword (by cases m <;> rfl)
  cases c <;> simp (disch := decide) [phrase,plainWord_keyword,plainWord_decimal,mode]

lemma length_byte_digits (v : UInt8) : (decimal v.toNat).length ≤ 3 :=
  length_decimal_le (by decide) (v.toNat_lt.trans (by decide))

lemma length_number_digits (n : UInt16) : (decimal n.toNat).length ≤ 5 :=
  length_decimal_le (by decide) (n.toNat_lt.trans (by decide))

/-- The longest phrases set the time or the date. -/
lemma length_phrase_le (c : Command) : (joined c.phrase).length ≤ 20 := by
  have rgb : Symbol.rgb.keyword.length = 3 := rfl
  have set : Symbol.set.keyword.length = 3 := rfl
  have dht : Symbol.dht.keyword.length = 3 := rfl
  have time : Symbol.time.keyword.length = 4 := rfl
  have date : Symbol.date.keyword.length = 4 := rfl
  have blink : Symbol.blink.keyword.length = 5 := rfl
  have scale : Symbol.scale.keyword.length = 5 := rfl
  have alarm : Symbol.alarm.keyword.length = 5 := rfl
  rw [length_joined]
  cases c with
  | lightColour colour =>
    have := length_byte_digits colour.red
    have := length_byte_digits colour.green
    have := length_byte_digits colour.blue
    simp only [phrase,List.map_cons,List.map_nil,List.sum_cons,List.sum_nil]
    omega
  | setTime a b c | setDate a b c =>
    have := length_byte_digits a
    have := length_byte_digits b
    have := length_byte_digits c
    simp only [phrase,List.map_cons,List.map_nil,List.sum_cons,List.sum_nil]
    omega
  | setBlinkRate n =>
    have := length_number_digits n
    simp only [phrase,List.map_cons,List.map_nil,List.sum_cons,List.sum_nil]
    omega
  | setScale v =>
    have := length_byte_digits v
    simp only [phrase,List.map_cons,List.map_nil,List.sum_cons,List.sum_nil]
    omega
  | setGate v n =>
    have := length_byte_digits v
    have := length_number_digits n
    simp only [phrase,List.map_cons,List.map_nil,List.sum_cons,List.sum_nil]
    omega
  | lightMode mode => cases mode <;> decide
  | _ => decide

/-- A command as text. -/
def text (c : Command) : List UInt8 := joined c.phrase

example : (setGate 255 65535).text = bytesOf "set alarm 255 65535".toList := by decide

lemma isWord_of_mem_phrase (c : Command) : ∀ w ∈ c.phrase, IsWord w := fun w hw =>
  (plainWord_of_mem_phrase c w hw).isWord

lemma significant_text (c : Command) : significant c.text = c.text :=
  significant_joined (isWord_of_mem_phrase c) fun w hw =>
    (plainWord_of_mem_phrase c w hw).zero_notMem

lemma map_lower_phrase (c : Command) : c.phrase.map (·.map lower) = c.phrase := by
  rw [List.map_congr_left fun w hw => (plainWord_of_mem_phrase c w hw).map_lower,List.map_id']

lemma text_ne_nil (c : Command) : c.text ≠ [] := by
  refine joined_ne_nil ?_ (isWord_of_mem_phrase c)
  cases c <;> exact List.cons_ne_nil _ _

/-- Single spaces and what words are made of are kept by a line as they are typed. -/
lemma typable_of_mem_text {c : Command} {b : UInt8} (h : b ∈ c.text) :
    Terminal.Printable b ∧ Terminal.isTypable b = true ∧ lower b = b := by
  rcases mem_joined h with rfl | ⟨w,hw,hb⟩
  · exact ⟨⟨by decide,by decide⟩,rfl,rfl⟩
  · have plain := (plainWord_of_mem_phrase c w hw).plain b hb
    exact ⟨printable_of_isPlain plain,isTypable_of_isPlain plain,lower_of_isPlain plain⟩

lemma length_text_le (c : Command) : c.text.length ≤ 22 :=
  (length_phrase_le c).trans (by decide)

/-- Both ways of reading find the values of the command, and no fault. -/
lemma Sequence.ofText_text (c : Command) :
    ∃ vs, Sentence valueSpelling vs c ∧ ∀ mode, ofText mode c.text = ⟨vs,none⟩ := by
  obtain ⟨vs,read,few,sentence⟩ := encoded (sentence_phrase c)
  have strict : ofText .strict c.text = ⟨vs,none⟩ := by
    rw [ofText_strict_iff,significant_text,text,words_joined (isWord_of_mem_phrase c),
      map_lower_phrase]
    exact ⟨length_text_le c,read,few⟩
  refine ⟨vs,sentence,fun mode => ?_⟩
  cases mode with
  | strict => exact strict
  | lenient => rw [ofText_lenient_of_strict (by rw [strict]),strict]

lemma length_contributions_text_le (c : Command) :
    (contributions (wordsRead c.text)).length ≤ 8 := by
  obtain ⟨vs,-,sound⟩ := Sequence.ofText_text c
  have room := Sequence.fault_ofText_lenient c.text
  rw [sound,overfull] at room
  by_contra more
  rw [if_pos (Nat.lt_of_not_le more)] at room
  cases room

/-- The limits of a text, of a sequence and of the line leave every command expressible. -/
theorem every_command_expressible (c : Command) :
    c.text.length ≤ 22 ∧ (contributions (wordsRead c.text)).length ≤ 8 ∧
      (∀ localEcho, Terminal.Editor.fresh.edits localEcho (c.text ++ [Terminal.carriageReturn]) =
        List.replicate c.text.length .pending ++ [.submit c.text]) ∧
      ∀ mode, ofText mode c.text = .ok c := by
  refine ⟨length_text_le c,length_contributions_text_le c,fun localEcho => ?_,fun mode => ?_⟩
  · exact Terminal.Editor.edits_fresh_line localEcho (text_ne_nil c) (length_text_le c)
      fun b hb => typable_of_mem_text hb
  · obtain ⟨vs,sentence,sound⟩ := Sequence.ofText_text c
    rw [ofText,sound,Sequence.ofSequence_of_sentence sentence]

end Command
end ClimateStation
