import ClimateStation.Command.Basic
import ClimateStation.Command.Symbol

/-! The command language, once for every way of writing it. A spelling says how symbols, bytes and
numbers are written; the sentences over it are the commands. Typed words and the values of a token
sequence are two spellings, and a correspondence that carries the parts carries the sentences. -/
namespace ClimateStation.Command

/-- How the parts of a command are written. -/
structure Spelling (α : Type) where
  symbol : Symbol → List α → Prop
  byte : UInt8 → List α → Prop
  number : UInt16 → List α → Prop

def Spelling.either {α : Type} (σ : Spelling α) (s t : Symbol) (xs : List α) : Prop :=
  σ.symbol s xs ∨ σ.symbol t xs

/-- The words after `led` or `rgb`. -/
inductive LightWord : Symbol → Command → Prop
  | on : LightWord .on (.lightMode .on)
  | off : LightWord .off (.lightMode .off)
  | blink : LightWord .blink (.lightMode .blink)
  | red : LightWord .red (.lightColour ⟨255, 0, 0⟩)
  | green : LightWord .green (.lightColour ⟨0, 255, 0⟩)
  | yellow : LightWord .yellow (.lightColour ⟨255, 255, 0⟩)

/-- The words after `dht`. -/
inductive ClimateWord : Symbol → Command → Prop
  | monitor : ClimateWord .monitor .climateMonitor
  | alarm : ClimateWord .alarm .alarmStatus
  | log : ClimateWord .log .logDump

/-- The words after `dht log`. -/
inductive LogWord : Symbol → Command → Prop
  | info : LogWord .info .logInfo
  | clear : LogWord .clear .logClear

inductive Sentence {α : Type} (σ : Spelling α) : List α → Command → Prop
  | lightStatus {f} (family : σ.either .led .rgb f) : Sentence σ f .lightStatus
  | lightWord {f w s c} (family : σ.either .led .rgb f) (word : σ.symbol s w)
      (meaning : LightWord s c) : Sentence σ (f ++ w) c
  | lightColour {f x y z r g b} (family : σ.either .led .rgb f) (red : σ.byte r x)
      (green : σ.byte g y) (blue : σ.byte b z) :
      Sentence σ (f ++ (x ++ (y ++ z))) (.lightColour ⟨r, g, b⟩)
  | climateStatus {f} (family : σ.symbol .dht f) : Sentence σ f .climateStatus
  | climateWord {f w s c} (family : σ.symbol .dht f) (word : σ.symbol s w)
      (meaning : ClimateWord s c) : Sentence σ (f ++ w) c
  | logWord {f l w s c} (family : σ.symbol .dht f) (log : σ.symbol .log l) (word : σ.symbol s w)
      (meaning : LogWord s c) : Sentence σ (f ++ (l ++ w)) c
  | clockStatus {f} (family : σ.either .time .date f) : Sentence σ f .clockStatus
  | setTime {f w x y z a b c} (family : σ.symbol .set f) (word : σ.symbol .time w)
      (hour : σ.byte a x) (minute : σ.byte b y) (second : σ.byte c z) :
      Sentence σ (f ++ (w ++ (x ++ (y ++ z)))) (.setTime a b c)
  | setDate {f w x y z a b c} (family : σ.symbol .set f) (word : σ.symbol .date w)
      (year : σ.byte a x) (month : σ.byte b y) (day : σ.byte c z) :
      Sentence σ (f ++ (w ++ (x ++ (y ++ z)))) (.setDate a b c)
  | setBlinkRate {f w x n} (family : σ.symbol .set f) (word : σ.symbol .blink w)
      (rate : σ.number n x) : Sentence σ (f ++ (w ++ x)) (.setBlinkRate n)
  | setScale {f d w x v} (family : σ.symbol .set f) (dht : σ.symbol .dht d)
      (word : σ.symbol .scale w) (flag : σ.byte v x) :
      Sentence σ (f ++ (d ++ (w ++ x))) (.setScale v)
  | setGate {f w x y v n} (family : σ.symbol .set f) (word : σ.symbol .alarm w)
      (index : σ.byte v x) (value : σ.number n y) :
      Sentence σ (f ++ (w ++ (x ++ y))) (.setGate v n)
  | version {f} (family : σ.symbol .version f) : Sentence σ f .version
  | help {f} (family : σ.symbol .help f) : Sentence σ f .help

variable {α β : Type} {σ : Spelling α} {τ : Spelling β} {R : List α → List β → Prop}

/-- Whatever begins with a part of a command corresponds to something that begins with the same
part, spelled the other way. -/
structure Spelling.Carries (σ : Spelling α) (τ : Spelling β) (R : List α → List β → Prop) :
    Prop where
  nil : ∀ {ys}, R [] ys → ys = []
  symbol : ∀ {s p rest ys}, σ.symbol s p → R (p ++ rest) ys →
    ∃ q tail, ys = q ++ tail ∧ τ.symbol s q ∧ R rest tail
  byte : ∀ {v p rest ys}, σ.byte v p → R (p ++ rest) ys →
    ∃ q tail, ys = q ++ tail ∧ τ.byte v q ∧ R rest tail
  number : ∀ {n p rest ys}, σ.number n p → R (p ++ rest) ys →
    ∃ q tail, ys = q ++ tail ∧ τ.number n q ∧ R rest tail

namespace Spelling.Carries
variable {s t : Symbol} {v : UInt8} {n : UInt16} {p rest : List α} {ys : List β}

theorem either (carries : σ.Carries τ R) (h : σ.either s t p) (hr : R (p ++ rest) ys) :
    ∃ q tail, ys = q ++ tail ∧ τ.either s t q ∧ R rest tail := by
  rcases h with h | h
  · obtain ⟨q,tail,hy,hq,hr⟩ := carries.symbol h hr
    exact ⟨q,tail,hy,.inl hq,hr⟩
  · obtain ⟨q,tail,hy,hq,hr⟩ := carries.symbol h hr
    exact ⟨q,tail,hy,.inr hq,hr⟩

theorem lastSymbol (carries : σ.Carries τ R) (h : σ.symbol s p) (hr : R p ys) :
    τ.symbol s ys := by
  rw [← List.append_nil p] at hr
  obtain ⟨q,tail,rfl,hq,hr⟩ := carries.symbol h hr
  rw [carries.nil hr,List.append_nil]
  exact hq

theorem lastEither (carries : σ.Carries τ R) (h : σ.either s t p) (hr : R p ys) :
    τ.either s t ys :=
  h.imp (carries.lastSymbol · hr) (carries.lastSymbol · hr)

theorem lastByte (carries : σ.Carries τ R) (h : σ.byte v p) (hr : R p ys) : τ.byte v ys := by
  rw [← List.append_nil p] at hr
  obtain ⟨q,tail,rfl,hq,hr⟩ := carries.byte h hr
  rw [carries.nil hr,List.append_nil]
  exact hq

theorem lastNumber (carries : σ.Carries τ R) (h : σ.number n p) (hr : R p ys) :
    τ.number n ys := by
  rw [← List.append_nil p] at hr
  obtain ⟨q,tail,rfl,hq,hr⟩ := carries.number h hr
  rw [carries.nil hr,List.append_nil]
  exact hq

end Spelling.Carries

/-- A sentence in one spelling is the same sentence in the other. -/
theorem Sentence.carry (carries : σ.Carries τ R) {xs : List α} {ys : List β} {c : Command}
    (h : Sentence σ xs c) (hr : R xs ys) : Sentence τ ys c := by
  cases h with
  | lightStatus family => exact .lightStatus (carries.lastEither family hr)
  | lightWord family word meaning =>
    obtain ⟨_,_,rfl,family,hr⟩ := carries.either family hr
    exact .lightWord family (carries.lastSymbol word hr) meaning
  | lightColour family red green blue =>
    obtain ⟨_,_,rfl,family,hr⟩ := carries.either family hr
    obtain ⟨_,_,rfl,red,hr⟩ := carries.byte red hr
    obtain ⟨_,_,rfl,green,hr⟩ := carries.byte green hr
    exact .lightColour family red green (carries.lastByte blue hr)
  | climateStatus family => exact .climateStatus (carries.lastSymbol family hr)
  | climateWord family word meaning =>
    obtain ⟨_,_,rfl,family,hr⟩ := carries.symbol family hr
    exact .climateWord family (carries.lastSymbol word hr) meaning
  | logWord family log word meaning =>
    obtain ⟨_,_,rfl,family,hr⟩ := carries.symbol family hr
    obtain ⟨_,_,rfl,log,hr⟩ := carries.symbol log hr
    exact .logWord family log (carries.lastSymbol word hr) meaning
  | clockStatus family => exact .clockStatus (carries.lastEither family hr)
  | setTime family word hour minute second =>
    obtain ⟨_,_,rfl,family,hr⟩ := carries.symbol family hr
    obtain ⟨_,_,rfl,word,hr⟩ := carries.symbol word hr
    obtain ⟨_,_,rfl,hour,hr⟩ := carries.byte hour hr
    obtain ⟨_,_,rfl,minute,hr⟩ := carries.byte minute hr
    exact .setTime family word hour minute (carries.lastByte second hr)
  | setDate family word year month day =>
    obtain ⟨_,_,rfl,family,hr⟩ := carries.symbol family hr
    obtain ⟨_,_,rfl,word,hr⟩ := carries.symbol word hr
    obtain ⟨_,_,rfl,year,hr⟩ := carries.byte year hr
    obtain ⟨_,_,rfl,month,hr⟩ := carries.byte month hr
    exact .setDate family word year month (carries.lastByte day hr)
  | setBlinkRate family word rate =>
    obtain ⟨_,_,rfl,family,hr⟩ := carries.symbol family hr
    obtain ⟨_,_,rfl,word,hr⟩ := carries.symbol word hr
    exact .setBlinkRate family word (carries.lastNumber rate hr)
  | setScale family dht word flag =>
    obtain ⟨_,_,rfl,family,hr⟩ := carries.symbol family hr
    obtain ⟨_,_,rfl,dht,hr⟩ := carries.symbol dht hr
    obtain ⟨_,_,rfl,word,hr⟩ := carries.symbol word hr
    exact .setScale family dht word (carries.lastByte flag hr)
  | setGate family word index value =>
    obtain ⟨_,_,rfl,family,hr⟩ := carries.symbol family hr
    obtain ⟨_,_,rfl,word,hr⟩ := carries.symbol word hr
    obtain ⟨_,_,rfl,index,hr⟩ := carries.byte index hr
    exact .setGate family word index (carries.lastNumber value hr)
  | version family => exact .version (carries.lastSymbol family hr)
  | help family => exact .help (carries.lastSymbol family hr)

end ClimateStation.Command
