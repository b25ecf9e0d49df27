import ClimateStation.Text.Ascii
import Mathlib.Algebra.GroupWithZero.Nat
import Mathlib.Algebra.Order.BigOperators.Group.List
import Mathlib.Algebra.Order.Group.Nat
import Mathlib.Data.List.DropRight
import Mathlib.Tactic.Lemma

/-! Texts made of words. What counts of a text, its words and small letters are those of the list
and character libraries, with five bytes for blanks. Words joined with single spaces are the words of
the joined text, and nothing of that text is insignificant; joining some words of a text makes no
longer text. -/
namespace ClimateStation.Text
variable {s w : List UInt8} {ws ws' : List (List UInt8)}

/-- What separates words: space, tab, line feed, form feed and carriage return. -/
def blanks : List UInt8 := [32, 9, 10, 12, 13]

/-- The small letter for a capital one; every other byte stays. -/
def small (b : UInt8) : UInt8 := (Char.ofNat b.toNat).toLower.toUInt8

lemma isBlank_eq : isBlank = fun b => decide (b ∈ blanks) := by
  funext b
  simp only [isBlank, blanks, List.mem_cons, List.not_mem_nil, or_false, Bool.decide_or,
    Bool.or_assoc]
  rfl

lemma significant_eq (input : List UInt8) :
    significant input = (input.takeWhile (· != 0)).rdropWhile (· ∈ blanks) := by
  rw [significant,isBlank_eq]
  rfl

lemma forall_byte {p : UInt8 → Prop} (all : ∀ n < 256, p (UInt8.ofNat n)) (b : UInt8) : p b := by
  have holds := all b.toNat b.toNat_lt
  rwa [UInt8.ofNat_toNat] at holds

lemma toLower_ofNat : ∀ b : UInt8, (Char.ofNat b.toNat).toLower = Char.ofNat (lower b).toNat :=
  forall_byte (by decide +kernel)

lemma lower_eq_small : lower = small := by
  have all : ∀ b, lower b = small b := forall_byte (by decide +kernel)
  exact funext all

lemma fields_eq_splitOnP (s : List UInt8) : fields s = s.splitOnP isBlank := by
  induction s with
  | nil => rfl
  | cons b s ih =>
    rw [fields,List.splitOnP_cons_eq_if_modifyHead,ih]
    split
    · rfl
    · split
      · next h => exact absurd h (ih ▸ fields_ne_nil s)
      · next h => rw [h,List.modifyHead_cons]

lemma words_eq_splitOnP (s : List UInt8) : words s = (s.splitOnP isBlank).filter (· ≠ []) := by
  rw [words,fields_eq_splitOnP]
  exact List.filter_congr fun w _ => by cases w <;> rfl

lemma words_eq (s : List UInt8) : words s = (s.splitOnP (· ∈ blanks)).filter (· ≠ []) := by
  rw [words_eq_splitOnP,isBlank_eq]

/-- What can stand between blanks. -/
structure IsWord (w : List UInt8) : Prop where
  nonempty : w ≠ []
  solid : ∀ b ∈ w, isBlank b = false

lemma mem_of_mem_fields (h : w ∈ fields s) : ∀ b ∈ w, b ∈ s ∧ isBlank b = false := by
  induction s generalizing w with
  | nil =>
    obtain rfl := List.mem_singleton.mp h
    exact nofun
  | cons a s ih =>
    have later {w : List UInt8} (h : w ∈ fields s) : ∀ b ∈ w, b ∈ a :: s ∧ isBlank b = false :=
      fun b hb => ⟨List.mem_cons_of_mem a (ih h b hb).1,(ih h b hb).2⟩
    rw [fields] at h
    split at h
    · rcases List.mem_cons.mp h with rfl | h
      · exact nofun
      · exact later h
    · next solid =>
      split at h
      · next none => exact absurd none (fields_ne_nil s)
      · next piece pieces split =>
        rcases List.mem_cons.mp h with rfl | h
        · intro b hb
          rcases List.mem_cons.mp hb with rfl | hb
          · exact ⟨List.mem_cons_self,Bool.eq_false_iff.mpr solid⟩
          · exact later (split ▸ List.mem_cons_self) b hb
        · exact later (split ▸ List.mem_cons_of_mem _ h)

lemma isWord_of_mem_words (h : w ∈ words s) : IsWord w where
  nonempty := ne_nil_of_mem_words s w h
  solid b hb := (mem_of_mem_fields (List.mem_of_mem_filter h) b hb).2

lemma mem_of_mem_words (h : w ∈ words s) {b : UInt8} (hb : b ∈ w) : b ∈ s :=
  (mem_of_mem_fields (List.mem_of_mem_filter h) b hb).1

/-- Words with single spaces between them. -/
def joined (ws : List (List UInt8)) : List UInt8 := [32].intercalate ws

lemma joined_singleton (w : List UInt8) : joined [w] = w := List.intercalate_singleton

lemma joined_cons (w : List UInt8) (h : ws ≠ []) : joined (w :: ws) = w ++ 32 :: joined ws := by
  rw [joined,List.intercalate_cons_of_ne_nil h,List.append_assoc]
  rfl

lemma words_joined (h : ∀ w ∈ ws, IsWord w) : words (joined ws) = ws := by
  rw [words_eq_splitOnP]
  induction ws with
  | nil => rfl
  | cons w ws ih =>
    obtain ⟨hw,hws⟩ := List.forall_mem_cons.mp h
    by_cases last : ws = []
    · subst last
      rw [joined_singleton,List.splitOnP_eq_singleton hw.solid]
      simp [hw.nonempty]
    · rw [joined_cons w last,List.splitOnP_append_cons_of_forall_mem hw.solid 32 rfl,
        List.filter_cons_of_pos (by simpa using hw.nonempty),ih hws]

lemma length_joined (ws : List (List UInt8)) :
    (joined ws).length = (ws.map (·.length + 1)).sum - 1 := by
  induction ws with
  | nil => rfl
  | cons w ws ih =>
    by_cases last : ws = []
    · subst last
      simp [joined]
    · have more : 0 < (ws.map (·.length + 1)).sum := by
        cases ws with
        | nil => exact absurd rfl last
        | cons w' ws =>
          rw [List.map_cons,List.sum_cons]
          omega
      rw [joined_cons w last,List.length_append,List.length_cons,ih,List.map_cons,List.sum_cons]
      omega

lemma sum_length_fields (s : List UInt8) : ((fields s).map (·.length + 1)).sum = s.length + 1 := by
  induction s with
  | nil => rfl
  | cons b s ih =>
    rw [fields]
    split
    · rw [List.map_cons,List.sum_cons,ih,List.length_nil,List.length_cons]
      omega
    · split
      · next h => exact absurd h (fields_ne_nil s)
      · next h =>
        rw [h,List.map_cons,List.sum_cons] at ih
        rw [List.map_cons,List.sum_cons,List.length_cons,List.length_cons]
        omega

/-- Words taken out of a text and joined again are no longer than the text was. -/
lemma length_joined_le (h : ws.Sublist (words s)) : (joined ws).length ≤ s.length := by
  have all := (h.trans List.filter_sublist).map (·.length + 1)
  have le := all.sum_le_sum fun _ _ => Nat.zero_le _
  rw [sum_length_fields] at le
  rw [length_joined]
  omega

lemma mem_joined {b : UInt8} (h : b ∈ joined ws) : b = 32 ∨ ∃ w ∈ ws, b ∈ w := by
  induction ws with
  | nil => exact nomatch h
  | cons w ws ih =>
    by_cases last : ws = []
    · subst last
      rw [joined_singleton] at h
      exact .inr ⟨w,List.mem_cons_self,h⟩
    · rw [joined_cons w last] at h
      rcases List.mem_append.mp h with h | h
      · exact .inr ⟨w,List.mem_cons_self,h⟩
      · rcases List.mem_cons.mp h with rfl | h
        · exact .inl rfl
        · exact (ih h).imp_right fun ⟨w',hw',hb⟩ => ⟨w',List.mem_cons_of_mem w hw',hb⟩

lemma joined_ne_nil (hn : ws ≠ []) (h : ∀ w ∈ ws, IsWord w) : joined ws ≠ [] := by
  intro none
  have same := words_joined h
  rw [none] at same
  exact hn same.symm

/-- A joined text ends with its last word. -/
lemma isBlank_getLast_joined (h : ∀ w ∈ ws, IsWord w) (hj : joined ws ≠ []) :
    isBlank ((joined ws).getLast hj) = false := by
  induction ws with
  | nil => exact absurd rfl hj
  | cons w ws ih =>
    obtain ⟨hw,hws⟩ := List.forall_mem_cons.mp h
    by_cases last : ws = []
    · subst last
      simp only [joined_singleton]
      exact hw.solid _ (List.getLast_mem hw.nonempty)
    · have more := joined_ne_nil last hws
      simp only [joined_cons w last,List.getLast_append_of_ne_nil _ (List.cons_ne_nil _ _),
        List.getLast_cons more]
      exact ih hws more

lemma zero_notMem_significant (s : List UInt8) : 0 ∉ significant s := by
  intro h
  have front : significant s <+: s.takeWhile (· != 0) := List.rdropWhile_prefix isBlank _
  exact absurd (List.mem_takeWhile_imp (front.mem h)) (by decide)

lemma significant_joined (h : ∀ w ∈ ws, IsWord w) (h0 : ∀ w ∈ ws, 0 ∉ w) :
    significant (joined ws) = joined ws := by
  have whole : (joined ws).takeWhile (· != 0) = joined ws := by
    rw [List.takeWhile_eq_self_iff]
    intro b hb
    rcases mem_joined hb with rfl | ⟨w,hw,hb⟩
    · rfl
    · exact bne_iff_ne.mpr fun zero => h0 w hw (zero ▸ hb)
  have trimmed : (joined ws).rdropWhile isBlank = joined ws := by
    rw [List.rdropWhile_eq_self_iff]
    exact fun hj => Bool.eq_false_iff.mp (isBlank_getLast_joined h hj)
  rw [significant,whole]
  exact trimmed

end ClimateStation.Text
