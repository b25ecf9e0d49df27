import ClimateStation.Proofs.Command.Encoding

/-! The grammar reads forwards. What it finds in a sequence, it finds by the values so far, and what
it refuses, it refuses for the value at the position that it names: whatever stands behind that
position, the refusal is the same. -/
namespace ClimateStation.Command

lemma bind_eq_error {ε α β : Type} {x : Except ε α} {f : α → Except ε β} {e : ε} :
    x >>= f = .error e ↔ x = .error e ∨ ∃ a, x = .ok a ∧ f a = .error e := by
  cases x with
  | error e' =>
    refine ⟨fun h => .inl (congrArg Except.error (Except.error.inj h)),?_⟩
    rintro (h | ⟨_,h,_⟩)
    · exact congrArg Except.error (Except.error.inj h)
    · exact nomatch h
  | ok a =>
    refine ⟨fun h => .inr ⟨a,rfl,h⟩,?_⟩
    rintro (h | ⟨_,h,hf⟩)
    · exact nomatch h
    · cases h
      exact hf

namespace Sequence

/-- Two sequences hold the same up to a position, that position included. -/
def AgreeTo (i : Nat) (s s' : Sequence) : Prop := ∀ j ≤ i, s.values[j]? = s'.values[j]?

namespace AgreeTo
variable {s s' : Sequence} {i j : Nat}

lemma symm (agree : AgreeTo i s s') : AgreeTo i s' s := fun j h => (agree j h).symm

lemma mono (agree : AgreeTo i s s') (h : j ≤ i) : AgreeTo j s s' := fun k hk =>
  agree k (Nat.le_trans hk h)

lemma valueAt (agree : AgreeTo i s s') : s.valueAt i = s'.valueAt i := by
  rw [Sequence.valueAt,Sequence.valueAt,List.getD_eq_getElem?_getD,List.getD_eq_getElem?_getD,
    agree i (Nat.le_refl i)]

lemma unexpectedAt (agree : AgreeTo i s s') : s.unexpectedAt i = s'.unexpectedAt i := by
  rw [Sequence.unexpectedAt,Sequence.unexpectedAt,agree.valueAt]

lemma lt_length (agree : AgreeTo i s s') (h : i < s.length) : i < s'.length := by
  have same := agree i (Nat.le_refl i)
  rw [List.getElem?_eq_getElem h] at same
  exact (List.getElem?_eq_some_iff.mp same.symm).1

lemma le_length (agree : AgreeTo i s s') (h : i ≤ s.length) : i ≤ s'.length := by
  refine Nat.not_lt.mp fun before => ?_
  have within : s'.length < s.length := Nat.lt_of_lt_of_le before h
  exact Nat.lt_irrefl _ ((agree.mono (Nat.le_of_lt before)).lt_length within)

/-- Whether a sequence ends at a position can be told without looking beyond it. -/
lemma eq_length (agree : AgreeTo i s s') (h : i = s.length) : i = s'.length := by
  refine Nat.le_antisymm (agree.le_length (Nat.le_of_eq h)) (Nat.not_lt.mp fun longer => ?_)
  exact Nat.ne_of_lt (agree.symm.lt_length longer) h

end AgreeTo

/-! ## Readers -/

section Readers
variable {α β : Type} {m n start i : Nat}

/-- What is found is found wherever the values up to position `n` are the same. -/
def Finds (n : Nat) (x : Sequence → Except CommandError α) : Prop :=
  ∀ ⦃s s' a⦄, x s = .ok a → AgreeTo n s s' → x s' = .ok a

/-- What is refused is refused for a position from `start` on, wherever the values up to that
position are the same. -/
def RefusesFrom (start : Nat) (x : Sequence → Except CommandError α) : Prop :=
  ∀ ⦃s e⦄, x s = .error e → ∃ i, start ≤ i ∧ e = s.unexpectedAt i ∧
    ∀ s', AgreeTo i s s' → x s' = .error e

/-- The same of a reader that looks at one position. -/
def RefusesAt (i : Nat) (x : Sequence → Except CommandError α) : Prop :=
  ∀ ⦃s e⦄, x s = .error e → e = s.unexpectedAt i ∧ ∀ s', AgreeTo i s s' → x s' = .error e

lemma RefusesAt.onward {x : Sequence → Except CommandError α} (refuses : RefusesAt i x)
    (h : start ≤ i) : RefusesFrom start x := fun _ _ refused => ⟨i,h,refuses refused⟩

lemma Finds.ok (a : α) : Finds n fun _ => .ok a := fun _ _ _ h _ => h

lemma Finds.bind {x : Sequence → Except CommandError α}
    {f : α → Sequence → Except CommandError β} (first : Finds m x)
    (second : ∀ a, Finds n (f a)) (h : m ≤ n) : Finds n fun s => x s >>= fun a => f a s := by
  intro s s' b found agree
  obtain ⟨a,ha,hb⟩ := bind_eq_ok.mp found
  exact bind_eq_ok.mpr ⟨a,first ha (agree.mono h),second a hb agree⟩

lemma RefusesFrom.ok (a : α) : RefusesFrom start fun _ => .ok a := nofun

lemma RefusesFrom.mono {x : Sequence → Except CommandError α} (refuses : RefusesFrom i x)
    (h : start ≤ i) : RefusesFrom start x := by
  intro s e refused
  obtain ⟨j,later,named,stays⟩ := refuses refused
  exact ⟨j,Nat.le_trans h later,named,stays⟩

lemma RefusesFrom.unexpected (h : start ≤ i) :
    RefusesFrom (α := α) start fun s => .error (s.unexpectedAt i) := by
  intro s e refused
  cases refused
  exact ⟨i,h,rfl,fun s' agree => congrArg Except.error agree.unexpectedAt.symm⟩

/-- Of two readers, the second must not refuse anything that the first has gone past. -/
lemma RefusesFrom.bind {x : Sequence → Except CommandError α}
    {f : α → Sequence → Except CommandError β} (first : RefusesFrom start x) (finds : Finds n x)
    (second : ∀ ⦃s a⦄, x s = .ok a → RefusesFrom n (f a)) (h : start ≤ n) :
    RefusesFrom start fun s => x s >>= fun a => f a s := by
  intro s e refused
  rcases bind_eq_error.mp refused with refused | ⟨a,found,refused⟩
  · obtain ⟨i,later,named,stays⟩ := first refused
    exact ⟨i,later,named,fun s' agree => bind_eq_error.mpr (.inl (stays s' agree))⟩
  · obtain ⟨i,later,named,stays⟩ := second found refused
    refine ⟨i,Nat.le_trans h later,named,fun s' agree => bind_eq_error.mpr (.inr ⟨a,?_⟩)⟩
    exact ⟨finds found (agree.mono later),stays s' agree⟩

lemma RefusesAt.bind {x : Sequence → Except CommandError α}
    {f : α → Sequence → Except CommandError β} (first : RefusesAt i x) (finds : Finds i x)
    (second : ∀ ⦃s a⦄, x s = .ok a → RefusesFrom i (f a)) (h : start ≤ i) :
    RefusesFrom start fun s => x s >>= fun a => f a s := (first.onward h).bind finds second h

lemma finds_symbolAt (i : Nat) : Finds i (symbolAt · i) := by
  intro s s' t found agree
  dsimp only [symbolAt] at found ⊢
  rwa [← agree.valueAt,← agree.unexpectedAt]

lemma refuses_symbolAt (i : Nat) : RefusesAt i (symbolAt · i) := by
  intro s e refused
  dsimp only [symbolAt] at refused
  split at refused
  · exact nomatch refused
  · next none =>
    cases refused
    refine ⟨rfl,fun s' agree => ?_⟩
    rw [agree.valueAt] at none
    dsimp only [symbolAt]
    rw [none,agree.unexpectedAt]

lemma finds_expectAt (i : Nat) (t : Symbol) : Finds i (expectAt · i t) := by
  intro s s' u found agree
  dsimp only [expectAt] at found ⊢
  rwa [← agree.valueAt,← agree.unexpectedAt]

lemma refuses_expectAt (i : Nat) (t : Symbol) : RefusesAt i (expectAt · i t) := by
  intro s e refused
  dsimp only [expectAt] at refused
  split at refused
  · exact nomatch refused
  · next other =>
    cases refused
    refine ⟨rfl,fun s' agree => ?_⟩
    dsimp only [expectAt]
    rw [← agree.valueAt,if_neg other,agree.unexpectedAt]

lemma finds_operandAt (i : Nat) : Finds i (operandAt · i) := by
  intro s s' v found agree
  dsimp only [operandAt] at found ⊢
  split at found
  · next within => rwa [if_pos (agree.lt_length within),← agree.valueAt]
  · exact nomatch found

lemma refuses_operandAt (i : Nat) : RefusesAt i (operandAt · i) := by
  intro s e refused
  dsimp only [operandAt] at refused
  split at refused
  · exact nomatch refused
  · next beyond =>
    cases refused
    refine ⟨rfl,fun s' agree => ?_⟩
    dsimp only [operandAt]
    rw [if_neg fun within => beyond (agree.symm.lt_length within),agree.unexpectedAt]

lemma refuses_finishAt (i : Nat) (c : Command) : RefusesAt i (finishAt · i c) := by
  intro s e refused
  dsimp only [finishAt] at refused
  split at refused
  · exact nomatch refused
  · next other =>
    cases refused
    refine ⟨rfl,fun s' agree => ?_⟩
    dsimp only [finishAt]
    rw [if_neg fun last => other (agree.symm.eq_length last),agree.unexpectedAt]

lemma finds_byteAt (i : Nat) : Finds (i + 1) (byteAt · i) :=
  (finds_expectAt i .byte).bind (fun _ => finds_operandAt (i + 1)) (Nat.le_succ i)

lemma refuses_byteAt (h : start ≤ i) : RefusesFrom start (byteAt · i) :=
  (refuses_expectAt i .byte).bind (finds_expectAt i .byte)
    (fun _ _ _ => (refuses_operandAt (i + 1)).onward (Nat.le_succ i)) h

lemma finds_numberAt (i : Nat) : Finds (i + 2) (numberAt · i) := by
  refine (finds_symbolAt i).bind (fun t => ?_) (Nat.le_add_right i 2)
  cases t with
  | byte => exact (finds_operandAt (i + 1)).bind (fun _ => .ok _) (Nat.le_succ _)
  | word =>
    refine (finds_operandAt (i + 1)).bind (fun _ => ?_) (Nat.le_succ _)
    exact (finds_operandAt (i + 2)).bind (fun _ => .ok _) (Nat.le_refl _)
  | _ => exact fun _ _ _ found => nomatch found

lemma refuses_numberAt (h : start ≤ i) : RefusesFrom start (numberAt · i) := by
  refine (refuses_symbolAt i).bind (finds_symbolAt i) (fun s t _ => ?_) h
  cases t with
  | byte =>
    exact (refuses_operandAt (i + 1)).bind (finds_operandAt (i + 1)) (fun _ _ _ => .ok _)
      (Nat.le_succ i)
  | word =>
    refine (refuses_operandAt (i + 1)).bind (finds_operandAt (i + 1)) (fun _ _ _ => ?_)
      (Nat.le_succ i)
    exact (refuses_operandAt (i + 2)).bind (finds_operandAt (i + 2)) (fun _ _ _ => .ok _)
      (Nat.le_succ _)
  | _ => exact .unexpected (Nat.le_refl i)

/-- A number takes two positions at least. -/
lemma numberAt_next {s : Sequence} {v : UInt16} {next : Nat} (h : s.numberAt i = .ok (v,next)) :
    i + 2 ≤ next := by
  obtain ⟨t,-,h⟩ := bind_eq_ok.mp h
  cases t with
  | byte =>
    obtain ⟨_,-,h⟩ := bind_eq_ok.mp h
    cases h
    exact Nat.le_refl _
  | word =>
    obtain ⟨_,-,h⟩ := bind_eq_ok.mp h
    obtain ⟨_,-,h⟩ := bind_eq_ok.mp h
    cases h
    exact Nat.le_succ _
  | _ => exact nomatch h

end Readers

/-! ## Families -/

lemma refuses_lightFamily : RefusesFrom 1 lightFamily := by
  refine (refuses_symbolAt 1).bind (finds_symbolAt 1) (fun s t _ => ?_) (Nat.le_refl 1)
  cases t with
  | endOfLine => exact .ok _
  | on | off | blink | red | green | yellow => exact (refuses_finishAt _ _).onward (by decide)
  | byte =>
    refine (refuses_byteAt (Nat.le_refl 1)).bind (finds_byteAt 1) (fun _ _ _ => ?_) (by decide)
    refine (refuses_byteAt (by decide)).bind (finds_byteAt 3) (fun _ _ _ => ?_) (by decide)
    refine (refuses_byteAt (by decide)).bind (finds_byteAt 5) (fun _ _ _ => ?_) (by decide)
    exact (refuses_finishAt _ _).onward (by decide)
  | _ => exact .unexpected (Nat.le_refl 1)

lemma refuses_logFamily : RefusesFrom 2 logFamily := by
  refine (refuses_symbolAt 2).bind (finds_symbolAt 2) (fun s t _ => ?_) (Nat.le_refl 2)
  cases t with
  | endOfLine => exact .ok _
  | info | clear => exact (refuses_finishAt _ _).onward (by decide)
  | _ => exact .unexpected (Nat.le_refl 2)

lemma refuses_climateFamily : RefusesFrom 1 climateFamily := by
  refine (refuses_symbolAt 1).bind (finds_symbolAt 1) (fun s t _ => ?_) (Nat.le_refl 1)
  cases t with
  | endOfLine => exact .ok _
  | monitor | alarm => exact (refuses_finishAt _ _).onward (by decide)
  | log => exact refuses_logFamily.mono (by decide)
  | _ => exact .unexpected (Nat.le_refl 1)

lemma refuses_threeBytes (make : UInt8 → UInt8 → UInt8 → Command) :
    RefusesFrom 1 (threeBytes · make) := by
  refine (refuses_byteAt (by decide)).bind (finds_byteAt 2) (fun _ _ _ => ?_) (by decide)
  refine (refuses_byteAt (by decide)).bind (finds_byteAt 4) (fun _ _ _ => ?_) (by decide)
  refine (refuses_byteAt (by decide)).bind (finds_byteAt 6) (fun _ _ _ => ?_) (by decide)
  exact (refuses_finishAt _ _).onward (by decide)

lemma refuses_setFamily : RefusesFrom 1 setFamily := by
  refine (refuses_symbolAt 1).bind (finds_symbolAt 1) (fun s t _ => ?_) (Nat.le_refl 1)
  cases t with
  | time | date => exact refuses_threeBytes _
  | blink =>
    refine (refuses_numberAt (by decide)).bind (finds_numberAt 2) (fun _ _ found => ?_) (by decide)
    exact (refuses_finishAt _ _).onward (numberAt_next found)
  | dht =>
    refine (refuses_expectAt 2 _).bind (finds_expectAt 2 _) (fun _ _ _ => ?_) (by decide)
    refine (refuses_byteAt (by decide)).bind (finds_byteAt 3) (fun _ _ _ => ?_) (by decide)
    exact (refuses_finishAt _ _).onward (by decide)
  | alarm =>
    refine (refuses_byteAt (by decide)).bind (finds_byteAt 2) (fun _ _ _ => ?_) (by decide)
    refine (refuses_numberAt (by decide)).bind (finds_numberAt 4) (fun _ _ found => ?_) (by decide)
    exact (refuses_finishAt _ _).onward (numberAt_next found)
  | _ => exact .unexpected (Nat.le_refl 1)

/-- The symbols that commands start with. -/
def families : List Symbol := [.led,.rgb,.dht,.time,.date,.set,.version,.help]

/-- How the values behind a first symbol are read. -/
def behind : Symbol → Sequence → Except CommandError Command
  | .led | .rgb => lightFamily
  | .dht => climateFamily
  | .time | .date => (finishAt · 1 .clockStatus)
  | .set => setFamily
  | .version => (finishAt · 1 .version)
  | .help => (finishAt · 1 .help)
  | _ => fun s => .error (.unknownFamily (s.valueAt 0))

lemma family_eq_behind {s : Sequence} {t : Symbol} (h : s.valueAt 0 = t.code) :
    s.family = behind t s := by
  unfold family
  dsimp only
  rw [h,Symbol.ofCode?_code]
  cases t <;> first | rfl | exact congrArg (Except.error ∘ CommandError.unknownFamily) h.symm

lemma refuses_behind {t : Symbol} (h : t ∈ families) : RefusesFrom 1 (behind t) := by
  cases t with
  | led | rgb => exact refuses_lightFamily
  | dht => exact refuses_climateFamily
  | set => exact refuses_setFamily
  | time | date | version | help => exact (refuses_finishAt _ _).onward (Nat.le_refl 1)
  | _ => exact absurd h (by decide)

/-- No other value starts a command. -/
lemma family_unknown {s : Sequence} (h : s.valueAt 0 ∉ families.map Symbol.code) :
    s.family = .error (.unknownFamily (s.valueAt 0)) := by
  cases known : Symbol.ofCode? (s.valueAt 0) with
  | none =>
    unfold family
    dsimp only
    rw [known]
  | some t =>
    have code := Symbol.code_of_ofCode? known
    have other : t ∉ families := fun member => h (code ▸ List.mem_map_of_mem member)
    rw [family_eq_behind code.symm]
    cases t <;> first | rfl | exact absurd (by decide) other

/-- Behind a value that starts a command, a refusal names a position, and stays if the values up to
it are the same. -/
theorem family_refused {s : Sequence} {e : CommandError}
    (h : s.valueAt 0 ∈ families.map Symbol.code) (refused : s.family = .error e) :
    ∃ i, e = s.unexpectedAt i ∧ ∀ s', AgreeTo i s s' → s'.family = .error e := by
  obtain ⟨t,member,code⟩ := List.mem_map.mp h
  rw [family_eq_behind code.symm] at refused
  obtain ⟨i,-,named,stays⟩ := refuses_behind member refused
  refine ⟨i,named,fun s' agree => ?_⟩
  have same : s'.valueAt 0 = t.code := by rw [← (agree.mono (Nat.zero_le i)).valueAt,code]
  rw [family_eq_behind same]
  exact stays s' agree

end Sequence
end ClimateStation.Command
