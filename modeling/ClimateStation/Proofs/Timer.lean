import ClimateStation.Timer
import Mathlib.Data.List.Induction
import Mathlib.Tactic.Lemma

/-! How often a timer is due. A timer that is due moves on by at least one period, and to at most one
period after the moment when it was asked. So it cannot have been due more often than its periods
fit into the time, and whenever it is not due, it was due less than one period ago. As long as it is
asked in every period, it moves on by exactly one, and so keeps to the grid of its periods. -/
namespace ClimateStation.Timer
variable {t : Timer} {time period : Nat}

lemma poll_early (early : time < t.due) : t.poll time = (false,t) := if_pos early

/-- Short of the end of time, a timer that is due moves on, and not too far. -/
lemma poll_due (due : t.due ≤ time) (positive : 0 < t.period)
    (room : time + t.period ≤ endOfTime) : ∃ next, t.poll time = (true,{ t with due := next }) ∧
      t.due + t.period ≤ next ∧ time < next ∧ next ≤ time + t.period := by
  unfold poll later
  rw [if_neg (Nat.not_lt.mpr due)]
  refine ⟨_,rfl,?_⟩
  split <;> omega

/-- A timer that was due at these times so far, whatever else it was asked. -/
structure Paced (period : Nat) (ticks : List Nat) (t : Timer) : Prop where
  pace : t.period = period
  spent : ticks.length * period ≤ t.due
  recent : ∀ time < t.due, ∃ tick ∈ ticks, time < tick + period
  sparse : ∀ limit, (ticks.filter (· ≤ limit)).length ≤ limit / period + 1

lemma paced_every (positive : 0 < period) : (every period).Paced period [] :=
  ⟨Nat.max_eq_left positive,Nat.le_of_eq (Nat.zero_mul _),nofun,fun _ => Nat.zero_le _⟩

variable {ticks : List Nat}

/-- All that asking does to a timer, and what it says of the moment. -/
theorem Paced.poll (paced : t.Paced period ticks) (positive : 0 < period)
    (room : time + period ≤ endOfTime) :
    let ticks' := ticks ++ if (t.poll time).1 = true then [time] else []
    (t.poll time).2.Paced period ticks' ∧ ∃ tick ∈ ticks', time < tick + period := by
  obtain ⟨rfl,spent,recent,sparse⟩ := paced
  rcases Nat.lt_or_ge time t.due with early | due
  · rw [poll_early early]
    dsimp only
    rw [if_neg Bool.false_ne_true,List.append_nil]
    exact ⟨⟨rfl,spent,recent,sparse⟩,recent time early⟩
  · obtain ⟨next,polled,far,later,near⟩ := poll_due due positive room
    rw [polled]
    dsimp only
    rw [if_pos rfl]
    have last : time ∈ ticks ++ [time] := List.mem_append_right _ (List.mem_singleton_self _)
    have now : time < time + t.period := Nat.lt_add_of_pos_right positive
    refine ⟨⟨rfl,?_,fun before early => ⟨time,last,Nat.lt_of_lt_of_le early near⟩,fun limit => ?_⟩,
      time,last,now⟩
    · rw [List.length_append,List.length_singleton,Nat.succ_mul]
      exact Nat.le_trans (Nat.add_le_add_right spent _) far
    · rw [List.filter_append,List.length_append]
      rcases Nat.lt_or_ge limit time with past | within
      · have none : [time].filter (· ≤ limit) = [] := by simpa using past
        rw [none]
        exact sparse limit
      · -- All the earlier ones together took no longer than the time until now.
        have earlier : (ticks.filter (· ≤ limit)).length ≤ limit / t.period := by
          refine Nat.le_trans (List.length_filter_le ..) ?_
          rw [Nat.le_div_iff_mul_le positive]
          exact Nat.le_trans spent (Nat.le_trans due within)
        exact Nat.add_le_add earlier (List.length_filter_le ..)

/-! ## Runs -/

/-- The timer after it was asked at these times. -/
def after (t : Timer) (times : List Nat) : Timer := times.foldl (fun t time => (t.poll time).2) t

/-- Whether a timer that was asked at these times is due at the next. -/
def dueAfter (t : Timer) (before : List Nat) (time : Nat) : Bool := ((t.after before).poll time).1

/-- Those of the times at which a timer that is asked at all of them is due. -/
def ticksIn : Timer → List Nat → List Nat
  | _, [] => []
  | t, time :: rest =>
    (if (t.poll time).1 = true then [time] else []) ++ (t.poll time).2.ticksIn rest

variable {times front middle rest before : List Nat} {first last : Nat}

lemma after_concat (t : Timer) (before : List Nat) (time : Nat) :
    t.after (before ++ [time]) = ((t.after before).poll time).2 := List.foldl_append ..

lemma ticksIn_append (t : Timer) (front rest : List Nat) :
    t.ticksIn (front ++ rest) = t.ticksIn front ++ (t.after front).ticksIn rest := by
  induction front generalizing t with
  | nil => rfl
  | cons time front ih => rw [List.cons_append,ticksIn,ticksIn,ih,List.append_assoc]; rfl

lemma ticksIn_concat (t : Timer) (before : List Nat) (time : Nat) :
    t.ticksIn (before ++ [time]) =
      t.ticksIn before ++ if t.dueAfter before time = true then [time] else [] := by
  rw [ticksIn_append,ticksIn,ticksIn,List.append_nil,dueAfter]

lemma ticksIn_sublist (t : Timer) (times : List Nat) : (t.ticksIn times).Sublist times := by
  induction times generalizing t with
  | nil => exact List.Sublist.slnil
  | cons time rest ih =>
    rw [ticksIn]
    split
    · exact (ih _).cons_cons time
    · exact (ih _).cons time

lemma every_max (period : Nat) : every period = every (max period 1) := by
  simp [every]

/-- What asking does to a timer holds of whole runs. -/
theorem paced_after (positive : 0 < period) (room : ∀ time ∈ times, time + period ≤ endOfTime) :
    ((every period).after times).Paced period ((every period).ticksIn times) := by
  induction times using List.reverseRecOn with
  | nil => exact paced_every positive
  | append_singleton times time ih =>
    obtain ⟨earlier,now⟩ := List.forall_mem_append.mp room
    rw [ticksIn_concat,after_concat]
    exact ((ih earlier).poll positive (now time (List.mem_singleton_self _))).1

/-- A timer is due a number of times only if as many periods have passed since it was due next. -/
lemma due_add_le (positive : 0 < t.period) (room : ∀ time ∈ times, time + t.period ≤ endOfTime)
    (h : t.ticksIn times = front ++ last :: rest) : t.due + front.length * t.period ≤ last := by
  induction times generalizing t front with
  | nil => exact absurd h.symm (List.append_ne_nil_of_right_ne_nil _ (List.cons_ne_nil _ _))
  | cons time times ih =>
    obtain ⟨now,later⟩ := List.forall_mem_cons.mp room
    rw [ticksIn] at h
    rcases Nat.lt_or_ge time t.due with early | due
    · rw [poll_early early] at h
      exact ih positive later h
    · obtain ⟨next,polled,far,-⟩ := poll_due due positive now
      rw [polled,if_pos rfl,List.singleton_append] at h
      cases front with
      | nil =>
        obtain ⟨rfl,-⟩ := List.cons_eq_cons.mp h
        simpa using due
      | cons tick front =>
        obtain ⟨-,h⟩ := List.cons_eq_cons.mp h
        have := ih (t := { t with due := next }) positive later h
        rw [List.length_cons,Nat.succ_mul]
        dsimp only at this
        omega

/-- Between two ticks lie all the periods of those between them, and more. -/
lemma span_lt (positive : 0 < t.period) (room : ∀ time ∈ times, time + t.period ≤ endOfTime)
    (h : t.ticksIn times = front ++ first :: (middle ++ last :: rest)) :
    first + middle.length * t.period < last := by
  induction times generalizing t front with
  | nil => exact absurd h.symm (List.append_ne_nil_of_right_ne_nil _ (List.cons_ne_nil _ _))
  | cons time times ih =>
    obtain ⟨now,later⟩ := List.forall_mem_cons.mp room
    rw [ticksIn] at h
    rcases Nat.lt_or_ge time t.due with early | due
    · rw [poll_early early] at h
      exact ih positive later h
    · obtain ⟨next,polled,-,past,-⟩ := poll_due due positive now
      rw [polled,if_pos rfl,List.singleton_append] at h
      cases front with
      | nil =>
        obtain ⟨rfl,next_ticks⟩ := List.cons_eq_cons.mp h
        exact Nat.lt_of_lt_of_le (Nat.add_lt_add_right past _)
          (due_add_le (t := { t with due := next }) positive later next_ticks)
      | cons tick front =>
        exact ih (t := { t with due := next }) positive later (List.cons_eq_cons.mp h).2

lemma span_lt_of_isInfix (positive : 0 < period)
    (room : ∀ time ∈ times, time + period ≤ endOfTime)
    (h : first :: middle ++ [last] <:+: (every period).ticksIn times) :
    first + middle.length * period < last := by
  obtain ⟨front,rest,split⟩ := h
  have pace : (every period).period = period := (paced_every positive).pace
  have ticks : (every period).ticksIn times = front ++ first :: (middle ++ last :: rest) := by
    rw [← split]
    simp
  have span := span_lt (by rwa [pace]) (by rwa [pace]) ticks
  rwa [pace] at span

/-- A timer that is asked and not due was due less than one period before. -/
lemma dueAfter_or_recent (positive : 0 < period)
    (room : ∀ tick ∈ before ++ [time], tick + period ≤ endOfTime)
    (ordered : ∀ earlier ∈ before, earlier ≤ time) : (every period).dueAfter before time = true ∨
      ∃ tick ∈ (every period).ticksIn before, tick ≤ time ∧ time < tick + period := by
  obtain ⟨earlier,now⟩ := List.forall_mem_append.mp room
  obtain ⟨-,tick,member,near⟩ :=
    (paced_after positive earlier).poll positive (now time (List.mem_singleton_self _))
  by_cases due : (every period).dueAfter before time = true
  · exact .inl due
  · change tick ∈ _ ++ if (every period).dueAfter before time = true then [time] else [] at member
    rw [if_neg due,List.append_nil] at member
    exact .inr ⟨tick,member,ordered tick ((ticksIn_sublist _ before).mem member),near⟩

/-! ## The grid -/

/-- The time lies in period `k`, counted from 0. -/
def InPeriod (period k time : Nat) : Prop := k * period ≤ time ∧ time < (k + 1) * period

instance (period k time : Nat) : Decidable (InPeriod period k time) :=
  inferInstanceAs (Decidable (_ ∧ _))

/-- The times lie in the first `n` periods, and some in each of them. -/
structure Fills (period n : Nat) (times : List Nat) : Prop where
  within : ∀ time ∈ times, time < n * period
  each : ∀ k < n, ∃ time ∈ times, InPeriod period k time

variable {n k : Nat}

lemma InPeriod.lt_of_lt {j : Nat} (h : InPeriod period j first) (hj : j < k)
    (hk : k * period ≤ last) : first < last :=
  Nat.lt_of_lt_of_le h.2 (Nat.le_trans (Nat.mul_le_mul_right period hj) hk)

/-- What the last of some times that fill periods adds to those before it: nothing, or the last
period. -/
lemma Fills.of_concat (fills : Fills period n (before ++ [time]))
    (ordered : ∀ earlier ∈ before, earlier ≤ time) :
    ∃ k, n = k + 1 ∧ InPeriod period k time ∧
      (Fills period n before ∨
        Fills period k before ∧ ∀ earlier ∈ before, ¬InPeriod period k earlier) := by
  have limit := fills.within time (by simp)
  obtain ⟨k,rfl⟩ : ∃ k, n = k + 1 :=
    Nat.exists_eq_succ_of_ne_zero fun zero => by simp [zero] at limit
  have here : InPeriod period k time := by
    obtain ⟨tick,member,inside⟩ := fills.each k (Nat.lt_succ_self k)
    rcases List.mem_append.mp member with member | member
    · exact ⟨Nat.le_trans inside.1 (ordered tick member),limit⟩
    · rwa [← List.mem_singleton.mp member]
  have others : ∀ j < k, ∃ earlier ∈ before, InPeriod period j earlier := by
    intro j hj
    obtain ⟨tick,member,inside⟩ := fills.each j (Nat.lt_succ_of_lt hj)
    rcases List.mem_append.mp member with member | member
    · exact ⟨tick,member,inside⟩
    · have := inside.lt_of_lt hj here.1
      exact absurd (List.mem_singleton.mp member) (Nat.ne_of_lt this)
  have within : ∀ earlier ∈ before, earlier < (k + 1) * period := fun earlier member =>
    fills.within earlier (List.mem_append_left _ member)
  refine ⟨k,rfl,here,?_⟩
  by_cases filled : ∃ earlier ∈ before, InPeriod period k earlier
  · refine .inl ⟨within,fun j hj => ?_⟩
    rcases Nat.lt_succ_iff_lt_or_eq.mp hj with hj | rfl
    · exact others j hj
    · exact filled
  · have none : ∀ earlier ∈ before, ¬InPeriod period k earlier := fun earlier member inside =>
      filled ⟨earlier,member,inside⟩
    refine .inr ⟨⟨fun earlier member => ?_,others⟩,none⟩
    by_contra late
    exact none earlier member ⟨Nat.not_lt.mp late,within earlier member⟩

/-- A timer that is due when a period starts, and is asked within it, is due next when the next one
starts. -/
lemma poll_on_grid (pace : t.period = period) (due : t.due = k * period)
    (inside : InPeriod period k time) (room : time + period ≤ endOfTime) :
    t.poll time = (true,{ t with due := (k + 1) * period }) := by
  have next : later t.due t.period = (k + 1) * period := by
    have := inside.1
    rw [later,due,pace,Nat.succ_mul]
    omega
  unfold poll
  rw [if_neg (Nat.not_lt.mpr (due ▸ inside.1)),next]
  dsimp only
  rw [if_neg (Nat.not_le.mpr inside.2)]

/-- As long as no period is left out, the timer is due next when the first new one starts. -/
lemma due_of_fills (positive : 0 < period) (room : ∀ time ∈ times, time + period ≤ endOfTime)
    (ordered : times.Pairwise (· ≤ ·)) (fills : Fills period n times) :
    ((every period).after times).due = n * period := by
  induction times using List.reverseRecOn generalizing n with
  | nil =>
    cases n with
    | zero => exact (Nat.zero_mul _).symm
    | succ n => exact absurd (fills.each 0 (Nat.succ_pos n)) (by simp)
  | append_singleton before time ih =>
    obtain ⟨earlier,now⟩ := List.forall_mem_append.mp room
    obtain ⟨ordered,-,last⟩ := List.pairwise_append.mp ordered
    have pace := (paced_after positive earlier).pace
    obtain ⟨k,rfl,here,same | ⟨before_now,-⟩⟩ :=
      fills.of_concat fun earlier member => last earlier member time (List.mem_singleton_self _)
    · have due := ih earlier ordered same
      rw [after_concat,poll_early (by rw [due]; exact here.2),due]
    · have due := ih earlier ordered before_now
      rw [after_concat,poll_on_grid pace due here (now time (List.mem_singleton_self _))]

/-- Within the periods that are not left out, a timer is due exactly at the first time in each. -/
lemma dueAfter_iff_first (positive : 0 < period)
    (room : ∀ tick ∈ before ++ [time], tick + period ≤ endOfTime)
    (ordered : (before ++ [time]).Pairwise (· ≤ ·))
    (fills : Fills period (k + 1) (before ++ [time])) :
    (every period).dueAfter before time = true ↔
      ∀ earlier ∈ before, ¬InPeriod period k earlier := by
  obtain ⟨earlier,now⟩ := List.forall_mem_append.mp room
  obtain ⟨ordered,-,last⟩ := List.pairwise_append.mp ordered
  have pace := (paced_after positive earlier).pace
  obtain ⟨_,same,here,filled | ⟨before_now,first⟩⟩ :=
    fills.of_concat fun earlier member => last earlier member time (List.mem_singleton_self _)
  · obtain rfl := Nat.succ.inj same
    have due := due_of_fills positive earlier ordered filled
    have early := poll_early (t := (every period).after before) (by rw [due]; exact here.2)
    obtain ⟨tick,member,inside⟩ := filled.each k (Nat.lt_succ_self k)
    rw [dueAfter,early]
    exact iff_of_false Bool.false_ne_true fun first => first tick member inside
  · obtain rfl := Nat.succ.inj same
    have due := due_of_fills positive earlier ordered before_now
    rw [dueAfter,poll_on_grid pace due here (now time (List.mem_singleton_self _))]
    exact iff_of_true rfl first

/-- Times that do not go back reach a period only after all the periods before it. -/
lemma fills_of_reached (ordered : (before ++ time :: rest).Pairwise (· ≤ ·))
    (here : InPeriod period k time)
    (each : ∀ j ≤ k, ∃ tick ∈ before ++ time :: rest, InPeriod period j tick) :
    Fills period (k + 1) (before ++ [time]) where
  within tick member := by
    obtain ⟨-,-,last⟩ := List.pairwise_append.mp ordered
    rcases List.mem_append.mp member with member | member
    · exact Nat.lt_of_le_of_lt (last tick member time List.mem_cons_self) here.2
    · rw [List.mem_singleton.mp member]
      exact here.2
  each j hj := by
    rcases Nat.lt_succ_iff_lt_or_eq.mp hj with hj | rfl
    · obtain ⟨tick,member,inside⟩ := each j (Nat.le_of_lt hj)
      refine ⟨tick,?_,inside⟩
      have past := inside.lt_of_lt hj here.1
      rw [List.append_cons] at member ordered
      refine (List.mem_append.mp member).resolve_right fun later => ?_
      have := (List.pairwise_append.mp ordered).2.2 time (by simp) tick later
      omega
    · exact ⟨time,by simp,here⟩

/-- What a timer promises, if it is asked at times that do not go back and keep clear of the end of
time. Up to any moment it is due at most once more than its periods fit in; between two of its ticks
lie all the periods of the ticks between them, and more; when it is asked and not due, it was due
less than one period before; and as long as no period is left out, it is due at the first time in
each of them and at no other. -/
theorem timer_keeps_time (period : Nat) (times : List Nat) (ordered : times.Pairwise (· ≤ ·))
    (room : ∀ time ∈ times, time + max period 1 ≤ endOfTime) :
    let p := max period 1
    let t := every period
    (∀ limit, (((t.ticksIn times).filter (· ≤ limit)).length - 1) * p ≤ limit) ∧
      (∀ first middle last, first :: middle ++ [last] <:+: t.ticksIn times →
        first + middle.length * p < last) ∧
      ∀ before time rest, times = before ++ time :: rest →
        (t.dueAfter before time = true ∨
          ∃ tick ∈ t.ticksIn before, tick ≤ time ∧ time < tick + p) ∧
        ∀ m, (∀ k ≤ m, ∃ tick ∈ times, InPeriod p k tick) → ∀ k ≤ m, InPeriod p k time →
          (t.dueAfter before time = true ↔ ∀ earlier ∈ before, ¬InPeriod p k earlier) := by
  rw [every_max]
  have positive : 0 < max period 1 := Nat.le_max_right period 1
  intro p t
  refine ⟨fun limit => ?_,fun first middle last h => span_lt_of_isInfix positive room h,?_⟩
  · have sparse := Nat.sub_le_of_le_add ((paced_after positive room).sparse limit)
    exact Nat.le_trans (Nat.mul_le_mul_right p sparse) (Nat.div_mul_le_self limit p)
  · rintro before time rest rfl
    have room' : ∀ tick ∈ before ++ [time], tick + p ≤ endOfTime := by
      rw [List.append_cons] at room
      exact (List.forall_mem_append.mp room).1
    have ordered' : (before ++ [time]).Pairwise (· ≤ ·) := by
      rw [List.append_cons] at ordered
      exact (List.pairwise_append.mp ordered).1
    refine ⟨dueAfter_or_recent positive room' fun earlier member => ?_,?_⟩
    · exact (List.pairwise_append.mp ordered').2.2 earlier member time (List.mem_singleton_self _)
    · intro m each k hk here
      exact dueAfter_iff_first positive room' ordered'
        (fills_of_reached ordered here fun j hj => each j (Nat.le_trans hj hk))

/-- A timer that is asked in time at first and then falls behind. -/
theorem timer_keeps_time_late :
    let times := [0, 50, 99, 100, 150, 205, 1000, 1005, 1100]
    times.Pairwise (· ≤ ·) ∧ (∀ time ∈ times, time + max 100 1 ≤ endOfTime) ∧
      (every 100).ticksIn times = [0, 100, 205, 1000, 1100] ∧
      ([0, 100, 205, 1000].length - 1) * max 100 1 ≤ 1050 ∧
      100 + [205].length * max 100 1 < 1000 ∧
      (∃ tick ∈ [0, 100, 205, 1000], tick ≤ 1005 ∧ 1005 < tick + max 100 1) ∧
      (every 100).dueAfter [0, 50, 99, 100, 150] 205 = true := by
  intro times
  have ordered : times.Pairwise (· ≤ ·) := by decide
  have room : ∀ time ∈ times, time + max 100 1 ≤ endOfTime := by decide
  obtain ⟨few,apart,asked⟩ := timer_keeps_time 100 times ordered room
  refine ⟨ordered,room,by decide,few 1050,apart 100 [205] 1000 (by decide),?_,?_⟩
  · exact (asked [0, 50, 99, 100, 150, 205, 1000] 1005 [1100] rfl).1.resolve_left (by decide)
  · refine ((asked [0, 50, 99, 100, 150] 205 [1000, 1005, 1100] rfl).2 2 ?_ 2 (Nat.le_refl 2)
      (by decide)).mpr (by decide)
    decide

end ClimateStation.Timer
