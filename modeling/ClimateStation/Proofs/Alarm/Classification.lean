import ClimateStation.Alarm.Level
import ClimateStation.Proofs.Alarm.Gates
import Mathlib.Data.List.Chain
import Mathlib.Tactic.Lemma

/-! Levels and gates. Whether the gates ascend or not, the level of a temperature has the place of the
first gate that the temperature does not exceed. So a higher temperature never leads to a lower level,
and neither does a lower gate. If the gates ascend, the place is the number of gates that the
temperature exceeds. -/
namespace ClimateStation.Alarm

/-- The place of the first gate that a temperature does not exceed, or the number of gates if it
exceeds them all. -/
def firstGate (t : Int16) (gates : List Int16) : Nat := gates.findIdx fun gate => decide (t ≤ gate)

section FirstGate
variable {t t' gate value : Int16} {gates : List Int16}

@[simp] lemma firstGate_nil (t : Int16) : firstGate t [] = 0 := rfl

@[simp] lemma firstGate_cons (t gate : Int16) (gates : List Int16) :
    firstGate t (gate :: gates) = if t ≤ gate then 0 else firstGate t gates + 1 := by
  unfold firstGate
  rw [List.findIdx_cons]
  by_cases reached : t ≤ gate <;> simp [reached]

lemma firstGate_le_of_le (warmer : t ≤ t') (gates : List Int16) :
    firstGate t gates ≤ firstGate t' gates := by
  apply List.findIdx_le_findIdx
  intro gate _ reached
  rw [decide_eq_true_eq] at reached ⊢
  exact Int16.le_trans warmer reached

/-- A gate that is raised is reached by more temperatures. -/
lemma firstGate_set_le (t : Int16) {i : Nat} (old : gates[i]? = some gate) (raised : gate ≤ value) :
    firstGate t (gates.set i value) ≤ firstGate t gates := by
  induction gates generalizing i with
  | nil => exact nomatch old
  | cons first rest ih =>
    cases i with
    | zero =>
      obtain rfl : first = gate := Option.some.inj old
      rw [List.set_cons_zero,firstGate_cons,firstGate_cons]
      by_cases reached : t ≤ first
      · rw [if_pos (Int16.le_trans reached raised)]
        exact Nat.zero_le _
      · rw [if_neg reached]
        split
        · exact Nat.zero_le _
        · exact Nat.le_refl _
    | succ i =>
      rw [List.set_cons_succ,firstGate_cons,firstGate_cons]
      split
      · exact Nat.le_refl 0
      · exact Nat.succ_le_succ (ih old)

/-- Behind the first gate that a temperature does not exceed, ascending gates hold none that it does. -/
lemma firstGate_of_sorted (t : Int16) (sorted : gates.Pairwise (· ≤ ·)) :
    firstGate t gates = gates.countP (· < t) := by
  induction gates with
  | nil => rfl
  | cons first rest ih =>
    obtain ⟨least,later⟩ := List.pairwise_cons.mp sorted
    rw [firstGate_cons]
    by_cases reached : t ≤ first
    · have above : ∀ gate ∈ first :: rest, t ≤ gate :=
        List.forall_mem_cons.mpr ⟨reached,fun gate member => Int16.le_trans reached (least gate member)⟩
      rw [if_pos reached,eq_comm,List.countP_eq_zero]
      intro gate member
      rw [decide_eq_true_eq,Int16.not_lt]
      exact above gate member
    · have below : first < t := Int16.not_le.mp reached
      rw [if_neg reached,ih later]
      exact (List.countP_cons_of_pos (p := fun gate => decide (gate < t)) (decide_eq_true below)).symm

end FirstGate

namespace Gates

lemma Ascending.sorted {g : Gates} (h : g.Ascending) : g.toList.Pairwise (· ≤ ·) := by
  obtain ⟨low,middle,high⟩ := h
  rw [← List.isChain_iff_pairwise]
  exact .cons_cons low (.cons_cons middle (.cons_cons high (.singleton _)))

end Gates

namespace Level

lemma rank_classify (t : Int16) (g : Gates) :
    (classify t g).rank = -2 + (firstGate t g.toList : Int) := by
  unfold classify
  simp only [Gates.toList, firstGate_cons, firstGate_nil]
  split
  · rfl
  split
  · rfl
  split
  · rfl
  split <;> rfl

/-- The level of a temperature lies as far above the lowest one as the first gate that the temperature
does not exceed lies behind the first, whatever the order of the gates. It never falls when the
temperature rises and never rises when a gate is raised. If the gates ascend, it lies above the lowest
level by the number of gates that are below the temperature. -/
theorem level_of_first_gate (t : Int16) (g : Gates) :
    (classify t g).rank = -2 + (firstGate t g.toList : Int) ∧
    (∀ t', t ≤ t' → (classify t g).rank ≤ (classify t' g).rank) ∧
    (∀ i gate value g', g.toList[i]? = some gate → gate ≤ value → g.set? i value = some g' →
      (classify t g').rank ≤ (classify t g).rank) ∧
    (g.Ascending → (classify t g).rank = -2 + (g.toList.countP (· < t) : Int)) := by
  refine ⟨rank_classify t g,fun t' warmer => ?_,fun i gate value g' old raised replaced => ?_,
    fun ascending => ?_⟩
  · have later := firstGate_le_of_le warmer g.toList
    rw [rank_classify,rank_classify]
    omega
  · have earlier := firstGate_set_le t old raised
    rw [rank_classify,rank_classify,Gates.toList_set? replaced]
    omega
  · rw [rank_classify,firstGate_of_sorted t ascending.sorted]

/-- The third gate is below the first two, so no temperature is comfortable. -/
theorem level_of_first_gate_unsorted :
    let g : Gates := ⟨60,90,-20,95⟩
    ¬g.Ascending ∧ (classify 75 g).rank = -2 + (1 : Nat) ∧
    (classify 75 g).rank ≤ (classify 91 g).rank ∧
    (g.toList[2]? = some (-20 : Int16) ∧ g.set? 2 92 = some ⟨60,90,92,95⟩ ∧
      (classify 91 ⟨60,90,92,95⟩).rank ≤ (classify 91 g).rank) ∧
    (Gates.Ascending ⟨60,90,92,95⟩ ∧ (classify 91 ⟨60,90,92,95⟩).rank = -2 + (2 : Nat)) := by
  intro g
  obtain ⟨place,warmer,-,-⟩ := level_of_first_gate 75 g
  obtain ⟨-,-,raised,-⟩ := level_of_first_gate 91 g
  obtain ⟨-,-,-,ascending⟩ := level_of_first_gate 91 ⟨60,90,92,95⟩
  exact ⟨by decide,place,warmer 91 (by decide),
    ⟨rfl,rfl,raised 2 (-20) 92 ⟨60,90,92,95⟩ rfl (by decide) rfl⟩,by decide,ascending (by decide)⟩

end Level
end ClimateStation.Alarm
