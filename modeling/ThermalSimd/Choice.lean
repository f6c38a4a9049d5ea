import Mathlib.Algebra.Order.BigOperators.Ring.Finset
import Mathlib.Algebra.Order.Ring.WithTop
import Mathlib.Order.Filter.Extr
import Mathlib.Tactic.Linarith

/-!
# Choosing by cost

Costs accumulated over a discounted rollout, candidates scanned with a margin, and minimisers of two
costs whose differences are ordered.
-/

namespace Choice

section

variable {Cost : Type*} [CommRing Cost]

/-- The accumulated cost and the next discount after some steps; steps count from one. -/
def rollout (factor : Cost) (term : ℕ → Cost) : ℕ → Cost × Cost
  | 0 => (0, 1)
  | steps + 1 =>
    let before := rollout factor term steps
    (before.1 + before.2 * term (steps + 1), before.2 * factor)

theorem rollout_discount (factor : Cost) (term steps) :
    (rollout factor term steps).2 = factor ^ steps := by
  induction steps with
  | zero => exact (pow_zero factor).symm
  | succ steps ih => rw [pow_succ, ← ih]; rfl

theorem rollout_cost (factor : Cost) (term steps) :
    (rollout factor term steps).1 =
      ∑ step ∈ Finset.range steps, factor ^ step * term (step + 1) := by
  induction steps with
  | zero => rw [Finset.sum_range_zero]; rfl
  | succ steps ih =>
    rw [Finset.sum_range_succ, ← ih, ← rollout_discount factor term]
    rfl

theorem rollout_add (factor : Cost) (first second steps) :
    (rollout factor first steps).1 + (rollout factor second steps).1 =
      (rollout factor (fun step => first step + second step) steps).1 := by
  rw [rollout_cost, rollout_cost, rollout_cost, ← Finset.sum_add_distrib]
  exact Finset.sum_congr rfl fun step _ => (mul_add _ _ _).symm

variable [LinearOrder Cost] [IsStrictOrderedRing Cost]

theorem rollout_sub_le {factor} (nonneg : 0 ≤ factor) {first second bound : ℕ → Cost}
    {steps} (le : ∀ step < steps, first (step + 1) - second (step + 1) ≤ bound step) :
    (rollout factor first steps).1 - (rollout factor second steps).1 ≤
      ∑ step ∈ Finset.range steps, factor ^ step * bound step := by
  rw [rollout_cost, rollout_cost, ← Finset.sum_sub_distrib]
  refine Finset.sum_le_sum fun step within => ?_
  rw [← mul_sub]
  exact mul_le_mul_of_nonneg_left (le step (Finset.mem_range.mp within)) (pow_nonneg nonneg step)

theorem rollout_le {factor : Cost} (nonneg : 0 ≤ factor) {first second}
    (le : ∀ step, first step ≤ second step) (steps) :
    (rollout factor first steps).1 ≤ (rollout factor second steps).1 := by
  rw [rollout_cost, rollout_cost]
  exact Finset.sum_le_sum fun step _ =>
    mul_le_mul_of_nonneg_left (le (step + 1)) (pow_nonneg nonneg step)

def excess (threshold value : Cost) : Cost := max 0 (value - threshold)

theorem excess_mono (threshold : Cost) : Monotone (excess threshold) :=
  fun _ _ ordered => max_le_max_left 0 (sub_le_sub_right ordered threshold)

theorem excess_sub_le {threshold low high shift : Cost} (ordered : low ≤ high)
    (raised : 0 ≤ shift) :
    excess threshold (low + shift) - excess threshold (high + shift) ≤
      excess threshold low - excess threshold high := by
  unfold excess
  rcases max_cases 0 (low + shift - threshold) with ⟨a, _⟩ | ⟨a, _⟩ <;>
    rcases max_cases 0 (high + shift - threshold) with ⟨b, _⟩ | ⟨b, _⟩ <;>
    rcases max_cases 0 (low - threshold) with ⟨c, _⟩ | ⟨c, _⟩ <;>
    rcases max_cases 0 (high - threshold) with ⟨d, _⟩ | ⟨d, _⟩ <;>
    rw [a, b, c, d] <;> linarith

end

section

variable {Candidate Cost : Type*} [AddCommMonoid Cost] [LinearOrder Cost]

def consider (cost : Candidate → Cost) (margin : Cost) (best : Candidate × WithTop Cost)
    (candidate : Candidate) : Candidate × WithTop Cost :=
  if ((cost candidate + margin : Cost) : WithTop Cost) < best.2 then (candidate, cost candidate)
  else best

def scan (cost : Candidate → Cost) (margin : Cost) (fallback : Candidate)
    (candidates : List Candidate) : Candidate × WithTop Cost :=
  candidates.foldl (consider cost margin) (fallback, ⊤)

/-- What holds of the best candidate of a list, `first` before the others. -/
structure Best (cost : Candidate → Cost) (margin : Cost) (first : Candidate)
    (considered : List Candidate) (best : Candidate × WithTop Cost) : Prop where
  cost_eq : best.2 = cost best.1
  mem : best.1 ∈ considered
  le_first : cost best.1 ≤ cost first
  le_add : ∀ candidate ∈ considered, cost best.1 ≤ cost candidate + margin

variable {cost : Candidate → Cost} {margin : Cost} {first : Candidate}

theorem Best.consider [IsOrderedAddMonoid Cost] (nonneg : 0 ≤ margin) {considered best}
    (before : Best cost margin first considered best)
    (candidate) :
    Best cost margin first (considered ++ [candidate]) (consider cost margin best candidate) := by
  unfold Choice.consider
  split
  · next cheaper =>
      rw [before.cost_eq, WithTop.coe_lt_coe] at cheaper
      have lower : cost candidate ≤ cost best.1 := (le_add_of_nonneg_right nonneg).trans cheaper.le
      refine ⟨rfl, List.mem_append_right _ (List.mem_singleton_self _), lower.trans before.le_first,
        fun other mem => ?_⟩
      rcases List.mem_append.mp mem with earlier | now
      · exact lower.trans (before.le_add other earlier)
      · rw [List.mem_singleton.mp now]
        exact le_add_of_nonneg_right nonneg
  · next dearer =>
      rw [before.cost_eq, WithTop.coe_lt_coe, not_lt] at dearer
      refine ⟨before.cost_eq, List.mem_append_left _ before.mem, before.le_first,
        fun other mem => ?_⟩
      rcases List.mem_append.mp mem with earlier | now
      · exact before.le_add other earlier
      · rw [List.mem_singleton.mp now]
        exact dearer

theorem best_scan [IsOrderedAddMonoid Cost] (nonneg : 0 ≤ margin) (fallback first others) :
    Best cost margin first (first :: others) (scan cost margin fallback (first :: others)) := by
  have start : Best cost margin first [first] (consider cost margin (fallback, ⊤) first) := by
    exact ⟨rfl, List.mem_singleton_self _, le_refl _, fun candidate mem => by
      rw [List.mem_singleton.mp mem]
      exact le_add_of_nonneg_right nonneg⟩
  suffices rest : ∀ (others considered) (best),
      Best cost margin first considered best →
        Best cost margin first (considered ++ others)
          (others.foldl (consider cost margin) best) from
    rest others [first] _ start
  intro others
  induction others with
  | nil =>
    intro considered best before
    rwa [List.append_nil]
  | cons candidate others ih =>
    intro considered best before
    rw [List.append_cons]
    exact ih _ _ (before.consider nonneg candidate)

end

section

variable {Candidate Cost : Type*} [AddCommGroup Cost] [LinearOrder Cost] [IsOrderedAddMonoid Cost]

theorem minimisers_ordered {first second : Candidate → Cost} {among small large}
    (smallMem : small ∈ among) (largeMem : large ∈ among)
    (smallest : IsMinOn first among small) (largest : IsMinOn second among large)
    (ordered : second small - second large ≤ first small - first large) :
    IsMinOn second among small ∧ IsMinOn first among large := by
  rw [isMinOn_iff] at smallest largest
  have dearer : first small - first large ≤ 0 := sub_nonpos.mpr (smallest large largeMem)
  have cheaper := sub_nonneg.mpr (largest small smallMem)
  have second_eq : second small = second large :=
    sub_eq_zero.mp (le_antisymm (ordered.trans dearer) cheaper)
  have first_eq : first small = first large :=
    sub_eq_zero.mp (le_antisymm dearer (cheaper.trans ordered))
  constructor
  · exact isMinOn_iff.mpr fun other mem => second_eq ▸ largest other mem
  · exact isMinOn_iff.mpr fun other mem => first_eq ▸ smallest other mem

end

end Choice
