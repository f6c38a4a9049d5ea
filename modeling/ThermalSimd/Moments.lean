import Mathlib.Algebra.Order.BigOperators.Group.List
import Mathlib.Algebra.Order.Field.Basic
import Mathlib.Tactic.FieldSimp
import Mathlib.Tactic.Linarith
import Mathlib.Tactic.Ring

/-!
# Running moments

A mean and a sum of squared deviations kept sample by sample. The state is determined by the power
sums of the samples, so it does not depend on their order.
-/

/-- A count, a mean and a sum of squared deviations. -/
structure Moments (Value : Type*) where
  count : ℕ
  mean : Value
  deviation : Value

namespace Moments

section

variable {Value : Type*} [Field Value]

variable {moments : Moments Value} {samples : List Value}

/-- No sample. -/
def empty : Moments Value := ⟨0, 0, 0⟩

/-- The mean moves by the sample's share, the deviation by the product of both distances. -/
def push (moments : Moments Value) (sample : Value) : Moments Value :=
  if moments.count = 0 then ⟨1, sample, 0⟩
  else
    let count := moments.count + 1
    let delta := sample - moments.mean
    let mean := moments.mean + delta / (count : ℕ)
    ⟨count, mean, moments.deviation + delta * (sample - mean)⟩

theorem push_of_count_eq_zero (empty : moments.count = 0) (sample) :
    moments.push sample = ⟨1, sample, 0⟩ :=
  if_pos empty

theorem push_of_count_ne_zero (nonempty : moments.count ≠ 0) (sample) :
    moments.push sample =
      ⟨moments.count + 1,
        moments.mean + (sample - moments.mean) / ((moments.count + 1 : ℕ) : Value),
        moments.deviation + (sample - moments.mean) *
          (sample - (moments.mean + (sample - moments.mean) /
            ((moments.count + 1 : ℕ) : Value)))⟩ :=
  if_neg nonempty

def spread (centre : Value) (samples : List Value) : Value :=
  (samples.map fun sample => (sample - centre) ^ 2).sum

theorem spread_eq (centre : Value) (samples) :
    spread centre samples =
      (samples.map (· ^ 2)).sum - 2 * centre * samples.sum + samples.length * centre ^ 2 := by
  induction samples with
  | nil => simp [spread]
  | cons _ samples ih =>
    rw [spread] at ih
    rw [spread, List.map_cons, List.sum_cons, ih, List.map_cons, List.sum_cons,
      List.sum_cons, List.length_cons, Nat.cast_succ]
    ring

/-- The state determined by the number, sum and sum of squares of some samples. -/
structure Describes (moments : Moments Value) (samples : List Value) : Prop where
  count : moments.count = samples.length
  total : samples.sum = moments.count * moments.mean
  squares : (samples.map (· ^ 2)).sum = moments.deviation + moments.count * moments.mean ^ 2

theorem describes_empty : Describes (empty : Moments Value) [] where
  count := rfl
  total := by simp [empty]
  squares := by simp [empty]

theorem Describes.perm {samples others} (describes : moments.Describes samples)
    (permuted : samples.Perm others) :
    moments.Describes others where
  count := describes.count.trans permuted.length_eq
  total := permuted.sum_eq.symm.trans describes.total
  squares := (permuted.map _).sum_eq.symm.trans describes.squares

variable [CharZero Value]

theorem Describes.push (describes : moments.Describes samples) (sample) :
    (moments.push sample).Describes (samples ++ [sample]) := by
  obtain ⟨count, total, squares⟩ := describes
  by_cases empty : moments.count = 0
  · obtain rfl := List.length_eq_zero_iff.mp (count.symm.trans empty)
    rw [push_of_count_eq_zero empty]
    exact ⟨rfl, by simp, by simp⟩
  · rw [push_of_count_ne_zero empty]
    refine ⟨?_, ?_, ?_⟩
    · rw [List.length_append, ← count]; rfl
    · rw [List.sum_append, List.sum_singleton, total]
      push_cast
      field_simp
      ring
    · rw [List.map_append, List.sum_append, squares, List.map_singleton, List.sum_singleton]
      push_cast
      field_simp
      ring

theorem Describes.mean_eq (describes : moments.Describes samples) (ne : samples ≠ []) :
    moments.mean = samples.sum / samples.length := by
  have nonzero : (samples.length : Value) ≠ 0 :=
    Nat.cast_ne_zero.mpr fun empty => ne (List.length_eq_zero_iff.mp empty)
  rw [eq_div_iff nonzero, describes.total, describes.count, mul_comm]

omit [CharZero Value] in
theorem Describes.deviation_eq {moments : Moments Value} {samples : List Value}
    (describes : moments.Describes samples) : moments.deviation = spread moments.mean samples := by
  rw [spread_eq, describes.squares, describes.total, ← describes.count]
  ring

theorem Describes.unique {first second : Moments Value} (left : first.Describes samples)
    (right : second.Describes samples) (ne : samples ≠ []) : first = second := by
  have mean : first.mean = second.mean :=
    (left.mean_eq ne).trans (right.mean_eq ne).symm
  have deviation : first.deviation = second.deviation := by
    rw [left.deviation_eq, right.deviation_eq, mean]
  have count : first.count = second.count := left.count.trans right.count.symm
  cases first
  cases mean
  cases deviation
  cases count
  rfl

end

theorem spread_nonneg {Value} [Field Value] [LinearOrder Value] [IsStrictOrderedRing Value]
    (centre : Value) (samples) : 0 ≤ spread centre samples := by
  refine List.sum_nonneg fun square mem => ?_
  obtain ⟨_, _, rfl⟩ := List.mem_map.mp mem
  exact sq_nonneg _

end Moments
