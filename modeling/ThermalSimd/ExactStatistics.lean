import ThermalSimd.Ewma
import ThermalSimd.TrimmedMean

/-!
# The exact trimmed mean

No operation of `tsd_compute_trimmed_mean` wraps: the mean is what natural numbers give.
-/

namespace ThermalSimd

variable (used : List UInt32) (values : List UInt32)

theorem toNat_sumUInt64 (few : values.length < 2 ^ 32) :
    (sumUInt64 values).toNat = (values.map UInt32.toNat).sum := by
  suffices general : ∀ (values : List UInt32) (sum : UInt64),
      sum.toNat + values.length * 2 ^ 32 < 2 ^ 64 →
      (values.foldl (fun sum v => sum + v.toUInt64) sum).toNat =
        sum.toNat + (values.map UInt32.toNat).sum by
    rw [sumUInt64, general values 0 ?room]
    case room => exact (zero_add _).trans_lt (by omega)
    exact zero_add _
  intro values
  induction values with
  | nil => exact fun sum _ => rfl
  | cons v values ih =>
    intro sum room
    rw [List.length_cons] at room
    have bound := v.toNat_lt
    have added : (sum + v.toUInt64).toNat = sum.toNat + v.toNat := by
      rw [Words.toNat_add (by rw [UInt32.toNat_toUInt64]; omega), UInt32.toNat_toUInt64]
    rw [List.foldl_cons, ih _ (by omega), added, List.map_cons, List.sum_cons, add_assoc]

theorem toNat_average (few : values.length < 2 ^ 32) :
    (sumUInt64 values / UInt64.ofNat values.length).toUInt32.toNat =
      TrimmedMean.mean (values.map UInt32.toNat) := by
  have fits : TrimmedMean.mean (values.map UInt32.toNat) < 2 ^ 32 := by
    apply TrimmedMean.mean_lt _ (Nat.two_pow_pos 32)
    intro _ mem
    obtain ⟨v, -, rfl⟩ := List.mem_map.mp mem
    exact v.toNat_lt
  rw [UInt64.toNat_toUInt32, UInt64.toNat_div, toNat_sumUInt64 values few,
    Words.toNat_ofNat (by omega)]
  rw [TrimmedMean.mean, List.length_map] at fits ⊢
  exact Nat.mod_eq_of_lt fits

theorem sumAndCount_eq : sumAndCount values = (sumUInt64 values, UInt64.ofNat values.length) := by
  induction values using List.reverseRecOn with
  | nil => rfl
  | append_singleton values _ ih =>
    rw [sumAndCount, sumUInt64, List.foldl_concat, List.foldl_concat, ← sumAndCount, ih,
      List.length_append, List.length_singleton, UInt64.ofNat_add]
    rfl

/-- The entries that `tsd_compute_trimmed_mean` adds up, in its order. -/
def summed : List UInt32 :=
  if used.length ≤ 2 then SortInPlace.sort (· ≤ ·) used
  else ((SortInPlace.sort (· ≤ ·) used).drop 1).take (used.length - 2)

theorem length_summed :
    (summed used).length = if used.length ≤ 2 then used.length else used.length - 2 := by
  rw [summed, SortInPlace.sort_eq_insertionSort]
  split
  · exact List.length_insertionSort _ _
  · simp
    omega

theorem length_summed_lt (count) :
    (summed (values.take (min count ratioHistory))).length < 2 ^ 32 := by
  have used : (values.take (min count ratioHistory)).length ≤ 8 :=
    (List.length_take_le _ _).trans (Nat.min_le_right _ _)
  rw [length_summed]
  split <;> omega

theorem mean_summed : TrimmedMean.mean ((summed used).map UInt32.toNat) =
      TrimmedMean.trimmedMean (used.map UInt32.toNat) := by
  rw [TrimmedMean.trimmedMean, List.length_map, summed, SortInPlace.sort_eq_insertionSort]
  split
  · exact TrimmedMean.mean_perm ((List.perm_insertionSort (· ≤ ·) used).map UInt32.toNat)
  · have sorted : (used.insertionSort (· ≤ ·)).map UInt32.toNat =
        (used.map UInt32.toNat).insertionSort (· ≤ ·) :=
      List.map_insertionSort _ _ _ _ fun _ _ _ _ => UInt32.le_iff_toNat_le
    rw [List.map_take, List.map_drop, sorted, TrimmedMean.trimmed, List.length_map]

section

variable {values : List UInt32} {count : ℕ} (pos : 1 ≤ count)
  (readable : min count ratioHistory ≤ values.length)
include pos readable

theorem computeTrimmedMean_eq :
    computeTrimmedMean values count =
      (sumUInt64 (summed (values.take (min count ratioHistory))) /
        UInt64.ofNat (summed (values.take (min count ratioHistory))).length).toUInt32 := by
  have length : (values.take (min count ratioHistory)).length = min count ratioHistory :=
    List.length_take_of_le readable
  have counted := length_summed (values.take (min count ratioHistory))
  unfold computeTrimmedMean
  rw [if_neg (by omega)]
  dsimp only
  rw [length] at counted
  split
  · next two =>
    rw [if_pos two] at counted
    rw [counted, summed, length, if_pos two]
  · next many =>
    rw [if_neg many] at counted
    rw [summed, length, if_neg many] at counted ⊢
    rw [sumAndCount_eq, counted, if_pos]
    rw [Ne, ← UInt64.toNat_inj, Words.toNat_ofNat]
    · exact Nat.sub_ne_zero_of_lt (not_le.mp many)
    · exact (Nat.sub_le _ _).trans_lt ((Nat.min_le_right _ _).trans_lt (by decide))

theorem toNat_computeTrimmedMean :
    (computeTrimmedMean values count).toNat =
      TrimmedMean.trimmedMean ((values.take (min count ratioHistory)).map UInt32.toNat) := by
  rw [computeTrimmedMean_eq pos readable, toNat_average _ (length_summed_lt _ _), mean_summed]

end

/-- The mean of the first `min count 8` values: formula and bounds; it is independent of their
order, grows with each, and no sum wraps. -/
theorem trimmed_mean_of_exact (values : List UInt32) (count : ℕ) (pos : 1 ≤ count)
    (readable : min count 8 ≤ values.length) (least greatest : ℕ)
    (isLeast : IsLeast {entry | entry ∈ (values.take (min count 8)).map UInt32.toNat} least)
    (isGreatest :
      IsGreatest {entry | entry ∈ (values.take (min count 8)).map UInt32.toNat} greatest) :
    ((computeTrimmedMean values count).toNat =
      if 3 ≤ min count 8 then
        (((values.take (min count 8)).map UInt32.toNat).sum - least - greatest) /
          (min count 8 - 2)
      else ((values.take (min count 8)).map UInt32.toNat).sum / min count 8) ∧
    (∀ others : List UInt32, (others.take (min count 8)).Perm (values.take (min count 8)) →
      computeTrimmedMean others count = computeTrimmedMean values count) ∧
    (least ≤ (computeTrimmedMean values count).toNat ∧
      (computeTrimmedMean values count).toNat ≤ greatest) ∧
    (∀ others : List UInt32,
      List.Forall₂ (· ≤ ·) (values.take (min count 8)) (others.take (min count 8)) →
      computeTrimmedMean values count ≤ computeTrimmedMean others count) ∧
    ∀ front, front <+: summed (values.take (min count 8)) →
      (sumUInt64 front).toNat = (front.map UInt32.toNat).sum := by
  have exact := toNat_computeTrimmedMean pos readable
  have length := List.length_take_of_le readable
  have readableOthers {others : List UInt32}
      (same : (others.take (min count 8)).length = (values.take (min count 8)).length) :
      min count ratioHistory ≤ others.length := by
    rw [length, List.length_take] at same
    exact min_eq_left_iff.mp same
  refine ⟨?_, fun others perm => ?_, ⟨?_, ?_⟩, fun others below => ?_, fun front start => ?_⟩
  · rw [exact, TrimmedMean.trimmedMean_eq_div isLeast isGreatest, List.length_map, length]
  · rw [← UInt32.toNat_inj, exact, toNat_computeTrimmedMean pos (readableOthers perm.length_eq)]
    exact TrimmedMean.trimmedMean_perm (perm.map UInt32.toNat)
  · rw [exact]
    exact TrimmedMean.le_trimmedMean isLeast.2 (List.ne_nil_of_mem isLeast.1)
  · rw [exact]
    exact TrimmedMean.trimmedMean_le isGreatest.2
  · rw [UInt32.le_iff_toNat_le, exact,
      toNat_computeTrimmedMean pos (readableOthers below.length_eq.symm)]
    apply TrimmedMean.trimmedMean_le_trimmedMean
    rw [List.forall₂_map_left_iff, List.forall₂_map_right_iff]
    exact below.imp fun _ _ => UInt32.le_iff_toNat_le.mp
  · exact toNat_sumUInt64 front (start.length_le.trans_lt (length_summed_lt values count))

theorem trimmed_mean_of_exact_four :
    (computeTrimmedMean [5, 1, 9, 4] 4).toNat = (19 - 1 - 9) / 2 ∧
      computeTrimmedMean [5, 1, 9, 4] 4 ≤ computeTrimmedMean [5, 2, 9, 8] 4 := by
  obtain ⟨mean, -, -, grows, -⟩ := trimmed_mean_of_exact [5, 1, 9, 4] 4 (by decide) (by decide) 1 9
    ⟨by simp, by rintro entry mem; simp at mem; omega⟩
    ⟨by simp, by rintro entry mem; simp at mem; omega⟩
  exact ⟨mean, grows [5, 2, 9, 8] (by decide)⟩

end ThermalSimd
