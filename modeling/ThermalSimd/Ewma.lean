import ThermalSimd.Statistics
import ThermalSimd.Words
import Mathlib.Data.Nat.Dist

/-!
# The EWMA step

`tsd_update_ewma` moves an average towards the sample by at least one and never past it, and keeps
the order of averages and of samples, so a constant sample is reached.
-/

namespace ThermalSimd

/-- On natural numbers: a step of at least one towards the sample, and not past it. -/
def exactEwma (prev sample shift : ℕ) : ℕ :=
  if prev = 0 ∨ shift = 0 then sample
  else if prev ≤ sample then min sample (prev + max 1 ((sample - prev) / 2 ^ shift))
  else max sample (prev - max 1 ((prev - sample) / 2 ^ shift))

section

variable {prev sample : ℕ}

theorem exactEwma_of_pos (sample shift) (started : 0 < prev) :
    exactEwma prev sample shift =
      if prev ≤ sample then min sample (prev + max 1 ((sample - prev) / 2 ^ shift))
      else max sample (prev - max 1 ((prev - sample) / 2 ^ shift)) := by
  unfold exactEwma
  by_cases whole : shift = 0
  · subst whole
    rw [if_pos (.inr rfl), pow_zero, Nat.div_one, Nat.div_one]
    split <;> omega
  · rw [if_neg (not_or.mpr ⟨started.ne', whole⟩)]

theorem le_exactEwma (prev sample shift) : sample ≤ 2 ^ shift * exactEwma prev sample shift := by
  have pos := Nat.two_pow_pos shift
  unfold exactEwma
  split
  · exact Nat.le_mul_of_pos_left _ pos
  · next _ =>
      split
      · -- The step leaves out less than one share of the distance, and the old average has one.
        have whole := Nat.lt_mul_div_succ (sample - prev) pos
        have share : prev - 1 ≤ 2 ^ shift * (prev - 1) := Nat.le_mul_of_pos_left _ pos
        rcases min_choice sample (prev + max 1 ((sample - prev) / 2 ^ shift)) with all | part
        · rw [all]
          exact Nat.le_mul_of_pos_left _ pos
        · rw [part]
          obtain ⟨before, rfl⟩ : ∃ before, prev = before + 1 := ⟨prev - 1, by omega⟩
          generalize (sample - (before + 1)) / 2 ^ shift = step at whole
          have more : 2 ^ shift * step ≤ 2 ^ shift * max 1 step :=
            Nat.mul_le_mul_left _ (le_max_right _ _)
          rw [Nat.add_sub_cancel] at share
          rw [mul_add] at whole
          rw [mul_add, mul_add]
          omega
      · exact (le_max_left _ _).trans (Nat.le_mul_of_pos_left _ pos)

theorem exactEwma_between (shift) (started : 0 < prev) :
    min prev sample ≤ exactEwma prev sample shift ∧
      exactEwma prev sample shift ≤ max prev sample := by
  rw [exactEwma_of_pos _ _ started]
  split <;> omega

theorem exactEwma_moves (shift) (started : 0 < prev) (apart : prev ≠ sample) :
    exactEwma prev sample shift ≠ prev := by
  rw [exactEwma_of_pos _ _ started]
  split <;> omega

theorem exactEwma_mono_sample {larger} (shift) (started : 0 < prev) (le : sample ≤ larger) :
    exactEwma prev sample shift ≤ exactEwma prev larger shift := by
  have rising : (sample - prev) / 2 ^ shift ≤ (larger - prev) / 2 ^ shift :=
    Nat.div_le_div_right (by omega)
  have falling : (prev - larger) / 2 ^ shift ≤ (prev - sample) / 2 ^ shift :=
    Nat.div_le_div_right (by omega)
  rw [exactEwma_of_pos _ _ started, exactEwma_of_pos _ _ started]
  split <;> split <;> omega

theorem add_div_le_add_div_add (amount more divisor : ℕ) :
    (amount + more) / divisor ≤ amount / divisor + more := by
  rcases Nat.eq_zero_or_pos divisor with rfl | pos
  · simp
  · rw [Nat.div_le_iff_le_mul_add_pred pos]
    have whole := Nat.lt_mul_div_succ amount pos
    have scaled : more ≤ divisor * more := Nat.le_mul_of_pos_left _ pos
    rw [mul_add] at whole ⊢
    omega

theorem exactEwma_mono_prev {larger} (shift) (started : 0 < prev) (le : prev ≤ larger) :
    exactEwma prev sample shift ≤ exactEwma larger sample shift := by
  obtain ⟨more, rfl⟩ := Nat.exists_eq_add_of_le le
  rw [exactEwma_of_pos _ _ started, exactEwma_of_pos _ _ (by omega)]
  -- On one side of the sample, the larger average takes a step shorter by at most what it is ahead.
  have rising := add_div_le_add_div_add (sample - (prev + more)) more (2 ^ shift)
  have falling := add_div_le_add_div_add (prev - sample) more (2 ^ shift)
  by_cases short : prev + more ≤ sample
  · rw [show sample - (prev + more) + more = sample - prev by omega] at rising
    rw [if_pos short, if_pos (by omega)]
    omega
  · by_cases above : prev ≤ sample
    · rw [if_pos above, if_neg short]
      omega
    · rw [show prev - sample + more = prev + more - sample by omega] at falling
      rw [if_neg above, if_neg short]
      omega

theorem dist_exactEwma_lt (shift) (apart : prev ≠ sample) :
    Nat.dist (exactEwma prev sample shift) sample < Nat.dist prev sample := by
  rcases Nat.eq_zero_or_pos prev with rfl | started
  · rw [exactEwma, if_pos (.inl rfl), Nat.dist_self]
    unfold Nat.dist
    omega
  · have between := @exactEwma_between _ sample shift started
    have moves := exactEwma_moves shift started apart
    unfold Nat.dist
    omega

end

theorem iterate_eq_of_closer {α : Type} {step target} {distance : α → ℕ}
    (stays : step target = target)
    (closer : ∀ v, v ≠ target → distance (step v) < distance v) (v)
    {steps} (enough : distance v ≤ steps) : step^[steps] v = target := by
  induction steps generalizing v with
  | zero =>
    by_contra apart
    have := closer v apart
    omega
  | succ steps ih =>
    by_cases here : v = target
    · rw [here, Function.iterate_fixed stays]
    · have := closer v here
      exact ih (step v) (by omega)

/-- The `step` of `tsd_update_ewma`. A shift of 64 or more, undefined in C, is taken modulo 64. -/
def ewmaStep (delta shift : UInt64) : UInt64 := if delta >>> shift = 0 then 1 else delta >>> shift

theorem toNat_step (step : UInt64) : (if step = 0 then 1 else step).toNat = max 1 step.toNat := by
  split
  · next zero => rw [zero]; rfl
  · next moves =>
    have := mt Words.toNat_eq_zero.mp moves
    omega

theorem toNat_ewmaStep (delta shift) :
    (ewmaStep delta shift).toNat = max 1 (delta.toNat / 2 ^ (shift.toNat % 64)) := by
  rw [ewmaStep, toNat_step, UInt64.toNat_shiftRight, Nat.shiftRight_eq_div_pow]

/-- A step towards either value does not wrap. -/
structure ExactStep (low high shift : UInt64) : Prop where
  distance : (high - low).toNat + low.toNat = high.toNat
  rises : (low + ewmaStep (high - low) shift).toNat =
    low.toNat + (ewmaStep (high - low) shift).toNat
  falls : (high - ewmaStep (high - low) shift).toNat + (ewmaStep (high - low) shift).toNat =
    high.toNat

theorem exactStep {low high} (apart : low < high) (shift) : ExactStep low high shift := by
  have lt := UInt64.lt_iff_toNat_lt.mp apart
  have distance := UInt64.toNat_sub_of_le _ _ (UInt64.le_of_lt apart)
  -- The step is no longer than the distance.
  have short : (ewmaStep (high - low) shift).toNat ≤ high.toNat - low.toNat := by
    have := Nat.div_le_self (high.toNat - low.toNat) (2 ^ (shift.toNat % 64))
    rw [toNat_ewmaStep, distance]
    omega
  have bound := high.toNat_lt
  refine ⟨by omega, Words.toNat_add (by omega), ?_⟩
  rw [UInt64.toNat_sub_of_le _ _ (UInt64.le_iff_toNat_le.mpr (by omega))]
  omega

theorem toNat_ite_lt_left (left right : UInt64) :
    (if left < right then left else right).toNat = min left.toNat right.toNat := by
  split
  all_goals
    next order =>
      rw [UInt64.lt_iff_toNat_lt] at order
      omega

theorem toNat_ite_lt_right (left right : UInt64) :
    (if left < right then right else left).toNat = max right.toNat left.toNat := by
  split
  all_goals
    next order =>
      rw [UInt64.lt_iff_toNat_lt] at order
      omega

theorem toNat_updateEwma_mod (prev sample shift) :
    (updateEwma prev sample shift).toNat =
      exactEwma prev.toNat sample.toNat (shift.toNat % 64) := by
  by_cases starts : prev = 0 ∨ shift = 0
  · rw [updateEwma, if_pos starts, exactEwma, if_pos]
    exact starts.imp (congrArg UInt64.toNat) (congrArg (UInt64.toNat · % 64))
  have started : 0 < prev.toNat :=
    Nat.pos_of_ne_zero (mt Words.toNat_eq_zero.mp (not_or.mp starts).1)
  rw [updateEwma, if_neg starts, exactEwma_of_pos _ _ started]
  rcases lt_trichotomy prev.toNat sample.toNat with lt | same | above
  · have rises : prev < sample := UInt64.lt_iff_toNat_lt.mpr lt
    have exact := exactStep rises shift
    have distance := exact.distance
    have next := exact.rises
    have step := toNat_ewmaStep (sample - prev) shift
    rw [show (sample - prev).toNat = sample.toNat - prev.toNat by omega] at step
    rw [step] at next
    rw [if_neg (fun same => lt.ne (congrArg UInt64.toNat same.symm)), if_pos rises,
      if_pos lt.le, ← next]
    exact toNat_ite_lt_left _ _
  · rw [if_pos (UInt64.toNat_inj.mp same.symm), if_pos same.le, same]
    omega
  · have falls : sample < prev := UInt64.lt_iff_toNat_lt.mpr above
    have exact := exactStep falls shift
    have distance := exact.distance
    have next := exact.falls
    have step := toNat_ewmaStep (prev - sample) shift
    rw [show (prev - sample).toNat = prev.toNat - sample.toNat by omega] at step
    rw [step] at next
    rw [if_neg (fun same => above.ne (congrArg UInt64.toNat same)),
      if_neg (fun rises => above.not_gt (UInt64.lt_iff_toNat_lt.mp rises)), if_neg above.not_ge,
      ← Nat.eq_sub_of_add_eq next]
    exact toNat_ite_lt_right _ _

theorem toNat_updateEwma (prev sample) {shift} (small : shift.toNat < 64) :
    (updateEwma prev sample shift).toNat = exactEwma prev.toNat sample.toNat shift.toNat := by
  rw [toNat_updateEwma_mod, Nat.mod_eq_of_lt small]

theorem iterate_updateEwma (prev sample shift) {steps}
    (enough : Nat.dist prev.toNat sample.toNat ≤ steps) :
    (fun average => updateEwma average sample shift)^[steps] prev = sample := by
  refine @iterate_eq_of_closer _ _ _ (fun average => Nat.dist average.toNat sample.toNat) ?_ ?_
    prev _ enough
  · simp [updateEwma]
  · intro average apart
    rw [toNat_updateEwma_mod]
    exact dist_exactEwma_lt _ (mt UInt64.toNat_inj.mp apart)

/-- The step is between average and sample, moves an average that is not the sample, is monotone and
never wraps; a constant sample is reached and kept. -/
theorem update_ewma_approaches (sample : UInt64) :
    (∀ prev shift : UInt64, 1 ≤ prev → 1 ≤ shift → shift ≤ 63 →
      (prev ≤ updateEwma prev sample shift ∧ updateEwma prev sample shift ≤ sample ∨
        sample ≤ updateEwma prev sample shift ∧ updateEwma prev sample shift ≤ prev) ∧
      (sample ≠ prev → updateEwma prev sample shift ≠ prev) ∧
      (∀ larger, sample ≤ larger → updateEwma prev sample shift ≤ updateEwma prev larger shift) ∧
      (∀ larger, prev ≤ larger → updateEwma prev sample shift ≤ updateEwma larger sample shift) ∧
      (prev < sample → ExactStep prev sample shift) ∧
      (sample < prev → ExactStep sample prev shift)) ∧
    ∀ prev shift : UInt64, 1 ≤ sample →
      ∃ reached ≤ Nat.dist sample.toNat prev.toNat, ∀ steps ≥ reached,
        (fun average => updateEwma average sample shift)^[steps] prev = sample := by
  constructor
  · intro prev shift started _ _
    have started : 0 < prev.toNat := UInt64.le_iff_toNat_le.mp started
    simp only [UInt64.le_iff_toNat_le, ← UInt64.toNat_inj, ne_eq, toNat_updateEwma_mod]
    refine ⟨?_, ?_, ?_, ?_, (exactStep · shift), (exactStep · shift)⟩
    · have between := @exactEwma_between _ sample.toNat (shift.toNat % 64) started
      omega
    · exact fun apart => exactEwma_moves _ started (Ne.symm apart)
    · exact fun larger le => exactEwma_mono_sample _ started le
    · exact fun larger le => exactEwma_mono_prev _ started le
  · intro prev shift _
    refine ⟨Nat.dist prev.toNat sample.toNat, (Nat.dist_comm _ _).le, fun steps enough => ?_⟩
    exact iterate_updateEwma prev sample shift enough

theorem update_ewma_approaches_sixteenths :
    (∃ reached ≤ 60, ∀ steps ≥ reached,
      (fun average => updateEwma average 160 4)^[steps] 100 = 160) ∧
    updateEwma 100 160 4 = 103 ∧ updateEwma 100 160 4 ≤ updateEwma 110 160 4 := by
  have sound := update_ewma_approaches 160
  refine ⟨sound.2 100 4 (by decide), by decide, ?_⟩
  exact (sound.1 100 4 (by decide) (by decide) (by decide)).2.2.2.1 110 (by decide)

end ThermalSimd
