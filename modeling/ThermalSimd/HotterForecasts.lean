import ThermalSimd.PolicyGates

/-!
# Hotter forecasts

Above the objective and the hard limit a degree costs the same for every width, and the wider of two
widths is above them first; so a hotter forecast takes from its advantage, except where the fixed
cost of exceeding the hard limit becomes common to both.
-/

namespace ThermalSimd

namespace Policy

def hardLimitJump (limit projection : ℚ) : ℚ :=
  if limit < projection then kHardConstraintCost else 0

theorem hardLimitCost_eq (limit projection) : MpcController.hardLimitCost limit projection =
    hardLimitJump limit projection + Choice.excess limit projection := by
  unfold MpcController.hardLimitCost hardLimitJump Choice.excess
  split
  · next _ => rw [max_eq_right (by linarith)]
  · next _ => rw [max_eq_left (by linarith), add_zero]

theorem hardLimitJump_sub_le {limit narrow wide shift} (ordered : narrow ≤ wide)
    (hotter : 0 ≤ shift) :
    hardLimitJump limit (narrow + shift) - hardLimitJump limit (wide + shift) ≤
      hardLimitJump limit narrow - hardLimitJump limit wide +
        if narrow ≤ limit ∧ limit < wide ∧ limit < narrow + shift then kHardConstraintCost
        else 0 := by
  have pos : 0 < kHardConstraintCost := by norm_num [kHardConstraintCost]
  unfold hardLimitJump
  by_cases wideBefore : limit < wide
  · have wideNow : limit < wide + shift := by linarith
    by_cases narrowBefore : limit < narrow
    · have narrowNow : limit < narrow + shift := by linarith
      rw [if_pos narrowNow, if_pos wideNow, if_pos narrowBefore, if_pos wideBefore,
        if_neg fun caught => narrowBefore.not_ge caught.1, add_zero]
    · by_cases narrowNow : limit < narrow + shift
      · rw [if_pos narrowNow, if_pos wideNow, if_neg narrowBefore, if_pos wideBefore,
          if_pos ⟨not_lt.mp narrowBefore, wideBefore, narrowNow⟩]
        linarith
      · rw [if_neg narrowNow, if_pos wideNow, if_neg narrowBefore, if_pos wideBefore,
          if_neg fun caught => narrowNow caught.2.2, add_zero]
  · have narrowBefore : ¬ limit < narrow := fun above => wideBefore (above.trans_le ordered)
    have apart : ¬ (narrow ≤ limit ∧ limit < wide ∧ limit < narrow + shift) :=
      fun caught => wideBefore caught.2.1
    rw [if_neg wideBefore, if_neg narrowBefore, if_neg apart, sub_self, add_zero]
    by_cases narrowNow : limit < narrow + shift
    · rw [if_pos narrowNow, if_pos (by linarith : limit < wide + shift), sub_self]
    · rw [if_neg narrowNow]
      split <;> linarith

namespace MpcController

variable (controller : MpcController)

theorem sloTempCost_eq (projection) : controller.sloTempCost projection =
    if controller.config.sloTempMillic ≠ 0 then
      Choice.excess (controller.config.sloTempMillic : ℚ) projection * kTemperatureWeight
    else 0 := by
  unfold sloTempCost Choice.excess
  by_cases limited : controller.config.sloTempMillic ≠ 0
  · rw [if_pos limited]
    split
    · next above => rw [max_eq_right above.2.le]
    · next within => rw [max_eq_left (not_lt.mp fun above => within ⟨limited, above⟩), zero_mul]
  · rw [if_neg limited, if_neg fun both => limited both.1]

theorem sloTempCost_sub_le {narrow wide shift} (ordered : narrow ≤ wide) (hotter : 0 ≤ shift) :
    controller.sloTempCost (narrow + shift) - controller.sloTempCost (wide + shift) ≤
      controller.sloTempCost narrow - controller.sloTempCost wide := by
  have weight : 0 ≤ kTemperatureWeight := by norm_num [kTemperatureWeight]
  simp only [sloTempCost_eq]
  split
  · rw [← sub_mul, ← sub_mul]
    exact mul_le_mul_of_nonneg_right (Choice.excess_sub_le ordered hotter) weight
  · exact le_refl _

/-- Only the wider width exceeds the limit in the cooler forecast, both in the hotter one. -/
def CatchesUp (cfg : RuntimeConfig) (current narrow wide : SimdWidth) (cool hot : ℚ) (step : ℕ) :
    Prop :=
  controller.tempProjection narrow current cool step ≤ cfg.predictiveTempCeilingC * 1000 ∧
    (cfg.predictiveTempCeilingC * 1000 : ℚ) < controller.tempProjection wide current cool step ∧
    (cfg.predictiveTempCeilingC * 1000 : ℚ) < controller.tempProjection narrow current hot step
  deriving Decidable

variable {controller} {cfg : RuntimeConfig} {current narrow wide : SimdWidth} {cool hot : ℚ}

theorem tempProjection_le (ordered : narrow ≤ wide) (temp step) :
    controller.tempProjection narrow current temp step ≤
      controller.tempProjection wide current temp step := by
  have effect := controller.arxModel.coefficients.widthTemperature_nonneg
  have steps : (controlStep narrow current : ℚ) ≤ controlStep wide current :=
    Int.cast_le.mpr (sub_le_sub_right (Int.ofNat_le.mpr ordered) _)
  have scaled := mul_le_mul_of_nonneg_right steps effect
  have nonneg : 0 ≤ response step := sub_nonneg.mpr (pow_le_one₀ (by norm_num) (by norm_num))
  exact add_le_add_right (mul_le_mul_of_nonneg_right scaled nonneg) temp

theorem tempProjection_shift (candidate step) :
    controller.tempProjection candidate current hot step =
      controller.tempProjection candidate current cool step + (hot - cool) := by
  unfold tempProjection
  ring

section

variable (valid : 20 ≤ cfg.predictiveTempCeilingC ∧ cfg.predictiveTempCeilingC ≤ 125)
include valid

theorem tempCost_eq
    (candidate) (forecast : Forecast) (temp step) :
    controller.tempCost cfg candidate current { forecast with temp := some temp } step =
      controller.sloTempCost (controller.tempProjection candidate current temp step) +
        hardLimitCost (cfg.predictiveTempCeilingC * 1000)
          (controller.tempProjection candidate current temp step) := by
  have limit : hardLimit cfg = some (cfg.predictiveTempCeilingC * 1000 : ℚ) := if_pos valid
  rw [tempCost, limit]

theorem tempCost_sub_le
    (ordered : narrow ≤ wide) (hotter : cool ≤ hot) (forecast : Forecast) (step) :
    controller.tempCost cfg narrow current { forecast with temp := some hot } step -
        controller.tempCost cfg wide current { forecast with temp := some hot } step ≤
      controller.tempCost cfg narrow current { forecast with temp := some cool } step -
          controller.tempCost cfg wide current { forecast with temp := some cool } step +
        if controller.CatchesUp cfg current narrow wide cool hot step then kHardConstraintCost
        else 0 := by
  have projections : controller.tempProjection narrow current cool step ≤
      controller.tempProjection wide current cool step := tempProjection_le ordered cool step
  have raised : 0 ≤ hot - cool := sub_nonneg.mpr hotter
  have objective := controller.sloTempCost_sub_le projections raised
  have limit := @Choice.excess_sub_le _ _ _ _ (cfg.predictiveTempCeilingC * 1000 : ℚ) _ _ _
    projections raised
  have jump := @hardLimitJump_sub_le (cfg.predictiveTempCeilingC * 1000) _ _ _ projections raised
  simp only [tempCost_eq valid, hardLimitCost_eq, CatchesUp,
    @tempProjection_shift controller current cool hot]
  linarith

theorem scoreWidth_sub_le
    (ordered : narrow ≤ wide) (hotter : cool ≤ hot) (forecast : Forecast) :
    controller.scoreWidth cfg narrow current { forecast with temp := some hot } -
        controller.scoreWidth cfg wide current { forecast with temp := some hot } ≤
      controller.scoreWidth cfg narrow current { forecast with temp := some cool } -
          controller.scoreWidth cfg wide current { forecast with temp := some cool } +
        ∑ step ∈ Finset.range (max 1 forecast.horizon), kHorizonDiscount ^ step *
          if controller.CatchesUp cfg current narrow wide cool hot (step + 1)
          then kHardConstraintCost else 0 := by
  let stepCost (candidate) (temp) (step) : ℚ :=
    controller.ratioCost cfg candidate current forecast step +
      controller.tempCost cfg candidate current { forecast with temp := some temp } step
  have score : ∀ candidate temp,
      controller.scoreWidth cfg candidate current { forecast with temp := some temp } =
        (Choice.rollout kHorizonDiscount (stepCost candidate temp) (max 1 forecast.horizon)).1 +
          controller.transitionPenalty candidate current := fun _ _ => rfl
  -- The narrower width when hot and the wider when cool, against the other two.
  have crossed := @Choice.rollout_sub_le ℚ _ _ _ kHorizonDiscount (by norm_num [kHorizonDiscount])
    (fun step => stepCost narrow hot step + stepCost wide cool step)
    (fun step => stepCost wide hot step + stepCost narrow cool step)
    (fun step => if controller.CatchesUp cfg current narrow wide cool hot (step + 1) then
      kHardConstraintCost else 0) (max 1 forecast.horizon) fun step _ => by
        have thermal :=
          @tempCost_sub_le controller cfg current _ _ _ _ valid ordered hotter forecast
          (step + 1)
        linarith
  rw [← Choice.rollout_add kHorizonDiscount (stepCost narrow hot) (stepCost wide cool),
    ← Choice.rollout_add kHorizonDiscount (stepCost wide hot) (stepCost narrow cool)] at crossed
  simp only [score]
  linarith

theorem scoreWidth_sub_le_of_apart
    (ordered : narrow ≤ wide) (hotter : cool ≤ hot) (forecast : Forecast)
    (apart : ∀ step < max 1 forecast.horizon,
      ¬ controller.CatchesUp cfg current narrow wide cool hot (step + 1)) :
    controller.scoreWidth cfg narrow current { forecast with temp := some hot } -
        controller.scoreWidth cfg wide current { forecast with temp := some hot } ≤
      controller.scoreWidth cfg narrow current { forecast with temp := some cool } -
        controller.scoreWidth cfg wide current { forecast with temp := some cool } := by
  refine (scoreWidth_sub_le valid ordered hotter forecast).trans (le_of_eq ?_)
  rw [Finset.sum_eq_zero, add_zero]
  intro step within
  rw [if_neg (apart step (Finset.mem_range.mp within)), mul_zero]

end

/-- A hotter forecast favours a wider width only where a narrower one catches up at the hard limit:
else the wider one's advantage does not grow. -/
theorem hotter_forecast_favours_narrower (controller : MpcController)
    (valid : 20 ≤ cfg.predictiveTempCeilingC ∧ cfg.predictiveTempCeilingC ≤ 125)
    (current : SimdWidth) (forecast : Forecast) (hotter : cool ≤ hot) :
    let score (temp : ℚ) (width : SimdWidth) : ℚ :=
      controller.scoreWidth cfg width current { forecast with temp := some temp }
    let Apart (narrow wide : SimdWidth) : Prop := ∀ step < max 1 forecast.horizon,
      ¬ controller.CatchesUp cfg current narrow wide cool hot (step + 1)
    (∀ narrow wide, narrow < wide →
      (Apart narrow wide →
        score hot narrow - score hot wide ≤ score cool narrow - score cool wide) ∧
        score hot narrow - score hot wide ≤ score cool narrow - score cool wide +
          ∑ step ∈ Finset.range (max 1 forecast.horizon), kHorizonDiscount ^ step *
            if controller.CatchesUp cfg current narrow wide cool hot (step + 1) then
              kHardConstraintCost
            else 0) ∧
      ∀ (among : Set SimdWidth), ∀ before ∈ among, ∀ after ∈ among,
        IsMinOn (score cool) among before → IsMinOn (score hot) among after → Apart before after →
          after ≤ before ∨ IsMinOn (score hot) among before ∧ IsMinOn (score cool) among after := by
  refine ⟨fun narrow wide ordered => ⟨fun apart => ?_, ?_⟩,
    fun among before beforeMem after afterMem coolest hottest apart => ?_⟩
  · exact scoreWidth_sub_le_of_apart valid ordered.le hotter forecast apart
  · exact scoreWidth_sub_le valid ordered.le hotter forecast
  · refine (le_or_gt after before).imp_right fun wider => ?_
    exact Choice.minimisers_ordered beforeMem afterMem coolest hottest
      (scoreWidth_sub_le_of_apart valid wider.le hotter forecast apart)

end MpcController

def slowedForecast (temp : ℚ) : Forecast := ⟨1, 3000, 0, some temp⟩

def slowedScore (temp : ℚ) (width : SimdWidth) : ℚ :=
  informedPolicy.controller.scoreWidth .setDefaults width .sse41 (slowedForecast temp)

theorem warm_forecast_favours_narrower :
    slowedScore 90000 .sse41 - slowedScore 90000 .avx2 ≤
      slowedScore 80000 .sse41 - slowedScore 80000 .avx2 := by
  have ordered := MpcController.hotter_forecast_favours_narrower informedPolicy.controller
    (show 20 ≤ RuntimeConfig.setDefaults.predictiveTempCeilingC ∧ _ by decide) .sse41
    (slowedForecast 0) (show (80000 : ℚ) ≤ 90000 by norm_num)
  refine (ordered.1 .sse41 .avx2 (by decide)).1 fun step first => ?_
  obtain rfl : step = 0 := Nat.lt_one_iff.mp first
  decide +kernel

/-- With a ceiling of 92 degrees, SSE4.1 is cheapest at a forecast of 91.5 and AVX2 at 92.5. -/
theorem forecast_above_limit_favours_wider :
    (∀ width ≠ .sse41, slowedScore 91500 .sse41 < slowedScore 91500 width) ∧
      (∀ width ≠ .avx2, slowedScore 92500 .avx2 < slowedScore 92500 width) ∧
      slowedScore 91500 .sse41 - slowedScore 91500 .avx2 <
        slowedScore 92500 .sse41 - slowedScore 92500 .avx2 := by
  refine ⟨fun width other => ?_, fun width other => ?_, by decide +kernel⟩
  · cases width with
    | sse41 => exact absurd rfl other
    | avx2 | avx512 => decide +kernel
  · cases width with
    | sse41 | avx512 => decide +kernel
    | avx2 => exact absurd rfl other

end Policy

end ThermalSimd
