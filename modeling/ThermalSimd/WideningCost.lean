import ThermalSimd.CoefficientFile
import ThermalSimd.HotterForecasts

/-!
# Widening is never cooling

No coefficient file, read or refused, makes the effect of a width step on the temperature negative;
so a wider width is projected to be at least as hot at every step, and every part of the thermal
cost grows with the projection.
-/

namespace ThermalSimd
namespace Policy

open CText

theorem hardLimitJump_mono (limit) : Monotone (hardLimitJump limit) := by
  intro narrow _ ordered
  have nonneg : 0 ≤ kHardConstraintCost := by norm_num [kHardConstraintCost]
  unfold hardLimitJump
  by_cases above : limit < narrow
  · rw [if_pos above, if_pos (above.trans_le ordered)]
  · rw [if_neg above]
    split
    · exact nonneg
    · exact le_refl _

theorem hardLimitCost_mono (limit) : Monotone (MpcController.hardLimitCost limit) := by
  intro _ _ ordered
  rw [hardLimitCost_eq, hardLimitCost_eq]
  exact add_le_add (hardLimitJump_mono limit ordered) (Choice.excess_mono limit ordered)

theorem unlimitedCost_mono : Monotone MpcController.unlimitedCost := by
  intro narrow _ ordered
  have nonneg : 0 ≤ kHardConstraintCost := by norm_num [kHardConstraintCost]
  unfold MpcController.unlimitedCost
  by_cases above : .sse41 < narrow
  · rw [if_pos above, if_pos (above.trans_le ordered)]
  · rw [if_neg above]
    split
    · exact nonneg
    · exact le_refl _

namespace MpcController

variable (controller : MpcController)

theorem sloTempCost_mono : Monotone controller.sloTempCost := by
  intro _ _ ordered
  have weight : 0 ≤ kTemperatureWeight := by norm_num [kTemperatureWeight]
  rw [sloTempCost_eq, sloTempCost_eq]
  split
  · exact mul_le_mul_of_nonneg_right (Choice.excess_mono _ ordered) weight
  · exact le_refl _

variable (cfg : RuntimeConfig) (candidate current : SimdWidth) (forecast : Forecast)

theorem tempCost_mono (step) :
    Monotone fun candidate => controller.tempCost cfg candidate current forecast step := by
  intro narrow wide ordered
  dsimp only [tempCost]
  cases forecast.temp with
  | none =>
    cases hardLimit cfg with
    | none => exact unlimitedCost_mono ordered
    | some limit => exact le_refl _
  | some temp =>
    have hotter : controller.tempProjection narrow current temp step ≤
        controller.tempProjection wide current temp step := tempProjection_le ordered temp step
    cases hardLimit cfg with
    | none => exact add_le_add (controller.sloTempCost_mono hotter) (unlimitedCost_mono ordered)
    | some limit =>
      exact add_le_add (controller.sloTempCost_mono hotter) (hardLimitCost_mono limit hotter)

/-- The thermal part of `scoreWidth`. -/
def thermalCost : ℚ :=
  (Choice.rollout kHorizonDiscount (controller.tempCost cfg candidate current forecast)
    (max 1 forecast.horizon)).1

/-- The part of `scoreWidth` that comes from the ratio. -/
def performanceCost : ℚ :=
  (Choice.rollout kHorizonDiscount (controller.ratioCost cfg candidate current forecast)
    (max 1 forecast.horizon)).1

theorem scoreWidth_eq : controller.scoreWidth cfg candidate current forecast =
    controller.performanceCost cfg candidate current forecast +
      controller.thermalCost cfg candidate current forecast +
      controller.transitionPenalty candidate current := by
  rw [scoreWidth, performanceCost, thermalCost, Choice.rollout_add]

theorem thermalCost_mono :
    Monotone fun candidate => controller.thermalCost cfg candidate current forecast := by
  intro _ _ ordered
  have discount : 0 ≤ kHorizonDiscount := by norm_num [kHorizonDiscount]
  exact Choice.rollout_le discount
    (fun step => controller.tempCost_mono cfg current forecast step ordered) _

/-- A controller that has loaded its coefficients and reloaded them any number of times. -/
def afterLoads (floats : Floats) (config : PolicyConfig) (first : Option (List Char))
    (reloads : List (Option (List Char))) : MpcController :=
  reloads.foldl
    (fun controller content => (controller.loadCoefficients (readFile floats content)).1)
    (create config (readFile floats first))

/-- Whatever was loaded, and whatever the forecast, a wider width has at least the thermal cost of a
narrower one, at every step and in all. -/
theorem widening_never_cools (floats : Floats) (config : PolicyConfig) (first : Option (List Char))
    (reloads : List (Option (List Char))) (history : List TelemetrySample) (cfg : RuntimeConfig)
    (current : SimdWidth) (forecast : Forecast) {narrow wide : SimdWidth}
    (ordered : narrow ≤ wide) :
    let controller := { afterLoads floats config first reloads with history }
    (∀ candidate, controller.scoreWidth cfg candidate current forecast =
      controller.performanceCost cfg candidate current forecast +
        controller.thermalCost cfg candidate current forecast +
        controller.transitionPenalty candidate current) ∧
    (∀ step, controller.tempCost cfg narrow current forecast step ≤
      controller.tempCost cfg wide current forecast step) ∧
    controller.thermalCost cfg narrow current forecast ≤
      controller.thermalCost cfg wide current forecast := by
  intro controller
  refine ⟨fun candidate => controller.scoreWidth_eq cfg candidate current forecast,
    fun step => ?_, ?_⟩
  · exact controller.tempCost_mono cfg current forecast step ordered
  · exact controller.thermalCost_mono cfg current forecast ordered

end MpcController

/-- A file that makes every width step three degrees warmer. -/
def warmFile : List Char :=
  "\x7b\"bias\":1,\"ar_temperature\":[1],\"width_temperature_millic_per_step\":3000\x7d".toList

def reloadedController : MpcController :=
  .afterLoads .binary64 informedPolicy.controller.config none [some [], some warmFile, none]

/-- One of three reloads succeeds. -/
theorem reloaded_widening_never_cools :
    reloadedController.arxModel.coefficients.widthTemperatureMillicPerStep = 3000 ∧
      reloadedController.thermalCost .setDefaults .sse41 .avx2 (slowedForecast 91500) ≤
        reloadedController.thermalCost .setDefaults .avx512 .avx2 (slowedForecast 91500) :=
  ⟨by decide +kernel, (MpcController.widening_never_cools .binary64 informedPolicy.controller.config
    none [some [], some warmFile, none] [] .setDefaults .avx2 (slowedForecast 91500)
    (show SimdWidth.sse41 ≤ .avx512 by decide)).2.2⟩

end Policy
end ThermalSimd
