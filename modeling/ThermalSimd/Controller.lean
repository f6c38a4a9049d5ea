import ThermalSimd.Choice
import ThermalSimd.Policy

/-!
# The predictive controller

`arx_model.cpp` and `mpc_controller.cpp` in exact rational arithmetic. The coefficient file's
contents, the clock and the active configuration are arguments of the calls that read them.
-/

namespace ThermalSimd

/-- `tsd_policy_config_set_defaults`. -/
def PolicyConfig.setDefaults : PolicyConfig where
  sloRatioMilli := 1500
  sloTempMillic := 85000
  transitionPenaltyUpMilli := 750
  transitionPenaltyDownMilli := 1000
  forecastHorizon := 5

namespace Policy

/-- An entry of the controller's history. -/
structure TelemetrySample where
  ratioMilli : ℚ
  trimmedRatioMilli : ℚ
  severityMilli : ℚ
  temperatureMillic : ℚ
  tempValid : Bool
  timestamp : ℤ

def TelemetrySample.forecastRatio (sample : TelemetrySample) : ℚ :=
  if 0 < sample.trimmedRatioMilli then sample.trimmedRatioMilli else sample.ratioMilli

/-- What `ARXModel::parseContent` stores.  It rejects negative width coefficients. -/
structure Coefficients where
  bias : ℚ
  temperatureCoeffs : List ℚ
  ratioCoeffs : List ℚ
  severityCoeffs : List ℚ
  trimmedRatioCoeffs : List ℚ
  /-- `ma_coefficient_`, where `ma_enabled_`. -/
  maCoefficient : Option ℚ
  stalenessWindowMs : ℕ
  widthTemperatureMillicPerStep : ℚ
  widthPerformanceBenefitMilliPerStep : ℚ
  widthTemperature_nonneg : 0 ≤ widthTemperatureMillicPerStep
  widthPerformanceBenefit_nonneg : 0 ≤ widthPerformanceBenefitMilliPerStep

/-- The values of a new `ARXModel`. -/
def Coefficients.initial : Coefficients where
  bias := 0
  temperatureCoeffs := []
  ratioCoeffs := []
  severityCoeffs := []
  trimmedRatioCoeffs := []
  maCoefficient := none
  stalenessWindowMs := 500
  widthTemperatureMillicPerStep := 2000
  widthPerformanceBenefitMilliPerStep := 100
  widthTemperature_nonneg := by norm_num
  widthPerformanceBenefit_nonneg := by norm_num

/-- `ARXModel`. -/
structure ArxModel where
  coefficients : Coefficients
  /-- `last_residual_`, while `residual_valid_`. -/
  lastResidual : Option ℚ
  coefficientsLoaded : Bool
  requiredHistory : ℕ

namespace ArxModel

def initial : ArxModel := ⟨.initial, none, false, 1⟩

/-- `loadFromFile`; a file that cannot be read or parsed changes nothing. -/
def loadFromFile (model : ArxModel) : Option Coefficients → ArxModel
  | none => { model with coefficientsLoaded := false }
  | some coefficients =>
    { coefficients
      lastResidual := none
      coefficientsLoaded := true
      requiredHistory :=
        max (max (max (max 1 coefficients.temperatureCoeffs.length)
          coefficients.ratioCoeffs.length) coefficients.severityCoeffs.length)
          coefficients.trimmedRatioCoeffs.length }

def weightedSum (coeffs values : List ℚ) : ℚ := (List.zipWith (· * ·) coeffs values).sum

/-- `predict`, where it succeeds; the history is oldest first. -/
def predict (model : ArxModel) (history : List TelemetrySample) : Option ℚ :=
  if model.coefficientsLoaded = false ∨ history.length < model.requiredHistory then none
  else
    let latest := history.reverse
    let coefficients := model.coefficients
    let used := latest.take coefficients.temperatureCoeffs.length
    if coefficients.temperatureCoeffs = [] ∨ used.any (fun sample => !sample.tempValid) then none
    else
      let prediction := coefficients.bias +
        weightedSum coefficients.temperatureCoeffs (latest.map (·.temperatureMillic)) +
        weightedSum coefficients.ratioCoeffs (latest.map (·.forecastRatio)) +
        weightedSum coefficients.severityCoeffs (latest.map (·.severityMilli)) +
        weightedSum coefficients.trimmedRatioCoeffs (latest.map (·.trimmedRatioMilli))
      match coefficients.maCoefficient, model.lastResidual with
      | some ma, some residual => some (prediction + ma * residual)
      | _, _ => some prediction

end ArxModel

/-- `kMinImprovement`. -/
def kMinImprovement : ℚ := 1

/-- `kDefaultRatioTrendWeight`. -/
def kDefaultRatioTrendWeight : ℚ := 1 / 4

/-- `kRatioViolationWeight`. -/
def kRatioViolationWeight : ℚ := 4

/-- `kRatioEfficiencyWeight`. -/
def kRatioEfficiencyWeight : ℚ := 1 / 20

/-- `kTemperatureWeight`. -/
def kTemperatureWeight : ℚ := 1 / 4

/-- `kStabilityMargin`. -/
def kStabilityMargin : ℚ := 1 / 4

/-- `kHorizonDiscount`. -/
def kHorizonDiscount : ℚ := 9 / 10

/-- `kHardConstraintCost`. -/
def kHardConstraintCost : ℚ := 1000000000

/-- `kDefaultStalenessWindow`, in milliseconds. -/
def kDefaultStalenessWindow : ℤ := 500

/-- `runtimeTrendWeight`. -/
def runtimeTrendWeight (cfg : RuntimeConfig) : ℚ :=
  match cfg.predictiveAlpha with
  | .finite alpha => if alpha < 0 ∨ 1 < alpha then kDefaultRatioTrendWeight else alpha
  | .nonfinite => kDefaultRatioTrendWeight

def hardLimit (cfg : RuntimeConfig) : Option ℚ :=
  if 20 ≤ cfg.predictiveTempCeilingC ∧ cfg.predictiveTempCeilingC ≤ 125 then
    some (cfg.predictiveTempCeilingC * 1000)
  else none

def response (step : ℕ) : ℚ := 1 - (1 / 2) ^ step

def controlStep (candidate current : SimdWidth) : ℤ := candidate.toInt - current.toInt

/-- What `recommend` forecasts once for all candidates. -/
structure Forecast where
  horizon : ℕ
  ratio : ℚ
  ratioTrend : ℚ
  temp : Option ℚ

/-- `MPCController`, without its coefficient path. -/
structure MpcController where
  config : PolicyConfig
  history : List TelemetrySample
  arxModel : ArxModel
  stalenessWindow : ℤ
  /-- `last_prediction_millic_`, while `last_prediction_valid_`. -/
  lastPrediction : Option ℚ
  historyLimit : ℕ

namespace MpcController

variable (controller : MpcController)

/-- `loadCoefficients`, with what the coefficient file yields. -/
def loadCoefficients (parsed : Option Coefficients) : MpcController × Bool :=
  let arxModel := controller.arxModel.loadFromFile parsed
  match parsed with
  | none =>
    ({ controller with
      arxModel
      stalenessWindow := kDefaultStalenessWindow
      historyLimit := max 1 controller.config.forecastHorizon }, false)
  | some coefficients =>
    -- A window of `2 ^ 63` milliseconds or more is negative as a `long long`.
    ({ controller with
      arxModel := { arxModel with lastResidual := none }
      stalenessWindow :=
        if 0 < coefficients.stalenessWindowMs ∧ coefficients.stalenessWindowMs < 2 ^ 63 then
          coefficients.stalenessWindowMs
        else kDefaultStalenessWindow
      historyLimit := max (max 1 controller.config.forecastHorizon) arxModel.requiredHistory },
      true)

/-- `reset`. -/
def reset (config : PolicyConfig) (parsed : Option Coefficients) : MpcController :=
  (loadCoefficients
    { config
      history := []
      arxModel := { controller.arxModel with lastResidual := none }
      stalenessWindow := kDefaultStalenessWindow
      lastPrediction := none
      historyLimit := max 1 config.forecastHorizon } parsed).1

/-- `MPCController(config)`. -/
def create (config : PolicyConfig) (parsed : Option Coefficients) : MpcController :=
  reset ⟨config, [], .initial, kDefaultStalenessWindow, none, 0⟩ config parsed

/-- `pushSample`. -/
def pushSample (eval : ThermalEval) (now : ℤ) : MpcController :=
  let tempValid := eval.telemetry.filteredTempAvailable || eval.telemetry.tempAvailable
  let temp : ℚ :=
    if eval.telemetry.filteredTempAvailable then eval.telemetry.filteredPackageTempMillic
    else eval.telemetry.packageTempMillic
  let arxModel :=
    match controller.lastPrediction with
    | some prediction =>
      if tempValid then { controller.arxModel with lastResidual := some (temp - prediction) }
      else controller.arxModel
    | none => controller.arxModel
  let history := controller.history ++
    [⟨eval.ratioMilli.toNat, eval.trimmedRatioMilli.toNat, eval.severityMilli.toNat, temp,
      tempValid, now⟩]
  let limit :=
    if controller.historyLimit = 0 then max 1 controller.config.forecastHorizon
    else controller.historyLimit
  { controller with
    arxModel
    lastPrediction := none
    history := history.drop (history.length - limit) }

def recent (count : ℕ) : List TelemetrySample :=
  controller.history.drop (controller.history.length - count)

/-- `computeForecastRatio`. -/
def computeForecastRatio (horizon : ℕ) : ℚ :=
  let recent := controller.recent horizon
  if recent = [] then 0 else (recent.map (·.forecastRatio)).sum / recent.length

/-- With whether it used the model; none where no temperature is valid. -/
def computeForecastTemperature (horizon : ℕ) : Option ℚ × Bool :=
  match controller.history.getLast? with
  | none => (none, false)
  | some latest =>
    if horizon = 0 then (none, false)
    else
      match controller.arxModel.predict controller.history with
      | some prediction =>
        (some (if latest.tempValid then max prediction latest.temperatureMillic else prediction),
          true)
      | none =>
        let valid := (controller.recent horizon).filter (·.tempValid)
        (if valid = [] then none
          else some ((valid.map (·.temperatureMillic)).sum / valid.length), false)

/-- The slope of the ratios of the last `horizon` entries. -/
def ratioTrend (horizon : ℕ) : ℚ :=
  match controller.recent horizon, controller.history.getLast? with
  | first :: _, some last =>
    if 1 < horizon then (last.ratioMilli - first.ratioMilli) / (horizon - 1) else 0
  | _, _ => 0

/-- The forecasts of `recommend`. -/
def forecast : Forecast :=
  let horizon := min controller.history.length controller.config.forecastHorizon
  { horizon
    ratio := controller.computeForecastRatio horizon
    ratioTrend := controller.ratioTrend horizon
    temp := (controller.computeForecastTemperature horizon).1 }

variable (cfg : RuntimeConfig) (candidate current : SimdWidth) (forecast : Forecast)

/-- `ratio_projection` at a step of the rollout. -/
def ratioProjection (step : ℕ) : ℚ :=
  max 0 (forecast.ratio + forecast.ratioTrend * runtimeTrendWeight cfg * step -
    controlStep candidate current *
      controller.arxModel.coefficients.widthPerformanceBenefitMilliPerStep * response step)

/-- `ratio_cost` at a step of the rollout. -/
def ratioCost (step : ℕ) : ℚ :=
  let projection := controller.ratioProjection cfg candidate current forecast step
  max 0 (projection - controller.config.sloRatioMilli) * kRatioViolationWeight +
    projection * kRatioEfficiencyWeight

/-- `temp_projection` at a step of the rollout. -/
def tempProjection (temp : ℚ) (step : ℕ) : ℚ :=
  temp + controlStep candidate current *
    controller.arxModel.coefficients.widthTemperatureMillicPerStep * response step

def sloTempCost (projection : ℚ) : ℚ :=
  if controller.config.sloTempMillic ≠ 0 ∧ 0 < projection - controller.config.sloTempMillic then
    (projection - controller.config.sloTempMillic) * kTemperatureWeight
  else 0

def hardLimitCost (limit projection : ℚ) : ℚ :=
  if limit < projection then kHardConstraintCost + (projection - limit) else 0

def unlimitedCost : ℚ := if .sse41 < candidate then kHardConstraintCost else 0

/-- `temp_cost` at a step of the rollout. -/
def tempCost (step : ℕ) : ℚ :=
  match forecast.temp, hardLimit cfg with
  | some temp, some limit =>
    let projection := controller.tempProjection candidate current temp step
    controller.sloTempCost projection + hardLimitCost limit projection
  | some temp, none =>
    controller.sloTempCost (controller.tempProjection candidate current temp step) +
      unlimitedCost candidate
  | none, some _ => 0
  | none, none => unlimitedCost candidate

def transitionPenalty : ℚ :=
  if candidate ≠ current then
    (if candidate < current then controller.config.transitionPenaltyDownMilli
      else controller.config.transitionPenaltyUpMilli : ℕ) * |controlStep candidate current|
  else 0

/-- `scoreWidth`. -/
def scoreWidth : ℚ :=
  (Choice.rollout kHorizonDiscount
    (fun step => controller.ratioCost cfg candidate current forecast step +
      controller.tempCost cfg candidate current forecast step) (max 1 forecast.horizon)).1 +
    controller.transitionPenalty candidate current

/-- The cost of a candidate in a call of `recommend`. -/
def widthCost : ℚ := controller.scoreWidth cfg candidate current controller.forecast

variable (maxWidth : SimdWidth) (now : ℤ)

/-- There are samples and a horizon, and the latest sample is not stale. -/
def Usable : Prop :=
  controller.config.forecastHorizon ≠ 0 ∧ ∃ latest ∈ controller.history.getLast?,
    (now - latest.timestamp).tdiv 1000000 ≤ controller.stalenessWindow

instance : Decidable (controller.Usable now) := by
  unfold Usable
  cases controller.history.getLast? with
  | none => exact .isFalse fun usable => by simp at usable
  | some latest =>
    exact decidable_of_iff (controller.config.forecastHorizon ≠ 0 ∧
      (now - latest.timestamp).tdiv 1000000 ≤ controller.stalenessWindow) (by simp)

def bestWidth : SimdWidth :=
  (Choice.scan (fun candidate => controller.widthCost cfg candidate current)
    kStabilityMargin current ([current, .sse41, .avx2, .avx512].filter (· ≤ maxWidth))).1

/-- `recommend`: the controller it leaves and the target, if it recommends one. -/
def recommend : MpcController × Option SimdWidth :=
  if controller.Usable now then
    let (temp, usedModel) := controller.computeForecastTemperature controller.forecast.horizon
    let left := { controller with lastPrediction := if usedModel then temp else none }
    let best := controller.bestWidth cfg current maxWidth
    if best = current then (left, none)
    -- Another width has been evaluated, so that `best_cost` is its cost.
    else if controller.widthCost cfg current current - controller.widthCost cfg best current <
        kMinImprovement then (left, none)
    else (left, some best)
  else (controller, none)

variable {controller cfg current maxWidth now}

theorem of_recommend {target}
    (recommends : (controller.recommend cfg current maxWidth now).2 = some target) :
    target = controller.bestWidth cfg current maxWidth ∧ target ≠ current ∧
      controller.widthCost cfg target current + kMinImprovement ≤
        controller.widthCost cfg current current := by
  unfold recommend at recommends
  split at recommends
  · dsimp only at recommends
    split at recommends
    · cases recommends
    · next other =>
        split at recommends
        · cases recommends
        · next _ =>
            cases recommends
            exact ⟨rfl, other, by linarith⟩
  · cases recommends

theorem bestWidth_spec (within : current ≤ maxWidth) :
    controller.bestWidth cfg current maxWidth ≤ maxWidth ∧
      ∀ width ≤ maxWidth,
        controller.widthCost cfg (controller.bestWidth cfg current maxWidth) current ≤
          controller.widthCost cfg width current + kStabilityMargin := by
  have margin : (0 : ℚ) ≤ kStabilityMargin := by norm_num [kStabilityMargin]
  have best : Choice.Best (fun width => controller.widthCost cfg width current) kStabilityMargin
      current _ _ :=
    Choice.best_scan margin current current ([.sse41, .avx2, .avx512].filter (· ≤ maxWidth))
  rw [← List.filter_cons_of_pos (p := (· ≤ maxWidth)) (decide_eq_true within)] at best
  refine ⟨of_decide_eq_true (List.mem_filter.mp best.mem).2, fun width fits => ?_⟩
  refine best.le_add width (List.mem_filter.mpr ⟨?_, decide_eq_true fits⟩)
  exact List.mem_cons_of_mem _ (by cases width <;> decide)

variable (controller cfg current maxWidth now)

def evaluated (candidates : List SimdWidth) : SimdWidth × WithTop ℚ :=
  Choice.scan (fun candidate => controller.widthCost cfg candidate current) kStabilityMargin current
    ((current :: candidates).filter (· ≤ maxWidth))

/-- The comparisons of a call of `recommend`. -/
def findings : ControllerInput where
  usable := decide (controller.Usable now)
  beats candidate := decide
    (((controller.widthCost cfg candidate current + kStabilityMargin : ℚ) : WithTop ℚ) <
      (controller.evaluated cfg current maxWidth
        ([.sse41, .avx2, .avx512].filter (· < candidate))).2)
  improves := decide (kMinImprovement ≤ controller.widthCost cfg current current -
    controller.widthCost cfg (controller.bestWidth cfg current maxWidth) current)

variable {controller cfg current maxWidth now}

theorem usable_findings :
    (controller.findings cfg current maxWidth now).usable = false ↔ ¬ controller.Usable now :=
  decide_eq_false_iff_not

theorem improves_findings :
    (controller.findings cfg current maxWidth now).improves = false ↔
      controller.widthCost cfg current current -
        controller.widthCost cfg (controller.bestWidth cfg current maxWidth) current <
          kMinImprovement :=
  decide_eq_false_iff_not.trans not_le

theorem evaluated_nil (within : current ≤ maxWidth) :
    (controller.evaluated cfg current maxWidth []).1 = current := by
  have only : [current].filter (· ≤ maxWidth) = [current] :=
    List.filter_cons_of_pos (decide_eq_true within)
  rw [evaluated, only, Choice.scan, List.foldl_cons, List.foldl_nil, Choice.consider,
    if_pos (WithTop.coe_lt_top _)]

theorem evaluateWidth_findings (candidate) :
    (controller.findings cfg current maxWidth now).evaluateWidth maxWidth
        (controller.evaluated cfg current maxWidth
          ([.sse41, .avx2, .avx512].filter (· < candidate))).1 candidate =
      (controller.evaluated cfg current maxWidth
        ([.sse41, .avx2, .avx512].filter (· < candidate) ++ [candidate])).1 := by
  have step : ∀ considered, controller.evaluated cfg current maxWidth (considered ++ [candidate]) =
      if candidate ≤ maxWidth then
        Choice.consider (fun width => controller.widthCost cfg width current) kStabilityMargin
          (controller.evaluated cfg current maxWidth considered) candidate
      else controller.evaluated cfg current maxWidth considered := by
    intro considered
    rw [evaluated, ← List.cons_append, List.filter_append, Choice.scan, List.foldl_append]
    by_cases within : candidate ≤ maxWidth
    · have only : [candidate].filter (· ≤ maxWidth) = [candidate] :=
        List.filter_cons_of_pos (decide_eq_true within)
      rw [if_pos within, only]
      rfl
    · have excluded : [candidate].filter (· ≤ maxWidth) = [] :=
        List.filter_cons_of_neg fun kept => within (of_decide_eq_true kept)
      rw [if_neg within, excluded]
      rfl
  rw [step, ControllerInput.evaluateWidth]
  by_cases within : candidate ≤ maxWidth
  · rw [if_pos within, Choice.consider]
    by_cases beats : ((controller.widthCost cfg candidate current + kStabilityMargin : ℚ) :
        WithTop ℚ) < (controller.evaluated cfg current maxWidth
          ([.sse41, .avx2, .avx512].filter (· < candidate))).2
    · rw [if_pos beats, if_pos ⟨within, decide_eq_true beats⟩]
    · rw [if_neg beats, if_neg fun both => beats (of_decide_eq_true both.2)]
  · rw [if_neg within, if_neg fun both => within both.1]

theorem bestWidth_findings (within : current ≤ maxWidth) :
    (controller.findings cfg current maxWidth now).bestWidth current maxWidth =
      controller.bestWidth cfg current maxWidth := by
  have sse41 := @evaluateWidth_findings controller cfg current maxWidth now .sse41
  have avx2 := @evaluateWidth_findings controller cfg current maxWidth now .avx2
  have avx512 := @evaluateWidth_findings controller cfg current maxWidth now .avx512
  rw [show [SimdWidth.sse41, .avx2, .avx512].filter (· < .sse41) = [] from rfl,
    evaluated_nil within,
    List.nil_append] at sse41
  rw [show [SimdWidth.sse41, .avx2, .avx512].filter (· < .avx2) = [.sse41] from rfl] at avx2
  rw [ControllerInput.bestWidth, List.foldl_cons, List.foldl_cons, List.foldl_cons, List.foldl_nil,
    sse41, avx2]
  exact avx512

theorem recommend_findings (within : current ≤ maxWidth) :
    (controller.findings cfg current maxWidth now).recommend current maxWidth =
      (controller.recommend cfg current maxWidth now).2 := by
  rw [ControllerInput.recommend, bestWidth_findings within, recommend]
  by_cases usable : controller.Usable now
  · rw [if_pos usable, if_neg fun unusable => usable_findings.mp unusable usable]
    dsimp only
    by_cases same : controller.bestWidth cfg current maxWidth = current
    · rw [if_pos same, if_pos same]
    · rw [if_neg same, if_neg same]
      by_cases small : controller.widthCost cfg current current -
          controller.widthCost cfg (controller.bestWidth cfg current maxWidth) current <
            kMinImprovement
      · rw [if_pos small, if_pos (improves_findings.mpr small)]
      · rw [if_neg small, if_neg (mt improves_findings.mp small)]
  · rw [if_neg usable, if_pos (usable_findings.mpr usable)]

end MpcController

end Policy

end ThermalSimd
