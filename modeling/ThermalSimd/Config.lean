import ThermalSimd.Binary64
import ThermalSimd.Width

/-!
# Runtime configuration

`tsd_runtime_config`, the validation a runtime generation applies to its private copy
(`runtime_guard.c`), and the degraded-mode overlay of `thermal_config.c`.
-/

namespace ThermalSimd

/-- A C `double`: an exact finite value, or one for NaN and the infinities. -/
inductive Double
  | finite (value : ℚ)
  | nonfinite
  deriving DecidableEq

/-- `isfinite(x)`, and `test` holds of it. -/
def Double.FiniteWith (number : Double) (test : ℚ → Prop) : Prop :=
  match number with
  | .finite value => test value
  | .nonfinite => False

instance (number : Double) (test : ℚ → Prop) [DecidablePred test] :
    Decidable (number.FiniteWith test) :=
  match number with
  | .finite value => inferInstanceAs (Decidable (test value))
  | .nonfinite => inferInstanceAs (Decidable False)

/-- `tsd_log_level_t`. -/
inductive LogLevel
  | error | warn | info | debug
  deriving DecidableEq

/-- `tsd_policy_config`. -/
structure PolicyConfig where
  sloRatioMilli : ℕ
  sloTempMillic : ℤ
  transitionPenaltyUpMilli : ℕ
  transitionPenaltyDownMilli : ℕ
  forecastHorizon : ℕ
  deriving DecidableEq

/-- `tsd_policy_config_apply_bounds`. -/
def policyConfigApplyBounds (cfg : PolicyConfig) : PolicyConfig :=
  if cfg.forecastHorizon = 0 then { cfg with forecastHorizon := 1 } else cfg

/-- `tsd_runtime_config`; C flags stay integers, and a character array is its text. -/
structure RuntimeConfig where
  checkIntervalUs : ℤ
  downCount : ℤ
  upCount : ℤ
  downRatio : Double
  downRatioMilli : ℕ
  cooldownDownMs : ℤ
  cooldownUpMs : ℤ
  allowAvx512 : ℤ
  minDwellMs : ℤ
  memoryGuardDivisor : ℤ
  memoryGuardOffsetMilli : ℤ
  demoDurationSec : ℤ
  runForever : ℤ
  workIters : ℤ
  cooldownDownTicks : ℤ
  cooldownUpTicks : ℤ
  minDwellTicks : ℤ
  thermalTempWeightMilli : ℤ
  thermalRatioWeightMilli : ℤ
  degradedTimeoutSec : ℤ
  degradedPolicyActive : ℤ
  healthCheckMode : ℤ
  metricsEnabled : ℤ
  metricsPort : ℤ
  metricsBindHost : String
  metricsTlsCertPath : String
  metricsTlsKeyPath : String
  metricsTlsCaPath : String
  metricsTlsRequireClientAuth : ℤ
  metricsBasicAuthUser : String
  metricsBasicAuthPass : String
  statsdHost : String
  statsdPort : ℤ
  telemetryIntervalMs : ℤ
  telemetryMaxSkewMs : ℤ
  telemetryEwmaAlpha : Double
  telemetryProfilePath : String
  predictiveTempCeilingC : ℤ
  predictiveSafetyMarginC : ℤ
  predictiveEmergencyMarginC : ℤ
  predictiveAlpha : Double
  predictiveCoeffPath : String
  logLevel : LogLevel
  policy : PolicyConfig
  deriving DecidableEq

namespace RuntimeConfig

open Binary64

/-- `tsd_runtime_config_set_defaults`: `k_default_config` with its policy. -/
def setDefaults : RuntimeConfig where
  checkIntervalUs := 50000
  downCount := 3
  upCount := 5
  downRatio := .finite (3 / 2)
  downRatioMilli := 1500
  cooldownDownMs := 1000
  cooldownUpMs := 2000
  allowAvx512 := 0
  minDwellMs := 200
  memoryGuardDivisor := 5
  memoryGuardOffsetMilli := 200
  demoDurationSec := 10
  runForever := 0
  workIters := 10000000
  cooldownDownTicks := 0
  cooldownUpTicks := 0
  minDwellTicks := 0
  thermalTempWeightMilli := 0
  thermalRatioWeightMilli := 0
  degradedTimeoutSec := 120
  degradedPolicyActive := 0
  healthCheckMode := 0
  metricsEnabled := 1
  metricsPort := 9464
  metricsBindHost := "127.0.0.1"
  metricsTlsCertPath := ""
  metricsTlsKeyPath := ""
  metricsTlsCaPath := ""
  metricsTlsRequireClientAuth := 0
  metricsBasicAuthUser := ""
  metricsBasicAuthPass := ""
  statsdHost := ""
  statsdPort := 8125
  telemetryIntervalMs := 50
  telemetryMaxSkewMs := 150
  telemetryEwmaAlpha := .finite (1 / 4)
  telemetryProfilePath := ""
  predictiveTempCeilingC := 92
  predictiveSafetyMarginC := 4
  predictiveEmergencyMarginC := 10
  predictiveAlpha := .finite (1 / 4)
  predictiveCoeffPath := "config/controller_coeffs.json"
  logLevel := .info
  policy := policyConfigApplyBounds
    { sloRatioMilli := 1500
      sloTempMillic := 85000
      transitionPenaltyUpMilli := 750
      transitionPenaltyDownMilli := 1000
      forecastHorizon := 5 }

/-- `INT_MAX`. -/
def intMax : ℤ := 2147483647

/-- `tsd_compute_ticks_from_ms`: the check intervals that cover `ms` milliseconds. -/
def computeTicksFromMs (intervalUs ms : ℤ) : Except Errno ℤ :=
  if intervalUs ≤ 0 then .error .einval
  else if ms < 0 then .error .einval
  else
    let ticks := (ms * 1000 + intervalUs - 1) / intervalUs
    if ticks ≤ 0 ∨ ticks > intMax then .error .erange else .ok ticks

variable (cfg : RuntimeConfig) (degraded : Bool)

/-- `tsd_runtime_config_refresh_ticks`. -/
def refreshTicks : Except Errno RuntimeConfig := do
  let down ← computeTicksFromMs cfg.checkIntervalUs cfg.cooldownDownMs
  let up ← computeTicksFromMs cfg.checkIntervalUs cfg.cooldownUpMs
  let dwell ← computeTicksFromMs cfg.checkIntervalUs cfg.minDwellMs
  return { cfg with cooldownDownTicks := down, cooldownUpTicks := up, minDwellTicks := dwell }

/-- The range checks at the head of `validate_generation_config`. -/
def GenerationRangesValid : Prop :=
  0 < cfg.checkIntervalUs ∧ 0 < cfg.downCount ∧ 0 < cfg.upCount ∧
  cfg.downRatio.FiniteWith (0 < ·) ∧
  0 ≤ cfg.cooldownDownMs ∧ 0 ≤ cfg.cooldownUpMs ∧ 0 ≤ cfg.minDwellMs ∧
  0 < cfg.memoryGuardDivisor ∧ 0 < cfg.degradedTimeoutSec ∧
  10 ≤ cfg.telemetryIntervalMs ∧ cfg.telemetryIntervalMs ≤ 60000 ∧
  0 ≤ cfg.telemetryMaxSkewMs ∧ cfg.telemetryMaxSkewMs ≤ 60000 ∧
  cfg.telemetryEwmaAlpha.FiniteWith (fun alpha => 0 ≤ alpha ∧ alpha ≤ 1) ∧
  20 ≤ cfg.predictiveTempCeilingC ∧ cfg.predictiveTempCeilingC ≤ 125 ∧
  0 ≤ cfg.predictiveSafetyMarginC ∧ cfg.predictiveSafetyMarginC ≤ 60 ∧
  0 ≤ cfg.predictiveEmergencyMarginC ∧ cfg.predictiveEmergencyMarginC ≤ 60 ∧
  cfg.predictiveAlpha.FiniteWith (fun alpha => 0 ≤ alpha ∧ alpha ≤ 1)
  deriving Decidable

/-- `(uint64_t)(down_ratio * 1000.0 + 0.5)`, range checked; `(double)UINT64_MAX` is `2 ^ 64`. -/
def scaledDownRatio (ratio : Double) : Except Errno ℕ :=
  match ratio with
  | .finite value =>
    let scaled := nearest (value * 1000)
    if scaled < 1 ∨ scaled > 2 ^ 64 then .error .einval
    else .ok (⌊nearest (scaled + 1 / 2)⌋₊ % 2 ^ 64)
  | .nonfinite => .error .einval

/-- `validate_generation_config`: the configuration a generation runs with, or the error code. -/
def validateGenerationConfig : Except Errno RuntimeConfig := do
  if ¬ cfg.GenerationRangesValid then throw .einval
  let ratioMilli ←
    if cfg.downRatioMilli = 0 then scaledDownRatio cfg.downRatio else pure cfg.downRatioMilli
  refreshTicks
    { cfg with downRatioMilli := ratioMilli, policy := policyConfigApplyBounds cfg.policy }

/-- `saturated_double_int`. -/
def saturatedDoubleInt (value : ℤ) : ℤ :=
  if value ≤ 0 then value else if value > intMax / 2 then intMax else value * 2

/-- `tsd_runtime_config_effective_down_count`. -/
def effectiveDownCount : ℤ :=
  let value := if degraded ∧ cfg.downCount > 1 then cfg.downCount - 1 else cfg.downCount
  if value > 0 then value else 1

/-- `tsd_runtime_config_effective_up_count`. -/
def effectiveUpCount : ℤ :=
  let value :=
    if degraded ∧ cfg.upCount < 10 then min (cfg.upCount + 2) 10 else cfg.upCount
  if value > 0 then value else 1

/-- `tsd_runtime_config_effective_cooldown_down_ms`. -/
def effectiveCooldownDownMs : ℤ :=
  let value :=
    if degraded then
      if cfg.cooldownDownMs < 2000 then 2000 else saturatedDoubleInt cfg.cooldownDownMs
    else cfg.cooldownDownMs
  if value > 0 then value else 0

/-- `tsd_runtime_config_effective_cooldown_up_ms`. -/
def effectiveCooldownUpMs : ℤ :=
  let value :=
    if degraded then
      if cfg.cooldownUpMs < 4000 then 4000 else saturatedDoubleInt cfg.cooldownUpMs
    else cfg.cooldownUpMs
  if value > 0 then value else 0

/-- `tsd_runtime_config_effective_min_dwell_ms`. -/
def effectiveMinDwellMs : ℤ :=
  let value := if degraded ∧ cfg.minDwellMs < 500 then 500 else cfg.minDwellMs
  if value > 0 then value else 0

/-- `tsd_runtime_config_effective_down_ratio_milli`. -/
def effectiveDownRatioMilli : ℕ :=
  let value := if cfg.downRatioMilli = 0 then 1500 else cfg.downRatioMilli
  if degraded ∧ value > 1300 then 1300 else value

end RuntimeConfig

end ThermalSimd
