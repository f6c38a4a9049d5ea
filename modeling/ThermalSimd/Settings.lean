import ThermalSimd.Config

/-!
# Settings

The members of `tsd_runtime_config` that the command line and the configuration file can set, with
their ranges. A parser's effect is the list of its assignments; the last one to a setting remains
(`get_assign`).
-/

namespace ThermalSimd

open Binary64

/-- The settings both parsers know. -/
inductive Setting
  | checkIntervalUs | downCount | upCount | downRatio | cooldownDownMs | cooldownUpMs | minDwellMs
  | allowAvx512 | memoryGuardDivisor | memoryGuardOffsetMilli | thermalTempWeightMilli
  | thermalRatioWeightMilli | demoDurationSec | runForever | workIters | metricsPort
  | metricsBindHost | metricsTlsCertPath | metricsTlsKeyPath | metricsTlsCaPath
  | metricsTlsRequireClientAuth | metricsBasicAuthUser | metricsBasicAuthPass | statsdHost
  | statsdPort | degradedTimeoutSec | predictiveTempCeilingC | predictiveSafetyMarginC
  | predictiveEmergencyMarginC | predictiveAlpha | telemetryIntervalMs | telemetryMaxSkewMs
  | telemetryEwmaAlpha | telemetryProfilePath | predictiveCoeffPath | sloRatioMilli | sloTempMillic
  | transitionPenaltyUpMilli | transitionPenaltyDownMilli | forecastHorizon | healthCheckMode
  | logLevel
  deriving DecidableEq

/-- The value of a setting. -/
inductive Value
  | int (value : ℤ)
  | text (value : String)
  | real (value : Double)
  | level (value : LogLevel)
  deriving DecidableEq

namespace Value

def toInt : Value → ℤ
  | int value => value
  | _ => 0

def toText : Value → String
  | text value => value
  | _ => ""

/-- The number, for a `double` setting. -/
def toReal : Value → Double
  | real value => value
  | _ => .nonfinite

def toLevel : Value → LogLevel
  | level value => value
  | _ => .info

end Value

/-- `(uint64_t)(ratio * 1000.0 + 0.5)`. -/
def milliOf (ratio : ℚ) : ℕ := ⌊nearest (nearest (ratio * 1000) + 1 / 2)⌋₊

/-- The scaled ratio, and at least one for a positive one. -/
def scaleRatio (ratio : ℚ) : ℕ := if milliOf ratio = 0 ∧ 0 < ratio then 1 else milliOf ratio

theorem milliOf_mono {ratio larger} (le : ratio ≤ larger) : milliOf ratio ≤ milliOf larger := by
  have scaled : nearest (ratio * 1000) ≤ nearest (larger * 1000) := nearest_mono (by linarith)
  exact Nat.floor_le_floor (nearest_mono (by linarith))

theorem scaleRatio_mono {ratio larger} (le : ratio ≤ larger) :
    scaleRatio ratio ≤ scaleRatio larger := by
  have floors := milliOf_mono le
  unfold scaleRatio
  split_ifs with low high high
  · exact le_rfl
  · have nonzero : milliOf larger ≠ 0 := fun zero => high ⟨zero, low.2.trans_le le⟩
    omega
  · omega
  · exact floors

def ratioMilli : Double → ℕ
  | .finite ratio => scaleRatio ratio
  | .nonfinite => 0

namespace Setting

def get (cfg : RuntimeConfig) : Setting → Value
  | checkIntervalUs => .int cfg.checkIntervalUs
  | downCount => .int cfg.downCount
  | upCount => .int cfg.upCount
  | downRatio => .real cfg.downRatio
  | cooldownDownMs => .int cfg.cooldownDownMs
  | cooldownUpMs => .int cfg.cooldownUpMs
  | minDwellMs => .int cfg.minDwellMs
  | allowAvx512 => .int cfg.allowAvx512
  | memoryGuardDivisor => .int cfg.memoryGuardDivisor
  | memoryGuardOffsetMilli => .int cfg.memoryGuardOffsetMilli
  | thermalTempWeightMilli => .int cfg.thermalTempWeightMilli
  | thermalRatioWeightMilli => .int cfg.thermalRatioWeightMilli
  | demoDurationSec => .int cfg.demoDurationSec
  | runForever => .int cfg.runForever
  | workIters => .int cfg.workIters
  | metricsPort => .int cfg.metricsPort
  | metricsBindHost => .text cfg.metricsBindHost
  | metricsTlsCertPath => .text cfg.metricsTlsCertPath
  | metricsTlsKeyPath => .text cfg.metricsTlsKeyPath
  | metricsTlsCaPath => .text cfg.metricsTlsCaPath
  | metricsTlsRequireClientAuth => .int cfg.metricsTlsRequireClientAuth
  | metricsBasicAuthUser => .text cfg.metricsBasicAuthUser
  | metricsBasicAuthPass => .text cfg.metricsBasicAuthPass
  | statsdHost => .text cfg.statsdHost
  | statsdPort => .int cfg.statsdPort
  | degradedTimeoutSec => .int cfg.degradedTimeoutSec
  | predictiveTempCeilingC => .int cfg.predictiveTempCeilingC
  | predictiveSafetyMarginC => .int cfg.predictiveSafetyMarginC
  | predictiveEmergencyMarginC => .int cfg.predictiveEmergencyMarginC
  | predictiveAlpha => .real cfg.predictiveAlpha
  | telemetryIntervalMs => .int cfg.telemetryIntervalMs
  | telemetryMaxSkewMs => .int cfg.telemetryMaxSkewMs
  | telemetryEwmaAlpha => .real cfg.telemetryEwmaAlpha
  | telemetryProfilePath => .text cfg.telemetryProfilePath
  | predictiveCoeffPath => .text cfg.predictiveCoeffPath
  | sloRatioMilli => .int cfg.policy.sloRatioMilli
  | sloTempMillic => .int cfg.policy.sloTempMillic
  | transitionPenaltyUpMilli => .int cfg.policy.transitionPenaltyUpMilli
  | transitionPenaltyDownMilli => .int cfg.policy.transitionPenaltyDownMilli
  | forecastHorizon => .int cfg.policy.forecastHorizon
  | healthCheckMode => .int cfg.healthCheckMode
  | logLevel => .level cfg.logLevel

def set (cfg : RuntimeConfig) (v : Value) : Setting → RuntimeConfig
  | checkIntervalUs => { cfg with checkIntervalUs := v.toInt }
  | downCount => { cfg with downCount := v.toInt }
  | upCount => { cfg with upCount := v.toInt }
  | downRatio => { cfg with downRatio := v.toReal, downRatioMilli := ratioMilli v.toReal }
  | cooldownDownMs => { cfg with cooldownDownMs := v.toInt }
  | cooldownUpMs => { cfg with cooldownUpMs := v.toInt }
  | minDwellMs => { cfg with minDwellMs := v.toInt }
  | allowAvx512 => { cfg with allowAvx512 := v.toInt }
  | memoryGuardDivisor => { cfg with memoryGuardDivisor := v.toInt }
  | memoryGuardOffsetMilli => { cfg with memoryGuardOffsetMilli := v.toInt }
  | thermalTempWeightMilli => { cfg with thermalTempWeightMilli := v.toInt }
  | thermalRatioWeightMilli => { cfg with thermalRatioWeightMilli := v.toInt }
  | demoDurationSec => { cfg with demoDurationSec := v.toInt }
  | runForever => { cfg with runForever := v.toInt }
  | workIters => { cfg with workIters := v.toInt }
  | metricsPort =>
    { cfg with metricsPort := v.toInt, metricsEnabled := if 0 < v.toInt then 1 else 0 }
  | metricsBindHost => { cfg with metricsBindHost := v.toText }
  | metricsTlsCertPath => { cfg with metricsTlsCertPath := v.toText }
  | metricsTlsKeyPath => { cfg with metricsTlsKeyPath := v.toText }
  | metricsTlsCaPath => { cfg with metricsTlsCaPath := v.toText }
  | metricsTlsRequireClientAuth => { cfg with metricsTlsRequireClientAuth := v.toInt }
  | metricsBasicAuthUser => { cfg with metricsBasicAuthUser := v.toText }
  | metricsBasicAuthPass => { cfg with metricsBasicAuthPass := v.toText }
  | statsdHost => { cfg with statsdHost := v.toText }
  | statsdPort => { cfg with statsdPort := v.toInt }
  | degradedTimeoutSec => { cfg with degradedTimeoutSec := v.toInt }
  | predictiveTempCeilingC => { cfg with predictiveTempCeilingC := v.toInt }
  | predictiveSafetyMarginC => { cfg with predictiveSafetyMarginC := v.toInt }
  | predictiveEmergencyMarginC => { cfg with predictiveEmergencyMarginC := v.toInt }
  | predictiveAlpha => { cfg with predictiveAlpha := v.toReal }
  | telemetryIntervalMs => { cfg with telemetryIntervalMs := v.toInt }
  | telemetryMaxSkewMs => { cfg with telemetryMaxSkewMs := v.toInt }
  | telemetryEwmaAlpha => { cfg with telemetryEwmaAlpha := v.toReal }
  | telemetryProfilePath => { cfg with telemetryProfilePath := v.toText }
  | predictiveCoeffPath => { cfg with predictiveCoeffPath := v.toText }
  | sloRatioMilli => { cfg with policy := { cfg.policy with sloRatioMilli := v.toInt.toNat } }
  | sloTempMillic => { cfg with policy := { cfg.policy with sloTempMillic := v.toInt } }
  | transitionPenaltyUpMilli =>
    { cfg with policy := { cfg.policy with transitionPenaltyUpMilli := v.toInt.toNat } }
  | transitionPenaltyDownMilli =>
    { cfg with policy := { cfg.policy with transitionPenaltyDownMilli := v.toInt.toNat } }
  | forecastHorizon => { cfg with policy := { cfg.policy with forecastHorizon := v.toInt.toNat } }
  | healthCheckMode => { cfg with healthCheckMode := v.toInt }
  | logLevel => { cfg with logLevel := v.toLevel }

end Setting

/-- The values a setting may take. -/
inductive Domain
  | int (min max : ℤ)
  | real (min max : ℚ)
  | text (capacity : ℕ)
  | level
  deriving DecidableEq

def Domain.Admits : Domain → Value → Prop
  | int min max, .int value => min ≤ value ∧ value ≤ max
  | real min max, .real value => value.FiniteWith fun number => min ≤ number ∧ number ≤ max
  | text capacity, .text value => value.length < capacity
  | level, .level _ => True
  | _, _ => False

namespace Setting

/-- The domain of a setting. -/
def domain : Setting → Domain
  | checkIntervalUs => .int 1000 10000000
  | downCount | upCount => .int 1 100
  | downRatio => .real 1 10
  | cooldownDownMs | cooldownUpMs | minDwellMs => .int 1 3600000
  | memoryGuardDivisor => .int 1 1000
  | memoryGuardOffsetMilli => .int 0 1000000
  | thermalTempWeightMilli | thermalRatioWeightMilli => .int 0 100000
  | demoDurationSec | degradedTimeoutSec => .int 1 86400
  | workIters => .int 1 RuntimeConfig.intMax
  | metricsPort => .int 0 65535
  | statsdPort => .int 1 65535
  | metricsBindHost => .text 64
  | metricsBasicAuthUser | metricsBasicAuthPass | statsdHost => .text 128
  | metricsTlsCertPath | metricsTlsKeyPath | metricsTlsCaPath | telemetryProfilePath
  | predictiveCoeffPath => .text 256
  | predictiveTempCeilingC => .int 20 125
  | predictiveSafetyMarginC | predictiveEmergencyMarginC => .int 0 60
  | predictiveAlpha | telemetryEwmaAlpha => .real 0 1
  | telemetryIntervalMs => .int 10 60000
  | telemetryMaxSkewMs => .int 0 60000
  | sloRatioMilli => .int 500 10000
  | sloTempMillic => .int (-100000) 200000
  | transitionPenaltyUpMilli | transitionPenaltyDownMilli => .int 0 1000000
  | forecastHorizon => .int 0 1000
  | allowAvx512 | runForever | metricsTlsRequireClientAuth | healthCheckMode => .int 0 1
  | logLevel => .level

theorem get_set_self (setting : Setting) (cfg) {v}
    (admitted : setting.domain.Admits v) : setting.get (setting.set cfg v) = v := by
  cases v <;> cases setting <;> first
    | rfl
    | exact admitted.elim
    | skip
  all_goals
    have nonneg := admitted.1
    simp only [get, set, Value.toInt, Value.int.injEq]
    exact Int.toNat_of_nonneg (by omega)

end Setting

variable (setting : Setting) (cfg : RuntimeConfig) (assignments : List Assignment)

/-- Every setting is in its domain. -/
def RuntimeConfig.InRange : Prop :=
  ∀ setting : Setting, setting.domain.Admits (setting.get cfg)

theorem RuntimeConfig.setDefaults_inRange : setDefaults.InRange := by
  intro setting
  cases setting <;> simp [Setting.domain, Setting.get, setDefaults, Domain.Admits,
    Double.FiniteWith,
    policyConfigApplyBounds, intMax] <;> first | decide | norm_num

abbrev Assignment := Setting × Value

def Assignment.Admitted (assignment : Assignment) : Prop :=
  assignment.1.domain.Admits assignment.2

def RuntimeConfig.assign : RuntimeConfig :=
  assignments.foldl (fun cfg assignment => assignment.1.set cfg assignment.2) cfg

def lastValue (setting : Setting) : List Assignment → Option Value
  | [] => none
  | assignment :: rest =>
    (lastValue setting rest).or (if assignment.1 = setting then some assignment.2 else none)

@[simp]
theorem lastValue_nil : lastValue setting [] = none := rfl

theorem lastValue_append (first second) : lastValue setting (first ++ second) =
      (lastValue setting second).or (lastValue setting first) := by
  induction first with
  | nil => simp
  | cons _ _ hrest =>
    rw [List.cons_append, lastValue, lastValue, hrest, Option.or_assoc]

theorem mem_of_lastValue {setting assignments v}
    (last : lastValue setting assignments = some v) : (setting, v) ∈ assignments := by
  induction assignments with
  | nil => cases last
  | cons _ _ hrest =>
    rw [lastValue, Option.or_eq_some_iff] at last
    rcases last with later | ⟨-, here⟩
    · exact List.mem_cons_of_mem _ (hrest later)
    · split_ifs at here with same
      cases here
      subst same
      exact List.mem_cons_self

theorem lastValue_eq_none_iff {setting : Setting} {assignments : List Assignment} :
    lastValue setting assignments = none ↔ ∀ v, (setting, v) ∉ assignments := by
  induction assignments with
  | nil => simp
  | cons asg _ hrest =>
    obtain ⟨other, v⟩ := asg
    rw [lastValue, Option.or_eq_none_iff, hrest]
    by_cases same : other = setting
    · subst same
      simp only [if_true, reduceCtorEq, and_false, false_iff, not_forall, not_not]
      exact ⟨v, List.mem_cons_self⟩
    · simp [same, Ne.symm same]

theorem lastValue_eq_some_of_unique {setting assignments v} (mem : (setting, v) ∈ assignments)
    (unique : ∀ other, (setting, other) ∈ assignments → other = v) :
    lastValue setting assignments = some v := by
  cases last : lastValue setting assignments with
  | none => exact absurd mem (lastValue_eq_none_iff.mp last v)
  | some other => rw [unique other (mem_of_lastValue last)]

theorem RuntimeConfig.observe_assign {α : Type} {observe : RuntimeConfig → α} {setting gives} (cfg)
    {assignments}
    (own : ∀ cfg v, (setting, v) ∈ assignments →
      observe (setting.set cfg v) = gives v)
    (others : ∀ other, other ≠ setting → ∀ cfg v, observe (other.set cfg v) = observe cfg) :
    observe (cfg.assign assignments) =
      ((lastValue setting assignments).map gives).getD (observe cfg) := by
  induction assignments generalizing cfg with
  | nil => rfl
  | cons asg rest hrest =>
    obtain ⟨other, v⟩ := asg
    have later := hrest (other.set cfg v) fun cfg v mem =>
      own cfg v (List.mem_cons_of_mem _ mem)
    rw [assign, List.foldl_cons, ← assign, later, lastValue]
    cases lastValue setting rest with
    | some => rfl
    | none =>
      by_cases same : other = setting
      · subst same
        simp [own cfg v List.mem_cons_self]
      · simp [same, others other same cfg v]

theorem Setting.get_assign {assignments}
    (admitted : ∀ asg ∈ assignments, asg.Admitted) :
    setting.get (cfg.assign assignments) =
      (lastValue setting assignments).getD (setting.get cfg) := by
  have observed := @RuntimeConfig.observe_assign _ (setting.get ·) setting id cfg _
    (fun cfg v mem => get_set_self setting cfg (admitted _ mem))
    fun other different cfg v => by
      cases setting <;> cases other <;> first | rfl | exact absurd rfl different
  rwa [Option.map_id] at observed

theorem RuntimeConfig.metricsEnabled_assign : (cfg.assign assignments).metricsEnabled =
      ((lastValue .metricsPort assignments).map fun port => if 0 < port.toInt then 1 else 0).getD
        cfg.metricsEnabled :=
  cfg.observe_assign (fun _ _ _ => rfl) fun other different _ _ => by
    cases other <;> first | rfl | exact absurd rfl different

theorem RuntimeConfig.downRatioMilli_assign : (cfg.assign assignments).downRatioMilli =
      ((lastValue .downRatio assignments).map fun ratio => ratioMilli ratio.toReal).getD
        cfg.downRatioMilli :=
  cfg.observe_assign (fun _ _ _ => rfl) fun other different _ _ => by
    cases other <;> first | rfl | exact absurd rfl different

/-- What no option and no key sets: the tick counts and the degraded flag. -/
def RuntimeConfig.unset : ℤ × ℤ × ℤ × ℤ :=
  (cfg.cooldownDownTicks, cfg.cooldownUpTicks, cfg.minDwellTicks, cfg.degradedPolicyActive)

theorem RuntimeConfig.unset_assign : (cfg.assign assignments).unset = cfg.unset := by
  induction assignments generalizing cfg with
  | nil => rfl
  | cons asg _ hrest =>
    rw [assign, List.foldl_cons, ← assign, hrest]
    obtain ⟨setting, _⟩ := asg
    cases setting <;> rfl

theorem RuntimeConfig.InRange.assign {cfg : RuntimeConfig} (inRange : cfg.InRange)
    {assignments} (admitted : ∀ asg ∈ assignments, asg.Admitted) :
    (cfg.assign assignments).InRange := by
  intro setting
  rw [setting.get_assign cfg admitted]
  cases last : lastValue setting assignments with
  | none => exact inRange setting
  | some => exact admitted _ (mem_of_lastValue last)

theorem RuntimeConfig.eq_of_get_eq {cfg other}
    (same : ∀ setting : Setting, setting.get cfg = setting.get other)
    (ratio : cfg.downRatioMilli = other.downRatioMilli)
    (enabled : cfg.metricsEnabled = other.metricsEnabled) (unset : cfg.unset = other.unset) :
    cfg = other := by
  have int {v w} : Value.int v = .int w → v = w := Value.int.inj
  have text {v w} : Value.text v = .text w → v = w := Value.text.inj
  have policy : cfg.policy = other.policy := by
    have sloRatio := int (same .sloRatioMilli)
    have sloTemp := int (same .sloTempMillic)
    have up := int (same .transitionPenaltyUpMilli)
    have down := int (same .transitionPenaltyDownMilli)
    have forecast := int (same .forecastHorizon)
    rw [PolicyConfig.mk.injEq]
    exact ⟨Int.ofNat_inj.mp sloRatio, sloTemp, Int.ofNat_inj.mp up, Int.ofNat_inj.mp down,
      Int.ofNat_inj.mp forecast⟩
  simp only [RuntimeConfig.unset, Prod.mk.injEq] at unset
  obtain ⟨downTicks, upTicks, dwellTicks, degraded⟩ := unset
  rw [RuntimeConfig.mk.injEq]
  exact ⟨int (same .checkIntervalUs), int (same .downCount), int (same .upCount),
    Value.real.inj (same .downRatio), ratio, int (same .cooldownDownMs), int (same .cooldownUpMs),
    int (same .allowAvx512), int (same .minDwellMs), int (same .memoryGuardDivisor),
    int (same .memoryGuardOffsetMilli), int (same .demoDurationSec), int (same .runForever),
    int (same .workIters), downTicks, upTicks, dwellTicks, int (same .thermalTempWeightMilli),
    int (same .thermalRatioWeightMilli), int (same .degradedTimeoutSec), degraded,
    int (same .healthCheckMode), enabled, int (same .metricsPort), text (same .metricsBindHost),
    text (same .metricsTlsCertPath), text (same .metricsTlsKeyPath),
    text (same .metricsTlsCaPath), int (same .metricsTlsRequireClientAuth),
    text (same .metricsBasicAuthUser), text (same .metricsBasicAuthPass), text (same .statsdHost),
    int (same .statsdPort), int (same .telemetryIntervalMs), int (same .telemetryMaxSkewMs),
    Value.real.inj (same .telemetryEwmaAlpha), text (same .telemetryProfilePath),
    int (same .predictiveTempCeilingC), int (same .predictiveSafetyMarginC),
    int (same .predictiveEmergencyMarginC), Value.real.inj (same .predictiveAlpha),
    text (same .predictiveCoeffPath), Value.level.inj (same .logLevel), policy⟩

end ThermalSimd
