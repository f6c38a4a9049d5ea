import ThermalSimd.Perf

/-!
# The monitor thread

One iteration of `thermal_monitor_thread` in `thermal_simd.c`, as a function of the monitor's
variables and of what it reads: clocks, the selected width each time, runtime flags, the policy's
recommendation, the results of patches and the perf context's readings.
-/

namespace ThermalSimd

/-- Why a width is asked for. -/
inductive TransitionKind
  | safety | predictive | hysteresis
  deriving DecidableEq

/-- Why `force_sse_safety` is called. -/
inductive SafetyReason
  | softwareTimeout | rawTemperatureEmergency
  deriving DecidableEq

/-- What an iteration does to the process, besides its perf context's events. -/
inductive MonitorEvent
  | heartbeat (width : SimdWidth)
  | policyReload
  | policyRecord (eval : ThermalEval) (width : SimdWidth)
  /-- `force_sse_safety` is called. -/
  | forced (reason : SafetyReason)
  /-- `tsd_metrics_exporter_observe_dwell`. -/
  | dwelt (width : SimdWidth) (dwellMs : UInt64)
  /-- `tsd_trampoline_patch`. -/
  | patched (kind : TransitionKind) (target : SimdWidth) (succeeds : Bool)
  | policyReset
  /-- `tsd_dispatcher_policy_force_fallback`. -/
  | policyFallback
  deriving DecidableEq

/-- What stays the same while the monitor runs. -/
structure MonitorEnv where
  /-- `g_tsd_config`. -/
  cfg : RuntimeConfig
  /-- `max_width_cached`. -/
  maxWidth : SimdWidth
  /-- `policy_state` is not null. -/
  policy : Bool

/-- The variables of the monitor thread. -/
structure Monitor where
  perf : PerfCtx
  throttleCount : ℤ
  stableCount : ℤ
  widthSinceMs : UInt64
  cooldownUntilMs : UInt64
  deriving DecidableEq

/-- What an iteration reads. -/
structure SampleInput where
  nowMs : UInt64
  startWidth : SimdWidth
  /-- `g_tsd_reload_requested`. -/
  reload : Bool
  /-- The clock of `perf_software_timeout_exceeded`. -/
  timeoutAt : Timespec
  eval : EvalInput
  width : SimdWidth
  /-- The selected width `force_sse_safety` finds. -/
  safetyWidth : SimdWidth
  /-- The patch of `force_sse_safety` would succeed. -/
  safetyPatch : Bool
  /-- `tsd_runtime_config_is_degraded`, after the evaluation. -/
  degraded : Bool
  /-- The target of `tsd_dispatcher_policy_recommend`, if it recommends one. -/
  recommendation : Option SimdWidth
  /-- `tsd_runtime_flags_allow_transitions` before a predictive upgrade. -/
  transitionsForUpgrade : Bool
  /-- `tsd_runtime_flags_allow_transitions` for any other predictive target. -/
  transitionsForTarget : Bool
  predictivePatch : Bool
  /-- `tsd_runtime_flags_allow_transitions` in the hysteresis part. -/
  transitionsForHysteresis : Bool
  hysteresisPatch : Bool

/-- The first part of an iteration. -/
structure Observation where
  dwellMs : UInt64
  softwareTimeout : Bool
  eval : ThermalEval
  /-- `evaluation_rc`. -/
  throttles : Bool

/-- `temperature_upgrade_allowed`. -/
def TemperatureUpgradeAllowed (cfg : RuntimeConfig) (sample : TelemetrySample) : Prop :=
  sample.tempAvailable = true ∧
    (20 ≤ cfg.predictiveTempCeilingC ∧ cfg.predictiveTempCeilingC ≤ 125 ∧
      0 ≤ cfg.predictiveSafetyMarginC ∧ cfg.predictiveSafetyMarginC ≤ 60) ∧
    sample.packageTempMillic ≤ (cfg.predictiveTempCeilingC - cfg.predictiveSafetyMarginC) * 1000
  deriving Decidable

def emergencyLimitMillic (cfg : RuntimeConfig) : ℤ :=
  (cfg.predictiveTempCeilingC + cfg.predictiveEmergencyMarginC) * 1000

/-- `emergency_temperature_exceeded`; limits out of range count as exceeded. -/
def EmergencyTemperatureExceeded (cfg : RuntimeConfig) (sample : TelemetrySample) : Prop :=
  sample.tempAvailable = true ∧
    ((20 ≤ cfg.predictiveTempCeilingC ∧ cfg.predictiveTempCeilingC ≤ 125 ∧
        0 ≤ cfg.predictiveEmergencyMarginC ∧ cfg.predictiveEmergencyMarginC ≤ 60) →
      emergencyLimitMillic cfg ≤ sample.packageTempMillic)
  deriving Decidable

/-- `nonnegative_ms`. -/
def nonnegativeMs (value : ℤ) : UInt64 := if 0 < value then UInt64.ofInt value else 0

/-- `record_dwell_metric`. -/
def recordDwellMetric (width : SimdWidth) (dwellMs : UInt64) : List MonitorEvent :=
  if 0 < dwellMs then [.dwelt width dwellMs] else []

namespace Monitor

variable (env : MonitorEnv) (monitor : Monitor) (input : SampleInput) (eval : ThermalEval)

def moved (nowMs : UInt64) (cooldownMs : ℤ) : Monitor :=
  { monitor with
    throttleCount := 0
    stableCount := 0
    widthSinceMs := nowMs
    cooldownUntilMs := nowMs + nonnegativeMs cooldownMs }

def observe : Monitor × Observation :=
  let (checked, softwareTimeout) :=
    monitor.perf.checkSoftwareTimeout env.cfg.degradedTimeoutSec input.timeoutAt
  let (perf, eval, throttles) := checked.evaluate env.cfg input.eval
  ({ monitor with perf := perf },
    { dwellMs :=
        if monitor.widthSinceMs ≤ input.nowMs then input.nowMs - monitor.widthSinceMs else 0
      softwareTimeout := softwareTimeout
      eval := eval
      throttles := throttles })

/-- The safety branch, with `force_sse_safety`. -/
def forceSseSafety (dwellMs : UInt64) : Monitor × List MonitorEvent :=
  let settled := monitor.moved input.nowMs (env.cfg.effectiveCooldownDownMs input.degraded)
  if input.safetyWidth = .sse41 then (settled, [])
  else
    let patch :=
      recordDwellMetric input.safetyWidth dwellMs ++ [.patched .safety .sse41 input.safetyPatch]
    if input.safetyPatch then (settled, patch ++ if env.policy then [.policyReset] else [])
    else
      -- The throttle count is left saturated and no cooldown hides the retry.
      ({ monitor with
          throttleCount := env.cfg.effectiveDownCount input.degraded
          stableCount := 0
          cooldownUntilMs := 0 }, patch)

def UpgradeAllowed (transitions : Bool) : Prop :=
  transitions = true ∧ monitor.perf.UpgradesAllowed ∧
    TemperatureUpgradeAllowed env.cfg eval.telemetry
  deriving Decidable

/-- The width the predictive part settles on; the present one if it asks for none. -/
def predictiveTarget : SimdWidth :=
  match env.policy, input.recommendation with
  | true, some target =>
    if target = input.width then input.width
    else if input.width < target ∧
        ¬ monitor.UpgradeAllowed env eval input.transitionsForUpgrade then input.width
    else if input.transitionsForTarget = false ∧ target ≠ .sse41 then .sse41
    else target
  | _, _ => input.width

def hysteresis (env : MonitorEnv) (monitor : Monitor) (input : SampleInput) (obs : Observation) :
    Monitor × List MonitorEvent :=
  if obs.throttles then
    let counted :=
      { monitor with throttleCount := monitor.throttleCount + 1, stableCount := 0 }
    if env.cfg.effectiveDownCount input.degraded ≤ counted.throttleCount ∧
        .sse41 < input.width then
      let target :=
        if input.transitionsForHysteresis = false ∧ .sse41 < input.width.narrower then .sse41
        else input.width.narrower
      let patch := recordDwellMetric input.width obs.dwellMs ++
        [.patched .hysteresis target input.hysteresisPatch]
      if input.hysteresisPatch then
        (counted.moved input.nowMs (env.cfg.effectiveCooldownDownMs input.degraded), patch)
      else
        ({ counted with
            throttleCount := env.cfg.effectiveDownCount input.degraded
            cooldownUntilMs := 0 }, patch)
    else (counted, [])
  else
    let counted := { monitor with stableCount := monitor.stableCount + 1, throttleCount := 0 }
    if env.cfg.effectiveUpCount input.degraded ≤ counted.stableCount ∧
        input.width < env.maxWidth then
      if ¬ monitor.UpgradeAllowed env obs.eval input.transitionsForHysteresis then
        ({ counted with stableCount := 0 }, [])
      else
        let patch := recordDwellMetric input.width obs.dwellMs ++
          [.patched .hysteresis input.width.wider input.hysteresisPatch]
        if input.hysteresisPatch then
          (counted.moved input.nowMs (env.cfg.effectiveCooldownUpMs input.degraded), patch)
        else ({ counted with stableCount := 0 }, patch)
    else (counted, [])

def optimise (obs : Observation) : Monitor × List MonitorEvent :=
  let target := monitor.predictiveTarget env input obs.eval
  if target = input.width then monitor.hysteresis env input obs
  else
    let patch := recordDwellMetric input.width obs.dwellMs ++
      [.patched .predictive target input.predictivePatch]
    if input.predictivePatch then
      let cooldownMs :=
        if target < input.width then env.cfg.effectiveCooldownDownMs input.degraded
        else env.cfg.effectiveCooldownUpMs input.degraded
      (monitor.moved input.nowMs cooldownMs, patch)
    else
      let (next, events) := monitor.hysteresis env input obs
      (next, patch ++ .policyFallback :: events)

def act (obs : Observation) : Monitor × List MonitorEvent :=
  if obs.softwareTimeout = true ∨ EmergencyTemperatureExceeded env.cfg obs.eval.telemetry then
    let reason :=
      if obs.softwareTimeout then SafetyReason.softwareTimeout else .rawTemperatureEmergency
    let (next, events) := monitor.forceSseSafety env input obs.dwellMs
    (next, .forced reason :: events)
  else if obs.eval.performanceAvailable = false then ({ monitor with stableCount := 0 }, [])
  else if input.nowMs < monitor.cooldownUntilMs ∨
      obs.dwellMs < nonnegativeMs (env.cfg.effectiveMinDwellMs input.degraded) then (monitor, [])
  else monitor.optimise env input obs

def policyEvents : List MonitorEvent :=
  if env.policy then
    .heartbeat input.startWidth :: (if input.reload then [.policyReload] else []) ++
      if eval.performanceAvailable then [.policyRecord eval input.width] else []
  else []

/-- One iteration of `thermal_monitor_thread`, with what it did in order. -/
def sample : Monitor × List MonitorEvent :=
  let (observed, obs) := monitor.observe env input
  let (next, events) := observed.act env input obs
  (next, policyEvents env input obs.eval ++ events)

end Monitor

/-- What `tsd_runtime_start` reads for the monitor. -/
structure MonitorStart where
  init : InitInput
  enable : EnableInput
  enableFailure : FailInput
  baseline : MeasureInput
  /-- `monotonic_now_ms` when the thread starts. -/
  startedMs : UInt64

/-- The monitor when its loop begins, as `tsd_runtime_start` leaves it. -/
def Monitor.start (env : MonitorEnv) (input : MonitorStart) : Monitor where
  perf := ((PerfCtx.init input.init).enable input.enable input.enableFailure).measureBaseline
    env.cfg input.baseline
  throttleCount := 0
  stableCount := 0
  widthSinceMs := input.startedMs
  cooldownUntilMs := 0

/-- Iteration `index` reads `inputs index` and leads to the next state. -/
structure MonitorRun (env : MonitorEnv) (trace : ℕ → Monitor) (inputs : ℕ → SampleInput)
    (length : ℕ) : Prop where
  start : ∃ input, trace 0 = .start env input
  samples : ∀ index < length, trace (index + 1) = ((trace index).sample env (inputs index)).1

end ThermalSimd
