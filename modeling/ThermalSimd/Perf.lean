import ThermalSimd.Observability
import ThermalSimd.Statistics

/-!
# The performance monitor

`thermal_perf.c`: the perf context, its mode machine and its measurements. What a call reads from
the outside is an argument; what it does to the rest of the process is recorded in the context's
log, latest first.
-/

namespace ThermalSimd

/-- `struct timespec`. -/
structure Timespec where
  sec : ℤ
  nsec : ℤ
  deriving DecidableEq

/-- `perf_group_read_t`. -/
structure PerfGroupRead where
  nr : UInt64
  timeEnabled : UInt64
  timeRunning : UInt64
  /-- `values[0]`. -/
  cycles : UInt64
  /-- `values[1]`. -/
  insns : UInt64
  deriving DecidableEq

/-- `tsd_thermal_eval_t`; its two telemetry channels are one sample. -/
structure ThermalEval where
  performanceAvailable : Bool
  workNormalized : Bool
  workCostMilli : UInt64
  cpiMilli : UInt64
  ratioMilli : UInt32
  trimmedRatioMilli : UInt32
  llcMpkiMilli : UInt64
  severityMilli : UInt64
  thermalSeverityMilli : UInt64
  memoryBound : Bool
  telemetry : TelemetrySample
  deriving DecidableEq

def ThermalEval.zero : ThermalEval := ⟨false, false, 0, 0, 0, 0, 0, 0, 0, false, .zero⟩

/-- The counters of `metrics.h` that the perf monitor increments. -/
inductive PerfMetric
  | perfFallbacks | perfRecoveries | softwareTimeoutEscalations
  deriving DecidableEq

/-- What a perf context does to the process, and the validations it makes. -/
inductive PerfEvent
  | modeEntered (mode : PerfMode) (reason : String)
  | admissionClosed
  /-- `tsd_runtime_config_enter_degraded_mode` or `…_exit_degraded_mode`. -/
  | degraded (active : Bool)
  | published (telemetry : PerfTelemetry)
  /-- `tsd_trampoline_patch(SIMD_SSE41)`. -/
  | sse41Requested
  | metric (metric : PerfMetric)
  /-- `perf_fail_closed`. -/
  | failedClosed (reason : String)
  | reprobeFailed
  | baseline (before after : PerfGroupRead)
  deriving DecidableEq

/-- A retry deadline and the delay in seconds the next failure schedules. -/
structure RetrySchedule where
  deadlineNs : UInt64
  backoffSeconds : ℤ
  deriving DecidableEq

/-- `struct perf_ctx`, without the affinity and the telemetry helper's state. -/
structure PerfCtx where
  fdCycles : ℤ
  fdInsns : ℤ
  fdLlcMisses : ℤ
  baselineCpi : UInt64
  calibratedCpiReference : UInt64
  baselineWorkCostMilli : UInt64
  calibratedWorkReference : UInt64
  baselineLlcMpkiMilli : UInt64
  slowCpi : UInt64
  fastCpi : UInt64
  slowLlcMpki : UInt64
  fastLlcMpki : UInt64
  ratioHistory : Vector UInt32 ratioHistory
  ratioHistoryCount : ℕ
  ratioHistoryCursor : Fin ThermalSimd.ratioHistory
  ratioTrimmedMilli : UInt32
  pinnedCpu : ℤ
  monitorCpu : ℤ
  lastGroupRead : PerfGroupRead
  lastGroupValid : Bool
  lastLlcValue : UInt64
  zeroRunningSamples : ℤ
  mode : PerfMode
  hardwareValidated : Bool
  softwareAdaptation : Bool
  swLastTimestamp : Timespec
  swLastIterations : UInt64
  hwLastIterations : UInt64
  /-- `workload` is not null. -/
  workload : Bool
  fusionAcquired : Bool
  modeEnteredAt : Timespec
  timeoutNotified : Bool
  perfRetry : RetrySchedule
  llcRetry : RetrySchedule
  forceSoftware : Bool
  log : List PerfEvent
  deriving DecidableEq

/-- `timespec_diff_ns`. -/
def timespecDiffNs (start finish : Timespec) : UInt64 :=
  let borrow := finish.nsec - start.nsec < 0
  let sec := finish.sec - start.sec - if borrow then 1 else 0
  let nsec := finish.nsec - start.nsec + if borrow then 1000000000 else 0
  if sec < 0 then 0 else UInt64.ofInt (sec * 1000000000 + nsec)

namespace RetrySchedule

/-- `reset_perf_retry` and `reset_llc_retry`, with `PERF_INITIAL_BACKOFF_SEC`. -/
def reset : RetrySchedule := ⟨0, 5⟩

/-- `schedule_perf_retry` and `schedule_llc_retry`, with `PERF_MAX_BACKOFF_SEC`. -/
def schedule (retry : RetrySchedule) (now : UInt64) : RetrySchedule :=
  let backoff := if retry.backoffSeconds ≤ 0 then 5 else retry.backoffSeconds
  let delta := UInt64.ofInt (min backoff 60) * 1000000000
  { deadlineNs := if (0 : UInt64) - 1 - delta < now then 0 - 1 else now + delta
    backoffSeconds := if backoff < 60 then min (backoff * 2) 60 else backoff }

/-- The deadline has passed at clock `now`. -/
def Due (retry : RetrySchedule) (now : UInt64) : Prop :=
  retry.deadlineNs = 0 ∨ retry.deadlineNs ≤ now
  deriving Decidable

end RetrySchedule

namespace PerfCtx

variable (ctx : PerfCtx) (now : UInt64)

def record (event : PerfEvent) : PerfCtx := { ctx with log := event :: ctx.log }

/-- `schedule_perf_retry`. -/
def schedulePerfRetry : PerfCtx :=
  if ctx.forceSoftware then ctx else { ctx with perfRetry := ctx.perfRetry.schedule now }

/-- `perf_retry_due`. -/
def PerfRetryDue : Prop :=
  ctx.forceSoftware = false ∧ ctx.perfRetry.Due now
  deriving Decidable

/-- `schedule_llc_retry`. -/
def scheduleLlcRetry : PerfCtx :=
  if ctx.forceSoftware then ctx else { ctx with llcRetry := ctx.llcRetry.schedule now }

/-- `llc_retry_due`. -/
def LlcRetryDue : Prop :=
  ctx.forceSoftware = false ∧ ctx.mode = .hardware ∧ ctx.llcRetry.Due now
  deriving Decidable

/-- `reset_measurement_domain`. -/
def resetMeasurementDomain : PerfCtx :=
  { ctx with
    slowCpi := 0
    fastCpi := 0
    slowLlcMpki := 0
    fastLlcMpki := 0
    ratioHistory := .replicate _ 0
    ratioHistoryCount := 0
    ratioHistoryCursor := 0
    ratioTrimmedMilli := 0 }

/-- `publish_perf_state`. -/
def publishPerfState (healthy : Bool) : PerfCtx :=
  ctx.record (.published ⟨ctx.mode, healthy, ctx.pinnedCpu, ctx.monitorCpu⟩)

end PerfCtx

/-- What `perf_set_mode` reads: the clock, and the width on entering software mode. -/
structure ModeInput where
  enteredAt : Timespec
  width : SimdWidth

namespace PerfCtx

variable (ctx : PerfCtx)

/-- `perf_set_mode`. -/
def setMode (mode : PerfMode) (reason : String) (input : ModeInput) : PerfCtx :=
  if ctx.mode = mode then
    -- Publishing the same state again must not restart the timeout.
    ctx.publishPerfState (decide (mode = .hardware) && ctx.hardwareValidated)
  else
    let entered :=
      { ctx.resetMeasurementDomain with
        mode := mode
        modeEnteredAt := input.enteredAt
        timeoutNotified := false }.record (.modeEntered mode reason)
    match mode with
    | .software =>
      let published :=
        ({ entered.record .admissionClosed with
          calibratedCpiReference := 0
          calibratedWorkReference := 0
          hardwareValidated := false }.record (.metric .perfFallbacks)).record (.degraded true)
          |>.publishPerfState false
      if input.width = .sse41 then published else published.record .sse41Requested
    | .hardware =>
      let counted :=
        if ctx.mode = .software ∧ ctx.hardwareValidated = true then
          entered.record (.metric .perfRecoveries)
        else entered
      (counted.record (.degraded false)).publishPerfState ctx.hardwareValidated
    | .none => { entered with hardwareValidated := false }.publishPerfState false

/-- `perf_software_timeout_exceeded`. -/
def SoftwareTimeoutExceeded (timeoutSec : ℤ) (now : Timespec) : Prop :=
  0 < timeoutSec ∧ ctx.mode = .software ∧
    UInt64.ofInt timeoutSec * 1000000000 ≤ timespecDiffNs ctx.modeEnteredAt now
  deriving Decidable

/-- `tsd_perf_check_software_timeout`. -/
def checkSoftwareTimeout (timeoutSec : ℤ) (now : Timespec) : PerfCtx × Bool :=
  if timeoutSec ≤ 0 ∨ ctx.timeoutNotified = true then (ctx, false)
  else if ¬ ctx.SoftwareTimeoutExceeded timeoutSec now then (ctx, false)
  else ({ ctx with timeoutNotified := true }.record (.metric .softwareTimeoutEscalations), true)

/-- `tsd_perf_upgrades_allowed`. -/
def UpgradesAllowed : Prop := ctx.mode = .hardware ∧ ctx.hardwareValidated = true
  deriving Decidable

/-- `close_perf_events`. -/
def closePerfEvents : PerfCtx :=
  { ctx with
    fdCycles := -1
    fdInsns := -1
    fdLlcMisses := -1
    lastGroupValid := false
    lastLlcValue := 0
    zeroRunningSamples := 0 }

end PerfCtx

/-- The three results of `perf_event_open` and the clock. -/
structure OpenInput where
  cycles : Except Errno ℕ
  insns : Except Errno ℕ
  llc : Except Errno ℕ
  now : UInt64

/-- What enabling the events reads: whether each `ioctl` succeeds, and the clock. -/
structure EnableInput where
  reset : Bool
  enable : Bool
  llcReset : Bool
  llcEnable : Bool
  now : UInt64

/-- What failing closed reads: the clock, and what `perf_set_mode` reads. -/
structure FailInput where
  now : UInt64
  mode : ModeInput

namespace PerfCtx

variable (ctx : PerfCtx)

def dropLlc (now : UInt64) : PerfCtx :=
  { ctx with fdLlcMisses := -1 }.scheduleLlcRetry now

/-- `open_llc_event`, and whether it succeeded. -/
def openLlcEvent (llc : Except Errno ℕ) (now : UInt64) : PerfCtx × Bool :=
  match llc with
  | .error _ => (ctx.dropLlc now, false)
  | .ok fd => ({ ctx with fdLlcMisses := fd, llcRetry := .reset }, true)

/-- `open_perf_events`, and the `errno` it fails with. -/
def openPerfEvents (input : OpenInput) : PerfCtx × Except Errno Unit :=
  match input.cycles, input.insns with
  | .error e, _ => (ctx.closePerfEvents, .error e)
  | .ok _, .error e => (ctx.closePerfEvents, .error e)
  | .ok cycles, .ok insns =>
    let opened := { ctx.closePerfEvents with fdCycles := cycles, fdInsns := insns }
    -- A missing LLC counter is retried on its own.
    ({ (opened.openLlcEvent input.llc input.now).1 with perfRetry := .reset }, .ok ())

/-- `enable_optional_llc`, and whether it succeeded. -/
def enableOptionalLlc (reset enable : Bool) (now : UInt64) : PerfCtx × Bool :=
  if ctx.fdLlcMisses < 0 ∨ reset = true ∧ enable = true then (ctx, true)
  else (ctx.dropLlc now, false)

/-- `enable_perf_events_strict`, and whether it succeeded. -/
def enablePerfEventsStrict (input : EnableInput) : PerfCtx × Bool :=
  if ctx.fdCycles < 0 ∨ ctx.fdInsns < 0 then (ctx, false)
  else if input.reset = false ∨ input.enable = false then (ctx, false)
  else ((ctx.enableOptionalLlc input.llcReset input.llcEnable input.now).1, true)

/-- The context of `perf_fail_closed` when it sets the mode. -/
def loseCounters (reason : String) (now : UInt64) : PerfCtx :=
  ({ ctx.closePerfEvents with hardwareValidated := false, softwareAdaptation := false }.record
    (.failedClosed reason)).schedulePerfRetry now

/-- `perf_fail_closed`. -/
def failClosed (reason : String) (input : FailInput) : PerfCtx :=
  (ctx.loseCounters reason input.now).setMode .software reason input.mode

/-- `tsd_perf_enable`. -/
def enable (ctx : PerfCtx) (input : EnableInput) (failure : FailInput) : PerfCtx :=
  if ctx.mode ≠ .hardware then ctx
  else
    match ctx.enablePerfEventsStrict input with
    | (enabled, true) => enabled
    | (enabled, false) => enabled.failClosed "enable" failure

end PerfCtx

/-- What `tsd_perf_init` reads. -/
structure InitInput where
  /-- `workload_cb` is not null. -/
  workload : Bool
  /-- `select_runtime_cpus`: the CPUs of the affinity mask, if it can be read. -/
  affinity : Option (List ℕ)
  /-- `sched_getcpu`. -/
  currentCpu : ℤ
  /-- `tsd_telemetry_fusion_start_for_cpu` succeeds. -/
  fusionStarts : Bool
  /-- `TSD_FAKE_PERF` is set, not empty and not `0`. -/
  forceSoftware : Bool
  startedAt : Timespec
  events : OpenInput
  failure : FailInput

/-- `select_runtime_cpus`: the CPU of the workload and that of the monitor. -/
def selectRuntimeCpus (affinity : Option (List ℕ)) (currentCpu : ℤ) : ℤ × ℤ :=
  match affinity with
  | some (first :: second :: _) => (first, second)
  | some [first] => (first, first)
  | _ => (max currentCpu 0, max currentCpu 0)

namespace PerfCtx

/-- The context `tsd_perf_init` has filled in when it first publishes. -/
def allocated (input : InitInput) : PerfCtx where
  fdCycles := -1
  fdInsns := -1
  fdLlcMisses := -1
  baselineCpi := 0
  calibratedCpiReference := 0
  baselineWorkCostMilli := 0
  calibratedWorkReference := 0
  baselineLlcMpkiMilli := 0
  slowCpi := 0
  fastCpi := 0
  slowLlcMpki := 0
  fastLlcMpki := 0
  ratioHistory := .replicate _ 0
  ratioHistoryCount := 0
  ratioHistoryCursor := 0
  ratioTrimmedMilli := 0
  pinnedCpu := (selectRuntimeCpus input.affinity input.currentCpu).1
  monitorCpu := (selectRuntimeCpus input.affinity input.currentCpu).2
  lastGroupRead := ⟨0, 0, 0, 0, 0⟩
  lastGroupValid := false
  lastLlcValue := 0
  zeroRunningSamples := 0
  mode := .none
  hardwareValidated := false
  softwareAdaptation := false
  swLastTimestamp := ⟨0, 0⟩
  swLastIterations := 0
  hwLastIterations := 0
  workload := input.workload
  fusionAcquired := false
  modeEnteredAt := input.startedAt
  timeoutNotified := false
  perfRetry := .reset
  llcRetry := .reset
  forceSoftware := false
  log := []

/-- The context `tsd_perf_init` tries to open events for. -/
def prepared (input : InitInput) : PerfCtx :=
  { (allocated input).publishPerfState false with
    fusionAcquired := input.fusionStarts
    forceSoftware := input.forceSoftware }

/-- `tsd_perf_init`, once its allocation has succeeded. -/
def init (input : InitInput) : PerfCtx :=
  let ctx := prepared input
  if ctx.forceSoftware then ctx.setMode .software "forced" input.failure.mode
  else
    match ctx.openPerfEvents input.events with
    | (opened, .error _) =>
      (opened.schedulePerfRetry input.failure.now).setMode .software "perf-open"
        input.failure.mode
    -- Opening proves nothing about the counters; the baseline does.
    | (opened, .ok ()) =>
      { opened with hardwareValidated := false }.setMode .hardware "init-open" input.failure.mode

end PerfCtx

/-- `scale_counter`, through a 128-bit product. -/
def scaleCounter (delta timeEnabled timeRunning : UInt64) : UInt64 :=
  if timeRunning = 0 ∨ timeEnabled = 0 then 0
  else UInt64.ofNat (delta.toNat * timeEnabled.toNat / timeRunning.toNat)

variable (before after : PerfGroupRead)

/-- `group_order_valid`. -/
def GroupOrderValid : Prop :=
  before.nr = 2 ∧ after.nr = 2 ∧ before.timeEnabled ≤ after.timeEnabled ∧
    before.timeRunning ≤ after.timeRunning ∧ before.cycles ≤ after.cycles ∧
    before.insns ≤ after.insns
  deriving Decidable

/-- `group_baseline_progress_valid`. -/
def GroupBaselineProgressValid : Prop :=
  GroupOrderValid before after ∧ before.timeEnabled < after.timeEnabled ∧
    before.timeRunning < after.timeRunning ∧ before.cycles < after.cycles ∧
    before.insns < after.insns
  deriving Decidable

/-- What `tsd_perf_read_exact` delivers, when a read would deliver `result`. -/
def readExact {α : Type} (fd : ℤ) (result : Option α) : Option α :=
  if fd < 0 then none else result

/-- The group, the LLC counter and the work counter, before and after a baseline. -/
structure BaselineInput where
  before : Option PerfGroupRead
  llcBefore : Option UInt64
  workBefore : UInt64
  workAfter : UInt64
  after : Option PerfGroupRead
  llcAfter : Option UInt64

def scaledDeltas : UInt64 × UInt64 :=
  let enabledDelta := after.timeEnabled - before.timeEnabled
  let runningDelta := after.timeRunning - before.timeRunning
  (scaleCounter (after.cycles - before.cycles) enabledDelta runningDelta,
    scaleCounter (after.insns - before.insns) enabledDelta runningDelta)

/-- `MPKI_SCALE`. -/
def mpkiScale : UInt64 := 1000000

def workCostMilli (deltaCycles work : UInt64) : UInt64 :=
  if work = 0 then 0 else UInt64.ofNat (deltaCycles.toNat * 1000 / work.toNat)

def counterDelta (before after : UInt64) : UInt64 := if before ≤ after then after - before else 0

namespace PerfCtx

/-- The two group readings `measure_hardware_baseline` accepts. -/
def baselineReads (ctx : PerfCtx) (input : BaselineInput) :
    Option (PerfGroupRead × PerfGroupRead) := do
  let before ← readExact ctx.fdCycles input.before
  guard (before.nr = 2)
  let after ← readExact ctx.fdCycles input.after
  guard (after.nr = 2)
  guard (GroupBaselineProgressValid before after)
  guard ((scaledDeltas before after).1 ≠ 0 ∧ (scaledDeltas before after).2 ≠ 0)
  return (before, after)

/-- The context `measure_hardware_baseline` leaves on success. -/
def acceptBaseline (ctx : PerfCtx) (cfg : RuntimeConfig) (input : BaselineInput)
    (before after : PerfGroupRead) : PerfCtx :=
  let (deltaCycles, deltaInsns) := scaledDeltas before after
  let llcBefore := if ctx.fdLlcMisses < 0 then 0 else input.llcBefore.getD 0
  let llcAfter := if ctx.fdLlcMisses < 0 then 0 else input.llcAfter.getD llcBefore
  let baselineCpi := deltaCycles * 1000 / deltaInsns
  let workCost := workCostMilli deltaCycles (counterDelta input.workBefore input.workAfter)
  let deltaLlc := if ctx.fdLlcMisses < 0 then 0 else counterDelta llcBefore llcAfter
  let mpki := deltaLlc * mpkiScale / deltaInsns
  let baselineMpki := if mpki = 0 then 1000 else mpki
  { ctx with
    baselineCpi := baselineCpi
    calibratedCpiReference := if baselineCpi = 0 then 1 else baselineCpi
    baselineWorkCostMilli := workCost
    calibratedWorkReference := workCost
    hwLastIterations := input.workAfter
    baselineLlcMpkiMilli := baselineMpki
    slowCpi := if baselineCpi = 0 then 1000 else baselineCpi
    fastCpi := if baselineCpi = 0 then 1000 else baselineCpi
    slowLlcMpki := baselineMpki
    fastLlcMpki := baselineMpki
    ratioHistoryCount := 0
    ratioHistoryCursor := 0
    ratioTrimmedMilli := UInt32.ofNat cfg.downRatioMilli
    lastGroupRead := after
    lastGroupValid := true
    lastLlcValue := llcAfter
    zeroRunningSamples := 0 }.record (.baseline before after)

/-- `measure_hardware_baseline`; when it fails it has changed nothing. -/
def measureHardwareBaseline (ctx : PerfCtx) (cfg : RuntimeConfig) (input : BaselineInput) :
    Option PerfCtx :=
  (ctx.baselineReads input).map fun (before, after) => ctx.acceptBaseline cfg input before after

end PerfCtx

/-- What `tsd_perf_measure_baseline` reads: clock and work counter in software mode, the events in
hardware mode. -/
structure MeasureInput where
  start : Timespec
  finish : Timespec
  iterationsBefore : UInt64
  iterationsAfter : UInt64
  iterationsLast : UInt64
  stampedAt : Timespec
  events : EnableInput
  baseline : BaselineInput
  failure : FailInput

/-- The software cost surrogate of `tsd_perf_measure_baseline`. -/
def surrogateCpi (input : MeasureInput) : UInt64 :=
  let deltaIters :=
    if input.iterationsBefore < input.iterationsAfter then
      input.iterationsAfter - input.iterationsBefore
    else 100000
  let elapsed := timespecDiffNs input.start input.finish
  let elapsedNs := if elapsed = 0 then 1 else elapsed
  let surrogate := if deltaIters = 0 then 1000 else elapsedNs * 1000 / deltaIters
  if surrogate = 0 then 1000 else surrogate

namespace PerfCtx

/-- `tsd_perf_measure_baseline` in software mode. -/
def measureSoftwareBaseline (ctx : PerfCtx) (cfg : RuntimeConfig) (input : MeasureInput) :
    PerfCtx :=
  { ctx with
    baselineCpi := surrogateCpi input
    calibratedCpiReference := surrogateCpi input
    baselineLlcMpkiMilli := 1000
    slowCpi := surrogateCpi input
    fastCpi := surrogateCpi input
    slowLlcMpki := 1000
    fastLlcMpki := 1000
    ratioHistoryCount := 0
    ratioHistoryCursor := 0
    ratioTrimmedMilli := UInt32.ofNat cfg.downRatioMilli
    lastGroupValid := false
    lastLlcValue := 0
    softwareAdaptation := true
    swLastIterations := input.iterationsLast
    swLastTimestamp := input.stampedAt }

/-- `tsd_perf_measure_baseline`. -/
def measureBaseline (ctx : PerfCtx) (cfg : RuntimeConfig) (input : MeasureInput) : PerfCtx :=
  match ctx.mode with
  | .software => ctx.measureSoftwareBaseline cfg input
  | .none => ctx
  | .hardware =>
    match ctx.enablePerfEventsStrict input.events with
    | (enabled, false) => enabled.failClosed "baseline-validation" input.failure
    | (enabled, true) =>
      match enabled.measureHardwareBaseline cfg input.baseline with
      | none => enabled.failClosed "baseline-validation" input.failure
      | some measured => { measured with hardwareValidated := true }.publishPerfState true

end PerfCtx

/-- What a hardware re-probe reads. -/
structure RecoverInput where
  /-- The clock at `perf_retry_due`. -/
  now : UInt64
  opens : OpenInput
  events : EnableInput
  snapshot : RuntimeConfig
  baseline : BaselineInput
  failure : FailInput

namespace PerfCtx

def rejectReprobe (ctx : PerfCtx) (now : UInt64) : PerfCtx :=
  ((ctx.record .reprobeFailed).schedulePerfRetry now).publishPerfState false

def discardReprobe (ctx : PerfCtx) (now : UInt64) : PerfCtx :=
  { ctx.closePerfEvents with hardwareValidated := false }.rejectReprobe now

def acceptReprobe (ctx : PerfCtx) : PerfCtx :=
  { ctx with hardwareValidated := true, softwareAdaptation := false, perfRetry := .reset }

/-- `try_recover_hardware`, and whether it recovered. -/
def tryRecoverHardware (ctx : PerfCtx) (input : RecoverInput) : PerfCtx × Bool :=
  if ctx.mode ≠ .software ∨ ¬ ctx.PerfRetryDue input.now then (ctx, false)
  else
    match ctx.openPerfEvents input.opens with
    | (opened, .error _) => (opened.rejectReprobe input.failure.now, false)
    | (opened, .ok ()) =>
      match opened.enablePerfEventsStrict input.events with
      | (enabled, false) => (enabled.discardReprobe input.failure.now, false)
      | (enabled, true) =>
        match enabled.measureHardwareBaseline input.snapshot input.baseline with
        | none => (enabled.discardReprobe input.failure.now, false)
        | some measured =>
          (measured.acceptReprobe.setMode .hardware "reprobe" input.failure.mode, true)

end PerfCtx

/-- `value` per `reference` in rounded thousandths, through 128 bits. -/
def roundedRatioMilli (value reference : UInt64) : UInt64 :=
  UInt64.ofNat ((value.toNat * 1000 + (reference / 2).toNat) / reference.toNat)

/-- The dynamic threshold of `process_measurement`. -/
def dynamicThreshold (cfg : RuntimeConfig) (degraded : Bool) (fastCpi slowCpi : UInt64)
    (memoryBound : Bool) : UInt64 :=
  let base := UInt64.ofNat (cfg.effectiveDownRatioMilli degraded)
  let sloped :=
    if slowCpi < fastCpi then
      let deltaRatio :=
        UInt64.ofNat ((fastCpi - slowCpi).toNat * 1000 / (if slowCpi = 0 then 1 else slowCpi).toNat)
      let slopePenalty := min (deltaRatio / 5) (base / 4)
      if slopePenalty < base then base - slopePenalty else base
    else base
  if memoryBound then
    let divided :=
      if 0 < cfg.memoryGuardDivisor then sloped / UInt64.ofInt cfg.memoryGuardDivisor else 0
    sloped + (divided + UInt64.ofInt cfg.memoryGuardOffsetMilli)
  else sloped

/-- In `process_measurement`, with `TSD_TEMP_REF_MILLIC` and `TSD_FREQ_REF_MILLI`. -/
def thermalSeverity (cfg : RuntimeConfig) (telemetry : TelemetrySample) : UInt64 :=
  let tempExcess := telemetry.packageTempMillic - 85000
  let fromTemp :=
    if telemetry.tempAvailable = true ∧ 0 < cfg.thermalTempWeightMilli ∧ 0 < tempExcess then
      UInt64.ofInt tempExcess * UInt64.ofInt cfg.thermalTempWeightMilli / 1000
    else 0
  let freqDeficit := 1000 - (telemetry.freqRatioMilli : ℤ)
  let fromFreq :=
    if telemetry.freqRatioAvailable = true ∧ 0 < cfg.thermalRatioWeightMilli ∧ 0 < freqDeficit then
      UInt64.ofInt freqDeficit * UInt64.ofInt cfg.thermalRatioWeightMilli / 1000
    else 0
  fromTemp + fromFreq

/-- What `process_measurement` is handed. -/
structure Measurement where
  cpi : UInt64
  workCostMilli : UInt64
  mpkiMilli : UInt64
  telemetry : TelemetrySample

namespace PerfCtx

variable (ctx : PerfCtx) (sample : Measurement)

/-- The context of `process_measurement` with averages and references updated. -/
def updateAverages : PerfCtx :=
  let slowCpi := updateEwma ctx.slowCpi sample.cpi 5
  let workReference :=
    if 0 < sample.workCostMilli ∧ ctx.calibratedWorkReference = 0 then sample.workCostMilli
    else ctx.calibratedWorkReference
  { ctx with
    calibratedCpiReference :=
      if ctx.calibratedCpiReference = 0 ∧ 0 < sample.cpi then sample.cpi
      else ctx.calibratedCpiReference
    fastCpi := updateEwma ctx.fastCpi sample.cpi 2
    slowCpi :=
      if slowCpi ≠ 0 then slowCpi
      else if sample.cpi ≠ 0 then sample.cpi
      else if ctx.baselineCpi ≠ 0 then ctx.baselineCpi
      else 1000
    fastLlcMpki := updateEwma ctx.fastLlcMpki sample.mpkiMilli 2
    slowLlcMpki := updateEwma ctx.slowLlcMpki sample.mpkiMilli 5
    calibratedWorkReference := workReference
    baselineWorkCostMilli :=
      if 0 < sample.workCostMilli ∧ ctx.calibratedWorkReference = 0 then sample.workCostMilli
      else ctx.baselineWorkCostMilli }

/-- What a CPI is compared with: the slow average, else the baseline. -/
def referenceCpi : UInt64 :=
  if ctx.slowCpi ≠ 0 then ctx.slowCpi else if ctx.baselineCpi ≠ 0 then ctx.baselineCpi else 1

/-- The calibrated CPI, once there is one. -/
def absoluteReference : UInt64 :=
  if ctx.calibratedCpiReference ≠ 0 then ctx.calibratedCpiReference else ctx.referenceCpi

/-- By work item where there is work, else the larger of adaptive and absolute CPI ratio. -/
def measuredRatioMilli : UInt64 :=
  if 0 < sample.workCostMilli then
    roundedRatioMilli sample.workCostMilli ctx.calibratedWorkReference
  else
    max (roundedRatioMilli sample.cpi ctx.referenceCpi)
      (roundedRatioMilli sample.cpi ctx.absoluteReference)

def storeRatio (ratioMilli : UInt64) : PerfCtx :=
  let stored : UInt32 := if 0xFFFFFFFF < ratioMilli then 0xFFFFFFFF else ratioMilli.toUInt32
  let history := ctx.ratioHistory.set ctx.ratioHistoryCursor stored
  let count :=
    if ctx.ratioHistoryCount < 8 then ctx.ratioHistoryCount + 1 else ctx.ratioHistoryCount
  { ctx with
    ratioHistory := history
    ratioHistoryCount := count
    ratioHistoryCursor := ctx.ratioHistoryCursor + 1
    ratioTrimmedMilli := computeTrimmedMean history.toList count }

def MemoryBound (mpkiMilli : UInt64) : Prop :=
  0 ≤ ctx.fdLlcMisses ∧
    2500 < roundedRatioMilli (if ctx.slowLlcMpki ≠ 0 then ctx.slowLlcMpki else mpkiMilli)
      (if ctx.baselineLlcMpkiMilli ≠ 0 then ctx.baselineLlcMpkiMilli else 1000)
  deriving Decidable

/-- `process_measurement`: the context, the report and whether it throttles. -/
def processMeasurement (cfg : RuntimeConfig) (degraded : Bool) : PerfCtx × ThermalEval × Bool :=
  let updated := ctx.updateAverages sample
  let ratioMilli := updated.measuredRatioMilli sample
  let measured := updated.storeRatio ratioMilli
  let memoryBound := decide (measured.MemoryBound sample.mpkiMilli)
  let threshold := dynamicThreshold cfg degraded measured.fastCpi measured.slowCpi memoryBound
  let consensusRatio := (ratioMilli + measured.ratioTrimmedMilli.toUInt64) / 2
  let baseSeverity := if threshold < consensusRatio then consensusRatio - threshold else 0
  let thermal := thermalSeverity cfg sample.telemetry
  let severity := baseSeverity + thermal
  (measured,
    { performanceAvailable := true
      workNormalized := decide (0 < sample.workCostMilli)
      workCostMilli := sample.workCostMilli
      cpiMilli := sample.cpi
      ratioMilli := ratioMilli.toUInt32
      trimmedRatioMilli := measured.ratioTrimmedMilli
      llcMpkiMilli := sample.mpkiMilli
      severityMilli := severity
      thermalSeverityMilli := thermal
      memoryBound := memoryBound
      telemetry := sample.telemetry },
    decide (0 < severity))

end PerfCtx

/-- What `fetch_fused_telemetry` would get from the fusion service and the helper. -/
structure SensorInput where
  fusion : Option TelemetrySample
  helper : TelemetrySample

/-- What a re-probe of the LLC event reads. -/
structure LlcRecoverInput where
  /-- The clock at `llc_retry_due`. -/
  now : UInt64
  opens : Except Errno ℕ
  reset : Bool
  enable : Bool
  seed : Option UInt64
  failedAt : UInt64

/-- What `tsd_perf_evaluate` reads. -/
structure EvalInput where
  recover : RecoverInput
  swNow : Timespec
  iterations : UInt64
  llcRecover : LlcRecoverInput
  group : Option PerfGroupRead
  llc : Option UInt64
  llcFailedAt : UInt64
  sensors : SensorInput
  degraded : Bool
  failure : FailInput

/-- The defaults for the filtered channel in `fetch_fused_telemetry`. -/
def withFilteredDefaults (sample : TelemetrySample) : TelemetrySample :=
  let withTemp :=
    if sample.tempAvailable = true ∧ sample.filteredTempAvailable = false then
      { sample with
        filteredTempAvailable := true
        filteredPackageTempMillic := sample.packageTempMillic }
    else sample
  if withTemp.freqRatioAvailable = true ∧ withTemp.filteredFreqRatioAvailable = false then
    { withTemp with
      filteredFreqRatioAvailable := true
      filteredFreqRatioMilli := withTemp.freqRatioMilli }
  else withTemp

namespace PerfCtx

variable (ctx : PerfCtx) (cfg : RuntimeConfig) (input : EvalInput) (now : PerfGroupRead)

/-- `fetch_fused_telemetry`. -/
def fetchFusedTelemetry (sensors : SensorInput) : TelemetrySample :=
  match ctx.fusionAcquired, sensors.fusion with
  | true, some sample => sample
  | _, _ => withFilteredDefaults sensors.helper

/-- `try_recover_llc`. -/
def tryRecoverLlc (input : LlcRecoverInput) : PerfCtx :=
  if ctx.mode ≠ .hardware ∨ 0 ≤ ctx.fdLlcMisses ∨ ¬ ctx.LlcRetryDue input.now then ctx
  else
    match ctx.openLlcEvent input.opens input.failedAt with
    | (opened, false) => opened
    | (opened, true) =>
      match opened.enableOptionalLlc input.reset input.enable input.failedAt with
      | (enabled, false) => enabled
      | (enabled, true) =>
        match readExact enabled.fdLlcMisses input.seed with
        | none => enabled.dropLlc input.failedAt
        | some seed => { enabled with lastLlcValue := seed, llcRetry := .reset }

def severe : PerfCtx × ThermalEval × Bool :=
  (ctx, { ThermalEval.zero with severityMilli := 1 }, true)

def silent : PerfCtx × ThermalEval × Bool := (ctx, .zero, false)

/-- Set `zero_running_samples`. -/
def withZeroRunning (samples : ℤ) : PerfCtx :=
  { ctx with zeroRunningSamples := samples }

/-- `handle_no_running_progress`, with `PERF_ZERO_RUNNING_LIMIT`. -/
def handleNoRunningProgress (input : FailInput) : PerfCtx × ThermalEval × Bool :=
  let counted := ctx.withZeroRunning (ctx.zeroRunningSamples + 1)
  if counted.zeroRunningSamples < 3 then counted.silent
  else (counted.failClosed "group-not-running" input).severe

def stampSoftware : PerfCtx :=
  { ctx with swLastIterations := input.iterations, swLastTimestamp := input.swNow }

/-- `tsd_perf_evaluate` in software mode. -/
def evaluateSoftware : PerfCtx × ThermalEval × Bool :=
  match ctx.tryRecoverHardware input.recover with
  | (recovered, true) => recovered.silent
  | (ctx, false) =>
    let stamped := ctx.stampSoftware input
    if ctx.softwareAdaptation = false then { stamped with softwareAdaptation := true }.silent
    else
      let deltaIters := counterDelta ctx.swLastIterations input.iterations
      let deltaNs := timespecDiffNs ctx.swLastTimestamp input.swNow
      if deltaIters = 0 ∨ deltaNs = 0 then stamped.silent
      else
        let cost := deltaNs * 1000 / deltaIters
        let sample : Measurement :=
          { cpi := if cost = 0 then 1 else cost
            workCostMilli := 0
            mpkiMilli := 0
            telemetry := stamped.fetchFusedTelemetry input.sensors }
        let (measured, out, throttles) := stamped.processMeasurement sample cfg input.degraded
        (measured, { out with performanceAvailable := false }, throttles)

def advance (llcNow : UInt64) : PerfCtx :=
  { ctx with lastGroupRead := now, lastLlcValue := llcNow }.publishPerfState true

def withWork (iterations : UInt64) : PerfCtx :=
  { ctx with hwLastIterations := iterations }

/-- The end of `tsd_perf_evaluate`, for a reading that progressed. -/
def evaluateWork (llcNow deltaCycles deltaInsns : UInt64) : PerfCtx × ThermalEval × Bool :=
  let deltaWork := counterDelta ctx.hwLastIterations input.iterations
  let deltaLlc := if ctx.fdLlcMisses < 0 then 0 else counterDelta ctx.lastLlcValue llcNow
  let advanced := (ctx.withWork input.iterations).advance now llcNow
  let telemetry := advanced.fetchFusedTelemetry input.sensors
  -- Without a workload of its own, instructions with no completed work are no performance evidence.
  if ctx.workload = false ∧ deltaWork = 0 then
    (advanced, { ThermalEval.zero with telemetry := telemetry }, false)
  else
    advanced.processMeasurement
      { cpi := deltaCycles * 1000 / deltaInsns
        workCostMilli := workCostMilli deltaCycles deltaWork
        mpkiMilli := deltaLlc * mpkiScale / deltaInsns
        telemetry := telemetry } cfg input.degraded

/-- `tsd_perf_evaluate` in hardware mode, once group and LLC counter are read. -/
def evaluateReading (llcNow : UInt64) : PerfCtx × ThermalEval × Bool :=
  if ctx.lastGroupValid = false then ({ ctx with lastGroupValid := true }.advance now llcNow).silent
  else if ¬ GroupOrderValid ctx.lastGroupRead now then
    (ctx.failClosed "group-counter-regression" input.failure).severe
  else if now.timeRunning = ctx.lastGroupRead.timeRunning ∨
      now.timeEnabled = ctx.lastGroupRead.timeEnabled then
    ctx.handleNoRunningProgress input.failure
  else
    let running := ctx.withZeroRunning 0
    -- A valid group whose workload thread was idle.
    if now.insns = ctx.lastGroupRead.insns then (running.advance now llcNow).silent
    else
      let (deltaCycles, deltaInsns) := scaledDeltas ctx.lastGroupRead now
      if deltaCycles = 0 ∨ deltaInsns = 0 then running.handleNoRunningProgress input.failure
      else running.evaluateWork cfg input now llcNow deltaCycles deltaInsns

def readLlc : PerfCtx × UInt64 :=
  if ctx.fdLlcMisses < 0 then (ctx, 0)
  else
    match readExact ctx.fdLlcMisses input.llc with
    | some value => (ctx, value)
    | none => (ctx.dropLlc input.llcFailedAt, 0)

/-- `tsd_perf_evaluate` in validated hardware mode. -/
def evaluateHardware : PerfCtx × ThermalEval × Bool :=
  let ctx := ctx.tryRecoverLlc input.llcRecover
  match readExact ctx.fdCycles input.group with
  | none => (ctx.failClosed "group-read" input.failure).severe
  | some now =>
    if now.nr ≠ 2 then (ctx.failClosed "group-layout" input.failure).severe
    else
      let (ctx, llcNow) := ctx.readLlc input
      ctx.evaluateReading cfg input now llcNow

/-- `tsd_perf_evaluate`: the context, the report and whether it throttles. -/
def evaluate : PerfCtx × ThermalEval × Bool :=
  match ctx.mode with
  | .software => ctx.evaluateSoftware cfg input
  | .none => ctx.severe
  | .hardware => if ctx.hardwareValidated then ctx.evaluateHardware cfg input else ctx.severe

end PerfCtx

/-- The calls on a perf context. -/
inductive PerfCall
  | enable (input : EnableInput) (failure : FailInput)
  | measureBaseline (cfg : RuntimeConfig) (input : MeasureInput)
  | evaluate (cfg : RuntimeConfig) (input : EvalInput)
  | checkSoftwareTimeout (timeoutSec : ℤ) (now : Timespec)

/-- The call by its kind. -/
def PerfCtx.perform (ctx : PerfCtx) : PerfCall → PerfCtx
  | .enable input failure => ctx.enable input failure
  | .measureBaseline cfg input => ctx.measureBaseline cfg input
  | .evaluate cfg input => (ctx.evaluate cfg input).1
  | .checkSoftwareTimeout timeoutSec now => (ctx.checkSoftwareTimeout timeoutSec now).1

end ThermalSimd
