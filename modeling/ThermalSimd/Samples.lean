import ThermalSimd.PerfPaths

/-!
# What an evaluation measures

`tsd_perf_evaluate`, cut where it hands its measurement to `process_measurement`: the context and
the measurement it hands over, and what `process_measurement` changes.
-/

namespace ThermalSimd

/-- The references and averages of a context. -/
structure Averages where
  baselineCpi : UInt64
  calibratedCpiReference : UInt64
  baselineWorkCostMilli : UInt64
  calibratedWorkReference : UInt64
  slowCpi : UInt64
  fastCpi : UInt64
  slowLlcMpki : UInt64
  fastLlcMpki : UInt64
  deriving DecidableEq

/-- The history of ratios of a context. -/
structure RatioRing where
  history : Vector UInt32 ratioHistory
  count : ℕ
  cursor : Fin ratioHistory
  trimmed : UInt32
  deriving DecidableEq

namespace PerfCtx

def averages (ctx : PerfCtx) : Averages where
  baselineCpi := ctx.baselineCpi
  calibratedCpiReference := ctx.calibratedCpiReference
  baselineWorkCostMilli := ctx.baselineWorkCostMilli
  calibratedWorkReference := ctx.calibratedWorkReference
  slowCpi := ctx.slowCpi
  fastCpi := ctx.fastCpi
  slowLlcMpki := ctx.slowLlcMpki
  fastLlcMpki := ctx.fastLlcMpki

def ratios (ctx : PerfCtx) : RatioRing where
  history := ctx.ratioHistory
  count := ctx.ratioHistoryCount
  cursor := ctx.ratioHistoryCursor
  trimmed := ctx.ratioTrimmedMilli

def withDomain (ctx : PerfCtx) (averages : Averages) (ratios : RatioRing) : PerfCtx :=
  { ctx with
    baselineCpi := averages.baselineCpi
    calibratedCpiReference := averages.calibratedCpiReference
    baselineWorkCostMilli := averages.baselineWorkCostMilli
    calibratedWorkReference := averages.calibratedWorkReference
    slowCpi := averages.slowCpi
    fastCpi := averages.fastCpi
    slowLlcMpki := averages.slowLlcMpki
    fastLlcMpki := averages.fastLlcMpki
    ratioHistory := ratios.history
    ratioHistoryCount := ratios.count
    ratioHistoryCursor := ratios.cursor
    ratioTrimmedMilli := ratios.trimmed }

/-- `process_measurement` changes nothing but the measurement domain. -/
theorem processMeasurement_fst (ctx : PerfCtx) (sample cfg degraded) :
    (ctx.processMeasurement sample cfg degraded).1 =
      ctx.withDomain (ctx.processMeasurement sample cfg degraded).1.averages
        (ctx.processMeasurement sample cfg degraded).1.ratios := by
  simp only [processMeasurement, storeRatio, updateAverages, withDomain, averages, ratios]

end PerfCtx

/-- Where a context's readings and retries stand. -/
structure Cursors where
  fdLlcMisses : ℤ
  lastGroupRead : PerfGroupRead
  lastGroupValid : Bool
  lastLlcValue : UInt64
  zeroRunningSamples : ℤ
  hwLastIterations : UInt64
  perfRetry : RetrySchedule
  llcRetry : RetrySchedule

namespace PerfCtx

variable (ctx : PerfCtx) (input : EvalInput)

def cursors : Cursors where
  fdLlcMisses := ctx.fdLlcMisses
  lastGroupRead := ctx.lastGroupRead
  lastGroupValid := ctx.lastGroupValid
  lastLlcValue := ctx.lastLlcValue
  zeroRunningSamples := ctx.zeroRunningSamples
  hwLastIterations := ctx.hwLastIterations
  perfRetry := ctx.perfRetry
  llcRetry := ctx.llcRetry

theorem cursors_setMode (mode reason input) :
    (ctx.setMode mode reason input).cursors = ctx.cursors := by
  unfold setMode
  split
  · rfl
  · cases mode with
    | none => rfl
    | hardware | software =>
      dsimp only
      split <;> simp only [record, publishPerfState, resetMeasurementDomain, cursors]

theorem cursors_failClosed (reason input) :
    (ctx.failClosed reason input).cursors =
      { ctx.closePerfEvents.cursors with
        perfRetry := (ctx.schedulePerfRetry input.now).perfRetry } := by
  rw [failClosed, cursors_setMode, loseCounters]
  unfold schedulePerfRetry
  split
  · next forced =>
      rw [if_pos (show ctx.forceSoftware = true from forced)]
      rfl
  · next unforced =>
      rw [if_neg (show ¬ ctx.forceSoftware = true from unforced)]
      simp only [cursors, record, closePerfEvents]

/-- `tsd_perf_evaluate` in software mode, up to its measurement. -/
def sampleSoftware : PerfCtx × Option Measurement :=
  match ctx.tryRecoverHardware input.recover with
  | (recovered, true) => (recovered, none)
  | (ctx, false) =>
    let stamped := ctx.stampSoftware input
    if ctx.softwareAdaptation = false then ({ stamped with softwareAdaptation := true }, none)
    else
      let deltaIters := counterDelta ctx.swLastIterations input.iterations
      let deltaNs := timespecDiffNs ctx.swLastTimestamp input.swNow
      if deltaIters = 0 ∨ deltaNs = 0 then (stamped, none)
      else
        let cost := deltaNs * 1000 / deltaIters
        (stamped, some
          { cpi := if cost = 0 then 1 else cost
            workCostMilli := 0
            mpkiMilli := 0
            telemetry := stamped.fetchFusedTelemetry input.sensors })

/-- The end of `tsd_perf_evaluate`, up to its measurement. -/
def sampleWork (now : PerfGroupRead) (llcNow deltaCycles deltaInsns : UInt64) :
    PerfCtx × Option Measurement :=
  let deltaWork := counterDelta ctx.hwLastIterations input.iterations
  let deltaLlc := if ctx.fdLlcMisses < 0 then 0 else counterDelta ctx.lastLlcValue llcNow
  let advanced := (ctx.withWork input.iterations).advance now llcNow
  if ctx.workload = false ∧ deltaWork = 0 then (advanced, none)
  else
    (advanced, some
      { cpi := deltaCycles * 1000 / deltaInsns
        workCostMilli := workCostMilli deltaCycles deltaWork
        mpkiMilli := deltaLlc * mpkiScale / deltaInsns
        telemetry := advanced.fetchFusedTelemetry input.sensors })

/-- `tsd_perf_evaluate` in hardware mode, from its reading up to its measurement. -/
def sampleReading (now : PerfGroupRead) (llcNow : UInt64) : PerfCtx × Option Measurement :=
  if ctx.lastGroupValid = false then ({ ctx with lastGroupValid := true }.advance now llcNow, none)
  else if ¬ GroupOrderValid ctx.lastGroupRead now then
    (ctx.failClosed "group-counter-regression" input.failure, none)
  else if now.timeRunning = ctx.lastGroupRead.timeRunning ∨
      now.timeEnabled = ctx.lastGroupRead.timeEnabled then
    ((ctx.handleNoRunningProgress input.failure).1, none)
  else
    let running := ctx.withZeroRunning 0
    if now.insns = ctx.lastGroupRead.insns then (running.advance now llcNow, none)
    else
      let (deltaCycles, deltaInsns) := scaledDeltas ctx.lastGroupRead now
      if deltaCycles = 0 ∨ deltaInsns = 0 then
        ((running.handleNoRunningProgress input.failure).1, none)
      else running.sampleWork input now llcNow deltaCycles deltaInsns

/-- `tsd_perf_evaluate` in validated hardware mode, up to its measurement. -/
def sampleHardware : PerfCtx × Option Measurement :=
  let ctx := ctx.tryRecoverLlc input.llcRecover
  match readExact ctx.fdCycles input.group with
  | none => (ctx.failClosed "group-read" input.failure, none)
  | some now =>
    if now.nr ≠ 2 then (ctx.failClosed "group-layout" input.failure, none)
    else
      let (ctx, llcNow) := ctx.readLlc input
      ctx.sampleReading input now llcNow

/-- `tsd_perf_evaluate` up to its measurement, if it makes one. -/
def sampled : PerfCtx × Option Measurement :=
  match ctx.mode with
  | .software => ctx.sampleSoftware input
  | .none => (ctx, none)
  | .hardware => if ctx.hardwareValidated then ctx.sampleHardware input else (ctx, none)

end PerfCtx

/-- A measurement is reported as judged, available only in hardware mode; or no cost. -/
structure Completed (mode : PerfMode) (cfg : RuntimeConfig) (degraded : Bool)
    (handed : PerfCtx × Option Measurement) (result : PerfCtx × ThermalEval × Bool) : Prop where
  measured : ∀ sample, handed.2 = some sample →
    result.1 = (handed.1.processMeasurement sample cfg degraded).1 ∧
      result.2.1 = { (handed.1.processMeasurement sample cfg degraded).2.1 with
        performanceAvailable := decide (mode = .hardware) } ∧
      result.2.2 = (handed.1.processMeasurement sample cfg degraded).2.2
  unmeasured : handed.2 = none → result.1 = handed.1 ∧ result.2.1.workCostMilli = 0

namespace Completed

variable {mode : PerfMode} {cfg : RuntimeConfig} {degraded : Bool} {ctx : PerfCtx}

theorem without {res} (left : res.1 = ctx)
    (free : res.2.1.workCostMilli = 0) : Completed mode cfg degraded (ctx, none) res where
  measured := nofun
  unmeasured _ := ⟨left, free⟩

theorem hardware (sample) : Completed .hardware cfg degraded (ctx, some sample)
    (ctx.processMeasurement sample cfg degraded) where
  measured := by
    rintro _ ⟨⟩
    exact ⟨rfl, rfl, rfl⟩
  unmeasured := nofun

theorem software (sample) : Completed .software cfg degraded (ctx, some sample)
    ((ctx.processMeasurement sample cfg degraded).1,
      { (ctx.processMeasurement sample cfg degraded).2.1 with performanceAvailable := false },
      (ctx.processMeasurement sample cfg degraded).2.2) where
  measured := by
    rintro _ ⟨⟩
    exact ⟨rfl, rfl, rfl⟩
  unmeasured := nofun

end Completed

namespace PerfCtx

variable (ctx : PerfCtx) (cfg : RuntimeConfig) (input : EvalInput)

theorem evaluateSoftware_completed : Completed .software cfg input.degraded
    (ctx.sampleSoftware input) (ctx.evaluateSoftware cfg input) := by
  unfold sampleSoftware evaluateSoftware
  generalize ctx.tryRecoverHardware input.recover = probe
  obtain ⟨_, recovers⟩ := probe
  cases recovers with
  | true => exact .without rfl rfl
  | false =>
    dsimp only
    split
    · exact .without rfl rfl
    split
    · exact .without rfl rfl
    · exact .software _

theorem handleNoRunningProgress_completed (mode degraded failure) : Completed mode cfg degraded
      ((ctx.handleNoRunningProgress failure).1, none) (ctx.handleNoRunningProgress failure) := by
  refine .without rfl ?_
  unfold handleNoRunningProgress
  dsimp only
  split <;> rfl

theorem evaluateReading_completed (now llcNow) :
    Completed .hardware cfg input.degraded (ctx.sampleReading input now llcNow)
      (ctx.evaluateReading cfg input now llcNow) := by
  unfold sampleReading evaluateReading
  split
  · exact .without rfl rfl
  split
  · exact .without rfl rfl
  split
  · exact ctx.handleNoRunningProgress_completed _ _ _ _
  dsimp only
  split
  · exact .without rfl rfl
  split
  · exact (ctx.withZeroRunning 0).handleNoRunningProgress_completed _ _ _ _
  · unfold sampleWork evaluateWork
    dsimp only
    split
    · exact .without rfl rfl
    · exact .hardware _

theorem evaluateHardware_completed : Completed .hardware cfg input.degraded
    (ctx.sampleHardware input) (ctx.evaluateHardware cfg input) := by
  unfold sampleHardware evaluateHardware
  dsimp only
  cases readExact (ctx.tryRecoverLlc input.llcRecover).fdCycles input.group with
  | none => exact .without rfl rfl
  | some =>
    dsimp only
    split
    · exact .without rfl rfl
    · exact evaluateReading_completed _ cfg input _ _

theorem evaluate_completed :
    Completed ctx.mode cfg input.degraded (ctx.sampled input) (ctx.evaluate cfg input) := by
  unfold sampled evaluate
  cases ctx.mode with
  | none => exact .without rfl rfl
  | software => exact ctx.evaluateSoftware_completed cfg input
  | hardware =>
    dsimp only
    split
    · exact ctx.evaluateHardware_completed cfg input
    · exact .without rfl rfl

theorem evaluate_fst : ∃ averages ratios,
    (ctx.evaluate cfg input).1 = (ctx.sampled input).1.withDomain averages ratios := by
  have completed := ctx.evaluate_completed cfg input
  cases sample : (ctx.sampled input).2 with
  | none =>
    rw [(completed.unmeasured sample).1]
    exact ⟨(ctx.sampled input).1.averages, (ctx.sampled input).1.ratios, rfl⟩
  | some sample' =>
    rw [(completed.measured sample' sample).1]
    exact ⟨_, _, processMeasurement_fst _ sample' cfg input.degraded⟩

/-- The context in which a reading is judged: the LLC event is recovered and read. -/
def readFor (ctx : PerfCtx) (input : EvalInput) : PerfCtx :=
  ((ctx.tryRecoverLlc input.llcRecover).readLlc input).1

def llcNow (ctx : PerfCtx) (input : EvalInput) : UInt64 :=
  ((ctx.tryRecoverLlc input.llcRecover).readLlc input).2

theorem llcOnly_readFor (ctx : PerfCtx) (input) : ctx.LlcOnly (ctx.readFor input) :=
  (ctx.llcOnly_tryRecoverLlc input.llcRecover).trans (llcOnly_readLlc _ input)

section

variable {ctx ctx' : PerfCtx}

theorem LlcOnly.fdCycles (only : ctx.LlcOnly ctx') : ctx'.fdCycles = ctx.fdCycles := by
  obtain ⟨_, _, _, rfl⟩ := only
  rfl

theorem LlcOnly.lastGroupValid (only : ctx.LlcOnly ctx') :
    ctx'.lastGroupValid = ctx.lastGroupValid := by
  obtain ⟨_, _, _, rfl⟩ := only
  rfl

theorem LlcOnly.lastGroupRead (only : ctx.LlcOnly ctx') :
    ctx'.lastGroupRead = ctx.lastGroupRead := by
  obtain ⟨_, _, _, rfl⟩ := only
  rfl

theorem LlcOnly.zeroRunningSamples (only : ctx.LlcOnly ctx') :
    ctx'.zeroRunningSamples = ctx.zeroRunningSamples := by
  obtain ⟨_, _, _, rfl⟩ := only
  rfl

end

/-- The group is read and has two counters. -/
structure Reads (ctx : PerfCtx) (input : EvalInput) (now : PerfGroupRead) : Prop where
  hardware : ctx.mode = .hardware
  validated : ctx.hardwareValidated = true
  read : readExact ctx.fdCycles input.group = some now
  layout : now.nr = 2

instance (ctx : PerfCtx) (input : EvalInput) (now : PerfGroupRead) :
    Decidable (ctx.Reads input now) :=
  decidable_of_iff (ctx.mode = .hardware ∧ ctx.hardwareValidated = true ∧
      readExact ctx.fdCycles input.group = some now ∧ now.nr = 2)
    ⟨fun ⟨hardware, validated, read, layout⟩ => ⟨hardware, validated, read, layout⟩,
      fun reads => ⟨reads.hardware, reads.validated, reads.read, reads.layout⟩⟩

theorem Reads.read_recovered {ctx : PerfCtx} {input now} (reads : ctx.Reads input now) :
    readExact (ctx.tryRecoverLlc input.llcRecover).fdCycles input.group = some now := by
  rw [(ctx.llcOnly_tryRecoverLlc input.llcRecover).fdCycles, reads.read]

theorem Reads.evaluate_eq {ctx : PerfCtx} {input now} (reads : ctx.Reads input now) (cfg) :
    ctx.evaluate cfg input =
      (ctx.readFor input).evaluateReading cfg input now (ctx.llcNow input) := by
  rw [evaluate, reads.hardware]
  rw [if_pos reads.validated, evaluateHardware]
  rw [reads.read_recovered]
  dsimp only
  rw [if_neg (not_not.mpr reads.layout)]
  rfl

theorem Reads.sampled_eq {ctx : PerfCtx} {input now} (reads : ctx.Reads input now) :
    ctx.sampled input = (ctx.readFor input).sampleReading input now (ctx.llcNow input) := by
  rw [sampled, reads.hardware]
  rw [if_pos reads.validated, sampleHardware]
  rw [reads.read_recovered]
  dsimp only
  rw [if_neg (not_not.mpr reads.layout)]
  rfl

def workSample (ctx : PerfCtx) (input : EvalInput) (now : PerfGroupRead) (llcNow : UInt64) :
    Measurement where
  cpi := (scaledDeltas ctx.lastGroupRead now).1 * 1000 / (scaledDeltas ctx.lastGroupRead now).2
  workCostMilli := workCostMilli (scaledDeltas ctx.lastGroupRead now).1
    (counterDelta ctx.hwLastIterations input.iterations)
  mpkiMilli :=
    (if ctx.fdLlcMisses < 0 then 0 else counterDelta ctx.lastLlcValue llcNow) * mpkiScale /
    (scaledDeltas ctx.lastGroupRead now).2
  telemetry := ctx.fetchFusedTelemetry input.sensors

/-- The context once the work of a reading that progressed is accounted for. -/
def workedOff (ctx : PerfCtx) (input : EvalInput) (now : PerfGroupRead) (llcNow : UInt64) :
    PerfCtx :=
  ((ctx.withZeroRunning 0).withWork input.iterations).advance now llcNow

section

variable (ctx : PerfCtx) (input : EvalInput) (now : PerfGroupRead) (llcNow : UInt64)

/-- What an evaluation in validated hardware mode makes of its reading. -/
inductive ReadingOutcome : EvalPath → PerfCtx × Option Measurement → Prop
  | first (unread : ctx.lastGroupValid = false) :
      ReadingOutcome .first ({ ctx with lastGroupValid := true }.advance now llcNow, none)
  | failed (samples : ℤ) (reason : String) :
      ReadingOutcome .failed ((ctx.withZeroRunning samples).failClosed reason input.failure, none)
  | stalled (samples : ℤ) (counted : 0 ≤ ctx.zeroRunningSamples → 0 ≤ samples) :
      ReadingOutcome .stalled (ctx.withZeroRunning samples, none)
  | idle (unretired : now.insns = ctx.lastGroupRead.insns) :
      ReadingOutcome .idle ((ctx.withZeroRunning 0).advance now llcNow, none)
  | unworked (registered : ctx.workload = false)
      (unworked : counterDelta ctx.hwLastIterations input.iterations = 0) :
      ReadingOutcome .observed (ctx.workedOff input now llcNow, none)
  | measured :
      ReadingOutcome .observed
        (ctx.workedOff input now llcNow, some (ctx.workSample input now llcNow))

end

variable (now : PerfGroupRead) (llcNow : UInt64)

theorem stall_outcome (samples) (counted : 0 ≤ ctx.zeroRunningSamples → 0 ≤ samples) :
    ReadingOutcome ctx input now llcNow (ctx.withZeroRunning samples).stallPath
      (((ctx.withZeroRunning samples).handleNoRunningProgress input.failure).1, none) := by
  by_cases lt : samples + 1 < 3
  · have path : (ctx.withZeroRunning samples).stallPath = .stalled := if_pos lt
    have ends : (ctx.withZeroRunning samples).handleNoRunningProgress input.failure =
        (ctx.withZeroRunning (samples + 1)).silent := if_pos lt
    rw [path, ends]
    exact .stalled (samples + 1) fun nonneg => add_nonneg (counted nonneg) zero_le_one
  · have path : (ctx.withZeroRunning samples).stallPath = .failed := if_neg lt
    have ends : (ctx.withZeroRunning samples).handleNoRunningProgress input.failure =
        ((ctx.withZeroRunning (samples + 1)).failClosed "group-not-running" input.failure).severe :=
      if_neg lt
    rw [path, ends]
    exact .failed (samples + 1) "group-not-running"

theorem sampleReading_outcome : ReadingOutcome ctx input now llcNow (ctx.readingPath now)
    (ctx.sampleReading input now llcNow) := by
  unfold sampleReading readingPath
  split
  · next unread => exact .first unread
  split
  · exact .failed ctx.zeroRunningSamples "group-counter-regression"
  split
  · exact ctx.stall_outcome input now llcNow ctx.zeroRunningSamples id
  dsimp only
  split
  · next unretired => exact .idle unretired
  split
  · exact ctx.stall_outcome input now llcNow 0 fun _ => le_rfl
  · unfold sampleWork
    dsimp only
    split
    · next unworked => exact .unworked unworked.1 unworked.2
    · exact .measured

/-- What an evaluation in validated hardware mode hands over. -/
inductive HardwareSample (ctx : PerfCtx) (input : EvalInput) : PerfCtx × Option Measurement → Prop
  | lost (reason : String) : HardwareSample ctx input
      ((ctx.tryRecoverLlc input.llcRecover).failClosed reason input.failure, none)
  | read {now : PerfGroupRead} {handed : PerfCtx × Option Measurement} (reads : ctx.Reads input now)
      (outcome : ReadingOutcome (ctx.readFor input) input now (ctx.llcNow input)
        ((ctx.readFor input).readingPath now) handed) : HardwareSample ctx input handed

theorem hardwareSample (hw : ctx.mode = .hardware)
    (validated : ctx.hardwareValidated = true) :
    HardwareSample ctx input (ctx.sampled input) := by
  rw [sampled, hw]
  rw [if_pos validated]
  cases read : readExact ctx.fdCycles input.group with
  | none =>
    rw [sampleHardware, (ctx.llcOnly_tryRecoverLlc input.llcRecover).fdCycles, read]
    exact .lost "group-read"
  | some now =>
    by_cases layout : now.nr = 2
    · have reads : ctx.Reads input now := ⟨hw, validated, read, layout⟩
      have same := reads.sampled_eq
      rw [sampled, hw] at same
      rw [if_pos validated] at same
      rw [same]
      exact .read reads (sampleReading_outcome _ input now _)
    · rw [sampleHardware, (ctx.llcOnly_tryRecoverLlc input.llcRecover).fdCycles, read]
      dsimp only
      rw [if_pos layout]
      exact .lost "group-layout"

/-- What an evaluation hands over. -/
inductive SampledOutcome (ctx : PerfCtx) (input : EvalInput) : PerfCtx × Option Measurement → Prop
  | unvalidated : SampledOutcome ctx input (ctx, none)
  | software (software : ctx.mode = .software) : SampledOutcome ctx input (ctx.sampleSoftware input)
  | hardware {handed} (hardware : ctx.mode = .hardware) (validated : ctx.hardwareValidated = true)
      (sample : HardwareSample ctx input handed) :
      SampledOutcome ctx input handed

theorem sampled_outcome : SampledOutcome ctx input (ctx.sampled input) := by
  cases mode : ctx.mode with
  | none =>
    rw [sampled, mode]
    exact .unvalidated
  | software =>
    rw [sampled, mode]
    exact .software mode
  | hardware =>
    by_cases validated : ctx.hardwareValidated = true
    · exact .hardware mode validated (ctx.hardwareSample input mode validated)
    · rw [sampled, mode]
      rw [if_neg validated]
      exact .unvalidated

end PerfCtx

end ThermalSimd
