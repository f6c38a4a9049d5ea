import ThermalSimd.Hysteresis

/-!
# How far the monitor counts

`throttle_count` and `stable_count` are C `int`s. Beyond their limits they grow while there is
nothing to do: throttled at SSE4.1, or stable at the maximum width. Nothing stops them there.
-/

namespace ThermalSimd

open Streak RuntimeConfig

variable {ctx : PerfCtx} {index : ℕ}

theorem RuntimeConfig.effectiveDownCount_le (cfg : RuntimeConfig) (degraded) :
    cfg.effectiveDownCount degraded ≤ max cfg.downCount 1 := by
  unfold effectiveDownCount
  dsimp only
  split_ifs <;> omega

theorem RuntimeConfig.effectiveUpCount_le (cfg : RuntimeConfig) (degraded) :
    cfg.effectiveUpCount degraded ≤ max cfg.upCount 10 := by
  unfold effectiveUpCount
  dsimp only
  split_ifs <;> omega

namespace Monitor

variable (env : MonitorEnv) (monitor : Monitor) (input : SampleInput)

def IdlesThrottled : Prop :=
  monitor.Counted env input ∧ monitor.Throttles env input ∧ ¬ .sse41 < input.width
  deriving Decidable

def IdlesStable : Prop :=
  monitor.Counted env input ∧ ¬ monitor.Throttles env input ∧ ¬ input.width < env.maxWidth
  deriving Decidable

def SetsThrottle (taken : Branch) : Prop :=
  taken = .safety ∨ taken = .predictive ∨
    taken = .counted ∧ (¬ monitor.Throttles env input ∨ monitor.DowngradeDue env input)

def SetsStable (taken : Branch) : Prop :=
  taken = .safety ∨ taken = .unmeasured ∨ taken = .predictive ∨
    taken = .counted ∧ (monitor.Throttles env input ∨ monitor.UpgradeDue env input)

/-- The increment of the iteration, if it makes one, stays an `int`. -/
def IncrementFits : Prop :=
  monitor.Counted env input →
    (monitor.Throttles env input → monitor.throttleCount + 1 ≤ intMax) ∧
      (¬ monitor.Throttles env input → monitor.stableCount + 1 ≤ intMax)

variable {env monitor input}

theorem Outcome.throttleCount_idle {taken next requests}
    (out : monitor.Outcome env input taken next requests) :
    next.throttleCount ≤ max env.cfg.downCount 1 ∨
      ¬ monitor.SetsThrottle env input taken ∧
        next.throttleCount ≤ monitor.throttleCount +
          if taken = .counted ∧ monitor.Throttles env input ∧ ¬ .sse41 < input.width
          then 1 else 0 := by
  have limit := env.cfg.effectiveDownCount_le input.degraded
  have nonneg : (0 : ℤ) ≤ max env.cfg.downCount 1 := by omega
  cases out with
  | settled | forced | predictive => exact .inl nonneg
  | refused => exact .inl limit
  | unmeasured | gated => exact .inr ⟨by simp [SetsThrottle], by simp⟩
  | counted _ ends =>
    cases ends with
    | throttled throttles wait =>
      by_cases wide : .sse41 < input.width
      · -- Above SSE4.1 a downgrade that is not due leaves the count below the limit.
        have short : ¬ env.cfg.effectiveDownCount input.degraded ≤ monitor.throttleCount + 1 :=
          fun due => wait ⟨due, wide⟩
        refine .inl ?_
        change monitor.throttleCount + 1 ≤ _
        omega
      · refine .inr ⟨by simp [SetsThrottle, throttles, wait], ?_⟩
        rw [if_pos ⟨rfl, throttles, wide⟩]
        exact le_rfl
    | downgraded | stable | blocked | upgraded | upgradeFailed => exact .inl nonneg
    | downgradeFailed => exact .inl limit

theorem Outcome.stableCount_idle {taken next requests}
    (out : monitor.Outcome env input taken next requests) :
    next.stableCount ≤ max env.cfg.upCount 10 ∨
      ¬ monitor.SetsStable env input taken ∧
        next.stableCount ≤ monitor.stableCount +
          if taken = .counted ∧ ¬ monitor.Throttles env input ∧ ¬ input.width < env.maxWidth
          then 1 else 0 := by
  have limit := env.cfg.effectiveUpCount_le input.degraded
  have nonneg : (0 : ℤ) ≤ max env.cfg.upCount 10 := by omega
  cases out with
  | settled | forced | refused | unmeasured | predictive => exact .inl nonneg
  | gated => exact .inr ⟨by simp [SetsStable], by simp⟩
  | counted _ ends =>
    cases ends with
    | throttled | downgraded | downgradeFailed | blocked | upgraded | upgradeFailed =>
      exact .inl nonneg
    | stable calm wait =>
      by_cases narrow : input.width < env.maxWidth
      · have short : ¬ env.cfg.effectiveUpCount input.degraded ≤ monitor.stableCount + 1 :=
          fun due => wait ⟨due, narrow⟩
        refine .inl ?_
        change monitor.stableCount + 1 ≤ _
        omega
      · refine .inr ⟨by simp [SetsStable, calm, wait], ?_⟩
        rw [if_pos ⟨rfl, calm, narrow⟩]
        exact le_rfl

end Monitor

section

variable (env : MonitorEnv) (trace : ℕ → Monitor) (inputs : ℕ → SampleInput)

/-- Sample `index` of a run is throttled at SSE4.1. -/
def IdlesThrottledAt (index : ℕ) : Prop := (trace index).IdlesThrottled env (inputs index)
  deriving Decidable

/-- Sample `index` of a run is stable at the maximum width. -/
def IdlesStableAt (index : ℕ) : Prop := (trace index).IdlesStable env (inputs index)
  deriving Decidable

/-- Sample `index` of a run sets the throttle count. -/
def SetsThrottleAt (index : ℕ) : Prop :=
  (trace index).SetsThrottle env (inputs index) ((trace index).branch env (inputs index))

/-- Sample `index` of a run sets the stable count. -/
def SetsStableAt (index : ℕ) : Prop :=
  (trace index).SetsStable env (inputs index) ((trace index).branch env (inputs index))

/-- Between two settings of a count, a run idles for fewer samples than an `int` leaves. -/
structure IdlesBriefly (length : ℕ) : Prop where
  throttled : ∀ first last, first ≤ last → last ≤ length →
    (∀ index, first ≤ index → index < last → ¬ SetsThrottleAt env trace inputs index) →
    max env.cfg.downCount 1 + hits (IdlesThrottledAt env trace inputs) first last < intMax
  stable : ∀ first last, first ≤ last → last ≤ length →
    (∀ index, first ≤ index → index < last → ¬ SetsStableAt env trace inputs index) →
    max env.cfg.upCount 10 + hits (IdlesStableAt env trace inputs) first last < intMax

/-- No count exceeds `INT_MAX`, between the samples or when one increments it. -/
structure CountersFit (length : ℕ) : Prop where
  throttle : ∀ index ≤ length, (trace index).throttleCount ≤ intMax
  stable : ∀ index ≤ length, (trace index).stableCount ≤ intMax
  increments : ∀ index < length, (trace index).IncrementFits env (inputs index)

variable {env trace inputs} {length : ℕ}

theorem IdlesBriefly.of_short (down : max env.cfg.downCount 1 + length < intMax)
    (up : max env.cfg.upCount 10 + length < intMax) : IdlesBriefly env trace inputs length where
  throttled first last le upto _ := by
    have few := hits_le (IdlesThrottledAt env trace inputs) first last
    omega
  stable first last le upto _ := by
    have few := hits_le (IdlesStableAt env trace inputs) first last
    omega

section

variable (run : MonitorRun env trace inputs length) (brief : IdlesBriefly env trace inputs length)
include run brief

theorem MonitorRun.throttleCount_lt : ∀ index ≤ length, (trace index).throttleCount < intMax := by
  refine lt_of_brief ?_ (fun index lt => ?_) brief.throttled
  · obtain ⟨_, start⟩ := run.start
    rw [start]
    exact le_max_of_le_right (Int.natCast_nonneg _)
  · rw [run.samples index lt]
    exact ((trace index).sample_outcome env (inputs index)).throttleCount_idle

theorem MonitorRun.stableCount_lt : ∀ index ≤ length, (trace index).stableCount < intMax := by
  refine lt_of_brief ?_ (fun index lt => ?_) brief.stable
  · obtain ⟨_, start⟩ := run.start
    rw [start]
    exact le_max_of_le_right (Int.natCast_nonneg _)
  · rw [run.samples index lt]
    exact ((trace index).sample_outcome env (inputs index)).stableCount_idle

end

/-- In every run that idles briefly the counts stay `int`s. -/
theorem counters_fit_of_brief_idling (run : MonitorRun env trace inputs length)
    (brief : IdlesBriefly env trace inputs length) : CountersFit env trace inputs length where
  throttle index upto := (run.throttleCount_lt brief index upto).le
  stable index upto := (run.stableCount_lt brief index upto).le
  increments index below _ :=
    ⟨fun _ => run.throttleCount_lt brief index below.le,
      fun _ => run.stableCount_lt brief index below.le⟩

end

theorem counters_fit_of_brief_idling_recovering :
    CountersFit defaultEnv (fun index => (recoveryTrace index).monitor) recoveryAdvised 1000000 :=
  counters_fit_of_brief_idling (recoveryTrace_run 1000000).monitorRun
    (.of_short (by decide) (by decide))

theorem PerfCtx.throttles_of_thermalSeverity {sample cfg degraded}
    (severe : 0 < thermalSeverity cfg sample.telemetry)
    (moderate : thermalSeverity cfg sample.telemetry < 9223372036854775808) :
    (ctx.processMeasurement sample cfg degraded).2.2 = true := by
  unfold processMeasurement
  dsimp only
  generalize (ctx.updateAverages sample).measuredRatioMilli sample = ratio
  generalize ((ctx.updateAverages sample).storeRatio ratio).ratioTrimmedMilli.toUInt64 = trimmed
  generalize dynamicThreshold _ _ _ _ _ = threshold
  generalize thermalSeverity cfg sample.telemetry = thermal at severe moderate
  rw [decide_eq_true_iff, UInt64.lt_iff_toNat_lt, UInt64.toNat_add]
  rw [UInt64.lt_iff_toNat_lt] at severe moderate
  -- The consensus of two ratios is half a 64-bit sum, so the addition does not wrap.
  have half : ((ratio + trimmed) / 2).toNat < 2 ^ 63 := by
    change _ / 2 < _
    omega
  have base : (if threshold < (ratio + trimmed) / 2 then (ratio + trimmed) / 2 - threshold
      else 0).toNat < 2 ^ 63 := by
    split_ifs with above
    · rw [UInt64.toNat_sub_of_le _ _ (UInt64.le_of_lt above)]
      omega
    · decide
  change thermal.toNat < 2 ^ 63 at moderate
  change 0 < _
  omega

def weightedEnv : MonitorEnv :=
  ⟨{ RuntimeConfig.setDefaults with thermalTempWeightMilli := 1000 }, .avx2, false⟩

def steadyReading (index : ℕ) : PerfGroupRead :=
  let count := UInt64.ofNat (1000 * (index + 1))
  ⟨2, count, count, count, count⟩

def warmStart : MonitorStart :=
  { validatedStart with
    init := { refusedInit with workload := true, events := ⟨.ok 3, .ok 4, .ok 5, 1000000000⟩ }
    baseline :=
      { validatedStart.baseline with
        baseline := ⟨some ⟨2, 0, 0, 0, 0⟩, some 0, 0, 0, some (steadyReading 0), some 0⟩ } }

def warmInputs (index : ℕ) : SampleInput :=
  let sample := avx2Sample (index + 2) 90000 (some (steadyReading (index + 1)))
  { sample with
    startWidth := .sse41
    width := .sse41
    safetyWidth := .sse41
    eval := { sample.eval with llc := some 0 } }

def warmTrace : ℕ → Monitor := Monitor.follow weightedEnv warmStart warmInputs

theorem warmTrace_run (length) : MonitorRun weightedEnv warmTrace warmInputs length :=
  Monitor.follow_run _ _ _ length

/-- A perf context whose counters have advanced to the reading of sample `index`. -/
structure PerfCtx.Steady (ctx : PerfCtx) (index : ℕ) : Prop where
  mode : ctx.mode = .hardware
  validated : ctx.hardwareValidated = true
  cycles : ctx.fdCycles = 3
  llc : ctx.fdLlcMisses = 5
  workload : ctx.workload = true
  fusion : ctx.fusionAcquired = true
  valid : ctx.lastGroupValid = true
  read : ctx.lastGroupRead = steadyReading index

private def warmSample : TelemetrySample := ⟨true, false, 90000, 0, true, false, 90000, 0⟩

theorem toNat_steady (lt : index < 4294967296) :
    (UInt64.ofNat (1000 * (index + 1))).toNat = 1000 * (index + 1) := by
  exact UInt64.toNat_ofNat_of_lt' (by change _ < 2 ^ 64; omega)

theorem steadyReading_order (lt : index + 1 < 4294967296) :
    UInt64.ofNat (1000 * (index + 1)) < UInt64.ofNat (1000 * (index + 1 + 1)) := by
  rw [UInt64.lt_iff_toNat_lt, toNat_steady lt, toNat_steady (by omega)]
  omega

theorem steadyReading_delta (index) :
    UInt64.ofNat (1000 * (index + 1 + 1)) - UInt64.ofNat (1000 * (index + 1)) = 1000 := by
  rw [Nat.mul_add 1000 (index + 1) 1, UInt64.ofNat_add, UInt64.add_comm, UInt64.add_sub_cancel]
  rfl

theorem scaledDeltas_steady (index) :
    scaledDeltas (steadyReading index) (steadyReading (index + 1)) = (1000, 1000) := by
  simp only [scaledDeltas, steadyReading, steadyReading_delta]
  decide

theorem PerfCtx.Steady.evaluate (steady : ctx.Steady index) (lt : index + 1 < 4294967296) :
    ∃ cpi workCost mpki, ctx.evaluate weightedEnv.cfg (warmInputs index).eval =
      PerfCtx.processMeasurement
        (((ctx.withZeroRunning 0).withWork 0).advance (steadyReading (index + 1)) 0)
        ⟨cpi, workCost, mpki, warmSample⟩ weightedEnv.cfg false := by
  have later := steadyReading_order lt
  have order : GroupOrderValid (steadyReading index) (steadyReading (index + 1)) :=
    ⟨rfl, rfl, UInt64.le_of_lt later, UInt64.le_of_lt later, UInt64.le_of_lt later,
      UInt64.le_of_lt later⟩
  have recovers : ctx.tryRecoverLlc (warmInputs index).eval.llcRecover = ctx := by
    rw [tryRecoverLlc, if_pos (.inr (.inl (by rw [steady.llc]; decide)))]
  have group : readExact ctx.fdCycles (warmInputs index).eval.group =
      some (steadyReading (index + 1)) := by
    rw [readExact, if_neg (by rw [steady.cycles]; decide)]
    rfl
  have llc : ctx.readLlc (warmInputs index).eval = (ctx, 0) := by
    rw [readLlc, if_neg (by rw [steady.llc]; decide), readExact,
      if_neg (by rw [steady.llc]; decide)]
    rfl
  have moves : ¬ ((steadyReading (index + 1)).timeRunning = ctx.lastGroupRead.timeRunning ∨
      (steadyReading (index + 1)).timeEnabled = ctx.lastGroupRead.timeEnabled) := by
    rw [steady.read]
    rintro (same | same)
    · exact UInt64.ne_of_lt later same.symm
    · exact UInt64.ne_of_lt later same.symm
  have works : ¬ (steadyReading (index + 1)).insns = ctx.lastGroupRead.insns := by
    rw [steady.read]
    exact fun same => UInt64.ne_of_lt later same.symm
  have telemetry : (((ctx.withZeroRunning 0).withWork 0).advance (steadyReading (index + 1))
      0).fetchFusedTelemetry (warmInputs index).eval.sensors = warmSample := by
    have fused : (((ctx.withZeroRunning 0).withWork 0).advance (steadyReading (index + 1))
        0).fusionAcquired = true := steady.fusion
    rw [fetchFusedTelemetry, fused]
    rfl
  rw [PerfCtx.evaluate, steady.mode]
  rw [if_pos steady.validated, evaluateHardware, recovers]
  rw [group]
  dsimp only
  rw [if_neg (not_not.mpr order.2.1), llc]
  rw [evaluateReading, if_neg (by rw [steady.valid]; decide), steady.read,
    if_neg (not_not.mpr order)]
  rw [steady.read] at moves works
  rw [if_neg moves]
  dsimp only
  rw [if_neg works, scaledDeltas_steady]
  rw [if_neg (by decide), evaluateWork]
  rw [if_neg (fun idle => absurd (steady.workload.symm.trans idle.1) (by decide))]
  refine ⟨?cpi, ?workCost, ?mpki, ?same⟩
  case same =>
    refine congrArg (fun sample => PerfCtx.processMeasurement _ sample _ _) ?_
    exact congrArg (Measurement.mk _ _ _) telemetry

theorem PerfCtx.Steady.advance (steady : ctx.Steady index) :
    (((ctx.withZeroRunning 0).withWork 0).advance (steadyReading (index + 1)) 0).Steady
      (index + 1) :=
  ⟨steady.mode, steady.validated, steady.cycles, steady.llc, steady.workload, steady.fusion,
    steady.valid, rfl⟩

theorem PerfCtx.Steady.processMeasurement (steady : ctx.Steady index) (sample cfg degraded) :
    (ctx.processMeasurement sample cfg degraded).1.Steady index :=
  ⟨steady.mode, steady.validated, steady.cycles, steady.llc, steady.workload, steady.fusion,
    steady.valid, steady.read⟩

/-- The warm monitor after `index` samples. -/
structure Monitor.Warm (monitor : Monitor) (index : ℕ) : Prop where
  steady : monitor.perf.Steady index
  count : monitor.throttleCount = index
  since : monitor.widthSinceMs = 1000
  cooled : monitor.cooldownUntilMs = 0

theorem warm_dwell (lt : index + 1 < 4294967296) :
    (1000 : UInt64) ≤ (warmInputs index).nowMs ∧ 200 ≤ (warmInputs index).nowMs - 1000 := by
  have now : (warmInputs index).nowMs.toNat = 1000 * (index + 2) := by
    change (UInt64.ofNat ((index + 2) * 1000)).toNat = _
    rw [Nat.mul_comm]
    exact toNat_steady lt
  have late : (1000 : UInt64) ≤ (warmInputs index).nowMs := by
    rw [UInt64.le_iff_toNat_le, now]
    change 1000 ≤ _
    omega
  refine ⟨late, ?_⟩
  rw [UInt64.le_iff_toNat_le, UInt64.toNat_sub_of_le _ _ late, now]
  change 200 ≤ _ - 1000
  omega

theorem Monitor.Warm.sample {monitor : Monitor} (warm : monitor.Warm index)
    (lt : index + 1 < 4294967296) :
    (monitor.sample weightedEnv (warmInputs index)).1.Warm (index + 1) := by
  obtain ⟨_, _, _, evaluated⟩ := warm.steady.evaluate lt
  obtain ⟨late, dwelt⟩ := warm_dwell lt
  have checked : monitor.perf.checkSoftwareTimeout weightedEnv.cfg.degradedTimeoutSec
      (warmInputs index).timeoutAt = (monitor.perf, false) := by
    have hw : ¬ monitor.perf.SoftwareTimeoutExceeded weightedEnv.cfg.degradedTimeoutSec
        (warmInputs index).timeoutAt := fun exceeded => by
      cases warm.steady.mode.symm.trans exceeded.2.1
    rw [PerfCtx.checkSoftwareTimeout, if_pos hw]
    split <;> rfl
  generalize measured : PerfCtx.processMeasurement _ _ _ _ = res at evaluated
  have throttles : res.2.2 = true := by
    have severe : 0 < thermalSeverity weightedEnv.cfg warmSample := by decide
    have moderate : thermalSeverity weightedEnv.cfg warmSample < 9223372036854775808 := by decide
    rw [← measured]
    exact PerfCtx.throttles_of_thermalSeverity severe moderate
  have steady : res.1.Steady (index + 1) := by
    rw [← measured]
    exact warm.steady.advance.processMeasurement _ _ _
  have telemetry : res.2.1.telemetry = warmSample := by rw [← measured]; rfl
  have avail : res.2.1.performanceAvailable = true := by rw [← measured]; rfl
  have seen : monitor.observe weightedEnv (warmInputs index) =
      ({ monitor with perf := res.1 },
        ⟨(warmInputs index).nowMs - 1000, false, res.2.1, res.2.2⟩) := by
    rw [Monitor.observe, checked]
    dsimp only
    rw [evaluated, warm.since, if_pos late]
  have safe : ¬ (false = true ∨
      EmergencyTemperatureExceeded weightedEnv.cfg res.2.1.telemetry) := by
    rw [telemetry]
    decide
  have gate : ¬ ((warmInputs index).nowMs < monitor.cooldownUntilMs ∨
      (warmInputs index).nowMs - 1000 <
        nonnegativeMs (weightedEnv.cfg.effectiveMinDwellMs (warmInputs index).degraded)) := by
    rw [warm.cooled]
    rintro (early | early)
    · exact UInt64.not_lt_zero early
    · exact UInt64.not_lt.mpr dwelt early
  have narrow : ¬ (weightedEnv.cfg.effectiveDownCount (warmInputs index).degraded ≤
      monitor.throttleCount + 1 ∧ SimdWidth.sse41 < (warmInputs index).width) :=
    fun due => absurd due.2 (lt_irrefl SimdWidth.sse41)
  have next : (monitor.sample weightedEnv (warmInputs index)).1 =
      { monitor with
        perf := res.1, throttleCount := monitor.throttleCount + 1, stableCount := 0 } := by
    rw [Monitor.sample, seen]
    dsimp only
    rw [Monitor.act, if_neg safe]
    rw [if_neg (by rw [avail]; decide), if_neg gate, Monitor.optimise]
    -- Without a policy the predictive part asks for nothing.
    rw [if_pos (by rfl), Monitor.hysteresis, if_pos throttles]
    rw [if_neg narrow]
  rw [next]
  refine ⟨?_, ?_, warm.since, warm.cooled⟩
  · exact steady
  · change monitor.throttleCount + 1 = _
    rw [warm.count]
    rfl

theorem warmTrace_warm (index) (lt : index < 4294967296) : (warmTrace index).Warm index := by
  induction index with
  | zero => exact ⟨⟨rfl, rfl, rfl, rfl, rfl, rfl, rfl, rfl⟩, rfl, rfl, rfl⟩
  | succ index ih => exact (ih (by omega)).sample lt

/-- A workload that stays throttled at SSE4.1 counts past `INT_MAX`. -/
theorem warm_count_exceeds_intMax :
    MonitorRun weightedEnv warmTrace warmInputs 2147483648 ∧
      intMax < (warmTrace 2147483648).throttleCount := by
  refine ⟨warmTrace_run _, ?_⟩
  rw [(warmTrace_warm 2147483648 (by decide)).count]
  decide

end ThermalSimd
