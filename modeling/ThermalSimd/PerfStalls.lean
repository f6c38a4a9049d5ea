import ThermalSimd.Samples

/-!
# Stalled counters

An evaluation whose group reading shows no usable progress counts a stall, and the third stall in a
row is meant to lose the counters.
-/

namespace ThermalSimd

namespace PerfCtx

def NotScheduled (ctx : PerfCtx) (now : PerfGroupRead) : Prop :=
  now.timeRunning = ctx.lastGroupRead.timeRunning ∨ now.timeEnabled = ctx.lastGroupRead.timeEnabled
  deriving Decidable

/-- Instructions were retired since the last reading, but a scaled delta is zero. -/
def Vanishes (ctx : PerfCtx) (now : PerfGroupRead) : Prop :=
  ctx.lastGroupRead.insns < now.insns ∧
    ((scaledDeltas ctx.lastGroupRead now).1 = 0 ∨ (scaledDeltas ctx.lastGroupRead now).2 = 0)
  deriving Decidable

/-- A validated hardware context whose group read is in order but shows no usable progress. -/
structure Stalls (ctx : PerfCtx) (input : EvalInput) (now : PerfGroupRead) : Prop
    extends Reads ctx input now where
  previous : ctx.lastGroupValid = true
  order : GroupOrderValid ctx.lastGroupRead now
  unusable : ctx.NotScheduled now ∨ ctx.Vanishes now

instance (ctx : PerfCtx) (input : EvalInput) (now : PerfGroupRead) :
    Decidable (ctx.Stalls input now) :=
  decidable_of_iff (ctx.Reads input now ∧ ctx.lastGroupValid = true ∧
      GroupOrderValid ctx.lastGroupRead now ∧ (ctx.NotScheduled now ∨ ctx.Vanishes now))
    ⟨fun ⟨reads, previous, order, unusable⟩ => ⟨reads, previous, order, unusable⟩,
      fun stalls => ⟨stalls.toReads, stalls.previous, stalls.order, stalls.unusable⟩⟩

private def stallsCounted (ctx : PerfCtx) (now : PerfGroupRead) : ℤ :=
  (if ctx.NotScheduled now then ctx.zeroRunningSamples else 0) + 1

/-- `PERF_ZERO_RUNNING_LIMIT`. -/
def zeroRunningLimit : ℕ := 3

theorem mode_failClosed (ctx : PerfCtx) (hw : ctx.mode = .hardware) (reason input) :
    (ctx.failClosed reason input).mode = .software := by
  refine (congrArg ModeView.mode (ctx.modeView_failClosed hw reason input)).trans ?_
  unfold ModeView.fail ModeView.enterSoftware
  split <;> rfl

variable {ctx : PerfCtx} {input : EvalInput} {now : PerfGroupRead}

theorem Stalls.evaluate_eq (stalls : ctx.Stalls input now) (cfg) :
    ctx.evaluate cfg input =
      if ctx.stallsCounted now < zeroRunningLimit then
        ((ctx.readFor input).withZeroRunning (ctx.stallsCounted now)).silent
      else (((ctx.readFor input).withZeroRunning (ctx.stallsCounted now)).failClosed
        "group-not-running" input.failure).severe := by
  have only := ctx.llcOnly_readFor input
  have order : GroupOrderValid (ctx.readFor input).lastGroupRead now := by
    rw [only.lastGroupRead]
    exact stalls.order
  rw [stalls.toReads.evaluate_eq, evaluateReading,
    if_neg (by rw [only.lastGroupValid, stalls.previous]; decide), if_neg (not_not.mpr order),
    only.lastGroupRead]
  by_cases idle : ctx.NotScheduled now
  · rw [stallsCounted, if_pos idle, ← only.zeroRunningSamples]
    exact if_pos idle
  · obtain ⟨retired, scaled⟩ := stalls.unusable.resolve_left idle
    rw [stallsCounted, if_neg idle]
    refine (if_neg idle).trans ?_
    dsimp only
    rw [if_neg (UInt64.ne_of_lt retired).symm, if_pos scaled]
    rfl

theorem Stalls.software_iff (stalls : ctx.Stalls input now) (cfg) :
    (ctx.evaluate cfg input).1.mode = .software ↔
      (zeroRunningLimit : ℤ) ≤ ctx.stallsCounted now := by
  have still := (ctx.llcOnly_readFor input).mode.trans stalls.hardware
  rw [stalls.evaluate_eq]
  split
  · next lt =>
      refine iff_of_false (fun sw => ?_) (not_le.mpr lt)
      exact absurd (still.symm.trans sw) (by decide)
  · next reached =>
      refine iff_of_true ?_ (not_lt.mp reached)
      exact mode_failClosed _ still "group-not-running" input.failure

theorem Stalls.counted (stalls : ctx.Stalls input now) (cfg)
    (hw : (ctx.evaluate cfg input).1.mode = .hardware) :
    (ctx.evaluate cfg input).1.zeroRunningSamples = ctx.stallsCounted now ∧
      (ctx.evaluate cfg input).1.lastGroupRead = ctx.lastGroupRead := by
  have lt : ctx.stallsCounted now < zeroRunningLimit := by
    by_contra reached
    have sw := (stalls.software_iff cfg).mpr (not_lt.mp reached)
    exact absurd (hw.symm.trans sw) (by decide)
  rw [stalls.evaluate_eq, if_pos lt]
  exact ⟨rfl, (ctx.llcOnly_readFor input).lastGroupRead⟩

section

variable (ctx : PerfCtx)

theorem zeroRunningSamples_schedulePerfRetry (now) :
    (ctx.schedulePerfRetry now).zeroRunningSamples = ctx.zeroRunningSamples := by
  rw [schedulePerfRetry]
  split
  · rfl
  · dsimp only

theorem zeroRunningSamples_setMode (mode reason input) :
    (ctx.setMode mode reason input).zeroRunningSamples = ctx.zeroRunningSamples :=
  congrArg Cursors.zeroRunningSamples (ctx.cursors_setMode mode reason input)

theorem zeroRunningSamples_openPerfEvents (input) :
    (ctx.openPerfEvents input).1.zeroRunningSamples = 0 := by
  unfold openPerfEvents
  split
  · rfl
  · rfl
  · exact (llcOnly_openLlcEvent _ input.llc input.now).zeroRunningSamples

theorem zeroRunningSamples_rejectReprobe (now) :
    (ctx.rejectReprobe now).zeroRunningSamples = ctx.zeroRunningSamples := by
  exact (ctx.record .reprobeFailed).zeroRunningSamples_schedulePerfRetry now

theorem zeroRunningSamples_tryRecoverHardware (input) :
    (ctx.tryRecoverHardware input).1.zeroRunningSamples = ctx.zeroRunningSamples ∨
      (ctx.tryRecoverHardware input).1.zeroRunningSamples = 0 := by
  unfold tryRecoverHardware
  split
  · exact .inl rfl
  right
  have opens := ctx.zeroRunningSamples_openPerfEvents input.opens
  generalize ctx.openPerfEvents input.opens = res at opens ⊢
  obtain ⟨_, out⟩ := res
  cases out with
  | error e => exact (zeroRunningSamples_rejectReprobe _ _).trans opens
  | ok =>
    dsimp only
    split
    · exact zeroRunningSamples_rejectReprobe _ _
    split
    · exact zeroRunningSamples_rejectReprobe _ _
    · next _ accepted =>
        obtain ⟨_, -, rfl⟩ := Option.map_eq_some_iff.mp accepted
        exact zeroRunningSamples_setMode _ _ _ _

end

def Counted (ctx : PerfCtx) : Prop := 0 ≤ ctx.zeroRunningSamples
  deriving Decidable

namespace Counted

theorem failClosed (ctx : PerfCtx) (reason input) : (ctx.failClosed reason input).Counted :=
  (congrArg Cursors.zeroRunningSamples (ctx.cursors_failClosed reason input)).ge

theorem llcOnly {ctx ctx' : PerfCtx} (counted : ctx.Counted) (only : ctx.LlcOnly ctx') :
    ctx'.Counted := by
  rw [Counted, only.zeroRunningSamples]
  exact counted

variable {ctx : PerfCtx} (counted : ctx.Counted) (cfg : RuntimeConfig)
include counted

theorem enable (input failure) : (ctx.enable input failure).Counted := by
  unfold PerfCtx.enable
  split
  · exact counted
  have only := ctx.llcOnly_enablePerfEventsStrict input
  generalize ctx.enablePerfEventsStrict input = res at only ⊢
  obtain ⟨_, succeeds⟩ := res
  cases succeeds with
  | true => exact counted.llcOnly only
  | false => exact .failClosed _ _ _

theorem measureBaseline (input) : (ctx.measureBaseline cfg input).Counted := by
  unfold PerfCtx.measureBaseline
  split
  · exact counted
  · exact counted
  split
  · exact .failClosed _ _ _
  split
  · exact .failClosed _ _ _
  · next _ accepted =>
      obtain ⟨_, -, rfl⟩ := Option.map_eq_some_iff.mp accepted
      exact le_refl (0 : ℤ)

theorem readingOutcome {input now llcNow path handed}
    (out : ReadingOutcome ctx input now llcNow path handed) : handed.1.Counted := by
  cases out with
  | first => exact counted
  | failed => exact .failClosed _ _ _
  | stalled _ keeps => exact keeps counted
  | idle | unworked | measured => exact le_refl (0 : ℤ)

theorem sampleSoftware (input) : (ctx.sampleSoftware input).1.Counted := by
  unfold PerfCtx.sampleSoftware
  have probes := ctx.zeroRunningSamples_tryRecoverHardware input.recover
  generalize ctx.tryRecoverHardware input.recover = res at probes ⊢
  obtain ⟨probed, recovers⟩ := res
  have still : probed.Counted := by
    rcases probes with same | restarted
    · exact counted.trans_eq same.symm
    · exact restarted.ge
  cases recovers with
  | true => exact still
  | false =>
    dsimp only
    split
    · exact still
    split <;> exact still

theorem sampled (input) : (ctx.sampled input).1.Counted := by
  have out := ctx.sampled_outcome input
  generalize ctx.sampled input = handed at out ⊢
  cases out with
  | unvalidated => exact counted
  | software => exact counted.sampleSoftware input
  | hardware _ _ sample =>
    cases sample with
    | lost => exact .failClosed _ _ _
    | read _ out => exact (counted.llcOnly (ctx.llcOnly_readFor input)).readingOutcome out

theorem evaluate (input) : (ctx.evaluate cfg input).1.Counted := by
  obtain ⟨_, _, left⟩ := ctx.evaluate_fst cfg input
  rw [left]
  exact counted.sampled input

theorem perform (call) : (ctx.perform call).Counted := by
  cases call with
  | enable input failure => exact counted.enable input failure
  | measureBaseline cfg input => exact counted.measureBaseline cfg input
  | evaluate cfg input => exact counted.evaluate cfg input
  | checkSoftwareTimeout =>
    simp only [PerfCtx.perform, checkSoftwareTimeout]
    split
    · exact counted
    split <;> exact counted

end Counted

theorem counted_init (input) : (init input).Counted := by
  unfold init
  dsimp only
  split
  · exact (zeroRunningSamples_setMode _ _ _ _).ge
  · have opens := (PerfCtx.prepared input).zeroRunningSamples_openPerfEvents input.events
    generalize (PerfCtx.prepared input).openPerfEvents input.events = res at opens ⊢
    obtain ⟨_, out⟩ := res
    cases out with
    | error e =>
      rw [Counted, zeroRunningSamples_setMode, zeroRunningSamples_schedulePerfRetry, opens]
    | ok =>
      rw [Counted, zeroRunningSamples_setMode]
      exact opens.ge

end PerfCtx

theorem PerfRun.counted {input trace length}
    (run : PerfRun input trace length) : ∀ i ≤ length, (trace i).Counted := by
  refine run.calls.invariant (run.start ▸ PerfCtx.counted_init input) ?_
  rintro _ _ counted ⟨call, rfl⟩
  exact counted.perform call

/-- An evaluation that reads the group. -/
structure ReadStep where
  cfg : RuntimeConfig
  input : EvalInput
  reading : PerfGroupRead

namespace PerfCtx

def evaluateAll (ctx : PerfCtx) (steps : List ReadStep) : PerfCtx :=
  steps.foldl (fun ctx step => (ctx.evaluate step.cfg step.input).1) ctx

def AllStall (ctx : PerfCtx) : List ReadStep → Prop
  | [] => True
  | step :: steps =>
    ctx.Stalls step.input step.reading ∧ (ctx.evaluate step.cfg step.input).1.AllStall steps

private def decideAllStall :
    (ctx : PerfCtx) → (steps : List ReadStep) → Decidable (ctx.AllStall steps)
  | _, [] => inferInstanceAs (Decidable True)
  | ctx, step :: steps =>
    have := (ctx.evaluate step.cfg step.input).1.decideAllStall steps
    inferInstanceAs (Decidable (_ ∧ _))

instance (ctx : PerfCtx) (steps : List ReadStep) : Decidable (ctx.AllStall steps) :=
  ctx.decideAllStall steps

/-- As many stalls in a row as the limit lose the counters exactly if the group was unscheduled in
all of them, the first apart. -/
theorem stalls_fail_closed_iff {ctx : PerfCtx} (counted : ctx.Counted) {steps : List ReadStep}
    (stalls : ctx.AllStall steps) (limit : steps.length = zeroRunningLimit) :
    (ctx.evaluateAll steps).mode = .software ↔
      ∀ step ∈ steps.tail, ctx.NotScheduled step.reading := by
  obtain ⟨first, second, third, rfl⟩ := List.length_eq_three.mp limit
  obtain ⟨stalls₁, stalls₂, stalls₃, -⟩ := stalls
  obtain ⟨count₁, same₁⟩ := stalls₁.counted first.cfg stalls₂.hardware
  obtain ⟨count₂, same₂⟩ := stalls₂.counted second.cfg stalls₃.hardware
  have started : 1 ≤ ctx.stallsCounted first.reading := by
    have := counted
    unfold Counted at this
    unfold stallsCounted
    split <;> omega
  have reference := same₂.trans same₁
  rw [evaluateAll]
  dsimp only [List.foldl, List.tail]
  rw [stalls₃.software_iff, stallsCounted, count₂, stallsCounted, count₁]
  simp only [NotScheduled, reference, same₁, zeroRunningLimit, List.forall_mem_cons,
    List.not_mem_nil, false_imp_iff, implies_true, and_true]
  -- A scheduled third reading counts one; after a scheduled second one, the third counts two.
  split_ifs with third second <;> simp_all <;> omega

end PerfCtx

def grantedInit : InitInput :=
  { refusedInit with events := ⟨.ok 3, .ok 4, .ok 5, 1000000000⟩ }

def steadyMeasure : MeasureInput where
  start := ⟨1, 0⟩
  finish := ⟨1, 0⟩
  iterationsBefore := 0
  iterationsAfter := 0
  iterationsLast := 0
  stampedAt := ⟨1, 0⟩
  events := ⟨true, true, true, true, 1000000000⟩
  baseline :=
    ⟨some ⟨2, 0, 0, 0, 0⟩, some 0, 0, 10, some ⟨2, 1000, 1000, 500, 400⟩, some 7⟩
  failure := ⟨1000000000, ⟨1, 0⟩, .sse41⟩

def measuredCtx : PerfCtx := (PerfCtx.init grantedInit).measureBaseline .setDefaults steadyMeasure

def readingInput (reading : PerfGroupRead) (llc : Option UInt64) (iterations : UInt64) :
    EvalInput :=
  { recoveringInput with group := some reading, llc := llc, iterations := iterations }

def readStep (reading : PerfGroupRead) : ReadStep :=
  ⟨.setDefaults, readingInput reading (some 7) 10, reading⟩

def unscheduledSteps : List ReadStep := .replicate 3 (readStep ⟨2, 1000, 1000, 500, 400⟩)

def stuckSteps : List ReadStep :=
  [readStep ⟨2, 2000, 2000, 500, 800⟩, readStep ⟨2, 3000, 3000, 500, 1200⟩,
    readStep ⟨2, 4000, 4000, 500, 1600⟩]

theorem unscheduled_stalls_fail_closed :
    measuredCtx.AllStall unscheduledSteps ∧
      (measuredCtx.evaluateAll unscheduledSteps).mode = .software := by
  have stalls : measuredCtx.AllStall unscheduledSteps := by decide
  refine ⟨stalls, (PerfCtx.stalls_fail_closed_iff (by decide) stalls rfl).mpr ?_⟩
  decide

/-- A stuck cycle counter never loses the counters. -/
theorem stuck_cycles_stay_hardware :
    measuredCtx.Counted ∧ measuredCtx.AllStall stuckSteps ∧
      stuckSteps.length = PerfCtx.zeroRunningLimit ∧
      (measuredCtx.evaluateAll stuckSteps).mode = .hardware := by
  exact ⟨by decide, by decide, rfl, by decide⟩

end ThermalSimd
