import ThermalSimd.PerfMode

/-!
# The ways an evaluation ends

The places `tsd_perf_evaluate` returns from: when each is taken, and what an evaluation that ends
there reports and requests.
-/

namespace ThermalSimd

/-- Where `tsd_perf_evaluate` returns. -/
inductive EvalPath
  | recovered
  | primed
  | starved
  | unvalidated
  | failed
  | first
  | stalled
  | idle
  | observed
  deriving DecidableEq

namespace PerfCtx

variable (ctx : PerfCtx) (input : EvalInput)

/-- The path of `tsd_perf_evaluate` in software mode, once a re-probe has ended. -/
def softwarePath : PerfCtx × Bool → EvalPath
  | (_, true) => .recovered
  | (probed, false) =>
    if probed.softwareAdaptation = false then .primed
    else if counterDelta probed.swLastIterations input.iterations = 0 ∨
        timespecDiffNs probed.swLastTimestamp input.swNow = 0 then .starved
    else .observed

/-- The path of `handle_no_running_progress`. -/
def stallPath : EvalPath :=
  if ctx.zeroRunningSamples + 1 < 3 then .stalled else .failed

/-- The path of `tsd_perf_evaluate` in hardware mode, once the group is read. -/
def readingPath (now : PerfGroupRead) : EvalPath :=
  if ctx.lastGroupValid = false then .first
  else if ¬ GroupOrderValid ctx.lastGroupRead now then .failed
  else if now.timeRunning = ctx.lastGroupRead.timeRunning ∨
      now.timeEnabled = ctx.lastGroupRead.timeEnabled then ctx.stallPath
  else if now.insns = ctx.lastGroupRead.insns then .idle
  else if (scaledDeltas ctx.lastGroupRead now).1 = 0 ∨
      (scaledDeltas ctx.lastGroupRead now).2 = 0 then (ctx.withZeroRunning 0).stallPath
  else .observed

/-- The path of `tsd_perf_evaluate` in validated hardware mode. -/
def hardwarePath : EvalPath :=
  match readExact ctx.fdCycles input.group with
  | none => .failed
  | some now => if now.nr ≠ 2 then .failed else ctx.readingPath now

/-- The path of `tsd_perf_evaluate`. -/
def evalPath : EvalPath :=
  match ctx.mode with
  | .software => softwarePath input (ctx.tryRecoverHardware input.recover)
  | .none => .unvalidated
  | .hardware => if ctx.hardwareValidated then ctx.hardwarePath input else .unvalidated

def requests : ℕ := ctx.log.count .sse41Requested

end PerfCtx

/-- What an evaluation on this path reports and requests. -/
structure Evaluated (ctx : PerfCtx) (input : EvalInput) (path : EvalPath)
    (result : PerfCtx × ThermalEval × Bool) : Prop where
  telemetry : result.2.1.telemetry =
    if path = .observed then ctx.fetchFusedTelemetry input.sensors else .zero
  unavailable : path ≠ .observed → result.2.1.performanceAvailable = false
  requests : result.1.requests =
    ctx.requests + if path = .failed ∧ input.failure.mode.width ≠ .sse41 then 1 else 0

namespace PerfCtx

variable (ctx : PerfCtx)

theorem requests_failClosed (hardware : ctx.mode = .hardware) (reason input) :
    (ctx.failClosed reason input).requests =
      ctx.requests + if input.mode.width ≠ .sse41 then 1 else 0 := by
  have logs := congrArg ModeView.log (ctx.modeView_failClosed hardware reason input)
  change (ctx.failClosed reason input).log = _ at logs
  rw [requests, logs, ModeView.fail, ModeView.enterSoftware]
  by_cases narrow : input.mode.width = .sse41
  · rw [if_pos narrow, if_neg (not_not.mpr narrow)]
    rfl
  · rw [if_neg narrow, if_pos narrow]
    exact List.count_cons_self

end PerfCtx

namespace Evaluated

variable {ctx ctx' : PerfCtx} {input : EvalInput} {path : EvalPath}
  {result : PerfCtx × ThermalEval × Bool}

theorem of_same (evaluated : Evaluated ctx' input path result)
    (fusion : ctx'.fusionAcquired = ctx.fusionAcquired) (requests : ctx'.requests = ctx.requests) :
    Evaluated ctx input path result where
  telemetry := by
    rw [evaluated.telemetry, PerfCtx.fetchFusedTelemetry, PerfCtx.fetchFusedTelemetry, fusion]
  unavailable := evaluated.unavailable
  requests := by rw [evaluated.requests, requests]

theorem blind (unobserved : path ≠ .observed) (kept : path ≠ .failed)
    (telemetry : result.2.1.telemetry = .zero)
    (unavailable : result.2.1.performanceAvailable = false)
    (same : result.1.requests = ctx.requests) : Evaluated ctx input path result where
  telemetry := by rw [telemetry, if_neg unobserved]
  unavailable _ := unavailable
  requests := by rw [same, if_neg (fun lost => kept lost.1), Nat.add_zero]

theorem fails (hardware : ctx.mode = .hardware) (reason) :
    Evaluated ctx input .failed (ctx.failClosed reason input.failure).severe where
  telemetry := rfl
  unavailable _ := rfl
  requests := by
    refine (ctx.requests_failClosed hardware reason input.failure).trans ?_
    simp only [true_and]

theorem observes (telemetry : result.2.1.telemetry = ctx.fetchFusedTelemetry input.sensors)
    (same : result.1.requests = ctx.requests) : Evaluated ctx input .observed result where
  telemetry := telemetry
  unavailable := fun unobserved => absurd rfl unobserved
  requests := same

end Evaluated

namespace PerfCtx

variable (ctx : PerfCtx) (cfg : RuntimeConfig) (input : EvalInput)

theorem evaluateSoftware_evaluated (sw : ctx.mode = .software)
    (unvalidated : ctx.hardwareValidated = false) :
    Evaluated ctx input (softwarePath input (ctx.tryRecoverHardware input.recover))
      (ctx.evaluateSoftware cfg input) := by
  have out := ctx.tryRecoverHardware_outcome sw unvalidated input.recover
  unfold evaluateSoftware
  generalize ctx.tryRecoverHardware input.recover = probe at out ⊢
  obtain ⟨probed, recovers⟩ := probe
  have fusion : probed.fusionAcquired = ctx.fusionAcquired := by
    cases out with
    | waits => rfl
    | rejected view | recovered _ _ view => exact congrArg ModeView.fusion view
  have requests : probed.requests = ctx.requests := by
    cases out with
    | waits => rfl
    | rejected view | recovered _ _ view =>
      exact congrArg (fun view => view.log.count .sse41Requested) view
  refine Evaluated.of_same ?_ fusion requests
  cases recovers with
  | true => exact .blind nofun nofun rfl rfl rfl
  | false =>
    dsimp only [softwarePath]
    split
    · exact .blind nofun nofun rfl rfl rfl
    split
    · exact .blind nofun nofun rfl rfl rfl
    · refine .observes rfl ?_
      rfl

theorem LlcOnly.evaluated {ctx ctx' input path result} (only : ctx.LlcOnly ctx')
    (evaluated : Evaluated ctx' input path result) : Evaluated ctx input path result := by
  obtain ⟨_, _, _, rfl⟩ := only
  exact evaluated.of_same rfl rfl

theorem LlcOnly.readingPath {ctx ctx' : PerfCtx} (only : ctx.LlcOnly ctx') (now) :
    ctx'.readingPath now = ctx.readingPath now := by
  obtain ⟨_, _, _, rfl⟩ := only
  rfl

theorem LlcOnly.hardwarePath {ctx ctx' : PerfCtx} (only : ctx.LlcOnly ctx') (input) :
    ctx'.hardwarePath input = ctx.hardwarePath input := by
  obtain ⟨_, _, _, rfl⟩ := only
  rfl

section

variable (hardware : ctx.mode = .hardware)
include hardware

theorem handleNoRunningProgress_evaluated :
    Evaluated ctx input ctx.stallPath (ctx.handleNoRunningProgress input.failure) := by
  unfold handleNoRunningProgress stallPath
  dsimp only [withZeroRunning]
  split
  · exact .blind nofun nofun rfl rfl rfl
  · have counted := hardware
    exact (Evaluated.fails counted "group-not-running").of_same rfl rfl

theorem evaluateReading_evaluated (now llcNow) :
    Evaluated ctx input (ctx.readingPath now) (ctx.evaluateReading cfg input now llcNow) := by
  unfold evaluateReading readingPath
  split
  · exact .blind nofun nofun rfl rfl rfl
  split
  · exact .fails hardware _
  split
  · exact ctx.handleNoRunningProgress_evaluated input hardware
  dsimp only
  split
  · exact .blind nofun nofun rfl rfl rfl
  split
  · exact ((ctx.withZeroRunning 0).handleNoRunningProgress_evaluated input hardware).of_same rfl rfl
  · unfold evaluateWork
    dsimp only
    split <;> exact .observes rfl rfl

theorem evaluateHardware_evaluated :
    Evaluated ctx input (ctx.hardwarePath input) (ctx.evaluateHardware cfg input) := by
  have recovers := ctx.llcOnly_tryRecoverLlc input.llcRecover
  have still := recovers.mode.trans hardware
  rw [← recovers.hardwarePath]
  apply recovers.evaluated
  unfold evaluateHardware hardwarePath
  dsimp only
  generalize ctx.tryRecoverLlc input.llcRecover = recovered at still ⊢
  cases readExact recovered.fdCycles input.group with
  | none => exact .fails still _
  | some now =>
    dsimp only
    split
    · exact .fails still _
    · have reads := recovered.llcOnly_readLlc input
      rw [← reads.readingPath]
      apply reads.evaluated
      exact evaluateReading_evaluated _ cfg input (reads.mode.trans still) now _

end

theorem evaluate_evaluated (sound : ctx.modeView.Sound) :
    Evaluated ctx input (ctx.evalPath input) (ctx.evaluate cfg input) := by
  unfold evaluate evalPath
  cases mode : ctx.mode with
  | none => exact absurd mode sound.started
  | software => exact ctx.evaluateSoftware_evaluated cfg input mode (sound.software mode).1
  | hardware =>
    dsimp only
    split
    · exact ctx.evaluateHardware_evaluated cfg input mode
    · exact .blind nofun nofun rfl rfl rfl

theorem evaluate_notified (sw : ctx.mode = .software)
    (unvalidated : ctx.hardwareValidated = false)
    (stays : (ctx.evaluate cfg input).1.mode = .software) :
    (ctx.evaluate cfg input).1.timeoutNotified = ctx.timeoutNotified := by
  have out := ctx.tryRecoverHardware_outcome sw unvalidated input.recover
  have view : (ctx.evaluate cfg input).1.modeView =
      (ctx.tryRecoverHardware input.recover).1.modeView := by
    rw [evaluate, sw]
    exact ctx.modeView_evaluateSoftware cfg input
  have mode := congrArg ModeView.mode view
  refine (congrArg ModeView.notified view).trans ?_
  generalize ctx.tryRecoverHardware input.recover = probe at out mode ⊢
  cases out with
  | waits => rfl
  | rejected rejects => exact congrArg ModeView.notified rejects
  | recovered _ _ recovers =>
    have hardware := mode.trans (congrArg ModeView.mode recovers)
    cases stays.symm.trans hardware

end PerfCtx

end ThermalSimd
