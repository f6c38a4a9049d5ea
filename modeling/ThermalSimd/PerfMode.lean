import ThermalSimd.Interleaving
import ThermalSimd.Perf

/-!
# The perf mode machine fails closed

Whatever the clocks, system calls and counters do, a call on a perf context acts on its mode, its
descriptors and its log as one of a handful of abstract steps, which keep the mode machine's
invariant.
-/

namespace ThermalSimd

open Interleaving

/-- The part of a perf context its mode machine consists of. -/
structure ModeView where
  mode : PerfMode
  validated : Bool
  cycles : ℤ
  insns : ℤ
  llc : ℤ
  enteredAt : Timespec
  notified : Bool
  forced : Bool
  fusion : Bool
  pinnedCpu : ℤ
  monitorCpu : ℤ
  log : List PerfEvent

namespace ModeView

def record (view : ModeView) (event : PerfEvent) : ModeView :=
  { view with log := event :: view.log }

def publish (view : ModeView) (healthy : Bool) : ModeView :=
  view.record (.published ⟨view.mode, healthy, view.pinnedCpu, view.monitorCpu⟩)

def withDescriptors (view : ModeView) (cycles insns llc : ℤ) : ModeView :=
  { view with cycles := cycles, insns := insns, llc := llc }

def close (view : ModeView) : ModeView := view.withDescriptors (-1) (-1) (-1)

def enter (view : ModeView) (mode : PerfMode) (reason : String) (input : ModeInput) : ModeView :=
  { view with mode := mode, enteredAt := input.enteredAt, notified := false }.record
    (.modeEntered mode reason)

def enterSoftware (view : ModeView) (reason : String) (input : ModeInput) : ModeView :=
  let published :=
    ({ (view.enter .software reason input).record .admissionClosed with validated := false }.record
      (.metric .perfFallbacks)).record (.degraded true)
      |>.publish false
  if input.width = .sse41 then published else published.record .sse41Requested

def fail (view : ModeView) (reason : String) (input : ModeInput) : ModeView :=
  (view.close.record (.failedClosed reason)).enterSoftware reason input

def validate (view : ModeView) (before after : PerfGroupRead) : ModeView :=
  ({ view with validated := true }.record (.baseline before after))

def recover (view : ModeView) (input : ModeInput) : ModeView :=
  (((view.enter .hardware "reprobe" input).record (.metric .perfRecoveries)).record
    (.degraded false)).publish true

def start (view : ModeView) (input : ModeInput) : ModeView :=
  ((view.enter .hardware "init-open" input).record (.degraded false)).publish false

private def notify (view : ModeView) : ModeView :=
  { view with notified := true }.record (.metric .softwareTimeoutEscalations)

end ModeView

/-- What happens to the mode. -/
inductive ModeStep : ModeView → ModeView → Prop
  | notifies {view} (software : view.mode = .software) : ModeStep view view.notify
  | llc {view} (hardware : view.mode = .hardware) (llc : ℤ) :
      ModeStep view { view with llc := llc }
  | healthy {view} (hardware : view.mode = .hardware) (validated : view.validated = true) :
      ModeStep view (view.publish true)
  | validates {view before after} (hardware : view.mode = .hardware)
      (progress : GroupBaselineProgressValid before after) :
      ModeStep view ((view.validate before after).publish true)
  | fails {view} (hardware : view.mode = .hardware) (reason : String) (input : ModeInput) :
      ModeStep view (view.fail reason input)
  | reprobeFails {view} (software : view.mode = .software) :
      ModeStep view ((view.close.record .reprobeFailed).publish false)
  | recovers {view before after} (software : view.mode = .software)
      (unforced : view.forced = false) (cycles insns llc : ℤ)
      (progress : GroupBaselineProgressValid before after) (input : ModeInput) :
      ModeStep view
        (((view.withDescriptors cycles insns llc).validate before after).recover input)

namespace PerfEvent

def telemetry? : PerfEvent → Option PerfTelemetry
  | .published telemetry => some telemetry
  | _ => none

def revokes : PerfEvent → Bool
  | .failedClosed _ | .reprobeFailed | .modeEntered _ _ => true
  | _ => false

end PerfEvent

def lastPublished (log : List PerfEvent) : Option PerfTelemetry :=
  log.findSome? PerfEvent.telemetry?

/-- A baseline all of whose counters advanced succeeded after the latest failure or mode entry. -/
def BaselineSince (log : List PerfEvent) : Prop :=
  ∃ before after, .baseline before after ∈ log.takeWhile (!·.revokes) ∧
    GroupBaselineProgressValid before after

/-- The latest revocation is a re-probe's mode entry, on a baseline that advanced. -/
def RecoveredByBaseline (log : List PerfEvent) : Prop :=
  ∃ before after older, log.dropWhile (!·.revokes) =
      .modeEntered .hardware "reprobe" :: .baseline before after :: older ∧
    GroupBaselineProgressValid before after

def BaselineHolds (log : List PerfEvent) : Prop := BaselineSince log ∨ RecoveredByBaseline log

section

variable {before after : PerfGroupRead} {log : List PerfEvent} {event : PerfEvent}

theorem BaselineHolds.of_baseline (progress : GroupBaselineProgressValid before after)
    (older) : BaselineHolds (.baseline before after :: older) :=
  .inl ⟨before, after, by simp [PerfEvent.revokes], progress⟩

theorem BaselineHolds.of_reprobe (progress : GroupBaselineProgressValid before after) (older) :
    BaselineHolds (.modeEntered .hardware "reprobe" :: .baseline before after :: older) :=
  .inr ⟨before, after, older, by simp [PerfEvent.revokes], progress⟩

theorem BaselineHolds.cons (holds : BaselineHolds log) (harmless : event.revokes = false) :
    BaselineHolds (event :: log) := by
  rcases holds with ⟨before, after, mem, progress⟩ | ⟨before, after, older, entry, progress⟩
  · refine .inl ⟨before, after, ?_, progress⟩
    rw [List.takeWhile_cons_of_pos (by simp [harmless])]
    exact List.mem_cons_of_mem _ mem
  · refine .inr ⟨before, after, older, ?_, progress⟩
    rwa [List.dropWhile_cons_of_pos (by simp [harmless])]

end

theorem lastPublished_cons {event} (log)
    (unpublished : event.telemetry? = none) : lastPublished (event :: log) = lastPublished log := by
  rw [lastPublished, List.findSome?_cons, unpublished]
  rfl

variable {view : ModeView}

namespace ModeView

/-- Mode, descriptors and log agree. -/
structure Consistent (view : ModeView) : Prop where
  started : view.mode ≠ .none
  software : view.mode = .software →
    view.validated = false ∧ view.cycles = -1 ∧ view.insns = -1 ∧ view.llc = -1
  baseline : view.mode = .hardware → view.validated = true → BaselineHolds view.log
  forced : view.forced = true → view.mode = .software

/-- They agree with what was published last. -/
structure Sound (view : ModeView) : Prop extends Consistent view where
  published : ∃ telemetry, lastPublished view.log = some telemetry ∧ telemetry.mode = view.mode ∧
    (telemetry.countersHealthy = true → view.mode = .hardware ∧ view.validated = true)

theorem Consistent.publish (consistent : view.Consistent) {healthy}
    (honest : healthy = true → view.mode = .hardware ∧ view.validated = true) :
    (view.publish healthy).Sound where
  started := consistent.started
  software := consistent.software
  baseline hardware validated := (consistent.baseline hardware validated).cons rfl
  forced := consistent.forced
  published := ⟨_, rfl, rfl, honest⟩

theorem Sound.record (sound : view.Sound) {event}
    (unpublished : event.telemetry? = none) (harmless : event.revokes = false) :
    (view.record event).Sound where
  started := sound.started
  software := sound.software
  baseline hardware validated := (sound.baseline hardware validated).cons harmless
  forced := sound.forced
  published := by
    obtain ⟨telemetry, last, rest⟩ := sound.published
    exact ⟨telemetry, (lastPublished_cons _ unpublished).trans last, rest⟩

theorem sound_enterSoftware (view : ModeView) (reason input) :
    (view.close.enterSoftware reason input).Sound := by
  have entered : (({ (view.close.enter .software reason input).record .admissionClosed with
      validated := false }.record (.metric .perfFallbacks)).record (.degraded true)).Consistent :=
    ⟨nofun, fun _ => ⟨rfl, rfl, rfl, rfl⟩, nofun, fun _ => rfl⟩
  have pub : (ModeView.publish _ false).Sound := entered.publish nofun
  unfold enterSoftware
  split
  · exact pub
  · exact pub.record rfl rfl

theorem sound_recover (view : ModeView) (unforced : view.forced = false)
    {before after} (progress : GroupBaselineProgressValid before after)
    (input) : ((view.validate before after).recover input).Sound := by
  have entered := BaselineHolds.of_reprobe progress view.log
  apply Consistent.publish
  · refine ⟨nofun, nofun, fun _ _ => (entered.cons rfl).cons rfl, ?_⟩
    exact fun forced => absurd (unforced.symm.trans forced) Bool.false_ne_true
  · exact fun _ => ⟨rfl, rfl⟩

theorem sound_start (unvalidated : view.validated = false) (unforced : view.forced = false)
    (input) : (view.start input).Sound := by
  apply Consistent.publish
  · refine ⟨nofun, nofun, fun _ validated => ?_, fun forced => ?_⟩
    · exact absurd (unvalidated.symm.trans validated) Bool.false_ne_true
    · exact absurd (unforced.symm.trans forced) Bool.false_ne_true
  · exact nofun

end ModeView

variable {view' : ModeView}

theorem ModeStep.sound (step : ModeStep view view') (sound : view.Sound) : view'.Sound := by
  cases step with
  | notifies =>
    have notified : { view with notified := true }.Sound := { sound with }
    exact notified.record rfl rfl
  | llc hardware =>
    exact { sound with software := fun sw => by simp [hardware] at sw }
  | healthy hardware validated =>
    exact sound.toConsistent.publish fun _ => ⟨hardware, validated⟩
  | @validates _ _ hardware progress =>
    apply ModeView.Consistent.publish
    · refine ⟨sound.started, ?_, fun _ _ => .of_baseline progress view.log, sound.forced⟩
      exact fun sw => absurd (hardware.symm.trans sw) (by decide)
    · exact fun _ => ⟨hardware, rfl⟩
  | fails _ reason => exact (view.record (.failedClosed reason)).sound_enterSoftware _ _
  | reprobeFails sw =>
    have unvalidated := (sound.software sw).1
    apply ModeView.Consistent.publish
    · refine ⟨sound.started, fun _ => ⟨unvalidated, rfl, rfl, rfl⟩, ?_, sound.forced⟩
      exact fun hardware => absurd (hardware.symm.trans sw) (by decide)
    · exact nofun
  | recovers _ unforced cycles insns llc progress input =>
    exact (view.withDescriptors cycles insns llc).sound_recover unforced progress input

private abbrev ModeSteps : ModeView → ModeView → Prop := Relation.ReflTransGen ModeStep

theorem ModeSteps.sound (steps : ModeSteps view view') (sound : view.Sound) : view'.Sound := by
  induction steps with
  | refl => exact sound
  | tail _ step ih => exact step.sound ih

theorem ModeView.forced_enterSoftware (view : ModeView) (reason input) :
    (view.enterSoftware reason input).forced = view.forced := by
  unfold enterSoftware
  split <;> rfl

theorem ModeStep.forced (step : ModeStep view view') : view'.forced = view.forced := by
  cases step with
  | fails _ reason input => exact ModeView.forced_enterSoftware _ reason input
  | _ => rfl

theorem ModeSteps.forced (steps : ModeSteps view view') : view'.forced = view.forced := by
  induction steps with
  | refl => rfl
  | tail _ step ih => exact step.forced.trans ih

def PerfCtx.modeView (ctx : PerfCtx) : ModeView where
  mode := ctx.mode
  validated := ctx.hardwareValidated
  cycles := ctx.fdCycles
  insns := ctx.fdInsns
  llc := ctx.fdLlcMisses
  enteredAt := ctx.modeEnteredAt
  notified := ctx.timeoutNotified
  forced := ctx.forceSoftware
  fusion := ctx.fusionAcquired
  pinnedCpu := ctx.pinnedCpu
  monitorCpu := ctx.monitorCpu
  log := ctx.log

namespace PerfCtx

def withLlc (ctx : PerfCtx) (fd : ℤ) (value : UInt64) (retry : RetrySchedule) : PerfCtx :=
  { ctx with fdLlcMisses := fd, lastLlcValue := value, llcRetry := retry }

def LlcOnly (ctx ctx' : PerfCtx) : Prop := ∃ fd value retry, ctx' = ctx.withLlc fd value retry

section

variable {ctx ctx' ctx'' : PerfCtx}

theorem LlcOnly.refl (ctx : PerfCtx) : ctx.LlcOnly ctx :=
  ⟨ctx.fdLlcMisses, ctx.lastLlcValue, ctx.llcRetry, rfl⟩

theorem LlcOnly.trans (left : ctx.LlcOnly ctx') (right : ctx'.LlcOnly ctx'') :
    ctx.LlcOnly ctx'' := by
  obtain ⟨_, _, _, rfl⟩ := left
  obtain ⟨fd, v, retry, rfl⟩ := right
  exact ⟨fd, v, retry, rfl⟩

theorem LlcOnly.modeView (only : ctx.LlcOnly ctx') :
    ∃ llc, ctx'.modeView = { ctx.modeView with llc := llc } := by
  obtain ⟨fd, _, _, rfl⟩ := only
  exact ⟨fd, rfl⟩

theorem LlcOnly.mode (only : ctx.LlcOnly ctx') : ctx'.mode = ctx.mode := by
  obtain ⟨_, _, _, rfl⟩ := only
  rfl

theorem LlcOnly.validated (only : ctx.LlcOnly ctx') :
    ctx'.hardwareValidated = ctx.hardwareValidated := by
  obtain ⟨_, _, _, rfl⟩ := only
  rfl

theorem LlcOnly.steps (only : ctx.LlcOnly ctx') (hardware : ctx.mode = .hardware) :
    ModeSteps ctx.modeView ctx'.modeView := by
  obtain ⟨llc, view⟩ := only.modeView
  rw [view]
  exact .single (.llc hardware llc)

end

variable (ctx : PerfCtx)

@[simp]
theorem modeView_schedulePerfRetry (now) : (ctx.schedulePerfRetry now).modeView = ctx.modeView := by
  unfold schedulePerfRetry
  split
  · rfl
  · simp only [modeView]

theorem llcOnly_dropLlc (now) : ctx.LlcOnly (ctx.dropLlc now) := by
  unfold dropLlc scheduleLlcRetry
  split
  · exact ⟨-1, ctx.lastLlcValue, ctx.llcRetry, rfl⟩
  · exact ⟨-1, ctx.lastLlcValue, ctx.llcRetry.schedule now, rfl⟩

theorem llcOnly_openLlcEvent (llc now) : ctx.LlcOnly (ctx.openLlcEvent llc now).1 := by
  cases llc with
  | error => exact ctx.llcOnly_dropLlc now
  | ok fd => exact ⟨fd, ctx.lastLlcValue, .reset, rfl⟩

theorem llcOnly_enableOptionalLlc (reset enable now) :
    ctx.LlcOnly (ctx.enableOptionalLlc reset enable now).1 := by
  unfold enableOptionalLlc
  split
  · exact .refl _
  · exact ctx.llcOnly_dropLlc now

theorem llcOnly_enablePerfEventsStrict (input) :
    ctx.LlcOnly (ctx.enablePerfEventsStrict input).1 := by
  unfold enablePerfEventsStrict
  split
  · exact .refl _
  · split
    · exact .refl _
    · exact ctx.llcOnly_enableOptionalLlc _ _ _

theorem llcOnly_tryRecoverLlc (input) : ctx.LlcOnly (ctx.tryRecoverLlc input) := by
  unfold tryRecoverLlc
  split
  · exact .refl _
  have opens := ctx.llcOnly_openLlcEvent input.opens input.failedAt
  split
  · next opened eq => rwa [eq] at opens
  next opened eq =>
    rw [eq] at opens
    have enables := opened.llcOnly_enableOptionalLlc input.reset input.enable input.failedAt
    split
    · next enabled eq => exact opens.trans (by rwa [eq] at enables)
    next enabled eq =>
      rw [eq] at enables
      split
      · exact (opens.trans enables).trans (enabled.llcOnly_dropLlc _)
      · next seed _ => exact (opens.trans enables).trans ⟨enabled.fdLlcMisses, seed, .reset, rfl⟩

theorem llcOnly_readLlc (input) : ctx.LlcOnly (ctx.readLlc input).1 := by
  unfold readLlc
  split
  · exact .refl _
  · split
    · exact .refl _
    · exact ctx.llcOnly_dropLlc _

theorem modeView_openPerfEvents (input) :
    (∃ e, ctx.openPerfEvents input = (ctx.closePerfEvents, .error e)) ∨
      ∃ opened cycles insns llc, ctx.openPerfEvents input = (opened, .ok ()) ∧
        opened.modeView = ctx.modeView.withDescriptors cycles insns llc := by
  unfold openPerfEvents
  split
  · exact .inl ⟨_, rfl⟩
  · exact .inl ⟨_, rfl⟩
  · next cycles insns _ _ =>
      obtain ⟨llc, opens⟩ := (llcOnly_openLlcEvent
        { ctx.closePerfEvents with fdCycles := cycles, fdInsns := insns } input.llc
        input.now).modeView
      exact .inr ⟨_, cycles, insns, llc, rfl, opens⟩

theorem modeView_measureHardwareBaseline {measured cfg input}
    (succeeds : ctx.measureHardwareBaseline cfg input = some measured) :
    ∃ before after, GroupBaselineProgressValid before after ∧
      measured.modeView = ctx.modeView.record (.baseline before after) := by
  obtain ⟨⟨before, after⟩, reads, rfl⟩ := Option.map_eq_some_iff.mp succeeds
  refine ⟨before, after, ?_, rfl⟩
  simp only [baselineReads, Option.bind_eq_bind, Option.bind_eq_some_iff] at reads
  obtain ⟨_, -, _, -, _, -, _, -, _, progress, _, -, same⟩ := reads
  cases same
  by_contra stalled
  simp [guard, stalled] at progress

theorem modeView_setMode_software (entering : ctx.mode ≠ .software) (reason input) :
    (ctx.setMode .software reason input).modeView = ctx.modeView.enterSoftware reason input := by
  simp only [setMode, if_neg entering, ModeView.enterSoftware]
  split <;> rfl

theorem modeView_setMode_recover (sw : ctx.mode = .software)
    (validated : ctx.hardwareValidated = true) (input) :
    (ctx.setMode .hardware "reprobe" input).modeView = ctx.modeView.recover input := by
  simp only [setMode, sw, validated, reduceCtorEq, if_false, and_self, if_true]
  rfl

theorem modeView_setMode_start (unset : ctx.mode = .none)
    (unvalidated : ctx.hardwareValidated = false) (input) :
    (ctx.setMode .hardware "init-open" input).modeView = ctx.modeView.start input := by
  simp only [setMode, unset, unvalidated, reduceCtorEq, if_false, false_and]
  rfl

theorem modeView_loseCounters (reason now) :
    (ctx.loseCounters reason now).modeView =
      { ctx.modeView.close.record (.failedClosed reason) with validated := false } := by
  rw [loseCounters, modeView_schedulePerfRetry]
  rfl

theorem mode_loseCounters (reason now) : (ctx.loseCounters reason now).mode = ctx.mode :=
  congrArg ModeView.mode (ctx.modeView_loseCounters reason now)

theorem modeView_failClosed (hardware : ctx.mode = .hardware) (reason input) :
    (ctx.failClosed reason input).modeView = ctx.modeView.fail reason input.mode := by
  have entering : (ctx.loseCounters reason input.now).mode ≠ .software := by
    rw [mode_loseCounters, hardware]
    decide
  rw [failClosed, modeView_setMode_software _ entering, modeView_loseCounters]
  rfl

end PerfCtx

/-- Hardware mode stays, or is lost. -/
inductive HardwareOutcome (ctx : PerfCtx) : PerfCtx → Prop
  | stays {ctx' : PerfCtx} (hardware : ctx'.mode = .hardware)
      (steps : ModeSteps ctx.modeView ctx'.modeView) : HardwareOutcome ctx ctx'
  | fails {before : PerfCtx} (hardware : before.mode = .hardware)
      (steps : ModeSteps ctx.modeView before.modeView) (reason : String) (input : FailInput) :
      HardwareOutcome ctx (before.failClosed reason input)

theorem HardwareOutcome.steps {ctx ctx'} (out : HardwareOutcome ctx ctx') :
    ModeSteps ctx.modeView ctx'.modeView := by
  cases out with
  | stays _ steps => exact steps
  | @fails before hardware steps reason input =>
    rw [before.modeView_failClosed hardware]
    exact steps.tail (.fails hardware reason _)

theorem HardwareOutcome.after {ctx middle ctx'} (out : HardwareOutcome middle ctx')
    (before : ModeSteps ctx.modeView middle.modeView) : HardwareOutcome ctx ctx' := by
  cases out with
  | stays hardware steps => exact .stays hardware (before.trans steps)
  | fails hardware steps reason input => exact .fails hardware (before.trans steps) reason input

namespace PerfCtx

theorem modeView_processMeasurement (ctx : PerfCtx) (sample cfg degraded) :
    (ctx.processMeasurement sample cfg degraded).1.modeView = ctx.modeView := by
  simp only [processMeasurement, storeRatio, updateAverages, modeView]

variable (ctx : PerfCtx) (hardware : ctx.mode = .hardware)
include hardware

theorem enable_outcome (input failure) : HardwareOutcome ctx (ctx.enable input failure) := by
  have only := ctx.llcOnly_enablePerfEventsStrict input
  simp only [enable, hardware, ne_eq, not_true_eq_false, if_false]
  split
  · next enabled eq =>
      rw [eq] at only
      exact .stays (only.mode.trans hardware) (only.steps hardware)
  · next enabled eq =>
      rw [eq] at only
      exact .fails (only.mode.trans hardware) (only.steps hardware) _ _

theorem measureBaseline_outcome (cfg input) :
    HardwareOutcome ctx (ctx.measureBaseline cfg input) := by
  have only := ctx.llcOnly_enablePerfEventsStrict input.events
  simp only [measureBaseline, hardware]
  split
  · next enabled eq =>
      rw [eq] at only
      exact .fails (only.mode.trans hardware) (only.steps hardware) _ _
  next enabled eq =>
    rw [eq] at only
    have still : enabled.mode = .hardware := only.mode.trans hardware
    split
    · exact .fails still (only.steps hardware) _ _
    · next measured succeeds =>
        obtain ⟨_, _, progress, view⟩ :=
          enabled.modeView_measureHardwareBaseline succeeds
        have kept : measured.mode = enabled.mode := congrArg ModeView.mode view
        refine .stays (kept.trans still) ((only.steps hardware).tail ?_)
        change ModeStep _ (({ measured.modeView with validated := true } : ModeView).publish true)
        rw [view]
        exact .validates still progress

theorem handleNoRunningProgress_outcome (input) :
    HardwareOutcome ctx (ctx.handleNoRunningProgress input).1 := by
  unfold handleNoRunningProgress
  dsimp only
  split
  · exact .stays hardware .refl
  · dsimp only [severe]
    exact .fails hardware .refl _ _

variable (validated : ctx.hardwareValidated = true)
include validated

theorem evaluateWork_outcome (cfg input now llcNow deltaCycles deltaInsns) :
    HardwareOutcome ctx (ctx.evaluateWork cfg input now llcNow deltaCycles deltaInsns).1 := by
  have advanced : ModeSteps ctx.modeView
      ((ctx.withWork input.iterations).advance now llcNow).modeView :=
    .single (.healthy hardware validated)
  have still : ((ctx.withWork input.iterations).advance now llcNow).mode = .hardware := hardware
  unfold evaluateWork
  dsimp only
  generalize (ctx.withWork input.iterations).advance now llcNow = after at advanced still ⊢
  split
  · exact .stays still advanced
  · exact .stays still (by rwa [after.modeView_processMeasurement])

theorem evaluateReading_outcome (cfg input now llcNow) :
    HardwareOutcome ctx (ctx.evaluateReading cfg input now llcNow).1 := by
  have healthy : ModeSteps ctx.modeView (ctx.modeView.publish true) :=
    .single (.healthy hardware validated)
  unfold evaluateReading
  split
  · exact .stays hardware healthy
  split
  · dsimp only [severe]
    exact .fails hardware .refl _ _
  split
  · exact ctx.handleNoRunningProgress_outcome hardware _
  have running : ModeSteps ctx.modeView (ctx.withZeroRunning 0).modeView := .refl
  dsimp only
  split
  · exact .stays hardware healthy
  split
  · exact ((ctx.withZeroRunning 0).handleNoRunningProgress_outcome hardware _).after running
  · exact ((ctx.withZeroRunning 0).evaluateWork_outcome hardware validated _ _ _ _ _ _).after
      running

theorem evaluateHardware_outcome (cfg input) :
    HardwareOutcome ctx (ctx.evaluateHardware cfg input).1 := by
  have recovers := ctx.llcOnly_tryRecoverLlc input.llcRecover
  unfold evaluateHardware
  dsimp only
  generalize ctx.tryRecoverLlc input.llcRecover = recovered at recovers ⊢
  have still : recovered.mode = .hardware := recovers.mode.trans hardware
  split
  · exact .fails still (recovers.steps hardware) _ _
  split
  · exact .fails still (recovers.steps hardware) _ _
  have reads := recovered.llcOnly_readLlc input
  generalize recovered.readLlc input = res at reads ⊢
  obtain ⟨read, llcNow⟩ := res
  have only := recovers.trans reads
  have trusted : read.hardwareValidated = true := only.validated.trans validated
  exact (read.evaluateReading_outcome (only.mode.trans hardware) trusted cfg input _ llcNow).after
    (only.steps hardware)

end PerfCtx

/-- What a hardware re-probe does to the mode. -/
inductive ProbeOutcome (ctx : PerfCtx) : PerfCtx × Bool → Prop
  | waits : ProbeOutcome ctx (ctx, false)
  | rejected {probed : PerfCtx}
      (view : probed.modeView = (ctx.modeView.close.record .reprobeFailed).publish false) :
      ProbeOutcome ctx (probed, false)
  | recovered {probed : PerfCtx} {before after : PerfGroupRead} {cycles insns llc : ℤ}
      {input : ModeInput} (unforced : ctx.forceSoftware = false)
      (progress : GroupBaselineProgressValid before after)
      (view : probed.modeView =
        ((ctx.modeView.withDescriptors cycles insns llc).validate before after).recover input) :
      ProbeOutcome ctx (probed, true)

theorem ProbeOutcome.steps {ctx res} (out : ProbeOutcome ctx res)
    (sw : ctx.mode = .software) : ModeSteps ctx.modeView res.1.modeView := by
  cases out with
  | waits => exact .refl
  | rejected view =>
    rw [view]
    exact .single (.reprobeFails sw)
  | recovered unforced progress view =>
    rw [view]
    exact .single (.recovers sw unforced _ _ _ progress _)

namespace PerfCtx

variable (ctx : PerfCtx)

theorem modeView_rejectReprobe (now) :
    (ctx.rejectReprobe now).modeView = (ctx.modeView.record .reprobeFailed).publish false := by
  have view := (ctx.record .reprobeFailed).modeView_schedulePerfRetry now
  change ((ctx.record .reprobeFailed).schedulePerfRetry now).modeView.publish false = _
  rw [view]
  rfl

theorem modeView_discardReprobe {opened : PerfCtx} (unvalidated : ctx.hardwareValidated = false)
    {cycles insns llc} (view : opened.modeView = ctx.modeView.withDescriptors cycles insns llc)
    (now) : (opened.discardReprobe now).modeView =
      (ctx.modeView.close.record .reprobeFailed).publish false := by
  have closed : { opened.closePerfEvents with hardwareValidated := false }.modeView =
      ctx.modeView.close := by
    change { opened.modeView.close with validated := false } = ctx.modeView.close
    rw [view]
    simp only [ModeView.close, ModeView.withDescriptors, modeView, unvalidated]
  rw [discardReprobe, modeView_rejectReprobe, closed]

theorem tryRecoverHardware_outcome (sw : ctx.mode = .software)
    (unvalidated : ctx.hardwareValidated = false) (input) :
    ProbeOutcome ctx (ctx.tryRecoverHardware input) := by
  unfold tryRecoverHardware
  split
  · exact .waits
  next due =>
  have unforced : ctx.forceSoftware = false := by
    simp only [not_or, not_not] at due
    exact due.2.1
  rcases ctx.modeView_openPerfEvents input.opens with
    ⟨e, eq⟩ | ⟨opened, cycles, insns, llc, eq, opens⟩
  · simp only [eq]
    exact .rejected (modeView_rejectReprobe _ _)
  simp only [eq]
  obtain ⟨llc, enables⟩ := (opened.llcOnly_enablePerfEventsStrict input.events).modeView
  rw [opens] at enables
  generalize opened.enablePerfEventsStrict input.events = res at enables ⊢
  obtain ⟨enabled, success⟩ := res
  have discarded := ctx.modeView_discardReprobe unvalidated enables input.failure.now
  cases success with
  | false => exact .rejected discarded
  | true =>
    dsimp only
    split
    · exact .rejected discarded
    next measured succeeds =>
    obtain ⟨before, after, progress, view⟩ := enabled.modeView_measureHardwareBaseline succeeds
    rw [enables] at view
    have kept : measured.acceptReprobe.mode = .software :=
      (congrArg ModeView.mode view).trans sw
    have accepted : measured.acceptReprobe.modeView =
        (ctx.modeView.withDescriptors cycles insns llc).validate before after := by
      change { measured.modeView with validated := true } = _
      rw [view]
      rfl
    have recovers := modeView_setMode_recover _ kept rfl input.failure.mode
    rw [accepted] at recovers
    exact .recovered unforced progress recovers

theorem modeView_evaluateSoftware (cfg input) :
    (ctx.evaluateSoftware cfg input).1.modeView =
      (ctx.tryRecoverHardware input.recover).1.modeView := by
  unfold evaluateSoftware
  split
  · next _ eq => rw [eq]; rfl
  next _ eq =>
  rw [eq]
  dsimp only
  split
  · rfl
  split
  · rfl
  · dsimp only
    rfl

theorem perform_software (sw : ctx.mode = .software)
    (unvalidated : ctx.hardwareValidated = false) (call) :
    ModeSteps ctx.modeView (ctx.perform call).modeView := by
  cases call with
  | enable input =>
    simp only [perform, enable, sw, ne_eq, reduceCtorEq, not_false_eq_true, if_true]
    exact .refl
  | measureBaseline cfg input =>
    simp only [perform, measureBaseline, sw]
    exact .refl
  | evaluate cfg input =>
    simp only [perform, evaluate, sw, modeView_evaluateSoftware]
    exact (ctx.tryRecoverHardware_outcome sw unvalidated input.recover).steps sw
  | checkSoftwareTimeout =>
    simp only [perform, checkSoftwareTimeout]
    split
    · exact .refl
    split
    · exact .refl
    · exact .single (.notifies sw)

theorem perform_hardware (hardware : ctx.mode = .hardware) (call) :
    HardwareOutcome ctx (ctx.perform call) := by
  cases call with
  | enable input failure => exact ctx.enable_outcome hardware input failure
  | measureBaseline cfg input => exact ctx.measureBaseline_outcome hardware cfg input
  | evaluate cfg input =>
    simp only [perform, evaluate, hardware]
    split
    · next validated => exact ctx.evaluateHardware_outcome hardware validated cfg input
    · exact .stays hardware .refl
  | checkSoftwareTimeout timeoutSec now =>
    have unexceeded : ¬ ctx.SoftwareTimeoutExceeded timeoutSec now :=
      fun exceeded => absurd (hardware.symm.trans exceeded.2.1) (by decide)
    simp only [perform, checkSoftwareTimeout, unexceeded, not_false_eq_true, if_true, ite_self]
    exact .stays hardware .refl

theorem perform_steps (sound : ctx.modeView.Sound) (call) :
    ModeSteps ctx.modeView (ctx.perform call).modeView := by
  cases mode : ctx.mode with
  | none => exact absurd mode sound.started
  | software => exact ctx.perform_software mode (sound.software mode).1 call
  | hardware => exact (ctx.perform_hardware mode call).steps

/-- No reference, average or ratio of an earlier mode is left. -/
structure DomainReset : Prop where
  cpiReference : ctx.calibratedCpiReference = 0
  workReference : ctx.calibratedWorkReference = 0
  slowCpi : ctx.slowCpi = 0
  fastCpi : ctx.fastCpi = 0
  slowLlcMpki : ctx.slowLlcMpki = 0
  fastLlcMpki : ctx.fastLlcMpki = 0
  history : ctx.ratioHistory = .replicate _ 0
  historyCount : ctx.ratioHistoryCount = 0
  historyCursor : ctx.ratioHistoryCursor = 0
  trimmed : ctx.ratioTrimmedMilli = 0

theorem setMode_software_reset (entering : ctx.mode ≠ .software) (reason input) :
    (ctx.setMode .software reason input).DomainReset := by
  simp only [setMode, if_neg entering]
  split <;> exact ⟨rfl, rfl, rfl, rfl, rfl, rfl, rfl, rfl, rfl, rfl⟩

end PerfCtx

theorem HardwareOutcome.reset {ctx ctx'} (out : HardwareOutcome ctx ctx')
    (sw : ctx'.mode = .software) : ctx'.DomainReset := by
  cases out with
  | stays hardware => exact absurd (hardware.symm.trans sw) (by decide)
  | @fails before hardware _ reason input =>
    apply PerfCtx.setMode_software_reset
    rw [PerfCtx.mode_loseCounters, hardware]
    decide

/-- How `tsd_perf_init` ends. -/
inductive InitOutcome (input : InitInput) : PerfCtx → Prop
  | software {before : PerfCtx} (unset : before.mode = .none)
      (closed : before.modeView.close = before.modeView)
      (forced : before.forceSoftware = input.forceSoftware) (reason : String) :
      InitOutcome input (before.setMode .software reason input.failure.mode)
  | hardware {before : PerfCtx} (unset : before.mode = .none)
      (unvalidated : before.hardwareValidated = false) (unforced : before.forceSoftware = false)
      (allowed : input.forceSoftware = false) :
      InitOutcome input (before.setMode .hardware "init-open" input.failure.mode)

theorem PerfCtx.init_outcome (input) : InitOutcome input (init input) := by
  unfold init
  dsimp only
  split
  · exact .software rfl rfl rfl _
  next unforced =>
  have allowed : input.forceSoftware = false := by simpa [prepared] using unforced
  rcases (prepared input).modeView_openPerfEvents input.events with
    ⟨e, eq⟩ | ⟨opened, cycles, insns, llc, eq, opens⟩
  · simp only [eq]
    have view := (prepared input).closePerfEvents.modeView_schedulePerfRetry input.failure.now
    refine .software (congrArg ModeView.mode view) ?_ (congrArg ModeView.forced view) _
    rw [view]
    rfl
  · simp only [eq]
    refine .hardware (congrArg ModeView.mode opens) rfl ?_ allowed
    exact (congrArg ModeView.forced opens).trans allowed

private def PerfCtx.SoundFor (input : InitInput) (ctx : PerfCtx) : Prop :=
  ctx.modeView.Sound ∧ ctx.modeView.forced = input.forceSoftware

namespace InitOutcome

variable {input : InitInput} {ctx : PerfCtx}

theorem sound (out : InitOutcome input ctx) : ctx.SoundFor input := by
  cases out with
  | @software before unset closed forced reason =>
    rw [PerfCtx.SoundFor, before.modeView_setMode_software (by simp [unset]), ← closed]
    refine ⟨before.modeView.sound_enterSoftware _ _, ?_⟩
    exact (ModeView.forced_enterSoftware _ _ _).trans forced
  | @hardware before unset unvalidated unforced allowed =>
    rw [PerfCtx.SoundFor, before.modeView_setMode_start unset unvalidated]
    exact ⟨ModeView.sound_start unvalidated unforced _, unforced.trans allowed.symm⟩

theorem reset (out : InitOutcome input ctx) (sw : ctx.mode = .software) :
    ctx.DomainReset := by
  cases out with
  | @software before unset => exact before.setMode_software_reset (by simp [unset]) _ _
  | @hardware before unset unvalidated =>
    have view := before.modeView_setMode_start unset unvalidated input.failure.mode
    exact absurd (sw.symm.trans (congrArg ModeView.mode view)) nofun

end InitOutcome

/-- A context from `tsd_perf_init` on, call after call. -/
structure PerfRun (input : InitInput) (trace : ℕ → PerfCtx) (length : ℕ) : Prop where
  start : trace 0 = .init input
  calls : IsRun (fun before after => ∃ call, after = before.perform call) trace length

/-- No validated counters, no upgrades. -/
structure PerfCtx.FailsClosed (ctx : PerfCtx) : Prop where
  software : ctx.mode = .software → ctx.hardwareValidated = false ∧
    ctx.fdCycles = -1 ∧ ctx.fdInsns = -1 ∧ ctx.fdLlcMisses = -1
  upgrades : ctx.UpgradesAllowed → BaselineHolds ctx.log
  published : ∃ telemetry, lastPublished ctx.log = some telemetry ∧ telemetry.mode = ctx.mode ∧
    (telemetry.countersHealthy = true → ctx.UpgradesAllowed)

theorem ModeView.Sound.failsClosed {ctx : PerfCtx} (sound : ctx.modeView.Sound) :
    ctx.FailsClosed where
  software := sound.software
  upgrades allowed := sound.baseline allowed.1 allowed.2
  published := sound.published

theorem PerfRun.sound {input trace length}
    (run : PerfRun input trace length) : ∀ i ≤ length, (trace i).SoundFor input := by
  have start : (trace 0).SoundFor input := by
    rw [run.start]
    exact (PerfCtx.init_outcome input).sound
  refine run.calls.invariant start ?_
  rintro before _ ⟨sound, forced⟩ ⟨call, rfl⟩
  have steps := before.perform_steps sound call
  exact ⟨steps.sound sound, steps.forced.trans forced⟩

/-- Along every sequence of calls the mode machine fails closed; entries into software mode reset
the measurement domain, and a forced context never leaves it. -/
theorem perf_fails_closed {input : InitInput} {trace : ℕ → PerfCtx} {length : ℕ}
    (run : PerfRun input trace length) :
    (∀ index ≤ length, (trace index).FailsClosed ∧
      (input.forceSoftware = true → (trace index).mode = .software)) ∧
    ((trace 0).mode = .software → (trace 0).DomainReset) ∧
    ∀ index < length, (trace index).mode ≠ .software → (trace (index + 1)).mode = .software →
      (trace (index + 1)).DomainReset := by
  refine ⟨fun index le => ?_, ?_, fun index below leaves enters => ?_⟩
  · obtain ⟨sound, forced⟩ := run.sound index le
    exact ⟨sound.failsClosed, fun always => sound.forced (forced.trans always)⟩
  · rw [run.start]
    exact (PerfCtx.init_outcome input).reset
  · obtain ⟨call, eq⟩ := run.calls index below
    rw [eq] at enters ⊢
    have started := (run.sound index below.le).1.started
    have hardware : (trace index).mode = .hardware := by
      cases mode : (trace index).mode with
      | none => exact absurd mode started
      | software => exact absurd mode leaves
      | hardware => rfl
    exact ((trace index).perform_hardware hardware call).reset enters

def refusedInit : InitInput where
  workload := false
  affinity := some [0, 1]
  currentCpu := 0
  fusionStarts := true
  forceSoftware := false
  startedAt := ⟨1, 0⟩
  events := ⟨.error .eperm, .error .eperm, .error .eperm, 1000000000⟩
  failure := ⟨1000000000, ⟨1, 0⟩, .sse41⟩

def grantedReprobe : RecoverInput where
  now := 6000000000
  opens := ⟨.ok 3, .ok 4, .error .eperm, 6000000000⟩
  events := ⟨true, true, true, true, 6000000000⟩
  snapshot := .setDefaults
  baseline := ⟨some ⟨2, 0, 0, 0, 0⟩, none, 0, 0, some ⟨2, 1000, 1000, 500, 400⟩, none⟩
  failure := ⟨6000000000, ⟨6, 0⟩, .sse41⟩

def recoveringInput : EvalInput where
  recover := grantedReprobe
  swNow := ⟨6, 0⟩
  iterations := 0
  llcRecover := ⟨6000000000, .error .eperm, false, false, none, 6000000000⟩
  group := none
  llc := none
  llcFailedAt := 6000000000
  sensors := ⟨none, .zero⟩
  degraded := true
  failure := ⟨6000000000, ⟨6, 0⟩, .sse41⟩

def recoveringTrace : ℕ → PerfCtx
  | 0 => .init refusedInit
  | _ + 1 => (PerfCtx.init refusedInit).perform (.evaluate .setDefaults recoveringInput)

theorem recoveringTrace_run : PerfRun refusedInit recoveringTrace 1 where
  start := rfl
  calls := by
    intro i _
    obtain rfl : i = 0 := by omega
    exact ⟨.evaluate .setDefaults recoveringInput, rfl⟩

theorem perf_fails_closed_recovering :
    (recoveringTrace 0).mode = .software ∧ (recoveringTrace 0).DomainReset ∧
      (recoveringTrace 1).UpgradesAllowed ∧ (recoveringTrace 1).FailsClosed := by
  have fails := perf_fails_closed recoveringTrace_run
  have software : (recoveringTrace 0).mode = .software := by decide
  exact ⟨software, fails.2.1 software, by decide, (fails.1 1 le_rfl).1⟩

/-- After a re-probe the baseline precedes the latest mode entry. -/
theorem reprobe_baseline_precedes_entry :
    ∃ input trace, PerfRun input trace 1 ∧ (trace 1).UpgradesAllowed ∧
      ¬ BaselineSince (trace 1).log := by
  refine ⟨refusedInit, recoveringTrace, recoveringTrace_run, by decide, ?_⟩
  rintro ⟨_, _, member, -⟩
  have since : (recoveringTrace 1).log.takeWhile (!·.revokes) =
      [.published ⟨.hardware, true, 0, 1⟩, .degraded false, .metric .perfRecoveries] := by decide
  simp [since] at member

end ThermalSimd
