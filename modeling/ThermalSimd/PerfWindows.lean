import ThermalSimd.PerfCalls
import ThermalSimd.PerfStalls

/-!
# Cycle and work windows

The cost of a work item divides the cycles since one reading of the group by the work items since
one reading of the work counter. The two cursors need not stand at the same evaluation.
-/

namespace ThermalSimd

namespace PerfCtx

/-- Right behind a baseline. -/
inductive AfterBaseline : PerfCtx → Prop
  | measured {before : PerfCtx} {cfg : RuntimeConfig} {input : MeasureInput}
      (hardware : before.mode = .hardware)
      (succeeds : (before.measureBaseline cfg input).mode = .hardware) :
      AfterBaseline (before.measureBaseline cfg input)
  | recovered {before after : PerfCtx} {input : RecoverInput}
      (recovers : before.tryRecoverHardware input = (after, true)) : AfterBaseline after

/-- Cycles can be compared. -/
structure Ready (ctx : PerfCtx) : Prop where
  hardware : ctx.mode = .hardware
  validated : ctx.hardwareValidated = true
  previous : ctx.lastGroupValid = true

theorem ready_recovered (measured : PerfCtx) (sw : measured.mode = .software)
    (previous : measured.lastGroupValid = true) (reason input) :
    (measured.acceptReprobe.setMode .hardware reason input).Ready := by
  refine ⟨?_, ?_, ?_⟩
  · simp only [setMode, acceptReprobe, sw, reduceCtorEq, if_false, and_self, if_true]
    rfl
  · simp only [setMode, acceptReprobe, sw, reduceCtorEq, if_false, and_self, if_true]
    rfl
  · exact (congrArg Cursors.lastGroupValid
      (measured.acceptReprobe.cursors_setMode .hardware reason input)).trans previous

theorem AfterBaseline.ready {ctx : PerfCtx} (after : ctx.AfterBaseline) : ctx.Ready := by
  cases after with
  | @measured before cfg input hw succeeds =>
    have out := before.baseline_outcome hw cfg input
    generalize before.measureBaseline cfg input = left at out succeeds ⊢
    cases out with
    | @rejected enabled _ enables =>
      have only := before.llcOnly_enablePerfEventsStrict input.events
      rw [enables] at only
      have lost := enabled.mode_failClosed (only.mode.trans hw) "baseline-validation"
        input.failure
      exact absurd (lost.symm.trans succeeds) nofun
    | accepted => exact ⟨succeeds, rfl, rfl⟩
  | @recovered before _ input recovers =>
    have out := before.recovery_outcome input
    rw [recovers] at out
    generalize same : (ctx, true) = res at out
    cases out with
    | waits | rejected => cases same
    | @recovered opened enabled _ _ sw _ opens enables =>
      cases same
      have opening := (before.sameDomain_openPerfEvents input.opens).mode
      have only := opened.llcOnly_enablePerfEventsStrict input.events
      rw [opens] at opening
      rw [enables] at only
      have still : enabled.mode = .software := only.mode.trans (opening.trans sw)
      exact ready_recovered (enabled.acceptBaseline _ _ _ _) still rfl _ _

def MovesCycles (ctx : PerfCtx) (input : EvalInput) : Prop :=
  ctx.evalPath input = .first ∨ ctx.evalPath input = .idle ∨ ctx.evalPath input = .observed
  deriving Decidable

def MovesWork (ctx : PerfCtx) (input : EvalInput) : Prop := ctx.evalPath input = .observed
  deriving Decidable

variable {ctx : PerfCtx} {input : EvalInput} {now : PerfGroupRead}

theorem Reads.evalPath_eq (reads : ctx.Reads input now) :
    ctx.evalPath input = (ctx.readFor input).readingPath now := by
  rw [(ctx.llcOnly_readFor input).readingPath, evalPath, reads.hardware]
  rw [if_pos reads.validated, hardwarePath, reads.read]
  dsimp only
  rw [if_neg (not_not.mpr reads.layout)]

theorem LlcOnly.hwLastIterations {ctx ctx' : PerfCtx} (only : ctx.LlcOnly ctx') :
    ctx'.hwLastIterations = ctx.hwLastIterations := by
  obtain ⟨_, _, _, rfl⟩ := only
  rfl

/-- What an evaluation that stays in hardware mode does to the cursors. -/
structure Moves (ctx : PerfCtx) (input : EvalInput) (ctx' : PerfCtx) : Prop where
  ready : ctx'.Ready
  cycles : ∃ now, ctx.Reads input now ∧
    ctx'.lastGroupRead = if ctx.MovesCycles input then now else ctx.lastGroupRead
  work : ctx'.hwLastIterations =
    if ctx.MovesWork input then input.iterations else ctx.hwLastIterations

theorem Ready.moves (ready : ctx.Ready) (cfg)
    (stays : (ctx.evaluate cfg input).1.mode = .hardware) :
    ctx.Moves input (ctx.evaluate cfg input).1 := by
  obtain ⟨_, _, left⟩ := ctx.evaluate_fst cfg input
  rw [left] at stays ⊢
  have sample := ctx.hardwareSample input ready.hardware ready.validated
  generalize ctx.sampled input = handed at sample stays ⊢
  cases sample with
  | lost reason =>
    have still := (ctx.llcOnly_tryRecoverLlc input.llcRecover).mode.trans ready.hardware
    exact absurd ((mode_failClosed _ still reason input.failure).symm.trans stays) nofun
  | @read now _ reads out =>
    have only := ctx.llcOnly_readFor input
    have path := reads.evalPath_eq
    have readable : (ctx.readFor input).Ready :=
      ⟨only.mode.trans ready.hardware, only.validated.trans ready.validated,
        only.lastGroupValid.trans ready.previous⟩
    generalize (ctx.readFor input).readingPath now = taken at out path
    generalize ctx.readFor input = read at only readable out
    cases out with
    | first unread => exact absurd (readable.previous.symm.trans unread) nofun
    | failed samples reason =>
      exact absurd ((mode_failClosed _ readable.hardware reason input.failure).symm.trans stays)
        nofun
    | stalled samples =>
      refine ⟨{ readable with }, ⟨now, reads, ?_⟩, ?_⟩
      · rw [if_neg (by simp [MovesCycles, path])]
        exact only.lastGroupRead
      · rw [if_neg (by simp [MovesWork, path])]
        exact only.hwLastIterations
    | idle =>
      refine ⟨{ readable with }, ⟨now, reads, ?_⟩, ?_⟩
      · rw [if_pos (by simp [MovesCycles, path])]
        rfl
      · rw [if_neg (by simp [MovesWork, path])]
        exact only.hwLastIterations
    | unworked | measured =>
      refine ⟨{ readable with }, ⟨now, reads, ?_⟩, ?_⟩
      · rw [if_pos (by simp [MovesCycles, path])]
        rfl
      · rw [if_pos (by simp [MovesWork, path])]
        rfl

theorem Ready.cost (ready : ctx.Ready) (cfg)
    (reports : 0 < (ctx.evaluate cfg input).2.1.workCostMilli) :
    ∃ now, ctx.Reads input now ∧ (ctx.evaluate cfg input).2.1.workCostMilli =
      workCostMilli (scaledDeltas ctx.lastGroupRead now).1
        (counterDelta ctx.hwLastIterations input.iterations) := by
  have completed := ctx.evaluate_completed cfg input
  have sample := ctx.hardwareSample input ready.hardware ready.validated
  have silent : (ctx.sampled input).2 ≠ none := fun unmeasured => by
    rw [(completed.unmeasured unmeasured).2] at reports
    exact absurd reports (by decide)
  generalize ctx.sampled input = handed at sample completed silent
  cases sample with
  | lost => exact absurd rfl silent
  | @read now _ reads out =>
    have only := ctx.llcOnly_readFor input
    refine ⟨now, reads, ?_⟩
    generalize (ctx.readFor input).readingPath now = path at out
    cases out with
    | measured =>
      rw [(completed.measured _ rfl).2.1, ← only.lastGroupRead, ← only.hwLastIterations]
      rfl
    | _ => exact absurd rfl silent

end PerfCtx

/-- Evaluations in hardware mode behind a baseline. -/
structure EvaluationRun (trace : ℕ → PerfCtx) (cfgs : ℕ → RuntimeConfig) (inputs : ℕ → EvalInput)
    (length : ℕ) : Prop where
  baseline : (trace 0).AfterBaseline
  evaluates : ∀ index < length,
    trace (index + 1) = ((trace index).evaluate (cfgs index) (inputs index)).1
  hardware : ∀ index < length, (trace index).mode = .hardware

section

variable (trace : ℕ → PerfCtx) (inputs : ℕ → EvalInput)

/-- The evaluation that last moved the cycle cursor, from one; zero is the baseline. -/
def cycleCursor : ℕ → ℕ
  | 0 => 0
  | index + 1 =>
    if (trace index).MovesCycles (inputs index) then index + 1 else cycleCursor index

/-- The evaluation that last moved the work cursor, from one; zero is the baseline. -/
def workCursor : ℕ → ℕ
  | 0 => 0
  | index + 1 => if (trace index).MovesWork (inputs index) then index + 1 else workCursor index

def readingAt : ℕ → PerfGroupRead
  | 0 => (trace 0).lastGroupRead
  | index + 1 => (inputs index).group.getD (trace 0).lastGroupRead

def iterationsAt : ℕ → UInt64
  | 0 => (trace 0).hwLastIterations
  | index + 1 => (inputs index).iterations

theorem workCursor_le (i) : workCursor trace inputs i ≤ i := by
  induction i with
  | zero => exact le_rfl
  | succ i ih =>
    rw [workCursor]
    split
    · exact le_rfl
    · exact ih.trans (Nat.le_succ i)

end

theorem PerfCtx.Reads.group_eq {ctx : PerfCtx} {input now}
    (reads : ctx.Reads input now) : input.group = some now := by
  have read := reads.read
  unfold readExact at read
  split at read
  · cases read
  · exact read

namespace EvaluationRun

variable {trace : ℕ → PerfCtx} {cfgs : ℕ → RuntimeConfig} {inputs : ℕ → EvalInput} {length : ℕ}
  (run : EvaluationRun trace cfgs inputs length)
include run

theorem ready {i} (lt : i < length) : (trace i).Ready := by
  induction i with
  | zero => exact run.baseline.ready
  | succ i ih =>
    have earlier : i < length := Nat.lt_of_succ_lt lt
    have stays := run.hardware (i + 1) lt
    rw [run.evaluates i earlier] at stays ⊢
    exact ((ih earlier).moves (cfgs i) stays).ready

theorem cursors_stand {i} (lt : i < length) :
    (trace i).lastGroupRead = readingAt trace inputs (cycleCursor trace inputs i) ∧
      (trace i).hwLastIterations = iterationsAt trace inputs (workCursor trace inputs i) := by
  induction i with
  | zero => exact ⟨rfl, rfl⟩
  | succ i ih =>
    have earlier : i < length := Nat.lt_of_succ_lt lt
    have stays := run.hardware (i + 1) lt
    rw [run.evaluates i earlier] at stays ⊢
    obtain ⟨-, ⟨_, reads, cycles⟩, work⟩ := (run.ready earlier).moves (cfgs i) stays
    obtain ⟨reading, iterations⟩ := ih earlier
    rw [cycles, work, cycleCursor, workCursor]
    constructor
    · split
      · rw [readingAt, reads.group_eq]
        rfl
      · exact reading
    · split
      · rfl
      · exact iterations

theorem aligned_iff {i} (lt : i < length) :
    cycleCursor trace inputs i = workCursor trace inputs i ↔
      ∀ earlier, workCursor trace inputs i ≤ earlier → earlier < i →
        (trace earlier).evalPath (inputs earlier) ≠ .idle := by
  induction i with
  | zero => exact iff_of_true rfl fun _ _ => nofun
  | succ i ih =>
    have reached : i < length := Nat.lt_of_succ_lt lt
    have stands := workCursor_le trace inputs i
    have read : (trace i).evalPath (inputs i) ≠ .first := by
      have stays := run.hardware (i + 1) lt
      rw [run.evaluates i reached] at stays
      obtain ⟨-, ⟨_, reads, -⟩, -⟩ := (run.ready reached).moves (cfgs i) stays
      have path := reads.evalPath_eq
      rw [path, ((trace i).llcOnly_readFor (inputs i)).readingPath, PerfCtx.readingPath,
        if_neg (by rw [(run.ready reached).previous]; decide)]
      unfold PerfCtx.stallPath
      split_ifs <;> decide
    rw [cycleCursor, workCursor]
    by_cases worked : (trace i).MovesWork (inputs i)
    · rw [if_pos worked, if_pos (.inr (.inr worked))]
      exact iff_of_true rfl fun earlier above => absurd above ∘ not_le.mpr
    · rw [if_neg worked]
      by_cases idle : (trace i).evalPath (inputs i) = .idle
      · rw [if_pos (.inr (.inl idle))]
        refine iff_of_false (by omega) fun busy => ?_
        exact busy i stands (Nat.lt_succ_self i) idle
      · rw [if_neg (by rintro (first | idles | observed)
                       exacts [read first, idle idles, worked observed])]
        rw [ih reached]
        refine forall₂_congr fun earlier _ => ⟨fun busy before => ?_, fun busy before => ?_⟩
        · rcases Nat.lt_succ_iff_lt_or_eq.mp before with before | rfl
          · exact busy before
          · exact idle
        · exact busy (Nat.lt_succ_of_lt before)

/-- A cost divides the cycles since the cycle cursor by the work since the work cursor, and both
windows are one exactly if no evaluation was idle since the latter moved. -/
theorem cost_windows_aligned_iff {index : ℕ} (below : index < length)
    (reports : 0 < ((trace index).evaluate (cfgs index) (inputs index)).2.1.workCostMilli) :
    ((trace index).evaluate (cfgs index) (inputs index)).2.1.workCostMilli =
        workCostMilli
          (scaledDeltas (readingAt trace inputs (cycleCursor trace inputs index))
            (readingAt trace inputs (index + 1))).1
          (counterDelta (iterationsAt trace inputs (workCursor trace inputs index))
            (iterationsAt trace inputs (index + 1))) ∧
      (cycleCursor trace inputs index = workCursor trace inputs index ↔
        ∀ earlier, workCursor trace inputs index ≤ earlier → earlier < index →
          (trace earlier).evalPath (inputs earlier) ≠ .idle) := by
  refine ⟨?_, run.aligned_iff below⟩
  obtain ⟨_, reads, cost⟩ := (run.ready below).cost (cfgs index) reports
  obtain ⟨reading, iterations⟩ := run.cursors_stand below
  rw [cost, reading, iterations, readingAt, reads.group_eq]
  rfl

end EvaluationRun

def evaluatedTrace (inputs : ℕ → EvalInput) : ℕ → PerfCtx
  | 0 => measuredCtx
  | index + 1 => ((evaluatedTrace inputs index).evaluate .setDefaults (inputs index)).1

theorem afterBaseline_measuredCtx : measuredCtx.AfterBaseline :=
  @PerfCtx.AfterBaseline.measured (.init grantedInit) .setDefaults steadyMeasure (by decide)
    (by decide)

def busyInputs : ℕ → EvalInput
  | 0 => readingInput ⟨2, 2000, 2000, 1000, 800⟩ (some 7) 60
  | _ => readingInput ⟨2, 3000, 3000, 1500, 1200⟩ (some 7) 70

def idleInputs : ℕ → EvalInput
  | 0 => readingInput ⟨2, 2000, 2000, 600, 400⟩ (some 7) 60
  | _ => readingInput ⟨2, 3000, 3000, 1100, 800⟩ (some 7) 70

theorem evaluationRun_busy :
    EvaluationRun (evaluatedTrace busyInputs) (fun _ => .setDefaults) busyInputs 2 where
  baseline := afterBaseline_measuredCtx
  evaluates _ _ := rfl
  hardware := by decide

theorem evaluationRun_idle :
    EvaluationRun (evaluatedTrace idleInputs) (fun _ => .setDefaults) idleInputs 2 where
  baseline := afterBaseline_measuredCtx
  evaluates _ _ := rfl
  hardware := by decide

theorem busy_cost_windows_aligned :
    cycleCursor (evaluatedTrace busyInputs) busyInputs 1 =
      workCursor (evaluatedTrace busyInputs) busyInputs 1 :=
  (evaluationRun_busy.cost_windows_aligned_iff (by decide) (by decide)).2.mpr (by decide)

/-- The cycles since the idle reading are divided by the work since the baseline. -/
theorem idle_reading_misaligns_windows :
    EvaluationRun (evaluatedTrace idleInputs) (fun _ => .setDefaults) idleInputs 2 ∧
      ((evaluatedTrace idleInputs 1).evaluate .setDefaults (idleInputs 1)).2.1.workCostMilli =
        500 * 1000 / 60 ∧
      cycleCursor (evaluatedTrace idleInputs) idleInputs 1 = 1 ∧
      workCursor (evaluatedTrace idleInputs) idleInputs 1 = 0 :=
  ⟨evaluationRun_idle, by decide, by decide, by decide⟩

end ThermalSimd
