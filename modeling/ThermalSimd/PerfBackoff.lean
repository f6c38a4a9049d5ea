import ThermalSimd.Samples
import ThermalSimd.Words

/-!
# Re-probe backoff

Every failed re-probe schedules the next one, twice as late as the one before and at most a minute
late. Opening events resets the schedule, though, and a re-probe that opens its events can still
fail.
-/

namespace ThermalSimd

namespace RetrySchedule

variable (retry : RetrySchedule)

def delaySeconds : ℤ :=
  min (if retry.backoffSeconds ≤ 0 then 5 else retry.backoffSeconds) 60

/-- A failure at clock `now` schedules the next attempt after the delay. -/
theorem deadlineNs_schedule (now) : (retry.schedule now).deadlineNs.toNat =
      min (now.toNat + retry.delaySeconds.toNat * 1000000000) (2 ^ 64 - 1) := by
  have pos : 1 ≤ retry.delaySeconds := by
    unfold delaySeconds
    split <;> omega
  have bound : retry.delaySeconds ≤ 60 := min_le_right _ _
  have delta : (UInt64.ofInt retry.delaySeconds * 1000000000).toNat =
      retry.delaySeconds.toNat * 1000000000 := by
    rw [UInt64.toNat_mul, Words.toNat_ofInt (by omega) (by omega)]
    change _ * 1000000000 % 2 ^ 64 = _
    omega
  change (if (0 : UInt64) - 1 - UInt64.ofInt retry.delaySeconds * 1000000000 < now then
    (0 : UInt64) - 1 else now + UInt64.ofInt retry.delaySeconds * 1000000000).toNat = _
  generalize UInt64.ofInt retry.delaySeconds * 1000000000 = added at delta ⊢
  have room : ((0 : UInt64) - 1 - added).toNat = 2 ^ 64 - 1 - added.toNat := by
    rw [UInt64.toNat_sub_of_le]
    · rfl
    · rw [UInt64.le_iff_toNat_le, delta]
      change _ ≤ 2 ^ 64 - 1
      omega
  split
  · next late =>
      rw [UInt64.lt_iff_toNat_lt, room, delta] at late
      change 2 ^ 64 - 1 = _
      omega
  · next early =>
      rw [UInt64.lt_iff_toNat_lt, room, delta] at early
      rw [UInt64.toNat_add, delta]
      omega

theorem delaySeconds_schedule (now) :
    (retry.schedule now).delaySeconds = min (2 * retry.delaySeconds) 60 := by
  unfold delaySeconds schedule
  dsimp only
  split_ifs <;> omega

end RetrySchedule

def backoffDelay (index : ℕ) : ℤ := min (5 * 2 ^ index) 60

theorem backoffDelay_succ (i) : backoffDelay (i + 1) = min (2 * backoffDelay i) 60 := by
  unfold backoffDelay
  omega

theorem five_lt_backoffDelay_succ (i) : 5 < backoffDelay (i + 1) := by
  have pos : (1 : ℤ) ≤ 2 ^ i := one_le_pow₀ (by norm_num)
  unfold backoffDelay
  omega

/-- Failures in a row, each with whether the schedule was reset before it and its delay; `next` is
the delay that is due first. -/
def Chained (next : ℤ) : List (Bool × ℤ) → Prop
  | [] => True
  | (restarted, delay) :: failures =>
    delay = (if restarted then 5 else next) ∧ Chained (min (2 * delay) 60) failures

/-- The delays follow the exponential backoff from its `first` one on. -/
def BacksOff (first : ℕ) (delays : List ℤ) : Prop :=
  ∀ index delay, delays[index]? = some delay → delay = backoffDelay (first + index)

theorem backsOff_cons (first delay delays) :
    BacksOff first (delay :: delays) ↔
      delay = backoffDelay first ∧ BacksOff (first + 1) delays := by
  constructor
  · intro backs
    refine ⟨backs 0 delay rfl, fun i other found => ?_⟩
    rw [Nat.add_right_comm]
    exact backs (i + 1) other found
  · rintro ⟨head, tail⟩ i other found
    cases i with
    | zero => exact (Option.some.inj found).symm.trans head
    | succ i =>
      rw [← Nat.add_assoc, Nat.add_right_comm]
      exact tail i other found

theorem Chained.backsOff_succ_iff {failures first}
    (chained : Chained (backoffDelay (first + 1)) failures) :
    BacksOff (first + 1) (failures.map Prod.snd) ↔ ∀ failure ∈ failures, failure.1 = false := by
  induction failures generalizing first with
  | nil => exact iff_of_true (fun i delay found => by simp at found) (by simp)
  | cons failure failures ih =>
    obtain ⟨restarted, delay⟩ := failure
    obtain ⟨due, rest⟩ := chained
    rw [List.map_cons, backsOff_cons, List.forall_mem_cons]
    cases restarted with
    | true =>
      refine iff_of_false (fun backs => ?_) (by simp)
      exact absurd (due.symm.trans backs.1) (ne_of_lt (five_lt_backoffDelay_succ first))
    | false =>
      have onTime : delay = backoffDelay (first + 1) := due
      rw [onTime, ← backoffDelay_succ] at rest
      exact and_congr (iff_of_true onTime rfl) (ih rest)

theorem Chained.backsOff_iff {failures earlier}
    (chained : Chained (backoffDelay earlier) failures) :
    BacksOff earlier (failures.map Prod.snd) ↔
      ∀ failure ∈ failures.drop (1 - earlier), failure.1 = false := by
  cases earlier with
  | succ earlier => exact chained.backsOff_succ_iff.trans (by simp)
  | zero =>
    cases failures with
    | nil => exact iff_of_true (fun i delay found => by simp at found) (by simp)
    | cons failure failures =>
      obtain ⟨_, delay⟩ := failure
      obtain ⟨due, rest⟩ := chained
      have onTime : delay = backoffDelay 0 := due.trans (ite_self 5)
      rw [onTime, ← backoffDelay_succ] at rest
      rw [List.map_cons, backsOff_cons, and_iff_right onTime]
      exact rest.backsOff_succ_iff

/-- A failed re-probe: its stage, the clock at attempt and failure, its delay and deadline. -/
structure FailedProbe (Stage : Type) where
  stage : Stage
  attemptedAt : UInt64
  failedAt : UInt64
  delaySeconds : ℤ
  deadlineNs : UInt64

section

variable {Stage : Type}

/-- Failed re-probes in a row; one that has got beyond `opening` finds the schedule reset. -/
inductive ScheduleRun (opening : Stage) [DecidableEq Stage] :
    RetrySchedule → List (FailedProbe Stage) → Prop
  | nil (retry : RetrySchedule) : ScheduleRun opening retry []
  | cons {retry found probe failures} (due : retry.Due probe.attemptedAt)
      (finds : found = if probe.stage = opening then retry else .reset)
      (delay : probe.delaySeconds = found.delaySeconds)
      (deadline : probe.deadlineNs = (found.schedule probe.failedAt).deadlineNs)
      (rest : ScheduleRun opening (found.schedule probe.failedAt) failures) :
      ScheduleRun opening retry (probe :: failures)

/-- The delays double up to the limit, and no re-probe comes before its deadline. -/
structure KeepsBackoff (earlier : ℕ) (failures : List (FailedProbe Stage)) : Prop where
  delays : BacksOff earlier (failures.map (·.delaySeconds))
  deadlines : ∀ probe ∈ failures, probe.deadlineNs.toNat =
    min (probe.failedAt.toNat + probe.delaySeconds.toNat * 1000000000) (2 ^ 64 - 1)
  waits : failures.IsChain fun earlier later => earlier.deadlineNs ≤ later.attemptedAt

namespace ScheduleRun

variable [DecidableEq Stage] {opening : Stage} {retry : RetrySchedule}
  {failures : List (FailedProbe Stage)}

section

variable (run : ScheduleRun opening retry failures)
include run

theorem deadlines :
    ∀ probe ∈ failures, probe.deadlineNs.toNat =
      min (probe.failedAt.toNat + probe.delaySeconds.toNat * 1000000000) (2 ^ 64 - 1) := by
  induction run with
  | nil => simp
  | cons _ _ delay deadline _ ih =>
    refine List.forall_mem_cons.mpr ⟨?_, ih⟩
    rw [deadline, delay, RetrySchedule.deadlineNs_schedule]

theorem waits :
    failures.IsChain fun earlier later => earlier.deadlineNs ≤ later.attemptedAt := by
  induction run with
  | nil => exact .nil
  | cons _ _ _ deadline rest ih =>
    cases rest with
    | nil => exact .singleton _
    | cons later =>
      refine .cons_cons ?_ ih
      rw [deadline]
      rcases later with never | passed
      · rw [never]
        exact UInt64.zero_le
      · exact passed

theorem chained :
    Chained retry.delaySeconds
      (failures.map fun probe => (decide (probe.stage ≠ opening), probe.delaySeconds)) := by
  induction run with
  | nil => trivial
  | @cons retry found probe failures due finds delay deadline rest ih =>
    refine ⟨?_, ?_⟩
    · rw [delay, finds]
      by_cases opens : probe.stage = opening
      · simp [opens]
      · simp only [opens, if_false, decide_not, decide_false, Bool.not_false, if_true]
        rfl
    · rw [RetrySchedule.delaySeconds_schedule, ← delay] at ih
      exact ih

theorem keepsBackoff_iff {earlier}
    (due : retry.delaySeconds = backoffDelay earlier) :
    KeepsBackoff earlier failures ↔
      ∀ probe ∈ failures.drop (1 - earlier), probe.stage = opening := by
  have chained := run.chained
  rw [due] at chained
  have delays := chained.backsOff_iff
  rw [List.map_map, ← List.map_drop, List.forall_mem_map] at delays
  simp only [decide_eq_false_iff_not, not_not] at delays
  rw [← delays]
  exact ⟨fun keeps => keeps.delays, fun backs => ⟨backs, run.deadlines, run.waits⟩⟩

end

end ScheduleRun

end

/-- Where a re-probe fails. -/
inductive ReprobeStage
  | opening | enabling | validating
  deriving DecidableEq

namespace PerfCtx

def Reprobes (ctx : PerfCtx) (input : RecoverInput) : Prop :=
  ctx.mode = .software ∧ ctx.PerfRetryDue input.now
  deriving Decidable

def reprobeFailure (ctx : PerfCtx) (input : RecoverInput) : Option (ReprobeStage × RetrySchedule) :=
  match ctx.openPerfEvents input.opens with
  | (opened, .error _) => some (.opening, opened.perfRetry)
  | (opened, .ok ()) =>
    match opened.enablePerfEventsStrict input.events with
    | (enabled, false) => some (.enabling, enabled.perfRetry)
    | (enabled, true) =>
      match enabled.measureHardwareBaseline input.snapshot input.baseline with
      | none => some (.validating, enabled.perfRetry)
      | some _ => none

section

variable {ctx ctx' : PerfCtx}

theorem LlcOnly.perfRetry (only : ctx.LlcOnly ctx') : ctx'.perfRetry = ctx.perfRetry := by
  obtain ⟨_, _, _, rfl⟩ := only
  rfl

theorem LlcOnly.forceSoftware (only : ctx.LlcOnly ctx') :
    ctx'.forceSoftware = ctx.forceSoftware := by
  obtain ⟨_, _, _, rfl⟩ := only
  rfl

end

variable (ctx : PerfCtx)

theorem perfRetry_openPerfEvents (input) :
    (ctx.openPerfEvents input).1.forceSoftware = ctx.forceSoftware ∧
      (ctx.openPerfEvents input).1.mode = ctx.mode ∧
      (ctx.openPerfEvents input).1.perfRetry =
        match (ctx.openPerfEvents input).2 with
        | .error _ => ctx.perfRetry
        | .ok () => .reset := by
  unfold openPerfEvents
  split
  · exact ⟨rfl, rfl, rfl⟩
  · exact ⟨rfl, rfl, rfl⟩
  · next cycles insns _ _ =>
      have only := llcOnly_openLlcEvent
        { ctx.closePerfEvents with fdCycles := cycles, fdInsns := insns } input.llc input.now
      exact ⟨only.forceSoftware, only.mode, rfl⟩

theorem rejectReprobe_fields (now) (unforced : ctx.forceSoftware = false) :
    (ctx.rejectReprobe now).mode = ctx.mode ∧
      (ctx.rejectReprobe now).perfRetry = ctx.perfRetry.schedule now := by
  simp only [rejectReprobe, schedulePerfRetry, record, publishPerfState, unforced,
    Bool.false_eq_true, if_false, and_self]

/-- How `try_recover_hardware` ends. -/
inductive ReprobeOutcome (ctx : PerfCtx) (input : RecoverInput) : PerfCtx × Bool → Prop
  | waits (unattempted : ¬ ctx.Reprobes input) : ReprobeOutcome ctx input (ctx, false)
  | failed {stage retry probed} (attempted : ctx.Reprobes input)
      (failure : ctx.reprobeFailure input = some (stage, retry))
      (found : retry = if stage = .opening then ctx.perfRetry else .reset)
      (software : probed.mode = .software)
      (scheduled : probed.perfRetry = retry.schedule input.failure.now) :
      ReprobeOutcome ctx input (probed, false)
  | recovered {probed} (attempted : ctx.Reprobes input) (success : ctx.reprobeFailure input = none)
      (reset : probed.perfRetry = .reset) :
      ReprobeOutcome ctx input (probed, true)

theorem reprobe_outcome (input) : ReprobeOutcome ctx input (ctx.tryRecoverHardware input) := by
  unfold tryRecoverHardware
  split
  · next unattempted =>
      refine .waits fun attempted => ?_
      exact unattempted.elim (fun mode => mode attempted.1) (fun due => due attempted.2)
  next attempt =>
  obtain ⟨sw, due⟩ := not_or.mp attempt
  have attempted : ctx.Reprobes input := ⟨not_not.mp sw, not_not.mp due⟩
  have failure : ctx.reprobeFailure input = ctx.reprobeFailure input := rfl
  obtain ⟨forced, mode, retry⟩ := ctx.perfRetry_openPerfEvents input.opens
  conv_rhs at failure => unfold reprobeFailure
  generalize ctx.openPerfEvents input.opens = res at forced mode retry failure ⊢
  obtain ⟨opened, out⟩ := res
  have unforced : opened.forceSoftware = false := forced.trans attempted.2.1
  have still : opened.mode = .software := mode.trans attempted.1
  cases out with
  | error e =>
    obtain ⟨kept, scheduled⟩ := opened.rejectReprobe_fields input.failure.now unforced
    exact .failed attempted failure retry (kept.trans still) scheduled
  | ok =>
    have only := opened.llcOnly_enablePerfEventsStrict input.events
    dsimp only at failure ⊢
    generalize opened.enablePerfEventsStrict input.events = enabling at only failure ⊢
    obtain ⟨enabled, success⟩ := enabling
    have reset : enabled.perfRetry = .reset := only.perfRetry.trans retry
    obtain ⟨kept, scheduled⟩ :=
      rejectReprobe_fields { enabled.closePerfEvents with hardwareValidated := false }
        input.failure.now (only.forceSoftware.trans unforced)
    have sw := kept.trans (only.mode.trans still)
    cases success with
    | false => exact .failed attempted failure reset sw scheduled
    | true =>
      dsimp only at failure ⊢
      split
      · next rejected =>
          rw [rejected] at failure
          exact .failed attempted failure reset sw scheduled
      · next _ accepted =>
          rw [accepted] at failure
          exact .recovered attempted failure (congrArg Cursors.perfRetry (cursors_setMode _ _ _ _))

theorem perfRetry_evaluate (sw : ctx.mode = .software) (cfg input) :
    (ctx.evaluate cfg input).1.perfRetry =
      (ctx.tryRecoverHardware input.recover).1.perfRetry := by
  obtain ⟨_, _, left⟩ := ctx.evaluate_fst cfg input
  rw [left, sampled, sw]
  unfold sampleSoftware
  generalize ctx.tryRecoverHardware input.recover = res
  obtain ⟨_, recovers⟩ := res
  cases recovers with
  | true => rfl
  | false =>
    dsimp only
    split
    · rfl
    split <;> rfl

/-- Consecutive failed re-probes in software mode, with any other calls between them. -/
inductive FailedReprobes : PerfCtx → List (FailedProbe ReprobeStage) → Prop
  | none (ctx : PerfCtx) : FailedReprobes ctx []
  | rests {ctx call failures} (software : ctx.mode = .software)
      (unattempted : ∀ cfg input, call = .evaluate cfg input → ¬ ctx.Reprobes input.recover)
      (rest : FailedReprobes (ctx.perform call) failures) :
      FailedReprobes ctx failures
  | fails {ctx cfg input stage retry failures} (attempted : ctx.Reprobes input.recover)
      (failure : ctx.reprobeFailure input.recover = some (stage, retry))
      (rest : FailedReprobes (ctx.perform (.evaluate cfg input)) failures) :
      FailedReprobes ctx
        (⟨stage, input.recover.now, input.recover.failure.now, retry.delaySeconds,
          (ctx.perform (.evaluate cfg input)).perfRetry.deadlineNs⟩ :: failures)

theorem perfRetry_perform (sw : ctx.mode = .software) {call}
    (unattempted : ∀ cfg input, call = .evaluate cfg input → ¬ ctx.Reprobes input.recover) :
    (ctx.perform call).perfRetry = ctx.perfRetry := by
  cases call with
  | enable input =>
    rw [perform, enable, if_pos (by rw [sw]; decide)]
  | measureBaseline cfg input =>
    rw [perform, measureBaseline, sw]
    rfl
  | evaluate cfg input =>
    rw [perform, ctx.perfRetry_evaluate sw]
    have out := ctx.reprobe_outcome input.recover
    generalize ctx.tryRecoverHardware input.recover = res at out ⊢
    cases out with
    | waits => rfl
    | failed attempted | recovered attempted => exact absurd attempted (unattempted cfg input rfl)
  | checkSoftwareTimeout =>
    rw [perform, checkSoftwareTimeout]
    split
    · rfl
    split <;> rfl

theorem FailedReprobes.scheduleRun {ctx : PerfCtx} {failures}
    (run : ctx.FailedReprobes failures) : ScheduleRun .opening ctx.perfRetry failures := by
  induction run with
  | none ctx => exact .nil _
  | @rests ctx call failures sw unattempted rest ih =>
    rwa [ctx.perfRetry_perform sw unattempted] at ih
  | @fails ctx cfg input stage retry failures attempted failure rest ih =>
    have left := ctx.perfRetry_evaluate attempted.1 cfg input
    have out := ctx.reprobe_outcome input.recover
    generalize ctx.tryRecoverHardware input.recover = res at out left
    cases out with
    | waits unattempted => exact absurd attempted unattempted
    | recovered _ success => exact absurd (failure.symm.trans success) nofun
    | failed _ same found _ scheduled =>
      cases failure.symm.trans same
      have after : (ctx.perform (.evaluate cfg input)).perfRetry =
        retry.schedule input.recover.failure.now := left.trans scheduled
      rw [after] at ih ⊢
      exact .cons attempted.2.2 found rfl rfl ih

end PerfCtx

/-- Where a re-probe of the LLC event fails. -/
inductive LlcStage
  | opening | enabling | seeding
  deriving DecidableEq

namespace PerfCtx

def LlcReprobes (ctx : PerfCtx) (input : LlcRecoverInput) : Prop :=
  ctx.mode = .hardware ∧ ctx.fdLlcMisses < 0 ∧ ctx.LlcRetryDue input.now
  deriving Decidable

def llcReprobeFailure (ctx : PerfCtx) (input : LlcRecoverInput) :
    Option (LlcStage × RetrySchedule) :=
  match input.opens with
  | .error _ => some (.opening, ctx.llcRetry)
  | .ok fd =>
    let opened := { ctx with fdLlcMisses := fd, llcRetry := .reset }
    match opened.enableOptionalLlc input.reset input.enable input.failedAt with
    | (_, false) => some (.enabling, opened.llcRetry)
    | (enabled, true) =>
      match readExact enabled.fdLlcMisses input.seed with
      | none => some (.seeding, enabled.llcRetry)
      | some _ => none

variable (ctx : PerfCtx)

theorem dropLlc_fields (now) (unforced : ctx.forceSoftware = false) :
    (ctx.dropLlc now).fdLlcMisses < 0 ∧
      (ctx.dropLlc now).llcRetry = ctx.llcRetry.schedule now := by
  simp [dropLlc, scheduleLlcRetry, unforced]

/-- How `try_recover_llc` ends. -/
inductive LlcReprobeOutcome (ctx : PerfCtx) (input : LlcRecoverInput) : PerfCtx → Prop
  | waits (unattempted : ¬ ctx.LlcReprobes input) : LlcReprobeOutcome ctx input ctx
  | failed {stage retry probed} (failure : ctx.llcReprobeFailure input = some (stage, retry))
      (found : retry = if stage = .opening then ctx.llcRetry else .reset)
      (closed : probed.fdLlcMisses < 0)
      (scheduled : probed.llcRetry = retry.schedule input.failedAt) :
      LlcReprobeOutcome ctx input probed
  | recovered {probed} (success : ctx.llcReprobeFailure input = none)
      (reset : probed.llcRetry = .reset) :
      LlcReprobeOutcome ctx input probed

theorem llcReprobe_outcome (input) : LlcReprobeOutcome ctx input (ctx.tryRecoverLlc input) := by
  unfold tryRecoverLlc
  split
  · next unattempted =>
      refine .waits fun attempted => ?_
      rcases unattempted with mode | opened | due
      · exact mode attempted.1
      · exact absurd attempted.2.1 (not_lt.mpr opened)
      · exact due attempted.2.2
  next attempt =>
  have unforced : ctx.forceSoftware = false := by
    simp only [not_or, not_not] at attempt
    exact attempt.2.2.1
  have failure : ctx.llcReprobeFailure input = ctx.llcReprobeFailure input := rfl
  conv_rhs at failure => unfold llcReprobeFailure
  cases opens : input.opens with
  | error e =>
    obtain ⟨closed, scheduled⟩ := ctx.dropLlc_fields input.failedAt unforced
    rw [opens] at failure
    exact .failed failure rfl closed scheduled
  | ok fd =>
    rw [opens] at failure
    dsimp only [openLlcEvent] at failure ⊢
    unfold enableOptionalLlc at failure ⊢
    split
    · next _ fails =>
        obtain ⟨closed, scheduled⟩ := dropLlc_fields
          { ctx with fdLlcMisses := (fd : ℤ), llcRetry := .reset } input.failedAt unforced
        split at fails <;> cases fails
        next refused =>
        rw [if_neg refused] at failure
        exact .failed failure rfl closed scheduled
    · next _ succeeds =>
        split at succeeds <;> cases succeeds
        next granted =>
        rw [if_pos granted] at failure
        dsimp only at failure ⊢
        split
        · next unread =>
            rw [unread] at failure
            obtain ⟨closed, scheduled⟩ := dropLlc_fields
              { ctx with fdLlcMisses := (fd : ℤ), llcRetry := .reset } input.failedAt unforced
            exact .failed failure rfl closed scheduled
        · next _ read =>
            rw [read] at failure
            exact .recovered failure rfl

theorem llcRetry_failClosed (reason input) :
    (ctx.failClosed reason input).llcRetry = ctx.llcRetry :=
  congrArg Cursors.llcRetry (ctx.cursors_failClosed reason input)

theorem ReadingOutcome.llcRetry {ctx input now llcNow path handed}
    (out : ReadingOutcome ctx input now llcNow path handed) :
    handed.1.llcRetry = ctx.llcRetry := by
  cases out with
  | failed => exact llcRetry_failClosed _ _ _
  | _ => rfl

theorem llcRetry_evaluate (hw : ctx.mode = .hardware)
    (validated : ctx.hardwareValidated = true) (cfg input)
    (closed : (ctx.tryRecoverLlc input.llcRecover).fdLlcMisses < 0) :
    (ctx.evaluate cfg input).1.llcRetry = (ctx.tryRecoverLlc input.llcRecover).llcRetry := by
  obtain ⟨_, _, left⟩ := ctx.evaluate_fst cfg input
  rw [left]
  change (ctx.sampled input).1.llcRetry = _
  have sample := ctx.hardwareSample input hw validated
  generalize ctx.sampled input = handed at sample ⊢
  cases sample with
  | lost => exact llcRetry_failClosed _ _ _
  | read _ out =>
    rw [out.llcRetry, readFor, readLlc, if_pos closed]

/-- Consecutive failed LLC re-probes in hardware mode, with any other calls between them. -/
inductive FailedLlcReprobes : PerfCtx → List (FailedProbe LlcStage) → Prop
  | none (ctx : PerfCtx) : FailedLlcReprobes ctx []
  | rests {ctx call failures} (hardware : ctx.mode = .hardware) (closed : ctx.fdLlcMisses < 0)
      (unattempted : ∀ cfg input, call = .evaluate cfg input → ¬ ctx.LlcReprobes input.llcRecover)
      (rest : FailedLlcReprobes (ctx.perform call) failures) :
      FailedLlcReprobes ctx failures
  | fails {ctx cfg input stage retry failures} (validated : ctx.hardwareValidated = true)
      (attempted : ctx.LlcReprobes input.llcRecover)
      (failure : ctx.llcReprobeFailure input.llcRecover = some (stage, retry))
      (rest : FailedLlcReprobes (ctx.perform (.evaluate cfg input)) failures) :
      FailedLlcReprobes ctx
        (⟨stage, input.llcRecover.now, input.llcRecover.failedAt, retry.delaySeconds,
          (ctx.perform (.evaluate cfg input)).llcRetry.deadlineNs⟩ :: failures)

theorem enablePerfEventsStrict_of_closed (closed : ctx.fdLlcMisses < 0) (input) :
    (ctx.enablePerfEventsStrict input).1 = ctx := by
  unfold enablePerfEventsStrict
  split
  · rfl
  split
  · rfl
  · rw [enableOptionalLlc, if_pos (.inl closed)]

theorem llcRetry_perform (hw : ctx.mode = .hardware) (closed : ctx.fdLlcMisses < 0) {call}
    (unattempted : ∀ cfg input, call = .evaluate cfg input → ¬ ctx.LlcReprobes input.llcRecover) :
    (ctx.perform call).llcRetry = ctx.llcRetry := by
  cases call with
  | enable input =>
    have same := ctx.enablePerfEventsStrict_of_closed closed input
    rw [perform, enable, if_neg (not_not.mpr hw)]
    generalize ctx.enablePerfEventsStrict input = res at same ⊢
    obtain ⟨enabled, success⟩ := res
    cases same
    cases success with
    | true => rfl
    | false => exact llcRetry_failClosed _ _ _
  | measureBaseline cfg input =>
    have same := ctx.enablePerfEventsStrict_of_closed closed input.events
    rw [perform, measureBaseline, hw]
    generalize ctx.enablePerfEventsStrict input.events = res at same ⊢
    obtain ⟨enabled, success⟩ := res
    cases same
    cases success with
    | false => exact llcRetry_failClosed _ _ _
    | true =>
      dsimp only
      split
      · exact llcRetry_failClosed _ _ _
      · next _ accepted =>
          obtain ⟨_, -, rfl⟩ := Option.map_eq_some_iff.mp accepted
          rfl
  | evaluate cfg input =>
    by_cases validated : ctx.hardwareValidated = true
    · have waits : ctx.tryRecoverLlc input.llcRecover = ctx := by
        rw [tryRecoverLlc, if_pos]
        by_contra attempt
        simp only [not_or, not_not, not_le] at attempt
        exact unattempted cfg input rfl attempt
      rw [perform, ctx.llcRetry_evaluate hw validated, waits]
      rw [waits]
      exact closed
    · rw [perform, evaluate, hw]
      rw [if_neg validated]
      rfl
  | checkSoftwareTimeout =>
    rw [perform, checkSoftwareTimeout]
    split
    · rfl
    split <;> rfl

theorem FailedLlcReprobes.scheduleRun {ctx : PerfCtx} {failures}
    (run : ctx.FailedLlcReprobes failures) : ScheduleRun .opening ctx.llcRetry failures := by
  induction run with
  | none ctx => exact .nil _
  | @rests ctx call failures hw closed unattempted rest ih =>
    rwa [ctx.llcRetry_perform hw closed unattempted] at ih
  | @fails ctx cfg input stage retry failures validated attempted failure rest ih =>
    have left := ctx.llcRetry_evaluate attempted.1 validated cfg input
    have out := ctx.llcReprobe_outcome input.llcRecover
    generalize ctx.tryRecoverLlc input.llcRecover = probed at out left
    cases out with
    | waits unattempted => exact absurd attempted unattempted
    | recovered success => exact absurd (failure.symm.trans success) nofun
    | failed same found closed scheduled =>
      cases failure.symm.trans same
      have after : (ctx.perform (.evaluate cfg input)).llcRetry =
        retry.schedule input.llcRecover.failedAt := (left closed).trans scheduled
      rw [after] at ih ⊢
      exact .cons attempted.2.2.2.2 found rfl rfl ih

/-- Consecutive failures back off exactly if all fail at opening, the first since a reset apart; a
successful re-probe resets its schedule. -/
theorem reprobes_back_off_iff (ctx : PerfCtx) :
    (∀ (earlier : ℕ) (failures : List (FailedProbe ReprobeStage)),
      ctx.perfRetry.delaySeconds = backoffDelay earlier → ctx.FailedReprobes failures →
        (KeepsBackoff earlier failures ↔
          ∀ probe ∈ failures.drop (1 - earlier), probe.stage = .opening)) ∧
    (∀ (earlier : ℕ) (failures : List (FailedProbe LlcStage)),
      ctx.llcRetry.delaySeconds = backoffDelay earlier → ctx.FailedLlcReprobes failures →
        (KeepsBackoff earlier failures ↔
          ∀ probe ∈ failures.drop (1 - earlier), probe.stage = .opening)) ∧
    (∀ input : RecoverInput, (ctx.tryRecoverHardware input).2 = true →
      (ctx.tryRecoverHardware input).1.perfRetry = .reset) ∧
    ∀ input : LlcRecoverInput, ctx.fdLlcMisses < 0 →
      0 ≤ (ctx.tryRecoverLlc input).fdLlcMisses → (ctx.tryRecoverLlc input).llcRetry = .reset := by
  refine ⟨fun earlier failures due run => run.scheduleRun.keepsBackoff_iff due,
    fun earlier failures due run => run.scheduleRun.keepsBackoff_iff due,
    fun input recovers => ?_, fun input closed recovers => ?_⟩
  · have outcome := ctx.reprobe_outcome input
    generalize ctx.tryRecoverHardware input = result at outcome recovers ⊢
    cases outcome with
    | waits | failed => exact absurd recovers nofun
    | recovered _ _ reset => exact reset
  · have outcome := ctx.llcReprobe_outcome input
    generalize ctx.tryRecoverLlc input = probed at outcome recovers ⊢
    cases outcome with
    | waits => exact absurd closed (not_lt.mpr recovers)
    | failed _ _ still => exact absurd still (not_lt.mpr recovers)
    | recovered _ reset => exact reset

end PerfCtx

private def rejectedReprobe (second : ℕ) : EvalInput :=
  { recoveringInput with
    recover :=
      { grantedReprobe with
        now := .ofNat (second * 1000000000)
        baseline := { grantedReprobe.baseline with after := grantedReprobe.baseline.before }
        failure := { grantedReprobe.failure with now := .ofNat (second * 1000000000) } } }

private def refusedReprobe (second : ℕ) : EvalInput :=
  { rejectedReprobe second with
    recover := { (rejectedReprobe second).recover with opens := refusedInit.events } }

def failedAt (stage : ReprobeStage) (second : ℕ) (delaySeconds : ℕ) : FailedProbe ReprobeStage :=
  ⟨stage, .ofNat (second * 1000000000), .ofNat (second * 1000000000), delaySeconds,
    .ofNat ((second + delaySeconds) * 1000000000)⟩

/-- Opening the events is refused at the start and by two re-probes. -/
theorem refused_reprobes_back_off :
    (PerfCtx.init refusedInit).FailedReprobes [failedAt .opening 6 10, failedAt .opening 16 20] ∧
      KeepsBackoff 1 [failedAt .opening 6 10, failedAt .opening 16 20] := by
  have run : (PerfCtx.init refusedInit).FailedReprobes
      [failedAt .opening 6 10, failedAt .opening 16 20] :=
    @PerfCtx.FailedReprobes.fails _ .setDefaults (refusedReprobe 6) _ ⟨6000000000, 10⟩ _
      (by decide) (by decide)
      (@PerfCtx.FailedReprobes.fails _ .setDefaults (refusedReprobe 16) _ ⟨16000000000, 20⟩ _
        (by decide) (by decide) (.none _))
  exact ⟨run, ((PerfCtx.reprobes_back_off_iff _).1 1 _ (by decide) run).mpr (by decide)⟩

/-- Two re-probes fail validation, and both schedule the initial delay. -/
theorem rejected_reprobes_do_not_back_off :
    (PerfCtx.init refusedInit).perfRetry.delaySeconds = backoffDelay 1 ∧
      (PerfCtx.init refusedInit).FailedReprobes
        [failedAt .validating 6 5, failedAt .validating 11 5] ∧
      ¬ KeepsBackoff 0 [failedAt .validating 6 5, failedAt .validating 11 5] ∧
      ¬ KeepsBackoff 1 [failedAt .validating 6 5, failedAt .validating 11 5] := by
  refine ⟨by decide, ?_, fun keeps => ?_, fun keeps => ?_⟩
  · exact @PerfCtx.FailedReprobes.fails _ .setDefaults (rejectedReprobe 6) _ .reset _
      (by decide) (by decide)
      (@PerfCtx.FailedReprobes.fails _ .setDefaults (rejectedReprobe 11) _ .reset _
        (by decide) (by decide) (.none _))
  · exact absurd (keeps.delays 1 5 rfl) (by decide)
  · exact absurd (keeps.delays 0 5 rfl) (by decide)

end ThermalSimd
