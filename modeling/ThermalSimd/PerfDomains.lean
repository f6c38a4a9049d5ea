import Mathlib.Data.List.DropRight
import ThermalSimd.LlcEpochs
import ThermalSimd.Severity

/-!
# Measurement domains

A measurement is judged by averages, references and a history of ratios. They are determined by the
log of the baselines and measurements taken in the current mode since it was last entered, with the
baseline that validated a recovery.
-/

namespace ThermalSimd

open RingBuffer (Buffer)

/-- The figures of a baseline. -/
structure BaselineFigures where
  cpi : UInt64
  workCostMilli : UInt64
  mpkiMilli : UInt64

/-- What sets averages. -/
inductive Taken
  | hardwareBaseline (figures : BaselineFigures)
  | softwareBaseline (cpi : UInt64)
  | measurement (sample : Measurement)

/-- What was taken since the mode was entered, oldest first, and a recovery's baseline. -/
structure DomainLog where
  validatedBy : Option BaselineFigures
  taken : List Taken

/-- What a mode's measurements are judged by. -/
structure PerfDomain where
  averages : Averages
  recorded : List UInt32

namespace Averages

def zero : Averages := ⟨0, 0, 0, 0, 0, 0, 0, 0⟩

def ofValidation (figures : BaselineFigures) : Averages :=
  { zero with
    baselineCpi := figures.cpi
    calibratedCpiReference := if figures.cpi = 0 then 1 else figures.cpi
    baselineWorkCostMilli := figures.workCostMilli
    calibratedWorkReference := figures.workCostMilli }

def ofBaseline (figures : BaselineFigures) : Averages :=
  { ofValidation figures with
    slowCpi := if figures.cpi = 0 then 1000 else figures.cpi
    fastCpi := if figures.cpi = 0 then 1000 else figures.cpi
    slowLlcMpki := figures.mpkiMilli
    fastLlcMpki := figures.mpkiMilli }

variable (averages : Averages)

def softwareBaseline (cpi : UInt64) : Averages :=
  { averages with
    baselineCpi := cpi
    calibratedCpiReference := cpi
    slowCpi := cpi
    fastCpi := cpi
    slowLlcMpki := 1000
    fastLlcMpki := 1000 }

def context : PerfCtx :=
  (PerfCtx.allocated refusedInit).withDomain averages (PerfCtx.allocated refusedInit).ratios

def measure (sample : Measurement) : Averages :=
  (averages.context.updateAverages sample).averages

def ratio (sample : Measurement) : UInt64 := averages.context.ratioFor sample

def judging : Averages :=
  { averages with baselineCpi := 0, baselineWorkCostMilli := 0 }

end Averages

namespace PerfDomain

def entered (validatedBy : Option BaselineFigures) : PerfDomain :=
  ⟨(validatedBy.map Averages.ofValidation).getD .zero, []⟩

def take (domain : PerfDomain) : Taken → PerfDomain
  | .hardwareBaseline figures => ⟨.ofBaseline figures, []⟩
  | .softwareBaseline cpi => ⟨domain.averages.softwareBaseline cpi, []⟩
  | .measurement sample =>
    ⟨domain.averages.measure sample,
      domain.recorded ++ [saturatedRatio (domain.averages.ratio sample)]⟩

end PerfDomain

variable (log : DomainLog)

def DomainLog.domain : PerfDomain := log.taken.foldl .take (.entered log.validatedBy)

namespace PerfCtx

theorem ratioFor_eq (ctx : PerfCtx) (sample) :
    ctx.ratioFor sample = ctx.averages.ratio sample := rfl

end PerfCtx

namespace Averages

variable {left right : Averages} {sample : Measurement}

theorem judging_measure (same : left.judging = right.judging)
    (covered : sample.cpi ≠ 0 ∨ left.baselineCpi = right.baselineCpi) :
    (left.measure sample).judging = (right.measure sample).judging := by
  obtain ⟨_, _, _, _, _, _, _, _⟩ := left
  obtain ⟨rfl, rfl, rfl, rfl, rfl, rfl⟩ := same
  simp only [measure, context, PerfCtx.withDomain, PerfCtx.updateAverages, PerfCtx.averages,
    judging,
    mk.injEq, true_and, and_true]
  refine ⟨rfl, rfl, ?_⟩
  rcases covered with moves | same
  · simp only [if_pos moves]
  · dsimp only at same
    subst same
    rfl

theorem judging_softwareBaseline (same : left.judging = right.judging) (cpi) :
    (left.softwareBaseline cpi).judging = (right.softwareBaseline cpi).judging := by
  simp only [judging, mk.injEq, true_and] at same
  simp only [judging, softwareBaseline, same.2.1]

theorem ratio_eq (same : left.judging = right.judging)
    (covered : sample.cpi ≠ 0 ∨ left.baselineCpi = right.baselineCpi) :
    left.ratio sample = right.ratio sample := by
  have judged := judging_measure same covered
  have slow : (left.context.updateAverages sample).slowCpi =
      (right.context.updateAverages sample).slowCpi := congrArg slowCpi judged
  have cpi : (left.context.updateAverages sample).calibratedCpiReference =
      (right.context.updateAverages sample).calibratedCpiReference :=
    congrArg calibratedCpiReference judged
  have work : (left.context.updateAverages sample).calibratedWorkReference =
      (right.context.updateAverages sample).calibratedWorkReference :=
    congrArg calibratedWorkReference judged
  have leftSlow : (left.context.updateAverages sample).referenceCpi =
      (left.context.updateAverages sample).slowCpi :=
    if_pos (left.context.slowCpi_updateAverages_ne_zero sample)
  have rightSlow : (right.context.updateAverages sample).referenceCpi =
      (right.context.updateAverages sample).slowCpi :=
    if_pos (right.context.slowCpi_updateAverages_ne_zero sample)
  unfold ratio PerfCtx.ratioFor PerfCtx.measuredRatioMilli PerfCtx.absoluteReference
  rw [leftSlow, rightSlow, slow, cpi, work]

end Averages

namespace PerfCtx

def figures (ctx : PerfCtx) : BaselineFigures :=
  ⟨ctx.baselineCpi, ctx.baselineWorkCostMilli, ctx.baselineLlcMpkiMilli⟩

def taken (ctx : PerfCtx) : PerfCall → List Taken
  | .measureBaseline cfg input =>
    match ctx.mode with
    | .software => [.softwareBaseline (surrogateCpi input)]
    | .none => []
    | .hardware =>
      (((ctx.enablePerfEventsStrict input.events).1.measureHardwareBaseline cfg
        input.baseline).map fun measured => .hardwareBaseline measured.figures).toList
  | .evaluate _ input => ((ctx.sampled input).2.map .measurement).toList
  | .enable _ _ | .checkSoftwareTimeout _ _ => []

def validation (ctx : PerfCtx) : PerfCall → Option BaselineFigures
  | .evaluate _ input =>
    (((ctx.openPerfEvents input.recover.opens).1.enablePerfEventsStrict
      input.recover.events).1.measureHardwareBaseline input.recover.snapshot
        input.recover.baseline).map figures
  | _ => none

end PerfCtx

def DomainLog.after (ctx : PerfCtx) (call : PerfCall) : DomainLog :=
  if (ctx.perform call).mode = ctx.mode then { log with taken := log.taken ++ ctx.taken call }
  else ⟨if (ctx.perform call).mode = .hardware then ctx.validation call else none, []⟩

/-- The context is what its log says. -/
structure PerfCtx.Tracks (ctx : PerfCtx) (log : DomainLog) : Prop where
  averages : ctx.averages.judging = log.domain.averages.judging
  baseline : ctx.mode = .hardware → ctx.hardwareValidated = true →
    ctx.baselineCpi = log.domain.averages.baselineCpi
  history : ∃ fresh : Buffer UInt32 8, fresh.count = 0 ∧ (fresh.cursor : ℕ) = 0 ∧
    ctx.ratios.buffer = fresh.pushAll log.domain.recorded

namespace DomainLog

variable {log : DomainLog} {ctx : PerfCtx} {call : PerfCall}

theorem domain_append (taken) :
    (DomainLog.mk log.validatedBy (log.taken ++ taken)).domain = taken.foldl .take log.domain :=
  List.foldl_append ..

theorem after_of_mode_eq (stays : (ctx.perform call).mode = ctx.mode) :
    log.after ctx call = ⟨log.validatedBy, log.taken ++ ctx.taken call⟩ := if_pos stays

theorem after_of_lost (hw : ctx.mode = .hardware)
    (sw : (ctx.perform call).mode = .software) : log.after ctx call = ⟨none, []⟩ := by
  rw [after, sw, hw]
  rfl

end DomainLog

namespace PerfCtx

variable {ctx next : PerfCtx} {log : DomainLog}

theorem Tracks.keeps (tracks : ctx.Tracks log) (same : ctx.SameDomain next)
    (validated : next.mode = .hardware → next.hardwareValidated = true →
      ctx.hardwareValidated = true) : next.Tracks log where
  averages := by rw [same.averages, tracks.averages]
  baseline hw valid :=
    (congrArg Averages.baselineCpi same.averages).trans
      (tracks.baseline (same.mode.symm.trans hw) (validated hw valid))
  history := by
    obtain ⟨fresh, unused, start, pushed⟩ := tracks.history
    exact ⟨fresh, unused, start, by rw [same.ratios, pushed]⟩

theorem Tracks.measures (tracks : ctx.Tracks log) {sample}
    (covered : sample.cpi ≠ 0 ∨ ctx.mode = .hardware ∧ ctx.hardwareValidated = true)
    (cfg degraded) :
    (ctx.processMeasurement sample cfg degraded).1.Tracks
      ⟨log.validatedBy, log.taken ++ [.measurement sample]⟩ := by
  have covered := covered.imp_right fun valid => tracks.baseline valid.1 valid.2
  obtain ⟨fresh, unused, start, pushed⟩ := tracks.history
  constructor
  · rw [DomainLog.domain_append]
    exact Averages.judging_measure tracks.averages covered
  · intro hw valid
    rw [DomainLog.domain_append]
    exact tracks.baseline hw valid
  · refine ⟨fresh, unused, start, ?_⟩
    rw [buffer_processMeasurement, pushed, ratioFor_eq,
      Averages.ratio_eq tracks.averages covered, DomainLog.domain_append]
    exact (Buffer.pushAll_snoc _ _ _).symm

theorem ratios_setMode {mode} (changes : ctx.mode ≠ mode) (reason input) :
    (ctx.setMode mode reason input).ratios = ⟨.replicate _ 0, 0, 0, 0⟩ := by
  rw [setMode, if_neg changes]
  cases mode with
  | none => rfl
  | hardware | software =>
    dsimp only
    split <;> simp only [record, publishPerfState, resetMeasurementDomain, ratios]

theorem averages_setMode_hardware (changes : ctx.mode ≠ .hardware) (reason input) :
    (ctx.setMode .hardware reason input).averages =
      { ctx.averages with slowCpi := 0, fastCpi := 0, slowLlcMpki := 0, fastLlcMpki := 0 } := by
  rw [setMode, if_neg changes]
  dsimp only
  split <;> simp only [record, publishPerfState, resetMeasurementDomain, averages]

theorem mode_setMode (ctx : PerfCtx) (mode reason input) :
    (ctx.setMode mode reason input).mode = mode := by
  unfold setMode
  split
  · next same => exact same
  · cases mode with
    | none => rfl
    | hardware | software =>
      dsimp only
      split <;> simp only [record, publishPerfState, resetMeasurementDomain]

theorem tracks_setMode_software (changes : ctx.mode ≠ .software) (reason input) :
    (ctx.setMode .software reason input).Tracks ⟨none, []⟩ where
  averages := by
    rw [setMode, if_neg changes]
    dsimp only
    split <;> simp only [record, publishPerfState, resetMeasurementDomain, averages,
      Averages.judging]
    all_goals rfl
  baseline hw := absurd ((ctx.mode_setMode _ _ _).symm.trans hw) nofun
  history := ⟨(⟨.replicate _ 0, 0, 0, 0⟩ : RatioRing).buffer, rfl, rfl,
    congrArg RatioRing.buffer (ctx.ratios_setMode changes reason input)⟩

theorem tracks_failClosed (hw : ctx.mode = .hardware) (reason input) :
    (ctx.failClosed reason input).Tracks ⟨none, []⟩ := by
  refine tracks_setMode_software ?_ reason input.mode
  rw [mode_loseCounters, hw]
  decide

theorem tracks_recovered (sw : ctx.mode = .software) (cfg input before after reason mode) :
    ((ctx.acceptBaseline cfg input before after).acceptReprobe.setMode .hardware reason mode).Tracks
      ⟨some (ctx.acceptBaseline cfg input before after).figures, []⟩ := by
  have changes : (ctx.acceptBaseline cfg input before after).acceptReprobe.mode ≠ .hardware := by
    rw [show (ctx.acceptBaseline cfg input before after).acceptReprobe.mode = ctx.mode from rfl,
      sw]
    decide
  have kept := averages_setMode_hardware changes reason mode
  constructor
  · rw [kept]
    rfl
  · exact fun _ _ => congrArg Averages.baselineCpi kept
  · exact ⟨(⟨.replicate _ 0, 0, 0, 0⟩ : RatioRing).buffer, rfl, rfl,
      congrArg RatioRing.buffer (ratios_setMode changes reason mode)⟩

/-- How software mode hands on a measurement. -/
inductive SoftwareSample (ctx : PerfCtx) (input : EvalInput) : PerfCtx × Option Measurement → Prop
  | recovered {opened enabled : PerfCtx} {before after : PerfGroupRead}
      (opens : ctx.openPerfEvents input.recover.opens = (opened, .ok ()))
      (enables : opened.enablePerfEventsStrict input.recover.events = (enabled, true))
      (reads : enabled.baselineReads input.recover.baseline = some (before, after)) :
      SoftwareSample ctx input
        ((enabled.acceptBaseline input.recover.snapshot input.recover.baseline before
          after).acceptReprobe.setMode .hardware "reprobe" input.recover.failure.mode, none)
  | unmeasured {handed : PerfCtx} (same : ctx.SameDomain handed) :
      SoftwareSample ctx input (handed, none)
  | measured {handed : PerfCtx} (same : ctx.SameDomain handed) {sample : Measurement}
      (costs : sample.cpi ≠ 0) : SoftwareSample ctx input (handed, some sample)

theorem softwareSample (ctx input) : SoftwareSample ctx input (ctx.sampleSoftware input) := by
  have out := ctx.recovery_outcome input.recover
  unfold sampleSoftware
  generalize ctx.tryRecoverHardware input.recover = probe at out
  obtain ⟨probed, recovers⟩ := probe
  cases recovers with
  | true =>
    cases out with
    | recovered _ _ opens enables reads => exact .recovered opens enables reads
  | false =>
    have same : ctx.SameDomain probed := by
      cases out with
      | waits => exact .refl ctx
      | rejected domain => exact domain
    have stamped : ctx.SameDomain (probed.stampSoftware input) :=
      { same with }
    dsimp only
    split
    · exact .unmeasured { same with }
    split
    · exact .unmeasured stamped
    · refine .measured stamped ?_
      dsimp only
      split
      · decide
      · next costs => exact costs

/-- How any mode hands on a measurement. -/
inductive DomainSample (ctx : PerfCtx) (input : EvalInput) : PerfCtx × Option Measurement → Prop
  | keeps {handed : PerfCtx} {sample : Option Measurement} (same : ctx.SameDomain handed)
      (validated : handed.mode = .hardware → handed.hardwareValidated = true →
        ctx.hardwareValidated = true)
      (covered : ∀ taken ∈ sample, taken.cpi ≠ 0 ∨
        handed.mode = .hardware ∧ handed.hardwareValidated = true) :
      DomainSample ctx input (handed, sample)
  | lost {before : PerfCtx} (hardware : ctx.mode = .hardware) (still : before.mode = .hardware)
      (reason : String) :
      DomainSample ctx input (before.failClosed reason input.failure, none)
  | recovered {opened enabled : PerfCtx} {before after : PerfGroupRead}
      (software : ctx.mode = .software)
      (opens : ctx.openPerfEvents input.recover.opens = (opened, .ok ()))
      (enables : opened.enablePerfEventsStrict input.recover.events = (enabled, true))
      (reads : enabled.baselineReads input.recover.baseline = some (before, after)) :
      DomainSample ctx input
        ((enabled.acceptBaseline input.recover.snapshot input.recover.baseline before
          after).acceptReprobe.setMode .hardware "reprobe" input.recover.failure.mode, none)

theorem domainSample (ctx input) : DomainSample ctx input (ctx.sampled input) := by
  have out := ctx.sampled_outcome input
  generalize ctx.sampled input = handed at out
  cases out with
  | unvalidated => exact .keeps (.refl ctx) (fun _ valid => valid) nofun
  | software sw =>
    have elsewhere : ∀ handed : PerfCtx, ctx.SameDomain handed → handed.mode ≠ .hardware :=
      fun handed same hw => absurd (sw.symm.trans (same.mode.symm.trans hw)) nofun
    have out := ctx.softwareSample input
    generalize ctx.sampleSoftware input = handed at out
    cases out with
    | recovered opens enables reads => exact .recovered sw opens enables reads
    | unmeasured same =>
      exact .keeps same (fun hw => absurd hw (elsewhere _ same)) nofun
    | measured same costs =>
      refine .keeps same (fun hw => absurd hw (elsewhere _ same)) ?_
      rintro _ ⟨⟩
      exact .inl costs
  | hardware hw validated sample =>
    cases sample with
    | lost reason =>
      exact .lost hw ((ctx.llcOnly_tryRecoverLlc input.llcRecover).mode.trans hw)
        reason
    | @read now _ reads out =>
      have only := ctx.llcOnly_readFor input
      have still := only.mode.trans hw
      have valid := only.validated.trans validated
      have same := only.sameDomain
      generalize ctx.readFor input = read at out still valid same
      generalize read.readingPath now = path at out
      cases out with
      | failed _ reason => exact .lost hw still reason
      | measured =>
        exact .keeps (same.trans ⟨rfl, rfl, rfl⟩) (fun _ _ => validated)
          fun _ _ => .inr ⟨still, valid⟩
      | first | stalled | idle | unworked =>
        exact .keeps (same.trans ⟨rfl, rfl, rfl⟩) (fun _ _ => validated) nofun

section

variable (tracks : ctx.Tracks log)

include tracks

theorem Tracks.after_enable (input failure) :
    (ctx.perform (.enable input failure)).Tracks (log.after ctx (.enable input failure)) := by
  by_cases hw : ctx.mode = .hardware
  · have only := ctx.llcOnly_enablePerfEventsStrict input
    cases enables : ctx.enablePerfEventsStrict input with
    | mk enabled success =>
      rw [enables] at only
      cases success with
      | true =>
        have performed : ctx.perform (.enable input failure) = enabled := by
          rw [perform, enable, if_neg (not_not.mpr hw), enables]
        rw [DomainLog.after_of_mode_eq (performed ▸ only.mode), performed]
        have kept := tracks.keeps only.sameDomain fun _ valid => only.validated.symm.trans valid
        simpa [taken] using kept
      | false =>
        have performed : ctx.perform (.enable input failure) =
            enabled.failClosed "enable" failure := by
          rw [perform, enable, if_neg (not_not.mpr hw), enables]
        have still := only.mode.trans hw
        rw [DomainLog.after_of_lost hw (performed ▸ enabled.mode_failClosed still _ _),
          performed]
        exact tracks_failClosed still _ _
  · have performed : ctx.perform (.enable input failure) = ctx := if_pos hw
    rw [DomainLog.after_of_mode_eq (by rw [performed]), performed]
    simpa [taken] using tracks

theorem Tracks.after_checkSoftwareTimeout (timeoutSec now) :
    (ctx.perform (.checkSoftwareTimeout timeoutSec now)).Tracks
      (log.after ctx (.checkSoftwareTimeout timeoutSec now)) := by
  have same : ctx.SameDomain (ctx.perform (.checkSoftwareTimeout timeoutSec now)) ∧
      (ctx.perform (.checkSoftwareTimeout timeoutSec now)).hardwareValidated =
        ctx.hardwareValidated := by
    rw [perform, checkSoftwareTimeout]
    split
    · exact ⟨.refl ctx, rfl⟩
    · split
      · exact ⟨.refl ctx, rfl⟩
      · exact ⟨⟨rfl, rfl, rfl⟩, rfl⟩
  rw [DomainLog.after_of_mode_eq same.1.mode]
  have kept := tracks.keeps same.1 fun _ valid => same.2.symm.trans valid
  simpa [taken] using kept

theorem Tracks.after_measureBaseline (cfg input) :
    (ctx.perform (.measureBaseline cfg input)).Tracks
      (log.after ctx (.measureBaseline cfg input)) := by
  cases mode : ctx.mode with
  | none =>
    have performed : ctx.perform (.measureBaseline cfg input) = ctx := by
      rw [perform, measureBaseline, mode]
    rw [DomainLog.after_of_mode_eq (by rw [performed]), performed]
    simpa [taken, mode] using tracks
  | software =>
    have performed : ctx.perform (.measureBaseline cfg input) =
        ctx.measureSoftwareBaseline cfg input := by
      rw [perform, measureBaseline, mode]
    have takes : ctx.taken (.measureBaseline cfg input) =
        [.softwareBaseline (surrogateCpi input)] := by
      rw [taken, mode]
    rw [DomainLog.after_of_mode_eq (by rw [performed]; rfl), performed, takes]
    constructor
    · rw [DomainLog.domain_append]
      exact Averages.judging_softwareBaseline tracks.averages _
    · intro hw
      cases mode.symm.trans hw
    · rw [DomainLog.domain_append]
      exact ⟨⟨ctx.ratioHistory, 0, 0⟩, rfl, rfl, rfl⟩
  | hardware =>
    have out := ctx.baseline_outcome mode cfg input
    have performed : ctx.perform (.measureBaseline cfg input) = ctx.measureBaseline cfg input := rfl
    have only := ctx.llcOnly_enablePerfEventsStrict input.events
    generalize ctx.measureBaseline cfg input = next at out performed
    cases out with
    | @rejected enabled success enables =>
      rw [enables] at only
      have still := only.mode.trans mode
      rw [DomainLog.after_of_lost mode (performed ▸ enabled.mode_failClosed still _ _), performed]
      exact tracks_failClosed still _ _
    | @accepted enabled before after enables reads =>
      rw [enables] at only
      have takes : ctx.taken (.measureBaseline cfg input) = [.hardwareBaseline
          (enabled.acceptBaseline cfg input.baseline before after).figures] := by
        rw [taken, mode]
        rw [enables, measureHardwareBaseline, reads]
        rfl
      rw [DomainLog.after_of_mode_eq (performed ▸ only.mode), performed, takes]
      constructor
      · rw [DomainLog.domain_append]
        rfl
      · rw [DomainLog.domain_append]
        exact fun _ _ => rfl
      · rw [DomainLog.domain_append]
        exact ⟨⟨enabled.ratioHistory, 0, 0⟩, rfl, rfl, rfl⟩

theorem Tracks.after_evaluate (cfg input) :
    (ctx.perform (.evaluate cfg input)).Tracks (log.after ctx (.evaluate cfg input)) := by
  have out := ctx.domainSample input
  have completed := ctx.evaluate_completed cfg input
  have takes : ctx.taken (.evaluate cfg input) =
      ((ctx.sampled input).2.map .measurement).toList := rfl
  generalize ctx.sampled input = res at out completed takes
  cases out with
  | @keeps handed sample same validated covered =>
    have kept := tracks.keeps same validated
    cases sample with
    | none =>
      have performed : ctx.perform (.evaluate cfg input) = handed := (completed.unmeasured rfl).1
      rw [DomainLog.after_of_mode_eq (performed ▸ same.mode), performed, takes]
      simpa using kept
    | some sample =>
      have performed : ctx.perform (.evaluate cfg input) =
          (handed.processMeasurement sample cfg input.degraded).1 :=
        (completed.measured _ rfl).1
      rw [DomainLog.after_of_mode_eq (performed ▸ same.mode), performed, takes]
      exact kept.measures (covered sample rfl) cfg input.degraded
  | @lost before hw still reason =>
    have performed : ctx.perform (.evaluate cfg input) =
        before.failClosed reason input.failure := (completed.unmeasured rfl).1
    rw [DomainLog.after_of_lost hw (performed ▸ before.mode_failClosed still _ _), performed]
    exact tracks_failClosed still _ _
  | @recovered opened enabled before after sw opens enables reads =>
    have performed := (completed.unmeasured rfl).1
    have opening := ctx.sameDomain_openPerfEvents input.recover.opens
    have only := opened.llcOnly_enablePerfEventsStrict input.recover.events
    rw [opens] at opening
    rw [enables] at only
    have enters : (ctx.perform (.evaluate cfg input)).mode = .hardware := by
      rw [perform, performed, mode_setMode]
    have validates : ctx.validation (.evaluate cfg input) = some (enabled.acceptBaseline
        input.recover.snapshot input.recover.baseline before after).figures := by
      rw [validation, opens]
      rw [enables, measureHardwareBaseline, reads]
      rfl
    rw [DomainLog.after, if_neg (by rw [enters, sw]; decide), if_pos enters, validates,
      perform, performed]
    exact tracks_recovered (only.mode.trans (opening.mode.trans sw)) _ _ _ _ _ _

theorem Tracks.after (call) : (ctx.perform call).Tracks (log.after ctx call) := by
  cases call with
  | enable input failure => exact tracks.after_enable input failure
  | measureBaseline cfg input => exact tracks.after_measureBaseline cfg input
  | evaluate cfg input => exact tracks.after_evaluate cfg input
  | checkSoftwareTimeout timeoutSec now => exact tracks.after_checkSoftwareTimeout timeoutSec now

end

theorem tracks_init (input) : (init input).Tracks ⟨none, []⟩ := by
  have unvalidated := (init_outcome input).unvalidated
  have opening := (prepared input).sameDomain_openPerfEvents input.events
  unfold init at unvalidated ⊢
  dsimp only at unvalidated ⊢
  split
  · exact tracks_setMode_software (show PerfMode.none ≠ .software by decide) _ _
  next unforced =>
  rw [if_neg unforced] at unvalidated
  cases opens : (prepared input).openPerfEvents input.events with
  | mk opened out =>
    rw [opens] at opening unvalidated
    cases out with
    | error e =>
      refine tracks_setMode_software ?_ _ _
      obtain ⟨_, schedules⟩ := opened.schedulePerfRetry_eq input.failure.now
      rw [schedules]
      exact fun sw => absurd (opening.mode.symm.trans sw) nofun
    | ok =>
      have changes : { opened with hardwareValidated := false }.mode ≠ .hardware :=
        fun hw => absurd (opening.mode.symm.trans hw) nofun
      have kept := averages_setMode_hardware changes "init-open" input.failure.mode
      have unused : { opened with hardwareValidated := false }.averages = .zero :=
        opening.averages
      rw [unused] at kept
      constructor
      · exact congrArg Averages.judging kept
      · exact fun _ valid => absurd (unvalidated.symm.trans valid) nofun
      · exact ⟨(⟨.replicate _ 0, 0, 0, 0⟩ : RatioRing).buffer, rfl, rfl,
          congrArg RatioRing.buffer (ratios_setMode changes "init-open" input.failure.mode)⟩

end PerfCtx

def Taken.isMeasurement : Taken → Bool
  | measurement _ => true
  | hardwareBaseline _ | softwareBaseline _ => false

def DomainLog.sinceBaseline : List Taken := log.taken.rtakeWhile (·.isMeasurement)

theorem DomainLog.length_recorded : log.domain.recorded.length = log.sinceBaseline.length := by
  obtain ⟨validatedBy, taken⟩ := log
  induction taken using List.reverseRecOn with
  | nil => rfl
  | append_singleton taken last ih =>
    have step := @domain_append ⟨validatedBy, taken⟩ [last]
    rw [step, sinceBaseline]
    cases last with
    | hardwareBaseline | softwareBaseline =>
      rw [List.rtakeWhile_concat_neg _ _ _ Bool.false_ne_true]
      rfl
    | measurement =>
      rw [List.rtakeWhile_concat_pos _ _ _ rfl, List.length_append]
      exact List.length_append.trans (congrArg (· + 1) ih)

/-- The calls on one context, with its logs. -/
structure DomainRun (input : InitInput) (trace : ℕ → PerfCtx) (calls : ℕ → PerfCall)
    (logs : ℕ → DomainLog) (length : ℕ) : Prop where
  start : trace 0 = .init input
  performs : ∀ index < length, trace (index + 1) = (trace index).perform (calls index)
  blank : logs 0 = ⟨none, []⟩
  logged : ∀ index < length, logs (index + 1) = (logs index).after (trace index) (calls index)

namespace DomainRun

variable {input : InitInput} {trace : ℕ → PerfCtx} {calls : ℕ → PerfCall} {logs : ℕ → DomainLog}
  {length : ℕ}

theorem tracks (run : DomainRun input trace calls logs length) :
    ∀ i ≤ length, (trace i).Tracks (logs i) := by
  intro i
  induction i with
  | zero =>
    rw [run.start, run.blank]
    exact fun _ => PerfCtx.tracks_init input
  | succ i ih =>
    intro le
    rw [run.performs i le, run.logged i le]
    exact (ih (Nat.le_of_succ_le le)).after (calls i)

/-- Each measurement is judged by averages and references that the current mode's log determines,
and its trimmed mean is that of the last eight ratios since the mode was entered and the last
baseline. -/
theorem measurement_domains_separate (run : DomainRun input trace calls logs length) {index : ℕ}
    (below : index < length) {cfg : RuntimeConfig} {eval : EvalInput}
    (evaluates : calls index = .evaluate cfg eval) {sample : Measurement}
    (measures : ((trace index).sampled eval).2 = some sample) :
    ((trace index).sampled eval).1.averages.judging = (logs index).domain.averages.judging ∧
      logs (index + 1) =
        ⟨(logs index).validatedBy, (logs index).taken ++ [.measurement sample]⟩ ∧
      (trace (index + 1)).averages.judging = (logs (index + 1)).domain.averages.judging ∧
      (logs (index + 1)).domain.recorded.length = (logs (index + 1)).sinceBaseline.length ∧
      (trace (index + 1)).ratioTrimmedMilli.toNat = TrimmedMean.trimmedMean
        (((logs (index + 1)).domain.recorded.drop
          ((logs (index + 1)).domain.recorded.length - 8)).map UInt32.toNat) := by
  have outcome := (trace index).domainSample eval
  have completed := (trace index).evaluate_completed cfg eval
  have before := run.tracks index below.le
  have after := run.tracks (index + 1) below
  have performs := run.performs index below
  have logged := run.logged index below
  rw [evaluates] at performs logged
  have takes : (trace index).taken (.evaluate cfg eval) = [.measurement sample] := by
    rw [PerfCtx.taken, measures]
    rfl
  generalize (trace index).sampled eval = result at outcome completed measures
  cases outcome with
  | lost | recovered => cases measures
  | @keeps handed taken same =>
    cases measures
    have measured := performs.trans (completed.measured sample rfl).1
    have stays : ((trace index).perform (.evaluate cfg eval)).mode = (trace index).mode := by
      rw [← performs, measured]
      exact same.mode
    refine ⟨?_, ?_, after.averages, (logs (index + 1)).length_recorded, ?_⟩
    · rw [same.averages]
      exact before.averages
    · rw [logged, DomainLog.after_of_mode_eq stays, takes]
    · obtain ⟨fresh, unused, start, pushed⟩ := after.history
      have trimmed : (trace (index + 1)).ratioTrimmedMilli.toNat = TrimmedMean.trimmedMean
          ((trace (index + 1)).ratios.buffer.used.map UInt32.toNat) := by
        rw [measured]
        exact PerfCtx.toNat_trimmed_storeRatio _ _
      rw [trimmed, pushed]
      exact TrimmedMean.trimmedMean_perm ((fresh.used_pushAll_perm _ unused start).map _)

end DomainRun

theorem PerfDomain.paced_take {domain : PerfDomain} (paced : domain.averages.context.Paced)
    (taken) : (domain.take taken).averages.context.Paced := by
  cases taken with
  | hardwareBaseline figures =>
    have same : (Averages.ofBaseline figures).fastCpi = (Averages.ofBaseline figures).slowCpi := rfl
    change (Averages.ofBaseline figures).fastCpi.toNat ≤
      32 * (Averages.ofBaseline figures).slowCpi.toNat + 132
    rw [same]
    omega
  | softwareBaseline cpi =>
    change cpi.toNat ≤ 32 * cpi.toNat + 132
    omega
  | measurement sample => exact paced.updateAverages sample

theorem DomainLog.paced : log.domain.averages.context.Paced := by
  obtain ⟨validatedBy, taken⟩ := log
  induction taken using List.reverseRecOn with
  | nil =>
    cases validatedBy with
    | none | some figures => exact Nat.zero_le _
  | append_singleton taken last ih =>
    have step := @domain_append ⟨validatedBy, taken⟩ [last]
    rw [step]
    exact PerfDomain.paced_take ih last

private def PerfCtx.Logged (ctx : PerfCtx) : Prop := ∃ log, ctx.Tracks log

namespace PerfRun

variable {input : InitInput} {trace : ℕ → PerfCtx} {length : ℕ}

theorem logged (run : PerfRun input trace length) : ∀ i ≤ length, (trace i).Logged := by
  refine run.calls.invariant ⟨_, run.start ▸ PerfCtx.tracks_init input⟩ ?_
  rintro _ _ ⟨_, tracks⟩ ⟨call, rfl⟩
  exact ⟨_, tracks.after call⟩

theorem paced (run : PerfRun input trace length) : ∀ i ≤ length, (trace i).Paced := by
  intro i le
  obtain ⟨log, tracks⟩ := run.logged i le
  have fast : (trace i).fastCpi = log.domain.averages.fastCpi :=
    congrArg Averages.fastCpi tracks.averages
  have slow : (trace i).slowCpi = log.domain.averages.slowCpi :=
    congrArg Averages.slowCpi tracks.averages
  rw [PerfCtx.Paced, fast, slow]
  exact log.paced

theorem history_starts (run : PerfRun input trace length) : ∀ i ≤ length,
    (trace i).ratioHistoryCount = 0 → (trace i).ratioHistoryCursor = 0 := by
  intro i le _
  obtain ⟨log, tracks⟩ := run.logged i le
  obtain ⟨fresh, empty, start, pushed⟩ := tracks.history
  have count : (trace i).ratioHistoryCount = min log.domain.recorded.length 8 := by
    have counted := fresh.count_pushAll log.domain.recorded (by omega)
    rw [← pushed, empty, zero_add] at counted
    exact counted
  have cursor : ((trace i).ratioHistoryCursor : ℕ) = log.domain.recorded.length % 8 := by
    have moved := fresh.cursor_pushAll log.domain.recorded
    rw [← pushed, start, zero_add] at moved
    exact moved
  apply Fin.ext
  rw [cursor]
  have unrecorded : log.domain.recorded.length = 0 := by omega
  rw [unrecorded]
  rfl

/-- The averages, the stall count and the ring of ratios of every context a run reaches. -/
theorem side_conditions (run : PerfRun input trace length) : ∀ i ≤ length,
    (trace i).Paced ∧ (trace i).Counted ∧
      ((trace i).ratioHistoryCount = 0 → (trace i).ratioHistoryCursor = 0) :=
  fun i le => ⟨run.paced i le, run.counted i le, run.history_starts i le⟩

theorem side_conditions_measured : (baselineTrace steadyMeasure 1).Paced :=
  (side_conditions ⟨rfl, fun i _ => ⟨baselineCalls steadyMeasure i, rfl⟩⟩ 1 le_rfl).1

end PerfRun

def baselineLogs (measure : MeasureInput) : ℕ → DomainLog
  | 0 => ⟨none, []⟩
  | index + 1 =>
    (baselineLogs measure index).after (baselineTrace measure index) (baselineCalls measure index)

theorem baselined_measurement_domain :
    (baselineTrace steadyMeasure 2).averages.judging =
        (baselineLogs steadyMeasure 2).domain.averages.judging ∧
      (baselineTrace steadyMeasure 2).ratioTrimmedMilli.toNat = TrimmedMean.trimmedMean
        (((baselineLogs steadyMeasure 2).domain.recorded.drop
          ((baselineLogs steadyMeasure 2).domain.recorded.length - 8)).map UInt32.toNat) := by
  have run : DomainRun grantedInit (baselineTrace steadyMeasure) (baselineCalls steadyMeasure)
      (baselineLogs steadyMeasure) 2 := ⟨rfl, fun _ _ => rfl, rfl, fun _ _ => rfl⟩
  obtain ⟨_, measures⟩ := Option.isSome_iff_exists.mp
    (show ((baselineTrace steadyMeasure 1).sampled secondReading).2.isSome = true by decide)
  have separate := run.measurement_domains_separate (show 1 < 2 by decide) rfl measures
  exact ⟨separate.2.2.1, separate.2.2.2.2⟩

end ThermalSimd
