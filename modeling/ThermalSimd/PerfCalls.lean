import ThermalSimd.Samples

/-!
# What baselines and re-probes do

The outcomes of a hardware baseline and of a hardware re-probe, and what both leave alone.
-/

namespace ThermalSimd

namespace PerfCtx

/-- Mode, averages and ratios are kept. -/
structure SameDomain (ctx ctx' : PerfCtx) : Prop where
  mode : ctx'.mode = ctx.mode
  averages : ctx'.averages = ctx.averages
  ratios : ctx'.ratios = ctx.ratios

section

variable {ctx ctx' ctx'' : PerfCtx}

theorem SameDomain.refl (ctx : PerfCtx) : ctx.SameDomain ctx := ⟨rfl, rfl, rfl⟩

theorem SameDomain.trans (left : ctx.SameDomain ctx') (right : ctx'.SameDomain ctx'') :
    ctx.SameDomain ctx'' :=
  ⟨right.mode.trans left.mode, right.averages.trans left.averages,
    right.ratios.trans left.ratios⟩

theorem LlcOnly.sameDomain (only : ctx.LlcOnly ctx') : ctx.SameDomain ctx' := by
  obtain ⟨_, _, _, rfl⟩ := only
  exact ⟨rfl, rfl, rfl⟩

variable (ctx)

theorem sameDomain_closePerfEvents : ctx.SameDomain ctx.closePerfEvents := ⟨rfl, rfl, rfl⟩

theorem sameDomain_openPerfEvents (input) : ctx.SameDomain (ctx.openPerfEvents input).1 := by
  unfold openPerfEvents
  split
  · exact ctx.sameDomain_closePerfEvents
  · exact ctx.sameDomain_closePerfEvents
  · next cycles insns _ _ =>
      have closed : ctx.SameDomain
          { ctx.closePerfEvents with fdCycles := (cycles : ℤ), fdInsns := (insns : ℤ) } :=
        ⟨rfl, rfl, rfl⟩
      have opens := closed.trans (llcOnly_openLlcEvent _ input.llc input.now).sameDomain
      exact { opens with }

theorem schedulePerfRetry_eq (now) :
    ∃ retry, ctx.schedulePerfRetry now = { ctx with perfRetry := retry } := by
  unfold schedulePerfRetry
  split
  · exact ⟨ctx.perfRetry, rfl⟩
  · exact ⟨_, rfl⟩

theorem sameDomain_rejectReprobe (now) : ctx.SameDomain (ctx.rejectReprobe now) := by
  obtain ⟨_, schedules⟩ := (ctx.record .reprobeFailed).schedulePerfRetry_eq now
  rw [rejectReprobe, schedules]
  exact ⟨rfl, rfl, rfl⟩

end

/-- How a hardware baseline ends. -/
inductive BaselineOutcome (ctx : PerfCtx) (cfg : RuntimeConfig) (input : MeasureInput) :
    PerfCtx → Prop
  | rejected {enabled success}
      (enables : ctx.enablePerfEventsStrict input.events = (enabled, success)) :
      BaselineOutcome ctx cfg input (enabled.failClosed "baseline-validation" input.failure)
  | accepted {enabled before after}
      (enables : ctx.enablePerfEventsStrict input.events = (enabled, true))
      (reads : enabled.baselineReads input.baseline = some (before, after)) :
      BaselineOutcome ctx cfg input
        ({ enabled.acceptBaseline cfg input.baseline before after with
          hardwareValidated := true }.publishPerfState true)

variable (ctx : PerfCtx)

theorem baseline_outcome (hw : ctx.mode = .hardware) (cfg input) :
    BaselineOutcome ctx cfg input (ctx.measureBaseline cfg input) := by
  rw [measureBaseline, hw]
  cases enables : ctx.enablePerfEventsStrict input.events with
  | mk _ success =>
    cases success with
    | false => exact .rejected enables
    | true =>
      dsimp only
      split
      · exact .rejected enables
      · next _ accepted =>
          obtain ⟨⟨_, _⟩, reads, rfl⟩ := Option.map_eq_some_iff.mp accepted
          exact .accepted enables reads

/-- How a hardware re-probe ends. -/
inductive RecoveryOutcome (ctx : PerfCtx) (input : RecoverInput) : PerfCtx × Bool → Prop
  | waits : RecoveryOutcome ctx input (ctx, false)
  | rejected {probed} (domain : ctx.SameDomain probed) (closed : probed.fdLlcMisses = -1)
      (forgotten : probed.lastLlcValue = 0) :
      RecoveryOutcome ctx input (probed, false)
  | recovered {opened enabled before after} (software : ctx.mode = .software)
      (due : ctx.PerfRetryDue input.now) (opens : ctx.openPerfEvents input.opens = (opened, .ok ()))
      (enables : opened.enablePerfEventsStrict input.events = (enabled, true))
      (reads : enabled.baselineReads input.baseline = some (before, after)) :
      RecoveryOutcome ctx input
        ((enabled.acceptBaseline input.snapshot input.baseline before after).acceptReprobe.setMode
          .hardware "reprobe" input.failure.mode, true)

theorem rejectReprobe_llc (now) :
    (ctx.rejectReprobe now).fdLlcMisses = ctx.fdLlcMisses ∧
      (ctx.rejectReprobe now).lastLlcValue = ctx.lastLlcValue := by
  obtain ⟨_, schedules⟩ := (ctx.record .reprobeFailed).schedulePerfRetry_eq now
  rw [rejectReprobe, schedules]
  exact ⟨rfl, rfl⟩

theorem openPerfEvents_refused {input opened e}
    (opens : ctx.openPerfEvents input = (opened, .error e)) : opened = ctx.closePerfEvents := by
  unfold openPerfEvents at opens
  split at opens <;> cases opens <;> rfl

theorem recovery_outcome (input) : RecoveryOutcome ctx input (ctx.tryRecoverHardware input) := by
  have domain := ctx.sameDomain_openPerfEvents input.opens
  unfold tryRecoverHardware
  split
  · exact .waits
  next attempt =>
  obtain ⟨sw, due⟩ : ctx.mode = .software ∧ ctx.PerfRetryDue input.now := by
    rwa [not_or, not_not, not_not] at attempt
  cases opens : ctx.openPerfEvents input.opens with
  | mk opened out =>
    rw [opens] at domain
    cases out with
    | error e =>
      obtain ⟨closed, forgotten⟩ := opened.rejectReprobe_llc input.failure.now
      rw [ctx.openPerfEvents_refused opens] at closed forgotten
      refine .rejected (domain.trans (opened.sameDomain_rejectReprobe _)) ?_ ?_
      · rw [ctx.openPerfEvents_refused opens]
        exact closed
      · rw [ctx.openPerfEvents_refused opens]
        exact forgotten
    | ok =>
      have only := opened.llcOnly_enablePerfEventsStrict input.events
      dsimp only
      cases enables : opened.enablePerfEventsStrict input.events with
      | mk enabled success =>
        rw [enables] at only
        have discarded : RecoveryOutcome ctx input
            (enabled.discardReprobe input.failure.now, false) := by
          obtain ⟨closed, forgotten⟩ := rejectReprobe_llc
            { enabled.closePerfEvents with hardwareValidated := false } input.failure.now
          have same := domain.trans only.sameDomain
          have rejects := sameDomain_rejectReprobe
            { enabled.closePerfEvents with hardwareValidated := false } input.failure.now
          exact .rejected (same.trans { rejects with }) closed
            forgotten
        cases success with
        | false => exact discarded
        | true =>
          dsimp only
          split
          · exact discarded
          · next _ accepted =>
              obtain ⟨⟨_, _⟩, reads, rfl⟩ := Option.map_eq_some_iff.mp accepted
              exact .recovered sw due opens enables reads

end PerfCtx

end ThermalSimd
