import ThermalSimd.PerfDomains

/-!
# Perf arithmetic

The cost and rate quotients of `thermal_perf.c` against exact arithmetic. Cycles for each work item
go through 128 bits; the other quotients are of 64-bit products, which wrap. The stored ratio
saturates, and the reported one is cut off.
-/

namespace ThermalSimd

theorem toNat_mul_div_eq_iff {count scale divisor : UInt64} (nonzero : divisor ≠ 0) :
    (count * scale / divisor).toNat = count.toNat * scale.toNat / divisor.toNat ↔
      count.toNat * scale.toNat < 2 ^ 64 := by
  exact Words.mod_div_eq_iff (Nat.pos_of_ne_zero (mt Words.toNat_eq_zero.mp nonzero))
    divisor.toNat_lt

theorem toNat_cost_eq_iff {count scale divisor : UInt64} (nonzero : divisor ≠ 0) :
    (if count * scale / divisor = 0 then 1 else count * scale / divisor).toNat =
        max 1 (count.toNat * scale.toNat / divisor.toNat) ↔
      count.toNat * scale.toNat < 2 ^ 64 ∨ count.toNat * scale.toNat < 2 * divisor.toNat := by
  have pos : 0 < divisor.toNat := Nat.pos_of_ne_zero (mt Words.toNat_eq_zero.mp nonzero)
  have bound := divisor.toNat_lt
  have cost : (if count * scale / divisor = 0 then 1 else count * scale / divisor).toNat =
      max 1 (count.toNat * scale.toNat % 2 ^ 64 / divisor.toNat) := by
    rw [toNat_step, UInt64.toNat_div, UInt64.toNat_mul]
  have exact := @Words.mod_div_eq_iff (count.toNat * scale.toNat) _ pos bound
  have below : count.toNat * scale.toNat % 2 ^ 64 / divisor.toNat ≤
      count.toNat * scale.toNat / divisor.toNat := Nat.div_le_div_right (Nat.mod_le _ _)
  have small : count.toNat * scale.toNat / divisor.toNat < 2 ↔
      count.toNat * scale.toNat < 2 * divisor.toNat := Nat.div_lt_iff_lt_mul pos
  omega

def exactDeltas (before after : PerfGroupRead) : ℕ × ℕ :=
  let enabled := after.timeEnabled.toNat - before.timeEnabled.toNat
  let running := after.timeRunning.toNat - before.timeRunning.toNat
  ((after.cycles.toNat - before.cycles.toNat) * enabled / running,
    (after.insns.toNat - before.insns.toNat) * enabled / running)

/-- The deltas are ordered and fit in 64 bits. -/
structure DeltasFit (before after : PerfGroupRead) : Prop where
  ordered : GroupOrderValid before after
  cycles : (exactDeltas before after).1 < 2 ^ 64
  insns : (exactDeltas before after).2 < 2 ^ 64

theorem toNat_scaleCounter (delta enabled running) :
    (scaleCounter delta enabled running).toNat =
      delta.toNat * enabled.toNat / running.toNat % 2 ^ 64 := by
  unfold scaleCounter
  split
  · next stopped =>
      rcases stopped with rfl | rfl
      · rw [show UInt64.toNat 0 = 0 from rfl, Nat.div_zero]
        rfl
      · rw [show UInt64.toNat 0 = 0 from rfl, Nat.mul_zero, Nat.zero_div]
        rfl
  · exact UInt64.toNat_ofNat'

theorem DeltasFit.scaledDeltas {before after} (fit : DeltasFit before after) :
    (scaledDeltas before after).1.toNat = (exactDeltas before after).1 ∧
      (scaledDeltas before after).2.toNat = (exactDeltas before after).2 := by
  obtain ⟨-, -, enabled, running, cycles, insns⟩ := fit.ordered
  have cyclesFit := fit.cycles
  have insnsFit := fit.insns
  unfold ThermalSimd.scaledDeltas
  rw [toNat_scaleCounter, toNat_scaleCounter, UInt64.toNat_sub_of_le _ _ enabled,
    UInt64.toNat_sub_of_le _ _ running, UInt64.toNat_sub_of_le _ _ cycles,
    UInt64.toNat_sub_of_le _ _ insns]
  exact ⟨Nat.mod_eq_of_lt cyclesFit, Nat.mod_eq_of_lt insnsFit⟩

private def cpiMilli (cycles insns : UInt64) : UInt64 := cycles * 1000 / insns

def llcRateMilli (llc insns : UInt64) : UInt64 := llc * mpkiScale / insns

namespace PerfCtx

variable (ctx : PerfCtx) (sample : Measurement) (cfg : RuntimeConfig)

def evaluationLlc (input : EvalInput) : UInt64 :=
  if (ctx.readFor input).fdLlcMisses < 0 then 0
  else counterDelta (ctx.readFor input).lastLlcValue (ctx.llcNow input)

def baselineLlc (input : BaselineInput) : UInt64 :=
  if ctx.fdLlcMisses < 0 then 0
  else counterDelta (input.llcBefore.getD 0) (input.llcAfter.getD (input.llcBefore.getD 0))

def softwareDeltas (input : EvalInput) : UInt64 × UInt64 :=
  let probed := (ctx.tryRecoverHardware input.recover).1
  (timespecDiffNs probed.swLastTimestamp input.swNow,
    counterDelta probed.swLastIterations input.iterations)

theorem Reads.measured {ctx : PerfCtx} {input now sample} (reads : ctx.Reads input now)
    (measures : (ctx.sampled input).2 = some sample) :
    sample.cpi =
        cpiMilli (scaledDeltas ctx.lastGroupRead now).1 (scaledDeltas ctx.lastGroupRead now).2 ∧
      sample.mpkiMilli =
        llcRateMilli (ctx.evaluationLlc input) (scaledDeltas ctx.lastGroupRead now).2 ∧
      (scaledDeltas ctx.lastGroupRead now).2 ≠ 0 := by
  have same := (ctx.llcOnly_readFor input).lastGroupRead
  rw [reads.sampled_eq, sampleReading] at measures
  split at measures
  · cases measures
  split at measures
  · cases measures
  split at measures
  · cases measures
  dsimp only at measures
  split at measures
  · cases measures
  split at measures
  · cases measures
  next progresses =>
  rw [sampleWork] at measures
  split at measures
  · cases measures
  cases measures
  rw [← same]
  exact ⟨rfl, rfl, (not_or.mp progresses).2⟩

theorem cpi_of_software {ctx : PerfCtx} {input sample}
    (sw : ctx.mode = .software) (measures : (ctx.sampled input).2 = some sample) :
    sample.cpi =
        (if (ctx.softwareDeltas input).1 * 1000 / (ctx.softwareDeltas input).2 = 0 then 1
        else (ctx.softwareDeltas input).1 * 1000 / (ctx.softwareDeltas input).2) ∧
      (ctx.softwareDeltas input).2 ≠ 0 := by
  rw [sampled, sw, sampleSoftware] at measures
  unfold softwareDeltas
  generalize ctx.tryRecoverHardware input.recover = probe at measures ⊢
  obtain ⟨_, recovers⟩ := probe
  cases recovers with
  | true => cases measures
  | false =>
    dsimp only at measures ⊢
    split at measures
    · cases measures
    split at measures
    · cases measures
    next progresses =>
    cases measures
    exact ⟨rfl, (not_or.mp progresses).1⟩

theorem toNat_ratioFor_eq_max : ∃ other ≤ 32000,
    (ctx.ratioFor sample).toNat = max other (ctx.calibratedRatio sample % 2 ^ 64) := by
  have adaptive := ctx.adaptiveRatio_le sample
  have unit : exactRatioMilli sample.cost.toNat sample.cost.toNat ≤ 32000 :=
    (@exactRatioMilli_le _ _ 1 (by omega)).trans (by decide)
  have uncalibrated : ctx.calibratedReference sample = 0 → ctx.calibratedRatio sample = 0 := by
    intro zero
    rw [calibratedRatio, zero]
    exact Nat.div_zero _
  by_cases work : 0 < sample.workCostMilli
  · have cost : sample.cost = sample.workCostMilli := if_pos work
    have reference : ctx.calibratedReference sample = ctx.calibratedWorkReference := if_pos work
    have ratio : ctx.ratioFor sample = roundedRatioMilli sample.cost
        (ctx.updateAverages sample).calibratedWorkReference := by
      rw [ratioFor, measuredRatioMilli, if_pos work, cost]
    by_cases fresh : ctx.calibratedWorkReference = 0
    · have taken : (ctx.updateAverages sample).calibratedWorkReference = sample.cost := by
        rw [cost]
        exact if_pos ⟨work, fresh⟩
      refine ⟨_, unit, ?_⟩
      rw [uncalibrated (reference.trans fresh), ratio, taken, toNat_roundedRatioMilli,
        Nat.mod_eq_of_lt (by omega)]
      exact (max_eq_left (Nat.zero_le _)).symm
    · have kept : (ctx.updateAverages sample).calibratedWorkReference =
          ctx.calibratedReference sample := by
        rw [reference]
        exact if_neg fun starts => fresh starts.2
      refine ⟨0, by omega, ?_⟩
      rw [ratio, kept, toNat_roundedRatioMilli]
      exact (max_eq_right (Nat.zero_le _)).symm
  · have cost : sample.cost = sample.cpi := if_neg work
    have reference : ctx.calibratedReference sample = ctx.calibratedCpiReference := if_neg work
    have ratio : (ctx.ratioFor sample).toNat =
        max (exactRatioMilli sample.cost.toNat (ctx.updateAverages sample).referenceCpi.toNat)
          (roundedRatioMilli sample.cost (ctx.updateAverages sample).absoluteReference).toNat := by
      rw [ratioFor, measuredRatioMilli, if_neg work, cost]
      rw [UInt64.toNat_max, toNat_roundedRatioMilli, Nat.mod_eq_of_lt (by omega)]
    rw [← cost] at adaptive
    by_cases fresh : ctx.calibratedCpiReference = 0
    · refine ⟨_, ?_, by rw [uncalibrated (reference.trans fresh)]; exact (Nat.max_zero _).symm⟩
      rw [ratio, absoluteReference, toNat_roundedRatioMilli]
      refine max_le adaptive ((Nat.mod_le _ _).trans ?_)
      -- Uncalibrated, a measurement calibrates itself, or is zero and compared with the average.
      by_cases costs : 0 < sample.cpi
      · have taken : (ctx.updateAverages sample).calibratedCpiReference = sample.cost := by
          rw [cost]
          exact if_pos ⟨fresh, costs⟩
        rw [taken, if_pos (by rw [cost]; exact (UInt64.ne_of_lt costs).symm)]
        exact unit
      · have kept : (ctx.updateAverages sample).calibratedCpiReference = 0 := by
          rw [← fresh]
          exact if_neg fun starts => costs starts.2
        rw [kept, if_neg (not_not.mpr rfl)]
        exact adaptive
    · have kept : (ctx.updateAverages sample).calibratedCpiReference =
          ctx.calibratedReference sample := by
        rw [reference]
        exact if_neg fun starts => fresh starts.1
      refine ⟨_, adaptive, ?_⟩
      rw [ratio, absoluteReference, kept, if_pos (by rw [reference]; exact fresh),
        toNat_roundedRatioMilli]
      rfl

theorem toUInt32_eq_saturatedRatio_iff (ratioMilli) :
    ratioMilli.toUInt32 = saturatedRatio ratioMilli ↔
      ratioMilli.toNat < 2 ^ 32 ∨ ratioMilli.toNat % 2 ^ 32 = 2 ^ 32 - 1 := by
  rw [← UInt32.toNat_inj, toNat_saturatedRatio, UInt64.toNat_toUInt32]
  omega

theorem stored_processMeasurement (degraded) :
    (ctx.processMeasurement sample cfg degraded).1.ratioHistory.get ctx.ratioHistoryCursor =
      saturatedRatio (ctx.ratioFor sample) :=
  Vector.getElem_set_self _

theorem ratioMilli_eq_stored_iff (degraded) :
    (ctx.processMeasurement sample cfg degraded).2.1.ratioMilli =
        (ctx.processMeasurement sample cfg degraded).1.ratioHistory.get ctx.ratioHistoryCursor ↔
      ctx.calibratedRatio sample % 2 ^ 64 < 2 ^ 32 ∨
        ctx.calibratedRatio sample % 2 ^ 32 = 2 ^ 32 - 1 := by
  obtain ⟨_, _, _⟩ := ctx.toNat_ratioFor_eq_max sample
  rw [stored_processMeasurement]
  refine (toUInt32_eq_saturatedRatio_iff (ctx.ratioFor sample)).trans ?_
  omega

theorem baselineLlcMpkiMilli_acceptBaseline (input before after) :
    (ctx.acceptBaseline cfg input before after).baselineLlcMpkiMilli =
      if llcRateMilli (ctx.baselineLlc input) (scaledDeltas before after).2 = 0 then 1000
      else llcRateMilli (ctx.baselineLlc input) (scaledDeltas before after).2 := by
  have misses : (if ctx.fdLlcMisses < 0 then 0 else
      counterDelta (if ctx.fdLlcMisses < 0 then 0 else input.llcBefore.getD 0)
        (if ctx.fdLlcMisses < 0 then 0 else input.llcAfter.getD
          (if ctx.fdLlcMisses < 0 then 0 else input.llcBefore.getD 0))) =
            ctx.baselineLlc input := by
    unfold baselineLlc
    by_cases closed : ctx.fdLlcMisses < 0
    · simp only [if_pos closed]
    · simp only [if_neg closed]
  rw [← misses]
  rfl

/-- The costs and rates are those of exact arithmetic, and the reported ratio is the stored one,
exactly where the products with a thousand and `MPKI_SCALE` fit in 64 bits, and the ratio in 32. -/
theorem perf_arithmetic_exact_iff (ctx : PerfCtx) :
    (∀ (input : EvalInput) (now : PerfGroupRead) (sample : Measurement),
      ctx.Reads input now → (ctx.sampled input).2 = some sample → DeltasFit ctx.lastGroupRead now →
      let deltas := exactDeltas ctx.lastGroupRead now
      (sample.cpi.toNat = deltas.1 * 1000 / deltas.2 ↔ deltas.1 * 1000 < 2 ^ 64) ∧
        (sample.mpkiMilli.toNat = (ctx.evaluationLlc input).toNat * 1000000 / deltas.2 ↔
          (ctx.evaluationLlc input).toNat * 1000000 < 2 ^ 64)) ∧
    (∀ (cfg : RuntimeConfig) (input : BaselineInput) (before after : PerfGroupRead),
      ctx.baselineReads input = some (before, after) → DeltasFit before after →
      let deltas := exactDeltas before after
      let rate := llcRateMilli (ctx.baselineLlc input) (scaledDeltas before after).2
      ((ctx.acceptBaseline cfg input before after).baselineCpi.toNat = deltas.1 * 1000 / deltas.2 ↔
          deltas.1 * 1000 < 2 ^ 64) ∧
        (ctx.acceptBaseline cfg input before after).baselineLlcMpkiMilli =
          (if rate = 0 then 1000 else rate) ∧
        (rate.toNat = (ctx.baselineLlc input).toNat * 1000000 / deltas.2 ↔
          (ctx.baselineLlc input).toNat * 1000000 < 2 ^ 64)) ∧
    (∀ (input : EvalInput) (sample : Measurement),
      ctx.mode = .software → (ctx.sampled input).2 = some sample →
      let deltas := ctx.softwareDeltas input
      (sample.cpi.toNat = max 1 (deltas.1.toNat * 1000 / deltas.2.toNat) ↔
        deltas.1.toNat * 1000 < 2 ^ 64 ∨ deltas.1.toNat * 1000 < 2 * deltas.2.toNat)) ∧
    ∀ (sample : Measurement) (cfg : RuntimeConfig) (degraded : Bool),
      ((ctx.processMeasurement sample cfg degraded).2.1.ratioMilli =
          (ctx.processMeasurement sample cfg degraded).1.ratioHistory.get ctx.ratioHistoryCursor ↔
        ctx.calibratedRatio sample % 2 ^ 64 < 2 ^ 32 ∨
          ctx.calibratedRatio sample % 2 ^ 32 = 2 ^ 32 - 1) := by
  refine ⟨fun input now sample reads measures fit => ?_,
    fun cfg input before after reads fit => ?_,
    fun input sample software measures => ?_, ctx.ratioMilli_eq_stored_iff⟩
  · obtain ⟨cpi, rate, nonzero⟩ := reads.measured measures
    obtain ⟨cycles, insns⟩ := fit.scaledDeltas
    dsimp only
    rw [cpi, rate, ← cycles, ← insns]
    exact ⟨toNat_mul_div_eq_iff nonzero, toNat_mul_div_eq_iff nonzero⟩
  · have nonzero := (baselineReads_eq_some reads).2.2.2.2.2.2
    obtain ⟨cycles, insns⟩ := fit.scaledDeltas
    dsimp only
    rw [← cycles, ← insns]
    exact ⟨toNat_mul_div_eq_iff nonzero, ctx.baselineLlcMpkiMilli_acceptBaseline cfg input _ _,
      toNat_mul_div_eq_iff nonzero⟩
  · obtain ⟨cpi, nonzero⟩ := cpi_of_software software measures
    dsimp only
    rw [cpi]
    exact toNat_cost_eq_iff nonzero

end PerfCtx

def slowItem : EvalInput := readingInput ⟨2, 2000, 2000, 300000500, 1400⟩ (some 7) 11

def starvedReading : PerfGroupRead := ⟨2, 1000001000, 1001, 20000500, 10000400⟩

theorem second_reading_exact : ∃ sample,
    ((baselineTrace steadyMeasure 1).sampled secondReading).2 = some sample ∧
      sample.cpi.toNat = 500 * 1000 / 400 := by
  obtain ⟨sample, measures⟩ := Option.isSome_iff_exists.mp
    (show ((baselineTrace steadyMeasure 1).sampled secondReading).2.isSome = true by decide)
  have fit : DeltasFit (baselineTrace steadyMeasure 1).lastGroupRead ⟨2, 2000, 2000, 1000, 800⟩ :=
    ⟨by decide, by decide, by decide⟩
  have exact := ((PerfCtx.perf_arithmetic_exact_iff _).1 secondReading _ sample (by decide) measures
    fit).1
  exact ⟨sample, measures, exact.mpr (by decide)⟩

/-- A slow item's ratio is not stored as reported, nor is a starved group's cost exact. -/
theorem cut_off_ratio_and_cost :
    (measuredCtx.evaluate .setDefaults slowItem).2.1.ratioMilli = 1705032704 ∧
      (measuredCtx.evaluate .setDefaults slowItem).1.ratioHistory.get 0 = 4294967295 ∧
      DeltasFit measuredCtx.lastGroupRead starvedReading ∧
      exactDeltas measuredCtx.lastGroupRead starvedReading =
        (20000000000000000, 10000000000000000) ∧
      (measuredCtx.evaluate .setDefaults
        (readingInput starvedReading (some 7) 11)).2.1.cpiMilli = 155 :=
  ⟨by decide, by decide, ⟨by decide, by decide, by decide⟩, by decide, by decide⟩

end ThermalSimd
