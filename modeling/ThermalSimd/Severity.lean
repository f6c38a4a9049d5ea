import ThermalSimd.Cli
import ThermalSimd.PerfCalls
import ThermalSimd.PerfStalls
import ThermalSimd.RatioHistory

/-!
# Severities

What `process_measurement` makes of a measurement: the threshold, the consensus of ratio and history
above it, and the thermal part. In the ranges of their types none of it wraps.
-/

namespace ThermalSimd

/-- What a thermal severity is made of is within its types. -/
structure Representable (cfg : RuntimeConfig) (telemetry : TelemetrySample) : Prop where
  tempWeight : cfg.thermalTempWeightMilli ≤ RuntimeConfig.intMax
  ratioWeight : cfg.thermalRatioWeightMilli ≤ RuntimeConfig.intMax
  temp : telemetry.packageTempMillic ≤ RuntimeConfig.intMax

def weighted (available : Bool) (amount weight : ℤ) : ℕ :=
  if available = true ∧ 0 < weight ∧ 0 < amount then (amount * weight / 1000).toNat else 0

theorem weighted_mono {amount amount'} (le : amount ≤ amount') (avail weight) :
    weighted avail amount weight ≤ weighted avail amount' weight := by
  unfold weighted
  by_cases counts : avail = true ∧ 0 < weight ∧ 0 < amount
  · obtain ⟨known, pos, exceeds⟩ := counts
    rw [if_pos ⟨known, pos, exceeds⟩, if_pos ⟨known, pos, exceeds.trans_le le⟩]
    exact Int.toNat_le_toNat (Int.ediv_le_ediv (by decide)
      (mul_le_mul_of_nonneg_right le pos.le))
  · rw [if_neg counts]
    exact Nat.zero_le _

theorem toNat_weighted (avail) {amount weight} (small : amount ≤ RuntimeConfig.intMax)
    (light : weight ≤ RuntimeConfig.intMax) :
    (if avail = true ∧ 0 < weight ∧ 0 < amount then
      UInt64.ofInt amount * UInt64.ofInt weight / 1000 else 0).toNat =
        weighted avail amount weight ∧ weighted avail amount weight < 2 ^ 62 := by
  unfold RuntimeConfig.intMax at small light
  unfold weighted
  split
  · next counts =>
      obtain ⟨-, pos, exceeds⟩ := counts
      have product : amount * weight < 2 ^ 62 := by nlinarith
      have exact : (UInt64.ofInt amount * UInt64.ofInt weight).toNat = (amount * weight).toNat := by
        have left := Words.toNat_ofInt exceeds.le (by omega)
        have right := Words.toNat_ofInt pos.le (by omega)
        have factors := Int.toNat_mul exceeds.le pos.le
        rw [Words.toNat_mul, left, right, factors]
        rw [left, right, ← factors]
        omega
      rw [UInt64.toNat_div, exact, show UInt64.toNat 1000 = 1000 from rfl]
      exact ⟨by omega, by omega⟩
  · exact ⟨rfl, by decide⟩

def exactThermalSeverity (cfg : RuntimeConfig) (telemetry : TelemetrySample) : ℕ :=
  weighted telemetry.tempAvailable (telemetry.packageTempMillic - 85000)
      cfg.thermalTempWeightMilli +
    weighted telemetry.freqRatioAvailable (1000 - telemetry.freqRatioMilli)
      cfg.thermalRatioWeightMilli

theorem toNat_thermalSeverity {cfg telemetry} (representable : Representable cfg telemetry) :
    (thermalSeverity cfg telemetry).toNat = exactThermalSeverity cfg telemetry ∧
      exactThermalSeverity cfg telemetry < 2 ^ 63 := by
  have temp := representable.temp
  unfold RuntimeConfig.intMax at temp
  obtain ⟨fromTemp, _⟩ :=
    @toNat_weighted telemetry.tempAvailable (telemetry.packageTempMillic - 85000) _
      (by unfold RuntimeConfig.intMax; omega) representable.tempWeight
  obtain ⟨fromFreq, _⟩ :=
    @toNat_weighted telemetry.freqRatioAvailable (1000 - telemetry.freqRatioMilli) _
      (by unfold RuntimeConfig.intMax; omega) representable.ratioWeight
  unfold thermalSeverity exactThermalSeverity
  rw [Words.toNat_add, fromTemp, fromFreq]
  · exact ⟨rfl, by omega⟩
  · rw [fromTemp, fromFreq]
    omega

def slopeMilli (fastCpi slowCpi : UInt64) : UInt64 :=
  UInt64.ofNat ((fastCpi - slowCpi).toNat * 1000 / (if slowCpi = 0 then 1 else slowCpi).toNat)

theorem exactEwma_paced {fast slow} (paced : fast ≤ 32 * slow + 132) (sample) :
    exactEwma fast sample 2 ≤ 32 * exactEwma slow sample 5 + 132 := by
  have share := le_exactEwma slow sample 5
  simp only [exactEwma, OfNat.ofNat_ne_zero, or_false, Nat.reducePow] at share ⊢
  split_ifs at share ⊢ <;> omega

/-- The threshold for a base, lowered by at most a quarter while the averages rise. -/
def slopedThreshold (base fastCpi slowCpi : UInt64) : UInt64 :=
  if slowCpi < fastCpi then
    let slopePenalty := min (slopeMilli fastCpi slowCpi / 5) (base / 4)
    if slopePenalty < base then base - slopePenalty else base
  else base

theorem toNat_slopedThreshold (base fastCpi slowCpi) :
    (slopedThreshold base fastCpi slowCpi).toNat =
      if slowCpi < fastCpi then
        base.toNat - min ((slopeMilli fastCpi slowCpi).toNat / 5) (base.toNat / 4)
      else base.toNat := by
  have penalty : (min (slopeMilli fastCpi slowCpi / 5) (base / 4)).toNat =
      min ((slopeMilli fastCpi slowCpi).toNat / 5) (base.toNat / 4) := by
    rw [UInt64.toNat_min, UInt64.toNat_div, UInt64.toNat_div]
    rfl
  unfold slopedThreshold
  split
  · dsimp only
    split
    · next lower =>
        rw [UInt64.toNat_sub_of_le _ _ (UInt64.le_of_lt lower), penalty]
    · next equal =>
        rw [UInt64.lt_iff_toNat_lt, penalty] at equal
        omega
  · rfl

theorem dynamicThreshold_eq (cfg degraded fastCpi slowCpi memoryBound) :
    dynamicThreshold cfg degraded fastCpi slowCpi memoryBound =
      let sloped := slopedThreshold (UInt64.ofNat (cfg.effectiveDownRatioMilli degraded)) fastCpi
        slowCpi
      if memoryBound then
        sloped + ((if 0 < cfg.memoryGuardDivisor then sloped / UInt64.ofInt cfg.memoryGuardDivisor
          else 0) + UInt64.ofInt cfg.memoryGuardOffsetMilli)
      else sloped := rfl

/-- The settings are in their ranges. -/
structure Graded (cfg : RuntimeConfig) : Prop where
  downRatio : cfg.downRatioMilli ≤ 10000
  divisor : 1 ≤ cfg.memoryGuardDivisor ∧ cfg.memoryGuardDivisor ≤ 1000
  offset : 0 ≤ cfg.memoryGuardOffsetMilli ∧ cfg.memoryGuardOffsetMilli ≤ 1000000
  tempWeight : 0 ≤ cfg.thermalTempWeightMilli ∧ cfg.thermalTempWeightMilli ≤ 100000
  ratioWeight : 0 ≤ cfg.thermalRatioWeightMilli ∧ cfg.thermalRatioWeightMilli ≤ 100000

theorem downRatioMilliOf_le {ratio}
    (inRange : ratio.FiniteWith fun ratio => 1 ≤ ratio ∧ ratio ≤ 10) :
    Cli.downRatioMilliOf ratio ≤ 10000 := by
  cases ratio with
  | nonfinite => exact inRange.elim
  | finite ratio =>
    have most : milliOf ratio ≤ 10000 :=
      (milliOf_mono inRange.2).trans (by decide +kernel)
    unfold Cli.downRatioMilliOf
    dsimp only
    split_ifs <;> omega

theorem graded_of_parseCli {env arguments final}
    (parsed : Cli.parseCli env arguments = .returned final) : Graded final.cfg := by
  obtain ⟨-, -, rfl⟩ := Cli.parseCli_eq_returned_iff.mp parsed
  have inRange := Cli.gathered_inRange env arguments
  exact ⟨downRatioMilliOf_le (inRange .downRatio), inRange .memoryGuardDivisor,
    inRange .memoryGuardOffsetMilli, inRange .thermalTempWeightMilli,
    inRange .thermalRatioWeightMilli⟩

theorem Graded.effective_le {cfg} (graded : Graded cfg) (degraded) :
    cfg.effectiveDownRatioMilli degraded ≤ 10000 := by
  have := graded.downRatio
  unfold RuntimeConfig.effectiveDownRatioMilli
  dsimp only
  split_ifs <;> omega

/-- The dynamic threshold in natural numbers, for a base and a slope. -/
def exactThreshold (cfg : RuntimeConfig) (base slope : ℕ) (rises : Prop) [Decidable rises]
    (memoryBound : Bool) : ℕ :=
  let sloped := if rises then base - min (slope / 5) (base / 4) else base
  if memoryBound then
    sloped + (sloped / cfg.memoryGuardDivisor.toNat + cfg.memoryGuardOffsetMilli.toNat)
  else sloped

theorem Graded.toNat_dynamicThreshold {cfg} (graded : Graded cfg)
    (degraded fastCpi slowCpi memoryBound) :
    (dynamicThreshold cfg degraded fastCpi slowCpi memoryBound).toNat =
      exactThreshold cfg (cfg.effectiveDownRatioMilli degraded)
        (slopeMilli fastCpi slowCpi).toNat (slowCpi < fastCpi) memoryBound := by
  have base := graded.effective_le degraded
  obtain ⟨_, divisor⟩ := graded.divisor
  obtain ⟨nonneg, offset⟩ := graded.offset
  have sloped := toNat_slopedThreshold (UInt64.ofNat (cfg.effectiveDownRatioMilli degraded)) fastCpi
    slowCpi
  rw [Words.toNat_ofNat (by omega)] at sloped
  rw [dynamicThreshold_eq, exactThreshold]
  dsimp only
  split
  · have low : (slopedThreshold (UInt64.ofNat (cfg.effectiveDownRatioMilli degraded)) fastCpi
        slowCpi).toNat ≤ 10000 := by
      rw [sloped]
      split <;> omega
    rw [← sloped]
    generalize slopedThreshold (UInt64.ofNat (cfg.effectiveDownRatioMilli degraded)) fastCpi
      slowCpi = sloped at low
    have divided : (sloped / UInt64.ofInt cfg.memoryGuardDivisor).toNat =
        sloped.toNat / cfg.memoryGuardDivisor.toNat := by
      rw [UInt64.toNat_div, Words.toNat_ofInt (by omega) (by omega)]
    have part : sloped.toNat / cfg.memoryGuardDivisor.toNat ≤ 10000 :=
      (Nat.div_le_self _ _).trans low
    have added := Words.toNat_ofInt nonneg (by omega)
    have guarded : (sloped / UInt64.ofInt cfg.memoryGuardDivisor +
        UInt64.ofInt cfg.memoryGuardOffsetMilli).toNat =
          sloped.toNat / cfg.memoryGuardDivisor.toNat + cfg.memoryGuardOffsetMilli.toNat := by
      rw [Words.toNat_add, divided, added]
      omega
    rw [if_pos (by omega), Words.toNat_add, guarded]
    omega
  · exact sloped

namespace PerfCtx

section

variable (ctx : PerfCtx) (sample : Measurement) (cfg : RuntimeConfig) (degraded : Bool)

def trimmedFor : UInt32 :=
  ((ctx.updateAverages sample).storeRatio (ctx.ratioFor sample)).ratioTrimmedMilli

def thresholdFor : UInt64 :=
  dynamicThreshold cfg degraded (ctx.updateAverages sample).fastCpi
    (ctx.updateAverages sample).slowCpi
    (decide ((ctx.updateAverages sample).MemoryBound sample.mpkiMilli))

def consensusSeverity : UInt64 :=
  let consensusRatio := (ctx.ratioFor sample + (ctx.trimmedFor sample).toUInt64) / 2
  if ctx.thresholdFor sample cfg degraded < consensusRatio then
    consensusRatio - ctx.thresholdFor sample cfg degraded
  else 0

theorem processMeasurement_reports :
    (ctx.processMeasurement sample cfg degraded).2.1.severityMilli =
        ctx.consensusSeverity sample cfg degraded + thermalSeverity cfg sample.telemetry ∧
      (ctx.processMeasurement sample cfg degraded).2.1.thermalSeverityMilli =
        thermalSeverity cfg sample.telemetry ∧
      (ctx.processMeasurement sample cfg degraded).2.1.trimmedRatioMilli = ctx.trimmedFor sample ∧
      (ctx.processMeasurement sample cfg degraded).2.2 =
        decide (0 < (ctx.processMeasurement sample cfg degraded).2.1.severityMilli) :=
  ⟨rfl, rfl, rfl, rfl⟩

variable {ctx sample}

theorem toNat_consensusSeverity (bound : (ctx.ratioFor sample).toNat < 2 ^ 32) :
    (ctx.consensusSeverity sample cfg degraded).toNat =
      ((ctx.ratioFor sample).toNat + (ctx.trimmedFor sample).toNat) / 2 -
        (ctx.thresholdFor sample cfg degraded).toNat := by
  have trimmed := (ctx.trimmedFor sample).toNat_lt
  have consensus : ((ctx.ratioFor sample + (ctx.trimmedFor sample).toUInt64) / 2).toNat =
      ((ctx.ratioFor sample).toNat + (ctx.trimmedFor sample).toNat) / 2 := by
    rw [UInt64.toNat_div, Words.toNat_add, UInt32.toNat_toUInt64]
    · rfl
    · rw [UInt32.toNat_toUInt64]
      omega
  unfold consensusSeverity
  dsimp only
  split
  · next above => rw [UInt64.toNat_sub_of_le _ _ (UInt64.le_of_lt above), consensus]
  · next lt =>
      rw [UInt64.lt_iff_toNat_lt, consensus] at lt
      exact (Nat.sub_eq_zero_of_le (not_lt.mp lt)).symm

variable {cfg}

theorem toNat_severityMilli (bound : (ctx.ratioFor sample).toNat < 2 ^ 32)
    (representable : Representable cfg sample.telemetry) :
    (ctx.processMeasurement sample cfg degraded).2.1.severityMilli.toNat =
      (ctx.consensusSeverity sample cfg degraded).toNat +
        exactThermalSeverity cfg sample.telemetry := by
  obtain ⟨thermal, _⟩ := toNat_thermalSeverity representable
  have trimmed := (ctx.trimmedFor sample).toNat_lt
  have consensus := toNat_consensusSeverity cfg degraded bound
  rw [(ctx.processMeasurement_reports sample cfg degraded).1, Words.toNat_add, thermal]
  omega

theorem buffer_processMeasurement :
    (ctx.processMeasurement sample cfg degraded).1.ratios.buffer =
      ctx.ratios.buffer.push (saturatedRatio (ctx.ratioFor sample)) := rfl

variable (ctx sample)

theorem toNat_trimmedFor :
    (ctx.trimmedFor sample).toNat = TrimmedMean.trimmedMean
      ((ctx.ratios.buffer.push (saturatedRatio (ctx.ratioFor sample))).used.map UInt32.toNat) :=
  toNat_trimmed_storeRatio _ _

end

end PerfCtx

/-- Measurements in one domain. -/
structure MeasurementRun (trace : ℕ → PerfCtx) (samples : ℕ → Measurement)
    (cfgs : ℕ → RuntimeConfig) (degraded : ℕ → Bool) (length : ℕ) : Prop where
  continues : ∀ index, index + 1 < length →
    ((trace index).processMeasurement (samples index) (cfgs index) (degraded index)).1.SameDomain
      (trace (index + 1))

private def recordedRatios (trace : ℕ → PerfCtx) (samples : ℕ → Measurement) (count : ℕ) :
    List UInt32 :=
  (List.range count).map fun index => saturatedRatio ((trace index).ratioFor (samples index))

theorem recordedRatios_succ (trace samples count) :
    recordedRatios trace samples (count + 1) =
      recordedRatios trace samples count ++
        [saturatedRatio ((trace count).ratioFor (samples count))] := by
  rw [recordedRatios, List.range_succ, List.map_append]
  rfl

/-- Not memory bound, with a ratio of at least `ratio`, above the effective down ratio. -/
structure PerfCtx.Degrades (ctx : PerfCtx) (sample : Measurement) (cfg : RuntimeConfig)
    (degraded : Bool) (ratio : ℕ) : Prop where
  reaches : ratio ≤ ctx.calibratedRatio sample
  bounded : ctx.calibratedRatio sample < 2 ^ 32
  unbound : (ctx.processMeasurement sample cfg degraded).2.1.memoryBound = false
  above : cfg.effectiveDownRatioMilli degraded < ratio
  representable : Representable cfg sample.telemetry

namespace PerfCtx.Degrades

variable {ctx : PerfCtx} {sample : Measurement} {cfg : RuntimeConfig} {degraded : Bool} {ratio : ℕ}

section

variable (degrades : ctx.Degrades sample cfg degraded ratio)
include degrades

theorem calibrated :
    ctx.calibratedReference sample ≠ 0 := by
  have pos : 0 < ctx.calibratedRatio sample :=
    (Nat.zero_le _).trans_lt (degrades.above.trans_le degrades.reaches)
  intro zero
  simp [PerfCtx.calibratedRatio, exactRatioMilli, zero] at pos

theorem le_ratioFor :
    ratio ≤ (ctx.ratioFor sample).toNat ∧ (ctx.ratioFor sample).toNat < 2 ^ 32 := by
  obtain ⟨reached, bound⟩ := calibratedRatio_le_ratioFor degrades.calibrated degrades.bounded
  exact ⟨degrades.reaches.trans reached, bound⟩

theorem le_saturatedRatio :
    ratio ≤ (saturatedRatio (ctx.ratioFor sample)).toNat := by
  rw [toNat_saturatedRatio]
  have := degrades.le_ratioFor
  omega

theorem throttles
    (confirmed : ratio ≤ (ctx.trimmedFor sample).toNat) :
    (ctx.processMeasurement sample cfg degraded).2.2 = true ∧
      ratio - cfg.effectiveDownRatioMilli degraded ≤
        (ctx.processMeasurement sample cfg degraded).2.1.severityMilli.toNat := by
  obtain ⟨_, bound⟩ := degrades.le_ratioFor
  have above := degrades.above
  have threshold : (ctx.thresholdFor sample cfg degraded).toNat ≤
      cfg.effectiveDownRatioMilli degraded := by
    have unbound : decide ((ctx.updateAverages sample).MemoryBound sample.mpkiMilli) = false :=
      degrades.unbound
    rw [thresholdFor, unbound, dynamicThreshold_eq, if_neg Bool.false_ne_true,
      toNat_slopedThreshold, Words.toNat_ofNat (by omega)]
    split <;> omega
  have severe : ratio - cfg.effectiveDownRatioMilli degraded ≤
      (ctx.processMeasurement sample cfg degraded).2.1.severityMilli.toNat := by
    rw [toNat_severityMilli degraded bound degrades.representable,
      toNat_consensusSeverity cfg degraded bound]
    omega
  refine ⟨?_, severe⟩
  rw [(ctx.processMeasurement_reports sample cfg degraded).2.2.2, decide_eq_true_iff,
    UInt64.lt_iff_toNat_lt]
  exact (Nat.sub_pos_of_lt above).trans_le severe

end

end PerfCtx.Degrades

namespace MeasurementRun

variable {trace : ℕ → PerfCtx} {samples : ℕ → Measurement} {cfgs : ℕ → RuntimeConfig}
  {degraded : ℕ → Bool} {length : ℕ}

theorem buffer_eq (run : MeasurementRun trace samples cfgs degraded length) {i}
    (lt : i < length) : (trace i).ratios.buffer =
      (trace 0).ratios.buffer.pushAll (recordedRatios trace samples i) := by
  induction i with
  | zero => rfl
  | succ i ih =>
    have same := congrArg RatioRing.buffer (run.continues i lt).ratios
    rw [recordedRatios_succ, RingBuffer.Buffer.pushAll_snoc, ← ih (by omega), same]
    exact PerfCtx.buffer_processMeasurement (degraded i)

/-- However long a degradation lasts, it is reported: from the eighth measurement on, or from the
first if the history was empty. -/
theorem sustained_degradation_throttles {ratio : ℕ}
    (run : MeasurementRun trace samples cfgs degraded length)
    (degrades : ∀ index < length,
      (trace index).Degrades (samples index) (cfgs index) (degraded index) ratio)
    {index : ℕ} (below : index < length)
    (covered : 8 ≤ index + 1 ∨
      (trace 0).ratioHistoryCount = 0 ∧ (trace 0).ratioHistoryCursor = 0) :
    ((trace index).processMeasurement (samples index) (cfgs index) (degraded index)).2.2 = true ∧
      ratio - (cfgs index).effectiveDownRatioMilli (degraded index) ≤
        ((trace index).processMeasurement (samples index) (cfgs index)
          (degraded index)).2.1.severityMilli.toNat := by
  apply (degrades index below).throttles
  rw [PerfCtx.toNat_trimmedFor]
  apply TrimmedMean.le_trimmedMean
  · intro _ mem
    obtain ⟨_, used, rfl⟩ := List.mem_map.mp mem
    rw [run.buffer_eq below, ← RingBuffer.Buffer.pushAll_snoc, ← recordedRatios_succ] at used
    -- Every slot in use was written by one of these measurements.
    have recorded := RingBuffer.Buffer.mem_of_mem_used_pushAll _ _ (covered.imp
      (fun eight => by rw [recordedRatios, List.length_map, List.length_range]; exact eight)
      (fun empty => ⟨empty.1, congrArg Fin.val empty.2⟩)) used
    obtain ⟨earlier, before, rfl⟩ := List.mem_map.mp recorded
    rw [List.mem_range] at before
    exact (degrades earlier (by omega)).le_saturatedRatio
  · rw [ne_eq, List.map_eq_nil_iff]
    exact RingBuffer.Buffer.used_push_ne_nil _ _

end MeasurementRun

def doubledSample : Measurement := ⟨2500, 0, 0, .zero⟩

def doubledTrace : ℕ → PerfCtx
  | 0 => measuredCtx
  | index + 1 => ((doubledTrace index).processMeasurement doubledSample .setDefaults false).1

theorem doubled_cost_throttles :
    ((doubledTrace 1).processMeasurement doubledSample .setDefaults false).2.2 = true ∧
      2000 - 1500 ≤ ((doubledTrace 1).processMeasurement doubledSample .setDefaults
        false).2.1.severityMilli.toNat := by
  have run : MeasurementRun doubledTrace (fun _ => doubledSample) (fun _ => .setDefaults)
      (fun _ => false) 2 := ⟨fun _ _ => .refl _⟩
  refine @MeasurementRun.sustained_degradation_throttles _ _ _ _ _ 2000 run ?_ 1 (by decide)
    (.inr ⟨by decide, by decide⟩)
  have representable : Representable .setDefaults doubledSample.telemetry :=
    ⟨by decide, by decide, by decide⟩
  intro index _
  match index with
  | 0 => exact ⟨by decide, by decide, by decide, by decide, representable⟩
  | 1 => exact ⟨by decide, by decide, by decide, by decide, representable⟩

def PerfCtx.Paced (ctx : PerfCtx) : Prop := ctx.fastCpi.toNat ≤ 32 * ctx.slowCpi.toNat + 132

theorem PerfCtx.Paced.updateAverages {ctx : PerfCtx} (paced : ctx.Paced) (sample) :
    (ctx.updateAverages sample).Paced := by
  have fast : (ctx.updateAverages sample).fastCpi.toNat =
      exactEwma ctx.fastCpi.toNat sample.cpi.toNat 2 := toNat_updateEwma _ _ (by decide)
  have step := exactEwma_paced paced sample.cpi.toNat
  have slow := ctx.exactEwma_le_slowCpi sample
  rw [Paced, fast]
  omega

/-- The slope of the averages a measurement leaves, in natural numbers. -/
def PerfCtx.deltaRatio (ctx : PerfCtx) (sample : Measurement) : ℕ :=
  let updated := ctx.updateAverages sample
  (updated.fastCpi.toNat - updated.slowCpi.toNat) * 1000 / updated.slowCpi.toNat

/-- The slope fits in every run: the fast average stays within a multiple of the slow one. -/
theorem PerfCtx.Paced.deltaRatio_lt {ctx : PerfCtx} (paced : ctx.Paced) (sample) :
    ctx.deltaRatio sample < 2 ^ 32 := by
  have nonzero := mt Words.toNat_eq_zero.mp (ctx.slowCpi_updateAverages_ne_zero sample)
  have kept : (ctx.updateAverages sample).fastCpi.toNat ≤
      32 * (ctx.updateAverages sample).slowCpi.toNat + 132 := paced.updateAverages sample
  rw [deltaRatio, Nat.div_lt_iff_lt_mul (Nat.pos_of_ne_zero nonzero)]
  omega

theorem PerfCtx.toNat_slopeMilli {ctx : PerfCtx} {sample} (fits : ctx.deltaRatio sample < 2 ^ 32)
    (rises : (ctx.updateAverages sample).slowCpi < (ctx.updateAverages sample).fastCpi) :
    (slopeMilli (ctx.updateAverages sample).fastCpi (ctx.updateAverages sample).slowCpi).toNat =
      ctx.deltaRatio sample := by
  rw [slopeMilli, if_neg (ctx.slowCpi_updateAverages_ne_zero sample),
    UInt64.toNat_sub_of_le _ _ (UInt64.le_of_lt rises)]
  exact Words.toNat_ofNat (fits.trans (by decide))

/-- The LLC rate against its baseline, in natural numbers. -/
def PerfCtx.llcRatio (ctx : PerfCtx) (sample : Measurement) : ℕ :=
  let slow := (ctx.updateAverages sample).slowLlcMpki
  exactRatioMilli (if slow ≠ 0 then slow else sample.mpkiMilli).toNat
    (if ctx.baselineLlcMpkiMilli ≠ 0 then ctx.baselineLlcMpkiMilli else 1000).toNat

/-- The ratios narrowed from 128 bits are below `2 ^ 32`. The adaptive CPI ratio is not listed: it
is at most 32000, whatever the context. -/
structure PerfCtx.RatiosFit (ctx : PerfCtx) (sample : Measurement) : Prop where
  work : ctx.calibratedRatio sample < 2 ^ 32
  absolute : exactRatioMilli sample.cpi.toNat
    (ctx.updateAverages sample).absoluteReference.toNat < 2 ^ 32
  llc : ctx.llcRatio sample < 2 ^ 32
  delta : ctx.deltaRatio sample < 2 ^ 32

/-- Every operation of `process_measurement` gives what natural numbers give. -/
structure PerfCtx.ExactlyComputed (ctx : PerfCtx) (sample : Measurement) (cfg : RuntimeConfig)
    (degraded : Bool) : Prop where
  fastCpi : (updateEwma ctx.fastCpi sample.cpi 2).toNat =
    exactEwma ctx.fastCpi.toNat sample.cpi.toNat 2
  slowCpi : (updateEwma ctx.slowCpi sample.cpi 5).toNat =
    exactEwma ctx.slowCpi.toNat sample.cpi.toNat 5
  fastLlcMpki : (updateEwma ctx.fastLlcMpki sample.mpkiMilli 2).toNat =
    exactEwma ctx.fastLlcMpki.toNat sample.mpkiMilli.toNat 2
  slowLlcMpki : (updateEwma ctx.slowLlcMpki sample.mpkiMilli 5).toNat =
    exactEwma ctx.slowLlcMpki.toNat sample.mpkiMilli.toNat 5
  adaptive : (roundedRatioMilli sample.cpi (ctx.updateAverages sample).referenceCpi).toNat =
    exactRatioMilli sample.cpi.toNat (ctx.updateAverages sample).referenceCpi.toNat
  absolute : (roundedRatioMilli sample.cpi (ctx.updateAverages sample).absoluteReference).toNat =
    exactRatioMilli sample.cpi.toNat (ctx.updateAverages sample).absoluteReference.toNat
  ratio : (ctx.ratioFor sample).toNat = ctx.calibratedRatio sample
  stored : (saturatedRatio (ctx.ratioFor sample)).toNat = ctx.calibratedRatio sample
  reported : (ctx.processMeasurement sample cfg degraded).2.1.ratioMilli.toNat =
    ctx.calibratedRatio sample
  trimmed : (ctx.trimmedFor sample).toNat = TrimmedMean.trimmedMean
    ((ctx.ratios.buffer.push (saturatedRatio (ctx.ratioFor sample))).used.map UInt32.toNat)
  slope : (ctx.updateAverages sample).slowCpi < (ctx.updateAverages sample).fastCpi →
    (slopeMilli (ctx.updateAverages sample).fastCpi (ctx.updateAverages sample).slowCpi).toNat =
      ctx.deltaRatio sample
  memoryBound : (ctx.updateAverages sample).MemoryBound sample.mpkiMilli ↔
    0 ≤ ctx.fdLlcMisses ∧ 2500 < ctx.llcRatio sample
  threshold : (ctx.thresholdFor sample cfg degraded).toNat =
    exactThreshold cfg (cfg.effectiveDownRatioMilli degraded) (ctx.deltaRatio sample)
      ((ctx.updateAverages sample).slowCpi < (ctx.updateAverages sample).fastCpi)
      (decide ((ctx.updateAverages sample).MemoryBound sample.mpkiMilli))
  consensus : (ctx.consensusSeverity sample cfg degraded).toNat =
    ((ctx.ratioFor sample).toNat + (ctx.trimmedFor sample).toNat) / 2 -
      (ctx.thresholdFor sample cfg degraded).toNat
  thermal : (thermalSeverity cfg sample.telemetry).toNat =
    exactThermalSeverity cfg sample.telemetry
  severity : (ctx.processMeasurement sample cfg degraded).2.1.severityMilli.toNat =
    (ctx.consensusSeverity sample cfg degraded).toNat +
      (thermalSeverity cfg sample.telemetry).toNat

/-- As costly by instructions and LLC rate, and no cheaper by work item, cooler or faster. -/
structure Measurement.Worsens (first second : Measurement) : Prop where
  cpi : second.cpi = first.cpi
  mpki : second.mpkiMilli = first.mpkiMilli
  works : 0 < first.workCostMilli
  cost : first.workCostMilli ≤ second.workCostMilli
  tempAvailable : second.telemetry.tempAvailable = first.telemetry.tempAvailable
  temp : first.telemetry.packageTempMillic ≤ second.telemetry.packageTempMillic
  freqRatioAvailable : second.telemetry.freqRatioAvailable = first.telemetry.freqRatioAvailable
  freqRatio : second.telemetry.freqRatioMilli ≤ first.telemetry.freqRatioMilli

theorem exactThermalSeverity_mono (cfg) {first second : Measurement}
    (worsens : first.Worsens second) :
    exactThermalSeverity cfg first.telemetry ≤ exactThermalSeverity cfg second.telemetry := by
  have temp := worsens.temp
  have freqRatio := worsens.freqRatio
  unfold exactThermalSeverity
  rw [worsens.tempAvailable, worsens.freqRatioAvailable]
  exact Nat.add_le_add (weighted_mono (by omega) _ _) (weighted_mono (by omega) _ _)

namespace PerfCtx

variable {ctx : PerfCtx} {first second sample : Measurement} {cfg : RuntimeConfig}

theorem thresholdFor_eq (worsens : first.Worsens second) (cfg degraded) :
    ctx.thresholdFor second cfg degraded = ctx.thresholdFor first cfg degraded := by
  unfold thresholdFor MemoryBound updateAverages
  simp only [worsens.cpi, worsens.mpki]

theorem calibratedRatio_mono (worsens : first.Worsens second) :
    ctx.calibratedRatio first ≤ ctx.calibratedRatio second := by
  have works : 0 < second.workCostMilli :=
    UInt64.lt_of_lt_of_le worsens.works worsens.cost
  unfold calibratedRatio Measurement.cost calibratedReference
  rw [if_pos worsens.works, if_pos works, if_pos worsens.works, if_pos works]
  have le := UInt64.le_iff_toNat_le.mp worsens.cost
  exact Nat.div_le_div_right (by omega)

theorem trimmedFor_mono (le : (ctx.ratioFor first).toNat ≤ (ctx.ratioFor second).toNat) :
    (ctx.trimmedFor first).toNat ≤ (ctx.trimmedFor second).toNat := by
  rw [toNat_trimmedFor, toNat_trimmedFor]
  apply TrimmedMean.trimmedMean_le_trimmedMean
  rw [List.forall₂_map_left_iff, List.forall₂_map_right_iff]
  refine ctx.ratios.buffer.forall₂_used_push (fun _ => Nat.le_refl _) ?_
  rw [toNat_saturatedRatio, toNat_saturatedRatio]
  exact min_le_min_right _ le

theorem RatiosFit.of_worsens (fits : ctx.RatiosFit second) (worsens : first.Worsens second) :
    ctx.RatiosFit first where
  work := (calibratedRatio_mono worsens).trans_lt fits.work
  absolute := by
    have absolute := fits.absolute
    unfold absoluteReference referenceCpi updateAverages at absolute ⊢
    rwa [worsens.cpi] at absolute
  llc := by
    have llc := fits.llc
    unfold llcRatio updateAverages at llc ⊢
    rwa [worsens.mpki] at llc
  delta := by
    have delta := fits.delta
    unfold deltaRatio updateAverages at delta ⊢
    rwa [worsens.cpi] at delta

theorem exactlyComputed (graded : Graded cfg) (degraded) (works : 0 < sample.workCostMilli)
    (calibrated : ctx.calibratedWorkReference ≠ 0) (fits : ctx.RatiosFit sample)
    (representable : Representable cfg sample.telemetry) :
    ctx.ExactlyComputed sample cfg degraded := by
  have reference : ctx.calibratedReference sample ≠ 0 := by
    rw [calibratedReference, if_pos works]
    exact calibrated
  have ratio := toNat_ratioFor_of_work works reference fits.work
  have small := ratio.trans_lt fits.work
  have adaptive := ctx.adaptiveRatio_le sample
  have slope := toNat_slopeMilli fits.delta
  have thermal := (toNat_thermalSeverity representable).1
  exact
    { fastCpi := toNat_updateEwma _ _ (by decide)
      slowCpi := toNat_updateEwma _ _ (by decide)
      fastLlcMpki := toNat_updateEwma _ _ (by decide)
      slowLlcMpki := toNat_updateEwma _ _ (by decide)
      adaptive := Nat.mod_eq_of_lt (adaptive.trans_lt (by decide))
      absolute := Nat.mod_eq_of_lt (fits.absolute.trans (by decide))
      ratio := ratio
      stored := by
        rw [toNat_saturatedRatio, ratio]
        omega
      reported := by
        refine Eq.trans ?_ ratio
        exact (UInt64.toNat_toUInt32 _).trans (Nat.mod_eq_of_lt small)
      trimmed := ctx.toNat_trimmedFor sample
      slope := slope
      memoryBound := and_congr_right fun _ =>
        iff_of_eq (congrArg _ (Nat.mod_eq_of_lt (fits.llc.trans (by decide))))
      threshold := by
        rw [thresholdFor, graded.toNat_dynamicThreshold, exactThreshold, exactThreshold]
        by_cases rises :
            (ctx.updateAverages sample).slowCpi < (ctx.updateAverages sample).fastCpi
        · rw [slope rises]
        · simp only [if_neg rises]
      consensus := toNat_consensusSeverity cfg degraded small
      thermal := thermal
      severity := (toNat_severityMilli degraded small representable).trans (by rw [thermal]) }

/-- A worse measurement is at least as severe in each part, and throttles if the better one does; no
operation of either wraps. -/
theorem severity_monotone {env : Cli.Environment} {arguments : List Cli.Argument}
    {final : Cli.State} (parsed : Cli.parseCli env arguments = .returned final)
    (calibrated : ctx.calibratedWorkReference ≠ 0) (worsens : first.Worsens second)
    (fits : ctx.RatiosFit second)
    (temp : second.telemetry.packageTempMillic ≤ RuntimeConfig.intMax) (degraded : Bool) :
    let better := ctx.processMeasurement first final.cfg degraded
    let worse := ctx.processMeasurement second final.cfg degraded
    ctx.consensusSeverity first final.cfg degraded ≤
        ctx.consensusSeverity second final.cfg degraded ∧
      better.2.1.thermalSeverityMilli ≤ worse.2.1.thermalSeverityMilli ∧
      better.2.1.severityMilli ≤ worse.2.1.severityMilli ∧
      better.2.1.trimmedRatioMilli ≤ worse.2.1.trimmedRatioMilli ∧
      (better.2.2 = true → worse.2.2 = true) ∧
      ctx.ExactlyComputed first final.cfg degraded ∧
      ctx.ExactlyComputed second final.cfg degraded := by
  intro better worse
  have graded := graded_of_parseCli parsed
  have representable : ∀ sample : Measurement,
      sample.telemetry.packageTempMillic ≤ second.telemetry.packageTempMillic →
      Representable final.cfg sample.telemetry := fun sample cooler =>
    ⟨graded.tempWeight.2.trans (by decide), graded.ratioWeight.2.trans (by decide),
      cooler.trans temp⟩
  have ratios := ctx.calibratedRatio_mono worsens
  have exactFirst := exactlyComputed graded degraded worsens.works calibrated
    (fits.of_worsens worsens) (representable first worsens.temp)
  have exactSecond := exactlyComputed graded degraded
    (UInt64.lt_of_lt_of_le worsens.works worsens.cost) calibrated fits
    (representable second le_rfl)
  rw [← exactFirst.ratio, ← exactSecond.ratio] at ratios
  have trimmed := trimmedFor_mono ratios
  have consensus : (ctx.consensusSeverity first final.cfg degraded).toNat ≤
      (ctx.consensusSeverity second final.cfg degraded).toNat := by
    rw [exactFirst.consensus, exactSecond.consensus, thresholdFor_eq worsens]
    omega
  have thermal : (thermalSeverity final.cfg first.telemetry).toNat ≤
      (thermalSeverity final.cfg second.telemetry).toNat := by
    rw [exactFirst.thermal, exactSecond.thermal]
    exact exactThermalSeverity_mono final.cfg worsens
  have severity : better.2.1.severityMilli ≤ worse.2.1.severityMilli := by
    rw [UInt64.le_iff_toNat_le, exactFirst.severity, exactSecond.severity]
    exact Nat.add_le_add consensus thermal
  refine ⟨UInt64.le_iff_toNat_le.mpr consensus, UInt64.le_iff_toNat_le.mpr thermal, severity,
    UInt32.le_iff_toNat_le.mpr trimmed, fun throttles => ?_, exactFirst, exactSecond⟩
  exact decide_eq_true (UInt64.lt_of_lt_of_le (of_decide_eq_true throttles) severity)

end PerfCtx

def costlySample : Measurement := ⟨1250, 60000, 0, ⟨true, true, 80000, 900, true, true, 80000, 900⟩⟩

def costlierSample : Measurement :=
  ⟨1250, 100000, 0, ⟨true, true, 90000, 800, true, true, 90000, 800⟩⟩

theorem costlier_work_more_severe :
    let final : Cli.State := ⟨Cli.settle (Cli.gathered ⟨none, fun _ => none⟩ []), false⟩
    Cli.parseCli ⟨none, fun _ => none⟩ [] = .returned final ∧
      (measuredCtx.processMeasurement costlySample final.cfg false).2.1.severityMilli ≤
        (measuredCtx.processMeasurement costlierSample final.cfg false).2.1.severityMilli ∧
      measuredCtx.ExactlyComputed costlierSample final.cfg false := by
  intro final
  have parsed : Cli.parseCli ⟨none, fun _ => none⟩ [] = .returned final :=
    Cli.parseCli_eq_returned_iff.mpr ⟨nofun, by decide, rfl⟩
  have calibrated : measuredCtx.calibratedWorkReference ≠ 0 := by decide
  have worsens : costlySample.Worsens costlierSample :=
    ⟨rfl, rfl, by decide, by decide, rfl, by decide, rfl, by decide⟩
  obtain ⟨-, -, severity, -, -, -, exact⟩ :=
    PerfCtx.severity_monotone parsed calibrated worsens
      ⟨by decide, by decide, by decide, by decide⟩ (by decide) false
  exact ⟨parsed, severity, exact⟩

end ThermalSimd
