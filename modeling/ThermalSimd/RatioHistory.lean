import ThermalSimd.ExactStatistics
import ThermalSimd.RingBuffer
import ThermalSimd.Samples

/-!
# Ratios and their history

What `process_measurement` compares and remembers, as natural numbers: the ratio of a cost to its
reference, the history of ratios, and the trimmed mean of the slots in use.
-/

namespace ThermalSimd

open RingBuffer (Buffer)

/-- `value` per `reference` in thousandths, rounded to the nearest. -/
def exactRatioMilli (value reference : ℕ) : ℕ := (value * 1000 + reference / 2) / reference

theorem toNat_roundedRatioMilli (v reference) :
    (roundedRatioMilli v reference).toNat =
      exactRatioMilli v.toNat reference.toNat % 2 ^ 64 := by
  rfl

theorem exactRatioMilli_le {v reference factor} (part : v ≤ factor * reference) :
    exactRatioMilli v reference ≤ factor * 1000 := by
  rcases reference.eq_zero_or_pos with rfl | pos
  · simp [exactRatioMilli]
  · rw [exactRatioMilli, ← Nat.lt_succ_iff, Nat.div_lt_iff_lt_mul pos, Nat.succ_mul,
      mul_right_comm]
    omega

def saturatedRatio (ratioMilli : UInt64) : UInt32 :=
  if 0xFFFFFFFF < ratioMilli then 0xFFFFFFFF else ratioMilli.toUInt32

theorem toNat_saturatedRatio (ratioMilli) :
    (saturatedRatio ratioMilli).toNat = min ratioMilli.toNat (2 ^ 32 - 1) := by
  have limit : UInt64.toNat 0xFFFFFFFF = 2 ^ 32 - 1 := rfl
  unfold saturatedRatio
  split
  · next above =>
      exact (min_eq_right above.le).symm
  · next fits =>
      rw [UInt64.lt_iff_toNat_lt, limit] at fits
      rw [UInt64.toNat_toUInt32]
      omega

def RatioRing.buffer (ratios : RatioRing) : Buffer UInt32 ratioHistory :=
  ⟨ratios.history, ratios.count, ratios.cursor⟩

namespace PerfCtx

theorem toNat_trimmed_storeRatio (ctx : PerfCtx) (ratioMilli) :
    (ctx.storeRatio ratioMilli).ratioTrimmedMilli.toNat =
      TrimmedMean.trimmedMean
        ((ctx.storeRatio ratioMilli).ratios.buffer.used.map UInt32.toNat) := by
  have pos : 1 ≤ (ctx.storeRatio ratioMilli).ratioHistoryCount := by
    unfold storeRatio
    dsimp only
    split <;> omega
  refine (toNat_computeTrimmedMean pos (by simp)).trans ?_
  rw [← List.take_take, List.take_of_length_le (i := ThermalSimd.ratioHistory) (by simp)]
  rfl

end PerfCtx

def Measurement.cost (sample : Measurement) : UInt64 :=
  if 0 < sample.workCostMilli then sample.workCostMilli else sample.cpi

namespace PerfCtx

variable (ctx : PerfCtx) (sample : Measurement)

def calibratedReference : UInt64 :=
  if 0 < sample.workCostMilli then ctx.calibratedWorkReference else ctx.calibratedCpiReference

def calibratedRatio : ℕ :=
  exactRatioMilli sample.cost.toNat (ctx.calibratedReference sample).toNat

def ratioFor : UInt64 := (ctx.updateAverages sample).measuredRatioMilli sample

theorem slowCpi_updateAverages_ne_zero : (ctx.updateAverages sample).slowCpi ≠ 0 := by
  unfold updateAverages
  dsimp only
  split_ifs with slow cpi baseline
  · exact slow
  · exact cpi
  · exact baseline
  · decide

theorem exactEwma_le_slowCpi :
    exactEwma ctx.slowCpi.toNat sample.cpi.toNat 5 ≤ (ctx.updateAverages sample).slowCpi.toNat := by
  have step := @toNat_updateEwma ctx.slowCpi sample.cpi 5 (by decide)
  refine step.symm.trans_le ?_
  unfold updateAverages
  dsimp only
  split_ifs with nonzero
  · exact le_rfl
  all_goals
    rw [not_not.mp nonzero]
    exact Nat.zero_le _

theorem adaptiveRatio_le :
    exactRatioMilli sample.cpi.toNat (ctx.updateAverages sample).referenceCpi.toNat ≤ 32000 := by
  have reference : (ctx.updateAverages sample).referenceCpi = (ctx.updateAverages sample).slowCpi :=
    if_pos (ctx.slowCpi_updateAverages_ne_zero sample)
  rw [reference]
  exact exactRatioMilli_le ((le_exactEwma _ _ 5).trans
    (Nat.mul_le_mul_left _ (ctx.exactEwma_le_slowCpi sample)))

variable {ctx sample}

theorem calibratedReference_updateAverages (calibrated : ctx.calibratedReference sample ≠ 0) :
    (ctx.updateAverages sample).calibratedReference sample = ctx.calibratedReference sample := by
  unfold calibratedReference at calibrated ⊢
  split
  · next work =>
      rw [if_pos work] at calibrated
      exact if_neg fun fresh => calibrated fresh.2
  · next work =>
      rw [if_neg work] at calibrated
      exact if_neg fun fresh => calibrated fresh.1

theorem toNat_ratioFor_of_work (work : 0 < sample.workCostMilli)
    (calibrated : ctx.calibratedReference sample ≠ 0)
    (bound : ctx.calibratedRatio sample < 2 ^ 32) :
    (ctx.ratioFor sample).toNat = ctx.calibratedRatio sample := by
  have reference := calibratedReference_updateAverages calibrated
  rw [calibratedReference, if_pos work] at reference
  have cost : sample.cost = sample.workCostMilli := if_pos work
  rw [ratioFor, measuredRatioMilli, if_pos work, reference, toNat_roundedRatioMilli, ← cost]
  exact Nat.mod_eq_of_lt (bound.trans (by decide))

theorem toNat_ratioFor_of_no_work (work : ¬ 0 < sample.workCostMilli)
    (calibrated : ctx.calibratedReference sample ≠ 0)
    (bound : ctx.calibratedRatio sample < 2 ^ 32) :
    (ctx.ratioFor sample).toNat =
      max (exactRatioMilli sample.cpi.toNat (ctx.updateAverages sample).referenceCpi.toNat)
        (ctx.calibratedRatio sample) := by
  have reference := calibratedReference_updateAverages calibrated
  rw [calibratedReference, if_neg work] at reference
  have cost : sample.cost = sample.cpi := if_neg work
  have adaptive := ctx.adaptiveRatio_le sample
  rw [ratioFor, measuredRatioMilli, if_neg work, absoluteReference]
  rw [reference, if_pos calibrated, UInt64.toNat_max, toNat_roundedRatioMilli,
    toNat_roundedRatioMilli, Nat.mod_eq_of_lt (by omega), ← cost]
  congr 1
  exact Nat.mod_eq_of_lt (bound.trans (by decide))

theorem calibratedRatio_le_ratioFor (calibrated : ctx.calibratedReference sample ≠ 0)
    (bound : ctx.calibratedRatio sample < 2 ^ 32) :
    ctx.calibratedRatio sample ≤ (ctx.ratioFor sample).toNat ∧
      (ctx.ratioFor sample).toNat < 2 ^ 32 := by
  by_cases work : 0 < sample.workCostMilli
  · rw [toNat_ratioFor_of_work work calibrated bound]
    exact ⟨le_rfl, bound⟩
  · rw [toNat_ratioFor_of_no_work work calibrated bound]
    have adaptive := ctx.adaptiveRatio_le sample
    exact ⟨le_max_right _ _, max_lt (by omega) bound⟩

end PerfCtx

end ThermalSimd
