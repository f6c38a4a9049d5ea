import ThermalSimd.SortInPlace
import Mathlib.Data.Vector.Basic

/-!
# Running statistics

The integer EWMA step and the trimmed mean of `statistics.c`, in the 64- and 32-bit arithmetic of
the source.
-/

namespace ThermalSimd

/-- `TSD_RATIO_HISTORY`. -/
abbrev ratioHistory : ℕ := 8

/-- `tsd_update_ewma`. -/
def updateEwma (prev sample : UInt64) (shift : UInt64) : UInt64 :=
  if prev = 0 ∨ shift = 0 then sample
  else if sample = prev then prev
  else if prev < sample then
    let step := (sample - prev) >>> shift
    let next := prev + if step = 0 then 1 else step
    if sample < next then sample else next
  else
    let step := (prev - sample) >>> shift
    let next := prev - if step = 0 then 1 else step
    if next < sample then sample else next

def sumUInt64 (values : List UInt32) : UInt64 :=
  values.foldl (fun sum value => sum + value.toUInt64) 0

def sumAndCount (values : List UInt32) : UInt64 × UInt64 :=
  values.foldl (fun (sum, samples) value => (sum + value.toUInt64, samples + 1)) (0, 0)

/-- `tsd_compute_trimmed_mean` of the first `count` entries. -/
def computeTrimmedMean (values : List UInt32) (count : ℕ) : UInt32 :=
  if count = 0 then 0
  else
    let count := min count ratioHistory
    let scratch := SortInPlace.sort (· ≤ ·) (values.take count)
    if count ≤ 2 then (sumUInt64 scratch / UInt64.ofNat count).toUInt32
    else
      let (sum, samples) := sumAndCount ((scratch.drop 1).take (count - 2))
      if samples ≠ 0 then (sum / samples).toUInt32 else scratch.getD (count / 2) 0

end ThermalSimd
