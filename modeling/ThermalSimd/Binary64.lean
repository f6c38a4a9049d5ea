import Mathlib.Data.Int.Log
import Mathlib.Data.Rat.Floor
import Mathlib.Tactic.Linarith

/-!
# Doubles

Rounding to the nearest number of the binary64 format, ties to even. A `double` is the number it
stands for; exponents are bounded below and not above, so an overflow is a result of `2 ^ 1024`.
-/

namespace Binary64

/-- The nearest integer, and the even one of two. -/
def roundHalfEven (value : ℚ) : ℤ :=
  let below := ⌊value⌋
  if value - below < 1 / 2 then below
  else if 1 / 2 < value - below then below + 1
  else if below % 2 = 0 then below else below + 1

variable {value larger : ℚ} {number place : ℤ}

private theorem le_roundHalfEven (le : number ≤ value) : number ≤ roundHalfEven value := by
  have floor : number ≤ ⌊value⌋ := Int.le_floor.mpr le
  unfold roundHalfEven
  dsimp only
  split_ifs <;> omega

private theorem roundHalfEven_le (le : value ≤ number) : roundHalfEven value ≤ number := by
  have floor : ⌊value⌋ ≤ number := Int.cast_le.mp ((Int.floor_le value).trans le)
  obtain same | above := floor.eq_or_lt
  · have whole : value - ⌊value⌋ < 1 / 2 := by
      rw [same]
      linarith
    simp only [roundHalfEven, if_pos whole, floor]
  · unfold roundHalfEven
    dsimp only
    split_ifs <;> omega

private theorem roundHalfEven_mono (le : value ≤ larger) :
    roundHalfEven value ≤ roundHalfEven larger := by
  have floors : ⌊value⌋ ≤ ⌊larger⌋ := Int.floor_le_floor le
  obtain same | apart := floors.eq_or_lt
  · simp only [roundHalfEven, same]
    split_ifs <;> first | omega | linarith
  · have between : value ≤ (⌊larger⌋ : ℤ) := by
      have next : ((⌊value⌋ + 1 : ℤ) : ℚ) ≤ ⌊larger⌋ := Int.cast_le.mpr apart
      push_cast at next
      linarith [Int.lt_floor_add_one value]
    exact (roundHalfEven_le between).trans (le_roundHalfEven (Int.floor_le larger))

/-- The exponent of the last place of the doubles around a number. -/
def lastPlace (value : ℚ) : ℤ := max (Int.log 2 |value| - 52) (-1074)

/-- The nearest `double`, and of two the one with an even last place. -/
def nearest (value : ℚ) : ℚ := roundHalfEven (value / 2 ^ lastPlace value) * 2 ^ lastPlace value

private theorem multiple_of_le (coarser : lastPlace value ≤ place) :
    (number * 2 ^ place : ℚ) =
      (number * 2 ^ (place - lastPlace value).toNat : ℤ) * 2 ^ lastPlace value := by
  have split : (2 : ℚ) ^ place = 2 ^ (place - lastPlace value).toNat * 2 ^ lastPlace value := by
    rw [← zpow_natCast, ← zpow_add₀ two_ne_zero]
    congr 1
    omega
  rw [split]
  push_cast
  ring

/-- A multiple of a place no finer than the last one still bounds the rounded number. -/
theorem nearest_le (coarser : lastPlace value ≤ place) (le : value ≤ number * 2 ^ place) :
    nearest value ≤ number * 2 ^ place := by
  have positive : (0 : ℚ) < 2 ^ lastPlace value := zpow_pos two_pos _
  rw [multiple_of_le coarser] at le ⊢
  refine mul_le_mul_of_nonneg_right ?_ positive.le
  exact Int.cast_le.mpr (roundHalfEven_le ((div_le_iff₀ positive).mpr le))

/-- The bound from below. -/
theorem le_nearest (coarser : lastPlace value ≤ place) (le : number * 2 ^ place ≤ value) :
    number * 2 ^ place ≤ nearest value := by
  have positive : (0 : ℚ) < 2 ^ lastPlace value := zpow_pos two_pos _
  rw [multiple_of_le coarser] at le ⊢
  refine mul_le_mul_of_nonneg_right ?_ positive.le
  exact Int.cast_le.mpr (le_roundHalfEven ((le_div_iff₀ positive).mpr le))

private theorem nearest_nonneg (nonneg : 0 ≤ value) : 0 ≤ nearest value := by
  simpa using @le_nearest value 0 _ le_rfl (by simpa using nonneg)

private theorem nearest_nonpos (nonpos : value ≤ 0) : nearest value ≤ 0 := by
  simpa using @nearest_le value 0 _ le_rfl (by simpa using nonpos)

/-- A power of two lies between numbers with different last places. -/
private theorem exists_power_between (finer : lastPlace value < lastPlace larger)
    (nonzero : larger ≠ 0) :
    ∃ power, lastPlace larger ≤ power ∧ |value| < 2 ^ power ∧ 2 ^ power ≤ |larger| := by
  have logs : Int.log 2 |value| + 1 ≤ Int.log 2 |larger| ∧
      lastPlace larger ≤ Int.log 2 |larger| := by
    unfold lastPlace at finer ⊢
    omega
  refine ⟨Int.log 2 |larger|, logs.2, ?_, ?_⟩
  · have above := Int.lt_zpow_succ_log_self one_lt_two |value|
    exact above.trans_le (zpow_le_zpow_right₀ one_le_two logs.1)
  · exact Int.zpow_log_le_self one_lt_two (abs_pos.mpr nonzero)

private theorem nearest_mono_of_same (same : lastPlace value = lastPlace larger)
    (le : value ≤ larger) : nearest value ≤ nearest larger := by
  have positive : (0 : ℚ) < 2 ^ lastPlace larger := zpow_pos two_pos _
  rw [nearest, nearest, same]
  refine mul_le_mul_of_nonneg_right (Int.cast_le.mpr (roundHalfEven_mono ?_)) positive.le
  exact div_le_div_of_nonneg_right le positive.le

/-- Rounding keeps the order. -/
theorem nearest_mono (le : value ≤ larger) : nearest value ≤ nearest larger := by
  by_cases crosses : value ≤ 0 ∧ 0 ≤ larger
  · exact (nearest_nonpos crosses.1).trans (nearest_nonneg crosses.2)
  obtain finer | same | coarser := lt_trichotomy (lastPlace value) (lastPlace larger)
  · have nonzero : larger ≠ 0 := fun zero => crosses ⟨zero ▸ le, zero.ge⟩
    obtain ⟨power, place, below, above⟩ := exists_power_between finer nonzero
    rcases le_abs.mp above with positive | negative
    · have upper := @nearest_le value 1 power (finer.le.trans place)
        (by simpa using (le_abs_self value).trans below.le)
      exact upper.trans (le_nearest place (by simpa using positive))
    · linarith [neg_abs_le value]
  · exact nearest_mono_of_same same le
  · have nonzero : value ≠ 0 := fun zero => crosses ⟨zero.le, zero ▸ le⟩
    obtain ⟨power, place, below, above⟩ := exists_power_between coarser nonzero
    rcases le_abs.mp above with positive | negative
    · linarith [le_abs_self larger]
    · have upper := @nearest_le value (-1) power place (by simp; linarith)
      exact upper.trans
        (le_nearest (coarser.le.trans place) (by simp; linarith [neg_abs_le larger]))

end Binary64
