import ThermalSimd.CText
import ThermalSimd.Settings

/-!
# Option values

`config_parser.c`: integers, milliseconds, ratios and fractions as they are written. What is
accepted is in the range asked for, and every number written out in that range is accepted.
-/

namespace ThermalSimd

open CText Binary64

variable {value text : List Char}

/-- `tsd_parse_int_option`. -/
def parseIntOption (value : List Char) (min max : ℤ) : Option ℤ :=
  let parsed := strtol value
  if parsed.erange = true ∨ parsed.rest = value ∨ parsed.rest ≠ [] then none
  else if parsed.value < min ∨ max < parsed.value then none
  else some parsed.value

/-- `tsd_parse_ms_option`: milliseconds as microseconds. -/
def parseMsOption (value : List Char) (minMs maxMs : ℤ) : Option ℤ :=
  match parseIntOption value minMs maxMs with
  | none => none
  | some ms => if RuntimeConfig.intMax < ms * 1000 then none else some (ms * 1000)

/-- `tsd_parse_double_option`. -/
def parseDoubleOption (value : List Char) (min max : ℚ) : Option ℚ :=
  let parsed := strtod value
  if parsed.erange = true ∨ parsed.rest = value ∨ parsed.rest ≠ [] then none
  else
    match parsed.value with
    | none => none
    | some number => if number < min ∨ max < number then none else some number

/-- `tsd_parse_ratio_option`: the ratio and its scaled form; `(double)UINT64_MAX` is `2 ^ 64`. -/
def parseRatioOption (value : List Char) (min max : ℚ) : Option (ℚ × ℕ) :=
  match parseDoubleOption value min max with
  | none => none
  | some ratio =>
    let scaled := nearest (ratio * 1000)
    if scaled < 0 ∨ 2 ^ 64 < scaled then none else some (ratio, scaleRatio ratio)

theorem parseIntOption_bounds {min max number}
    (parsed : parseIntOption value min max = some number) : min ≤ number ∧ number ≤ max := by
  unfold parseIntOption at parsed
  dsimp only at parsed
  split_ifs at parsed with bad outside
  cases parsed
  omega

theorem parseDoubleOption_bounds {min max number}
    (parsed : parseDoubleOption value min max = some number) : min ≤ number ∧ number ≤ max := by
  unfold parseDoubleOption at parsed
  dsimp only at parsed
  split_ifs at parsed with bad
  split at parsed
  · cases parsed
  · split_ifs at parsed with outside
    cases parsed
    push Not at outside
    exact outside

theorem parseRatioOption_eq {min max ratio scaled}
    (parsed : parseRatioOption value min max = some (ratio, scaled)) :
    (min ≤ ratio ∧ ratio ≤ max) ∧ scaled = scaleRatio ratio := by
  unfold parseRatioOption at parsed
  split at parsed
  · cases parsed
  · next found =>
      dsimp only at parsed
      split_ifs at parsed
      cases parsed
      exact ⟨parseDoubleOption_bounds found, rfl⟩

theorem parseIntOption_of_writesInt {min max value} (writes : WritesInt text value)
    (within : min ≤ value ∧ value ≤ max) (long : -2 ^ 63 ≤ min ∧ max ≤ 2 ^ 63 - 1) :
    parseIntOption text min max = some value := by
  have converted := strtol_of_writesInt writes (by omega) (by omega)
  simp only [parseIntOption, converted, ne_eq, not_true_eq_false, or_false, Bool.false_eq_true,
    false_or, if_neg writes.ne_nil.symm]
  rw [if_neg (by omega)]

/-- A number written out is accepted as the nearest `double`, unless its conversion underflows. -/
theorem parseDoubleOption_of_writesDouble {min max value} (writes : WritesDouble text value)
    (within : min ≤ value ∧ value ≤ max) (bounds : -10 ≤ min ∧ max ≤ 10)
    (exact : ¬ WritesUnderflow text) : parseDoubleOption text min max = some value := by
  obtain ⟨number, writes, rfl⟩ := writes
  have small : |nearest number| < 2 ^ 1024 := by
    refine (abs_le.mpr ⟨bounds.1.trans within.1, within.2.trans bounds.2⟩).trans_lt ?_
    decide +kernel
  have converted : strtod text = ⟨some (nearest number), [], false⟩ := by
    rw [strtod_of_writesReal writes, convertedReal, if_neg (not_le.mpr small)]
    congr 1
    exact decide_eq_false fun underflows => exact ⟨number, writes, underflows⟩
  simp only [parseDoubleOption, converted, ne_eq, not_true_eq_false, or_false, Bool.false_eq_true,
    false_or, if_neg writes.ne_nil.symm]
  rw [if_neg (not_or.mpr ⟨not_lt.mpr within.1, not_lt.mpr within.2⟩)]

theorem parseDoubleOption_of_underflow {min max} (writes : WritesUnderflow text) :
    parseDoubleOption text min max = none := by
  obtain ⟨number, writes, underflows⟩ := writes
  have range : (strtod text).erange = true := by
    rw [strtod_of_writesReal writes, convertedReal]
    split_ifs
    · rfl
    · exact decide_eq_true underflows
  simp [parseDoubleOption, range]

private theorem abs_nearest_le_of_underflows {number} (underflows : Underflows number) :
    |nearest number| ≤ 1 / 4 := by
  have quarters : nearest (1 / 4) = 1 / 4 ∧ nearest (-(1 / 4)) = -(1 / 4) := by decide +kernel
  have bound : (1 / 2 ^ 1022 - 1 / 2 ^ 1076 : ℚ) ≤ 1 / 4 := by decide +kernel
  obtain ⟨least, greatest⟩ := abs_le.mp (underflows.1.le.trans bound)
  exact abs_le.mpr ⟨quarters.2 ▸ nearest_mono least, quarters.1 ▸ nearest_mono greatest⟩

/-- A number that rounds to one half or more does not underflow. -/
theorem not_writesUnderflow_of_half_le {value} (writes : WritesDouble text value)
    (half : 1 / 2 ≤ value) : ¬ WritesUnderflow text := by
  rintro ⟨small, writesSmall, underflows⟩
  obtain ⟨number, writes, rfl⟩ := writes
  have tiny := abs_nearest_le_of_underflows underflows
  have finite : ¬ 2 ^ 1024 ≤ |nearest small| :=
    not_le.mpr (tiny.trans_lt (by decide +kernel))
  have same : convertedReal number [] = convertedReal small [] :=
    (strtod_of_writesReal writes).symm.trans (strtod_of_writesReal writesSmall)
  rw [convertedReal, convertedReal, if_neg finite] at same
  split_ifs at same
  · cases same
  · injection same with values
    linarith [Option.some.inj values, (abs_le.mp tiny).2]

theorem parseRatioOption_of_writesDouble {min max value} (writes : WritesDouble text value)
    (within : min ≤ value ∧ value ≤ max) (bounds : 1 / 2 ≤ min ∧ max ≤ 10) :
    parseRatioOption text min max = some (value, scaleRatio value) := by
  have exact := not_writesUnderflow_of_half_le writes (bounds.1.trans within.1)
  have parsed := parseDoubleOption_of_writesDouble writes within ⟨by linarith, bounds.2⟩ exact
  rw [parseRatioOption, parsed]
  have ends : nearest 500 = 500 ∧ nearest 10000 = 10000 := by decide +kernel
  have least : (500 : ℚ) ≤ nearest (value * 1000) :=
    ends.1 ▸ nearest_mono (by linarith)
  have greatest : nearest (value * 1000) ≤ 10000 :=
    ends.2 ▸ nearest_mono (by linarith)
  exact if_neg (not_or.mpr ⟨not_lt.mpr (by linarith), not_lt.mpr (by linarith)⟩)

end ThermalSimd
