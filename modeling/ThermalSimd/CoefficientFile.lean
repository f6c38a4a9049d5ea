import Mathlib.Data.List.DropRight
import Mathlib.Tactic.NormNum
import ThermalSimd.Controller
import ThermalSimd.JsonSyntax

/-!
# The coefficient file

The parser of `arx_model.cpp`. It does not tokenize: each field is found by searching the text for
its quoted name, and its value is read behind the next colon or bracket. The arithmetic of its
numbers is a parameter.
-/

namespace ThermalSimd
namespace Policy

open CText JsonSyntax

/-- The fields the parser looks for. -/
inductive Field
  | bias
  | arTemperature
  | ratio
  | severity
  | trimmedRatio
  | ma
  | stalenessWindowMs
  | widthTemperatureMillicPerStep
  | widthPerformanceBenefitMilliPerStep
  deriving DecidableEq

def Field.name : Field → List Char
  | bias => ['b', 'i', 'a', 's']
  | arTemperature => ['a', 'r', '_', 't', 'e', 'm', 'p', 'e', 'r', 'a', 't', 'u', 'r', 'e']
  | ratio => ['r', 'a', 't', 'i', 'o']
  | severity => ['s', 'e', 'v', 'e', 'r', 'i', 't', 'y']
  | trimmedRatio => ['t', 'r', 'i', 'm', 'm', 'e', 'd', '_', 'r', 'a', 't', 'i', 'o']
  | ma => ['m', 'a']
  | stalenessWindowMs =>
    ['s', 't', 'a', 'l', 'e', 'n', 'e', 's', 's', '_', 'w', 'i', 'n', 'd', 'o', 'w', '_', 'm', 's']
  | widthTemperatureMillicPerStep =>
    ['w', 'i', 'd', 't', 'h', '_', 't', 'e', 'm', 'p', 'e', 'r', 'a', 't', 'u', 'r', 'e', '_', 'm',
      'i', 'l', 'l', 'i', 'c', '_', 'p', 'e', 'r', '_', 's', 't', 'e', 'p']
  | widthPerformanceBenefitMilliPerStep =>
    ['w', 'i', 'd', 't', 'h', '_', 'p', 'e', 'r', 'f', 'o', 'r', 'm', 'a', 'n', 'c', 'e', '_', 'b',
      'e', 'n', 'e', 'f', 'i', 't', '_', 'm', 'i', 'l', 'l', 'i', '_', 'p', 'e', 'r', '_', 's', 't',
      'e', 'p']

/-- The errors of the parser, by the field they name. -/
inductive CoefficientError
  | missing (field : Field)
  | malformed (field : Field)
  | invalidNumeric (field : Field)
  | notFinite (field : Field)
  | outOfRange (field : Field)
  | malformedArray (field : Field)
  | emptyEntry (field : Field)
  | invalidEntry (field : Field)
  | unterminated (field : Field)
  | noTemperature
  | negative (field : Field)
  deriving DecidableEq

/-- The characters of which `extractNumberToken` makes a token. -/
def isNumberChar (c : Char) : Bool :=
  c.isDigit || c == '-' || c == '+' || c == '.' || c == 'e' || c == 'E'

def isTrimmed (c : Char) : Bool := c == ' ' || c == '\t' || c == '\n' || c == '\r'

def inEntry (c : Char) : Bool := c != ',' && c != ']'

def skipComma (text : List Char) : List Char := if text.head? = some ',' then text.tail else text

theorem length_skipComma_le (text) : (skipComma text).length ≤ text.length := by
  unfold skipComma
  split
  · exact (List.tail_sublist text).length_le
  · exact Nat.le_refl _

theorem length_behindEntry_lt {c more}
    (ne : (((c :: more).takeWhile inEntry).dropWhile isTrimmed).rdropWhile isTrimmed ≠ []) :
    (skipComma ((c :: more).dropWhile inEntry)).length < (c :: more).length := by
  have first : inEntry c = true := by
    by_contra ends
    rw [List.takeWhile_cons_of_neg ends] at ne
    exact ne rfl
  rw [List.dropWhile_cons_of_pos first]
  have inner := (List.dropWhile_sublist inEntry (l := more)).length_le
  exact ((length_skipComma_le _).trans inner).trans_lt (Nat.lt_succ_self _)

/-- How texts become numbers, and how a sum is rounded. -/
structure Floats where
  strtod : List Char → Converted (Option ℚ)
  round : ℚ → ℚ

/-- Exact sums, over any conversion. -/
def Floats.exact (strtod : List Char → Converted (Option ℚ)) : Floats := ⟨strtod, id⟩

/-- The C library's `double`. -/
def Floats.binary64 : Floats := ⟨CText.strtod, Binary64.nearest⟩

section

variable (strtod : List Char → Converted (Option ℚ)) (floats : Floats)

/-- The value of a token that is a finite number up to its zero byte. -/
def finiteNumber (token : List Char) : Option ℚ :=
  let converted := strtod (token.takeWhile (· ≠ '\x00'))
  if converted.erange = false ∧ converted.rest = [] then converted.value else none

variable (content : List Char) (field : Field)

/-- `parseDoubleField`: the value, or nothing where an optional field is absent. -/
def parseDoubleField (required : Bool) : Except CoefficientError (Option ℚ) :=
  match behindFirst (quoted field.name) content with
  | none => if required then .error (.missing field) else .ok none
  | some behind =>
    match behindFirst [':'] behind with
    | none => .error (.malformed field)
    | some behind =>
      let token := (behind.dropWhile isSpace).takeWhile isNumberChar
      if token = [] then .error (.invalidNumeric field)
      else
        match finiteNumber strtod token with
        | none => .error (.notFinite field)
        | some value => .ok (some value)

/-- `parseUint64Field` for an optional field; a sum of `2 ^ 64` has no conversion. -/
def parseUint64Field : Except CoefficientError (Option ℕ) :=
  match parseDoubleField floats.strtod content field false with
  | .error e => .error e
  | .ok none => .ok none
  | .ok (some value) =>
    if value < 0 ∨ 2 ^ 64 < value then .error (.outOfRange field)
    else .ok (some (⌊floats.round (value + 1 / 2)⌋.toNat % 2 ^ 64))

/-- The loop of `parseDoubleArrayField` over the entries of an array. -/
def arrayLoop (field : Field) (text : List Char) : Except CoefficientError (List ℚ) :=
  match _ : text.dropWhile isSpace with
  | [] => .error (.unterminated field)
  | c :: more =>
    if c = ']' then .ok []
    else
      let token := (c :: more).takeWhile inEntry
      let entry := (token.dropWhile isTrimmed).rdropWhile isTrimmed
      if _ : entry = [] then .error (.emptyEntry field)
      else
        match finiteNumber strtod entry with
        | none => .error (.invalidEntry field)
        | some value =>
          match arrayLoop field (skipComma ((c :: more).dropWhile inEntry)) with
          | .error e => .error e
          | .ok values => .ok (value :: values)
  termination_by text.length
  decreasing_by
    have spaces := (List.dropWhile_sublist isSpace (l := text)).length_le
    rw [‹text.dropWhile isSpace = c :: more›] at spaces
    exact (length_behindEntry_lt ‹_›).trans_le spaces

/-- `parseDoubleArrayField`. -/
def parseDoubleArrayField : Except CoefficientError (List ℚ) :=
  match behindFirst (quoted field.name) content with
  | none => .ok []
  | some behind =>
    match behindFirst ['['] behind with
    | none => .error (.malformedArray field)
    | some behind => arrayLoop strtod field behind

def parseWidthField (default : ℚ) (nonneg : 0 ≤ default) :
    Except CoefficientError {value : ℚ // 0 ≤ value} :=
  match parseDoubleField strtod content field false with
  | .error e => .error e
  | .ok none => .ok ⟨default, nonneg⟩
  | .ok (some value) =>
    if negative : value < 0 then .error (.negative field) else .ok ⟨value, not_lt.mp negative⟩

def parseStaleness : Except CoefficientError ℕ :=
  match parseUint64Field floats content .stalenessWindowMs with
  | .error e => .error e
  | .ok none => .ok 500
  | .ok (some window) => .ok (if window = 0 then 1 else window)

def parseBias : Except CoefficientError ℚ :=
  match parseDoubleField strtod content .bias true with
  | .error e => .error e
  | .ok none => .error (.missing .bias)
  | .ok (some bias) => .ok bias

def parseTemperature : Except CoefficientError (List ℚ) :=
  match parseDoubleArrayField strtod content .arTemperature with
  | .error e => .error e
  | .ok coeffs => if coeffs = [] then .error .noTemperature else .ok coeffs

/-- The values `parseContent` reads, all of them before it stores the first. -/
def readContent : Except CoefficientError Coefficients := do
  let bias ← parseBias floats.strtod content
  let temperatureCoeffs ← parseTemperature floats.strtod content
  let ratioCoeffs ← parseDoubleArrayField floats.strtod content .ratio
  let severityCoeffs ← parseDoubleArrayField floats.strtod content .severity
  let trimmedRatioCoeffs ← parseDoubleArrayField floats.strtod content .trimmedRatio
  let maCoefficient ← parseDoubleField floats.strtod content .ma false
  let stalenessWindowMs ← parseStaleness floats content
  let widthTemperature ← parseWidthField floats.strtod content .widthTemperatureMillicPerStep 2000
    Coefficients.initial.widthTemperature_nonneg
  let widthPerformance ←
    parseWidthField floats.strtod content .widthPerformanceBenefitMilliPerStep 100
      Coefficients.initial.widthPerformanceBenefit_nonneg
  return ⟨bias, temperatureCoeffs, ratioCoeffs, severityCoeffs, trimmedRatioCoeffs, maCoefficient,
    stalenessWindowMs, widthTemperature, widthPerformance, widthTemperature.2, widthPerformance.2⟩

/-- `parseContent`, with the error it reports. -/
def ArxModel.parseContent (model : ArxModel) (content : List Char) :
    ArxModel × Option CoefficientError :=
  match readContent floats content with
  | .error e => (model, some e)
  | .ok coefficients => ({ model with coefficients }, none)

def readFile (content : Option (List Char)) : Option Coefficients :=
  content.bind fun content => (readContent floats content).toOption

/-- The parser reads these coefficients, field by field. -/
structure Reads (content : List Char) (coefficients : Coefficients) : Prop where
  bias : parseBias floats.strtod content = .ok coefficients.bias
  temperature : parseTemperature floats.strtod content = .ok coefficients.temperatureCoeffs
  ratio : parseDoubleArrayField floats.strtod content .ratio = .ok coefficients.ratioCoeffs
  severity : parseDoubleArrayField floats.strtod content .severity = .ok coefficients.severityCoeffs
  trimmedRatio : parseDoubleArrayField floats.strtod content .trimmedRatio =
    .ok coefficients.trimmedRatioCoeffs
  ma : parseDoubleField floats.strtod content .ma false = .ok coefficients.maCoefficient
  staleness : parseStaleness floats content = .ok coefficients.stalenessWindowMs
  widthTemperature : ∃ nonneg,
    parseWidthField floats.strtod content .widthTemperatureMillicPerStep 2000 nonneg =
      .ok ⟨coefficients.widthTemperatureMillicPerStep, coefficients.widthTemperature_nonneg⟩
  widthPerformance : ∃ nonneg,
    parseWidthField floats.strtod content .widthPerformanceBenefitMilliPerStep 100 nonneg =
      .ok ⟨coefficients.widthPerformanceBenefitMilliPerStep,
        coefficients.widthPerformanceBenefit_nonneg⟩

theorem bind_eq_ok {α β : Type} {result} {next : α → Except CoefficientError β} {value} :
    (result >>= next) = .ok value ↔ ∃ read, result = .ok read ∧ next read = .ok value := by
  cases result with
  | error e => exact ⟨nofun, fun ⟨_, impossible, _⟩ => nomatch impossible⟩
  | ok read => exact ⟨fun ends => ⟨read, rfl, ends⟩, fun ⟨_, rfl, ends⟩ => ends⟩

theorem readContent_eq_ok_iff {content coefficients} :
    readContent floats content = .ok coefficients ↔ Reads floats content coefficients := by
  constructor
  · intro read
    simp only [readContent, bind_eq_ok] at read
    obtain ⟨_, bias, _, temperature, _, ratio, _, severity, _, trimmedRatio, _, ma, _, staleness, _,
      widthTemperature, _, widthPerformance, returned⟩ := read
    cases Except.ok.inj returned
    exact ⟨bias, temperature, ratio, severity, trimmedRatio, ma, staleness, ⟨_, widthTemperature⟩,
      ⟨_, widthPerformance⟩⟩
  · rintro ⟨bias, temperature, ratio, severity, trimmedRatio, ma, staleness,
      ⟨_, widthTemperature⟩, ⟨_, widthPerformance⟩⟩
    simp only [readContent, bias, temperature, ratio, severity, trimmedRatio, ma, staleness,
      widthTemperature, widthPerformance]
    rfl

end
end Policy
end ThermalSimd
