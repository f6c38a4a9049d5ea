import Mathlib.Data.List.TakeWhile
import ThermalSimd.Binary64

/-!
# Texts and numbers of the C library

A C string is the list of its characters before the terminator. `strtol` and `strtod` are modelled
by the value they convert, the text they leave unread and whether they set `ERANGE`, as the GNU
library does.
-/

namespace CText

open Binary64

variable {text rest : List Char}

/-- `strncmp(left, right, count) == 0`; the comparison ends at the terminator. -/
def equalUpTo (count : ℕ) (left right : List Char) : Bool :=
  (left ++ ['\x00']).take count == (right ++ ['\x00']).take count

/-- The string at `offset`; `beyond` follows the terminator of `text` in memory. -/
def stringAt (text beyond : List Char) (offset : ℕ) : List Char :=
  ((text ++ '\x00' :: beyond).drop offset).takeWhile (· ≠ '\x00')

theorem equalUpTo_length_iff {text literal} (whole : '\x00' ∉ literal) :
    equalUpTo literal.length text literal = true ↔ literal <+: text := by
  have literalTake : (literal ++ ['\x00']).take literal.length = literal := List.take_left
  rw [equalUpTo, beq_iff_eq, literalTake, eq_comm, ← List.prefix_iff_eq_take,
    List.prefix_concat_iff, or_iff_right]
  rintro rfl
  simp at whole

theorem equalUpTo_of_lt_iff {count text literal} (longer : literal.length < count)
    (whole : '\x00' ∉ text) : equalUpTo count text literal = true ↔ text = literal := by
  have literalTake : (literal ++ ['\x00']).take count = literal ++ ['\x00'] :=
    List.take_of_length_le (by simp; omega)
  rw [equalUpTo, beq_iff_eq, literalTake]
  constructor
  · intro equal
    by_cases short : count ≤ text.length
    · rw [List.take_append_of_le_length short] at equal
      refine absurd ?_ whole
      exact List.mem_of_mem_take (equal ▸ List.mem_append_right _ (List.mem_singleton_self _))
    · rw [List.take_of_length_le (by simp; omega)] at equal
      exact List.append_cancel_right equal
  · rintro rfl
    exact literalTake

theorem stringAt_append {front v beyond} (whole : '\x00' ∉ v) :
    stringAt (front ++ v) beyond front.length = v := by
  have allBefore : ∀ c ∈ v, decide (c ≠ '\x00') = true := by
    intro c _
    refine decide_eq_true fun equal => whole ?_
    rwa [← equal]
  rw [stringAt, List.append_assoc, List.drop_left, List.takeWhile_append_of_pos allBefore]
  simp

/-- `isspace` in the C locale. -/
def isSpace (c : Char) : Bool := c ∈ [' ', '\t', '\n', '\x0b', '\x0c', '\r']

def digitValue (c : Char) : ℕ :=
  if c.isDigit then c.toNat - 48 else if c.isUpper then c.toNat - 55 else c.toNat - 87

def ofDigits (base : ℕ) (digits : List Char) : ℕ :=
  digits.foldl (fun value c => value * base + digitValue c) 0

def splitSign : List Char → Bool × List Char
  | [] => (false, [])
  | c :: rest =>
    if c = '-' then (true, rest) else if c = '+' then (false, rest) else (false, c :: rest)

def signed {α : Type} [Neg α] (negative : Bool) (value : α) : α :=
  if negative then -value else value

/-- The value, the text behind the number, and whether `errno` is `ERANGE`. -/
structure Converted (α : Type) where
  value : α
  rest : List Char
  erange : Bool
  deriving DecidableEq

/-- `strtol(text, &end, 10)` where `long` has 64 bits. -/
def strtol (text : List Char) : Converted ℤ :=
  let (negative, body) := splitSign (text.dropWhile isSpace)
  let digits := body.takeWhile Char.isDigit
  if digits = [] then ⟨0, text, false⟩
  else
    let value : ℤ := signed negative (ofDigits 10 digits)
    ⟨max (-2 ^ 63) (min value (2 ^ 63 - 1)), body.dropWhile Char.isDigit,
      decide (value < -2 ^ 63 ∨ 2 ^ 63 - 1 < value)⟩

/-- Digits with an optional point: the digits, the number behind the point, and the rest. -/
def splitMantissa (isDigit : Char → Bool) (text : List Char) : List Char × ℕ × List Char :=
  let whole := text.takeWhile isDigit
  match text.dropWhile isDigit with
  | [] => (whole, 0, [])
  | c :: rest =>
    if c = '.' ∧ (whole ≠ [] ∨ rest.takeWhile isDigit ≠ []) then
      (whole ++ rest.takeWhile isDigit, (rest.takeWhile isDigit).length, rest.dropWhile isDigit)
    else (whole, 0, c :: rest)

/-- An optional exponent behind one of `marks`; a mark without digits is no exponent. -/
def splitExponent (marks : List Char) : List Char → ℤ × List Char
  | [] => (0, [])
  | c :: rest =>
    let (negative, body) := splitSign rest
    let digits := body.takeWhile Char.isDigit
    if c ∈ marks ∧ digits ≠ [] then
      (signed negative (ofDigits 10 digits), body.dropWhile Char.isDigit)
    else (0, c :: rest)

def isHexDigit (c : Char) : Bool :=
  c.isDigit || ('a' ≤ c && c ≤ 'f') || ('A' ≤ c && c ≤ 'F')

/-- What follows `0x`. -/
def behindHexMark : List Char → Option (List Char)
  | '0' :: c :: rest => if c = 'x' ∨ c = 'X' then some rest else none
  | _ => none

/-- `word`, in either case, at the head of the text: what follows it. -/
def behindWord (word text : List Char) : Option (List Char) :=
  if (text.take word.length).map Char.toLower = word then some (text.drop word.length) else none

/-- With 53 bits the number would still be below `DBL_MIN`, and no `double` is equal to it. -/
def Underflows (value : ℚ) : Prop :=
  |value| < 1 / 2 ^ 1022 - 1 / 2 ^ 1076 ∧ nearest value ≠ value
  deriving Decidable

/-- The conversion to the nearest `double`; an overflow or underflow sets `ERANGE`. -/
def convertedReal (value : ℚ) (rest : List Char) : Converted (Option ℚ) :=
  if 2 ^ 1024 ≤ |nearest value| then ⟨none, rest, true⟩
  else ⟨some (nearest value), rest, decide (Underflows value)⟩

/-- `strtod(text, &end)`; the infinities and NaN are `none`. -/
def strtod (text : List Char) : Converted (Option ℚ) :=
  let (negative, body) := splitSign (text.dropWhile isSpace)
  let hexBody := (behindHexMark body).getD []
  let (hexDigits, hexBehind, hexRest) := splitMantissa isHexDigit hexBody
  let (digits, behind, rest) := splitMantissa Char.isDigit body
  if hexDigits ≠ [] then
    let (exponent, rest) := splitExponent ['p', 'P'] hexRest
    convertedReal (signed negative (ofDigits 16 hexDigits * 2 ^ (exponent - 4 * hexBehind))) rest
  else if digits ≠ [] then
    let (exponent, rest) := splitExponent ['e', 'E'] rest
    convertedReal (signed negative (ofDigits 10 digits * 10 ^ (exponent - behind))) rest
  else
    match behindWord "infinity".toList body, behindWord "inf".toList body,
      behindWord "nan".toList body with
    | some rest, _, _ | none, some rest, _ => ⟨none, rest, false⟩
    | none, none, some rest =>
      match rest with
      | '(' :: inner =>
        match inner.dropWhile (fun c => c.isAlphanum || c == '_') with
        | ')' :: rest => ⟨none, rest, false⟩
        | _ => ⟨none, '(' :: inner, false⟩
      | rest => ⟨none, rest, false⟩
    | none, none, none => ⟨some 0, text, false⟩

def Digits (text : List Char) : Prop := text ≠ [] ∧ ∀ c ∈ text, c.isDigit = true

instance (text : List Char) : Decidable (Digits text) :=
  have : Decidable (∀ c ∈ text, c.isDigit = true) := List.decidableBAll _ text
  inferInstanceAs (Decidable (_ ∧ _))

/-- `text` is a decimal integer, possibly under a minus sign. -/
def WritesInt (text : List Char) (value : ℤ) : Prop :=
  ∃ negative digits, Digits digits ∧ text = (if negative then ['-'] else []) ++ digits ∧
    value = signed negative (ofDigits 10 digits : ℤ)

/-- `text` is an exponent, or nothing. -/
def WritesExponent (text : List Char) (value : ℤ) : Prop :=
  text = [] ∧ value = 0 ∨
    ∃ mark ∈ ['e', 'E'], ∃ negative, ∃ sign ∈ (if negative then [['-']] else [[], ['+']]),
      ∃ digits, Digits digits ∧ text = mark :: (sign ++ digits) ∧
        value = signed negative (ofDigits 10 digits : ℤ)

/-- `text` is a decimal number with an optional fraction and exponent. -/
def WritesReal (text : List Char) (value : ℚ) : Prop :=
  ∃ negative whole fraction exponentText exponent, Digits whole ∧
    (fraction = [] ∨ Digits fraction) ∧ WritesExponent exponentText exponent ∧
    text = (if negative then ['-'] else []) ++
      (whole ++ ((if fraction = [] then [] else '.' :: fraction) ++ exponentText)) ∧
    value = signed negative
      (ofDigits 10 (whole ++ fraction) * 10 ^ (exponent - fraction.length) : ℚ)

/-- `text` is a decimal number, and `value` the `double` nearest to it. -/
def WritesDouble (text : List Char) (value : ℚ) : Prop :=
  ∃ number, WritesReal text number ∧ value = nearest number

/-- `text` is a decimal number whose conversion underflows. -/
def WritesUnderflow (text : List Char) : Prop :=
  ∃ number, WritesReal text number ∧ Underflows number

theorem WritesInt.ne_nil {v} (writes : WritesInt text v) : text ≠ [] := by
  obtain ⟨_, _, row, rfl, -⟩ := writes
  simp [row.1]

theorem WritesReal.ne_nil {v} (writes : WritesReal text v) : text ≠ [] := by
  obtain ⟨_, _, _, _, _, row, -, -, rfl, -⟩ := writes
  simp [row.1]

theorem WritesDouble.ne_nil {v} (writes : WritesDouble text v) : text ≠ [] := by
  obtain ⟨_, writes, -⟩ := writes
  exact writes.ne_nil

theorem isDigit_iff {c : Char} : c.isDigit = true ↔ 48 ≤ c.toNat ∧ c.toNat ≤ 57 := by
  rw [Char.isDigit, Bool.and_eq_true, decide_eq_true_iff, decide_eq_true_iff]
  rfl

theorem ne_of_isDigit {c other : Char} (digit : c.isDigit = true)
    (outside : other.toNat < 48 ∨ 57 < other.toNat) : c ≠ other := by
  rintro rfl
  have := isDigit_iff.mp digit
  omega

theorem isSpace_of_isDigit {c} (digit : c.isDigit = true) : isSpace c = false := by
  have different (other) (outside) : c ≠ other :=
    ne_of_isDigit digit outside
  simp [isSpace, different]

private def NoDigit (text : List Char) : Prop := ∀ c ∈ text.head?, c.isDigit = false

theorem noDigit_nil : NoDigit [] := by
  simp [NoDigit]

section

variable {digits : List Char} (row : Digits digits)
include row

theorem takeWhile_digits (ends : NoDigit rest) :
    (digits ++ rest).takeWhile Char.isDigit = digits := by
  rw [List.takeWhile_append_of_pos row.2]
  cases rest with
  | nil => simp
  | cons c rest => simp [ends c rfl]

theorem dropWhile_digits (ends : NoDigit rest) :
    (digits ++ rest).dropWhile Char.isDigit = rest := by
  rw [List.dropWhile_append_of_pos row.2]
  cases rest with
  | nil => rfl
  | cons c rest => simp [ends c rfl]

theorem takeWhile_row : digits.takeWhile Char.isDigit = digits := by
  simpa using takeWhile_digits row noDigit_nil

theorem dropWhile_row : digits.dropWhile Char.isDigit = [] := by
  simpa using dropWhile_digits row noDigit_nil

theorem splitSign_row (rest) : splitSign (digits ++ rest) = (false, digits ++ rest) := by
  obtain ⟨ne, all⟩ := row
  cases digits with
  | nil => exact absurd rfl ne
  | cons c digits =>
    have digit : c.isDigit = true := all c List.mem_cons_self
    have noMinus : c ≠ '-' := ne_of_isDigit digit (by decide)
    have noPlus : c ≠ '+' := ne_of_isDigit digit (by decide)
    simp [splitSign, noMinus, noPlus]

theorem splitSign_digits (negative : Bool) (rest) :
    splitSign (((if negative then ['-'] else []) ++ (digits ++ rest)).dropWhile isSpace) =
      (negative, digits ++ rest) := by
  cases negative with
  | true => simp [isSpace, splitSign]
  | false =>
    have noSpace : (digits ++ rest).dropWhile isSpace = digits ++ rest := by
      obtain ⟨ne, all⟩ := row
      cases digits with
      | nil => exact absurd rfl ne
      | cons c digits => simp [isSpace_of_isDigit (all c List.mem_cons_self)]
    simp only [Bool.false_eq_true, if_false, List.nil_append, noSpace, splitSign_row row]

/-- Digits that no `x` follows do not start a hexadecimal number. -/
theorem behindHexMark_digits (plain : ∀ c ∈ rest.head?, c ≠ 'x' ∧ c ≠ 'X') :
    behindHexMark (digits ++ rest) = none := by
  obtain ⟨ne, all⟩ := row
  match digits, rest with
  | [], _ => exact absurd rfl ne
  | [c], [] => simp [behindHexMark]
  | [c], next :: rest =>
    obtain ⟨small, large⟩ := plain next rfl
    unfold behindHexMark
    split
    · next equal =>
        cases equal
        rw [if_neg (by simp [small, large])]
    · rfl
  | c :: next :: digits, rest =>
    have digit : next.isDigit = true := all next (by simp)
    have small : next ≠ 'x' := ne_of_isDigit digit (by decide)
    have large : next ≠ 'X' := ne_of_isDigit digit (by decide)
    unfold behindHexMark
    split
    · next equal =>
        cases equal
        rw [if_neg (by simp [small, large])]
    · rfl

end

theorem strtol_of_writesInt {v} (writes : WritesInt text v) (lower : -2 ^ 63 ≤ v)
    (upper : v ≤ 2 ^ 63 - 1) : strtol text = ⟨v, [], false⟩ := by
  obtain ⟨negative, _, row, rfl, rfl⟩ := writes
  have split := splitSign_digits row negative []
  rw [List.append_nil] at split
  simp only [strtol, split, takeWhile_row row, dropWhile_row row, if_neg row.1]
  rw [min_eq_left upper, max_eq_right lower, decide_eq_false (by omega)]

theorem WritesExponent.head {exponent} (writes : WritesExponent text exponent) :
    ∀ c ∈ text.head?, c = 'e' ∨ c = 'E' := by
  obtain ⟨rfl, -⟩ | ⟨_, isMark, _, _, _, _, _, rfl, -⟩ := writes
  · simp
  · simpa using isMark

theorem splitExponent_of_writesExponent {exponent} (writes : WritesExponent text exponent) :
    splitExponent ['e', 'E'] text = (exponent, []) := by
  obtain ⟨rfl, rfl⟩ | ⟨_, isMark, negative, sign, isSign, digits, row, rfl, rfl⟩ := writes
  · rfl
  · have split : splitSign (sign ++ digits) = (negative, digits) := by
      have bare := splitSign_row row []
      rw [List.append_nil] at bare
      cases negative with
      | true =>
        obtain rfl : sign = ['-'] := by simpa using isSign
        simp [splitSign]
      | false =>
        obtain rfl | rfl : sign = [] ∨ sign = ['+'] := by simpa using isSign
        · exact bare
        · simp [splitSign]
    simp only [splitExponent, split, takeWhile_row row, dropWhile_row row]
    rw [if_pos ⟨isMark, row.1⟩]

theorem splitMantissa_digits {whole fraction rest} (row : Digits whole)
    (fractionRow : fraction = [] ∨ Digits fraction)
    (ends : ∀ c ∈ rest.head?, c.isDigit = false ∧ c ≠ '.') :
    splitMantissa Char.isDigit
        (whole ++ ((if fraction = [] then [] else '.' :: fraction) ++ rest)) =
      (whole ++ fraction, fraction.length, rest) := by
  have restEnds : NoDigit rest := fun c first => (ends c first).1
  rcases fractionRow with rfl | fractionRow
  · simp only [if_true, List.nil_append, List.append_nil, List.length_nil, splitMantissa,
      takeWhile_digits row restEnds, dropWhile_digits row restEnds]
    cases rest with
    | nil => rfl
    | cons c rest => simp [(ends c rfl).2]
  · have pointEnds : NoDigit ('.' :: (fraction ++ rest)) := by simp [NoDigit]
    simp only [if_neg fractionRow.1, List.cons_append, splitMantissa,
      takeWhile_digits row pointEnds, dropWhile_digits row pointEnds,
      takeWhile_digits fractionRow restEnds, dropWhile_digits fractionRow restEnds]
    rw [if_pos ⟨trivial, .inl row.1⟩]

theorem strtod_of_writesReal {v} (writes : WritesReal text v) :
    strtod text = convertedReal v [] := by
  obtain ⟨_, whole, fraction, exponentText, _, row, fractionRow, writesExponent, rfl,
    rfl⟩ := writes
  have marks := writesExponent.head
  have exponentEnds : ∀ c ∈ exponentText.head?, c.isDigit = false ∧ c ≠ '.' := by
    intro c first
    rcases marks c first with rfl | rfl <;> decide
  have noHex : behindHexMark
      (whole ++ ((if fraction = [] then [] else '.' :: fraction) ++ exponentText)) = none := by
    refine behindHexMark_digits row fun c first => ?_
    by_cases whole_only : fraction = []
    · simp only [whole_only, if_true, List.nil_append] at first
      rcases marks c first with rfl | rfl <;> decide
    · simp only [whole_only, if_false, List.cons_append, List.head?_cons,
        Option.mem_some_iff] at first
      subst first
      decide
  have ne : whole ++ fraction ≠ [] := by simp [row.1]
  simp only [strtod, splitSign_digits row, noHex,
    splitMantissa_digits row fractionRow exponentEnds,
    splitExponent_of_writesExponent writesExponent]
  simp [splitMantissa, ne]

theorem strtod_of_noNumber {c} (noSpace : isSpace c = false) (noDigit : c.isDigit = false)
    (noSign : c ≠ '-' ∧ c ≠ '+') (noPoint : c ≠ '.') (more) :
    (strtod (c :: more)).value = none ∨ strtod (c :: more) = ⟨some 0, c :: more, false⟩ := by
  have spaces : (c :: more).dropWhile isSpace = c :: more :=
    List.dropWhile_cons_of_neg (by simp [noSpace])
  have sign : splitSign (c :: more) = (false, c :: more) := by
    simp [splitSign, noSign]
  have noHex : behindHexMark (c :: more) = none := by
    unfold behindHexMark
    split
    · next equal =>
        cases equal
        exact absurd noDigit (by decide)
    · rfl
  have noMantissa : splitMantissa Char.isDigit (c :: more) = ([], 0, c :: more) := by
    simp [splitMantissa, noDigit, noPoint]
  have noHexMantissa : splitMantissa isHexDigit [] = ([], 0, []) := rfl
  simp only [strtod, spaces, sign, noHex, noMantissa, Option.getD_none, noHexMantissa, ne_eq,
    not_true_eq_false, if_false]
  split
  · exact .inl rfl
  · exact .inl rfl
  · split
    · split <;> exact .inl rfl
    · exact .inl rfl
  · exact .inr rfl

end CText
