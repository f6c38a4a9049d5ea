import ThermalSimd.CoefficientText

/-!
# What the coefficient parser may read

The parser searches the text for a quoted name, whatever that name is part of. Where the first
string that shows a field's name is a key of the root object, or no string does, it reads that
member and no other.
-/

namespace ThermalSimd
namespace Policy

open CText JsonSyntax Binary64

private def refused : List Char := ['"', 't', 'f', 'n', '[', '\x7b']

/-- Begins neither a number nor the end of an array. -/
structure Refused (c : Char) : Prop where
  noSpace : isSpace c = false
  noNumber : isNumberChar c = false
  noDigit : c.isDigit = false
  noTrim : isTrimmed c = false
  inEntry : inEntry c = true
  noBracket : c ≠ ']'
  noMinus : c ≠ '-'
  noPlus : c ≠ '+'
  noPoint : c ≠ '.'
  noEnd : c ≠ '\x00'

theorem refused_of_mem {c} (member : c ∈ refused) : Refused c := by
  simp only [refused, List.mem_cons, List.not_mem_nil, or_false] at member
  rcases member with rfl | rfl | rfl | rfl | rfl | rfl <;> constructor <;> decide

/-- `strtod` finds no finite number behind a refused character. -/
theorem finiteNumber_of_refused {c} (isRefused : Refused c) (more) :
    finiteNumber CText.strtod (c :: more) = none := by
  have string : (c :: more).takeWhile (· ≠ '\x00') = c :: more.takeWhile (· ≠ '\x00') :=
    List.takeWhile_cons_of_pos (decide_eq_true isRefused.noEnd)
  rw [finiteNumber, string]
  generalize more.takeWhile (· ≠ '\x00') = more
  rcases strtod_of_noNumber isRefused.noSpace isRefused.noDigit ⟨isRefused.noMinus,
    isRefused.noPlus⟩
    isRefused.noPoint more with noValue | unread
  · split
    · exact noValue
    · rfl
  · simp only [unread]
    exact if_neg fun whole => List.cons_ne_nil _ _ whole.2

theorem writesDouble_of_finiteNumber {text value} (isNumber : ∃ written, WritesReal text written)
    (finite : finiteNumber CText.strtod text = some value) : WritesDouble text value := by
  obtain ⟨written, writes⟩ := isNumber
  have number := numberText_of_writesReal writes
  rw [finiteNumber, number.takeWhile_eq, strtod_of_writesReal writes, convertedReal] at finite
  by_cases large : 2 ^ 1024 ≤ |nearest written|
  · simp only [if_pos large, ite_self] at finite
    cases finite
  · simp only [if_neg large] at finite
    split at finite
    · exact ⟨written, writes, (Option.some.inj finite).symm⟩
    · cases finite

section

variable {field : Field}

theorem arrayLoop_of_refused {lead} (blank : Blank lead) {c} (isRefused : Refused c) (more) :
    arrayLoop CText.strtod field (lead ++ c :: more) = .error (.invalidEntry field) := by
  have spaced : (lead ++ c :: more).dropWhile isSpace = c :: more := by
    rw [List.dropWhile_append_of_pos fun d member => (plain_of_blank blank member).1]
    exact List.dropWhile_cons_of_neg (by simp [isRefused.noSpace])
  have token : ((c :: more).takeWhile inEntry).dropWhile isTrimmed =
      c :: more.takeWhile inEntry := by
    rw [List.takeWhile_cons_of_pos isRefused.inEntry]
    exact List.dropWhile_cons_of_neg (by simp [isRefused.noTrim])
  -- Trimming the end of the entry leaves its first character.
  obtain ⟨rest, entry⟩ : ∃ rest,
      (c :: more.takeWhile inEntry).rdropWhile isTrimmed = c :: rest := by
    have start := List.rdropWhile_prefix isTrimmed (l := c :: more.takeWhile inEntry)
    cases entry : (c :: more.takeWhile inEntry).rdropWhile isTrimmed with
    | nil =>
      have all := List.rdropWhile_eq_nil_iff.mp entry c List.mem_cons_self
      rw [isRefused.noTrim] at all
      cases all
    | cons d rest =>
      rw [entry] at start
      exact ⟨rest, by rw [(List.cons_prefix_cons.mp start).1]⟩
  rw [arrayLoop_step CText.strtod field spaced isRefused.noBracket (token ▸ entry)
    (List.cons_ne_nil _ _), finiteNumber_of_refused isRefused]

theorem exists_refused_of_word {word : Word} (noNumber : ∀ text, word ≠ .number text) :
    ∃ c rest, word.text = c :: rest ∧ Refused c := by
  cases word with
  | string raw => exact ⟨'"', raw ++ ['"'], rfl, refused_of_mem (by decide)⟩
  | number text => exact absurd rfl (noNumber text)
  | literal name => cases name <;> exact ⟨_, _, rfl, refused_of_mem (by decide)⟩

theorem refused_opening (bracket : Bracket) : Refused bracket.opening := by
  cases bracket <;> exact refused_of_mem (by decide)

theorem exists_refused_of_item {item : Item} (noNumber : ∀ text, item ≠ .scalar (.number text)) :
    ∃ c rest, item.text = c :: rest ∧ Refused c := by
  cases item with
  | scalar =>
    exact exists_refused_of_word fun text equal => noNumber text (congrArg Item.scalar equal)
  | group bracket => exact ⟨_, _, rfl, refused_opening bracket⟩

theorem arrayLoop_sound {contents} (valid : ValidContents (.element true) contents)
    {inner} (blank : Blank inner) {more values}
    (read : arrayLoop CText.strtod field
      (render (.element true) contents ++ (inner ++ ']' :: more)) = .ok values) :
    Elements WritesDouble contents values := by
  induction contents generalizing values with
  | nil =>
    rw [render, List.nil_append, arrayLoop_close CText.strtod field blank] at read
    exact (Except.ok.inj read).symm
  | leaf padded rest ih =>
    have later := valid.2.2.2.2.element true
    by_cases isNumber : ∃ text, padded.word = .number text
    · obtain ⟨text, isNumber⟩ := isNumber
      have writes : ∃ value, WritesReal text value := by
        have word := valid.2.2.1
        rwa [isNumber] at word
      rw [arrayLoop_leaf CText.strtod field valid isNumber blank] at read
      split at read
      · cases read
      · next finite =>
          split at read
          · cases read
          · next _ rest =>
              cases Except.ok.inj read
              exact ⟨text, _, _, isNumber, writesDouble_of_finiteNumber writes finite, rfl,
                ih later rest⟩
    · obtain ⟨c, _, starts, isRefused⟩ :=
        exists_refused_of_word fun text equal => isNumber ⟨text, equal⟩
      simp only [render, Slot.mark, List.nil_append, List.append_assoc, starts,
        List.cons_append, arrayLoop_of_refused valid.1 isRefused] at read
      cases read
  | node group _ rest =>
    simp only [render, Slot.mark, List.nil_append, List.append_assoc, List.cons_append,
      arrayLoop_of_refused valid.1 (refused_opening group.bracket)] at read
    cases read

variable {content tail : List Char} {member : Member} (valid : member.Valid)
  (found : behindFirst (quoted field.name) content = some (member.behindKey tail))
include valid found

theorem parseDoubleField_sound (ends : Stops tail) {required v}
    (read : parseDoubleField CText.strtod content field required = .ok v) :
    ∃ text written, member.value = .scalar (.number text) ∧ WritesDouble text written ∧
      v = some written := by
  by_cases isNumber : ∃ text, member.value = .scalar (.number text)
  · obtain ⟨text, isNumber⟩ := isNumber
    have writes : ∃ value, WritesReal text value := by
      have word := valid.value
      rwa [isNumber] at word
    rw [parseDoubleField_number CText.strtod valid found isNumber
      (numberText_of_writesReal writes.choose_spec) ends] at read
    split at read
    · cases read
    · next finite =>
        cases Except.ok.inj read
        exact ⟨text, _, isNumber, writesDouble_of_finiteNumber writes finite, rfl⟩
  · obtain ⟨c, _, starts, isRefused⟩ :=
      exists_refused_of_item fun text equal => isNumber ⟨text, equal⟩
    have token : ((member.fromValue tail).dropWhile isSpace).takeWhile isNumberChar = [] := by
      rw [Member.fromValue, starts, List.cons_append,
        List.dropWhile_cons_of_neg (by simp [isRefused.noSpace]),
        List.takeWhile_cons_of_neg (by simp [isRefused.noNumber])]
    rw [parseDoubleField_of_found CText.strtod valid found] at read
    simp only [token, if_true] at read
    cases read

theorem parseDoubleArrayField_sound
    (bracketed : (∃ contents inner, member.value = .group .array contents inner) ∨
      '[' ∉ member.fromValue tail) {values}
    (read : parseDoubleArrayField CText.strtod content field = .ok values) :
    ∃ contents inner, member.value = .group .array contents inner ∧
      Elements WritesDouble contents values := by
  rcases bracketed with ⟨contents, inner, isArray⟩ | noBracket
  · obtain ⟨within, blank⟩ : ValidContents (.element true) contents ∧ Blank inner := by
      have written := valid.value
      rwa [isArray] at written
    rw [parseDoubleArrayField_of_found CText.strtod valid found isArray] at read
    exact ⟨contents, inner, isArray, arrayLoop_sound within blank read⟩
  · have absent : behindFirst ['['] (member.behindKey tail) = none := by
      rw [Member.behindKey, behindFirst_append_of_notMem (valid.beforeColon.notMem (by decide)),
        behindFirst_cons_of_ne (by decide),
        behindFirst_append_of_notMem (valid.afterColon.notMem (by decide)),
        ← List.append_nil (member.fromValue tail), behindFirst_append_of_notMem noBracket]
      rfl
    simp only [parseDoubleArrayField, found, absent] at read
    cases read

end

def Field.isArray : Field → Bool
  | arTemperature | ratio | severity | trimmedRatio => true
  | _ => false

/-- The member is of another name, and the search for the field passes it. -/
structure Hides (field : Field) (member : Member) : Prop where
  strings : ∀ raw ∈ member.strings, ¬ Shows field.name raw
  key : ¬ Spells member.key field.name

variable (document : Document) (field : Field)

/-- The search for a field ends at the root's member of that name, or without one; where an array is
expected, no other bracket follows. -/
def InScope : Prop :=
  (∃ before member after, document.members = before ++ member :: after ∧
    member.key = field.name ∧ (∀ other ∈ before, Hides field other) ∧
    (field.isArray = true →
      (∃ contents inner, member.value = .group .array contents inner) ∨
        '[' ∉ member.fromValue (membersText false after document.ending))) ∨
  ∀ member ∈ document.members, Hides field member

def HasNumber (value : ℚ) : Prop :=
  ∃ member text, document.First field.name member ∧ member.value = .scalar (.number text) ∧
    WritesDouble text value

def HasNumbers (values : List ℚ) : Prop :=
  ∃ member contents inner, document.First field.name member ∧
    member.value = .group .array contents inner ∧ Elements WritesDouble contents values

def HasNumberOr (value default : ℚ) : Prop :=
  HasNumber document field value ∨ document.Lacks field.name ∧ value = default

def HasNumbersOrNone (values : List ℚ) : Prop :=
  HasNumbers document field values ∨ document.Lacks field.name ∧ values = []

/-- The window plus one half as a `uint64_t`, but never zero; or half a second. -/
def HasWindow (window : ℕ) : Prop :=
  (∃ value, HasNumber document .stalenessWindowMs value ∧ 0 ≤ value ∧ value ≤ 2 ^ 64 ∧
    (nearest (value + 1 / 2) < 2 ^ 64 → (window : ℤ) = max 1 ⌊nearest (value + 1 / 2)⌋)) ∨
  document.Lacks Field.stalenessWindowMs.name ∧ window = 500

theorem Field.spells_name : Spells field.name field.name := by
  cases field <;> exact spells_plain (by decide)

section

variable {document : Document} (valid : document.Valid) {field : Field}
include valid

theorem InScope.search (inScope : InScope document field) :
    (∃ member tail, Member.Valid member ∧ Stops tail ∧
      behindFirst (quoted field.name) document.text = some (member.behindKey tail) ∧
      document.First field.name member ∧
      (field.isArray = true → (∃ contents inner, member.value = .group .array contents inner) ∨
        '[' ∉ member.fromValue tail)) ∨
    behindFirst (quoted field.name) document.text = none ∧ document.Lacks field.name := by
  rcases inScope with ⟨before, member, after, split, isKey, hides, bracketed⟩ | hides
  · refine .inl ⟨member, membersText false after document.ending, ?_, ?_, ?_, ?_, bracketed⟩
    · exact valid.members member (split ▸ List.mem_append_right _ List.mem_cons_self)
    · exact stops_membersText after valid.stops_ending
    · rw [← isKey]
      exact valid.behindFirst_eq_some split (isKey ▸ field.isKey_name)
        fun other earlier => isKey ▸ (hides other earlier).strings
    · exact ⟨before, after, split, isKey ▸ field.spells_name,
        fun other earlier => (hides other earlier).key⟩
  · exact .inr ⟨valid.behindFirst_eq_none field.isKey_name fun member inside =>
      (hides member inside).strings, fun member inside => (hides member inside).key⟩

theorem InScope.number (inScope : InScope document field) {required v}
    (read : parseDoubleField CText.strtod document.text field required = .ok v) :
    (∃ written, v = some written ∧ HasNumber document field written) ∨
      v = none ∧ document.Lacks field.name := by
  rcases inScope.search valid with ⟨member, tail, ownValid, ends, found, first, -⟩ | ⟨absent, lacks⟩
  · obtain ⟨text, written, isNumber, writes, rfl⟩ := parseDoubleField_sound ownValid found ends read
    exact .inl ⟨written, rfl, member, text, first, isNumber, writes⟩
  · refine .inr ⟨?_, lacks⟩
    simp only [parseDoubleField, absent] at read
    split at read
    · cases read
    · exact (Except.ok.inj read).symm

theorem InScope.numbers (inScope : InScope document field) (isArray : field.isArray = true) {values}
    (read : parseDoubleArrayField CText.strtod document.text field = .ok values) :
    HasNumbersOrNone document field values := by
  rcases inScope.search valid with ⟨member, tail, ownValid, -, found, first, bracketed⟩ |
    ⟨absent, lacks⟩
  · obtain ⟨contents, inner, isGroup, elements⟩ :=
      parseDoubleArrayField_sound ownValid found (bracketed isArray) read
    exact .inl ⟨member, contents, inner, first, isGroup, elements⟩
  · rw [parseDoubleArrayField_of_absent CText.strtod absent] at read
    exact .inr ⟨lacks, (Except.ok.inj read).symm⟩

end

/-- The coefficients are the values of the root object's members, or defaults. -/
structure Stores (document : Document) (coefficients : Coefficients) : Prop where
  bias : HasNumber document .bias coefficients.bias
  temperature : HasNumbers document .arTemperature coefficients.temperatureCoeffs
  ratio : HasNumbersOrNone document .ratio coefficients.ratioCoeffs
  severity : HasNumbersOrNone document .severity coefficients.severityCoeffs
  trimmedRatio : HasNumbersOrNone document .trimmedRatio coefficients.trimmedRatioCoeffs
  ma : (∃ value, coefficients.maCoefficient = some value ∧ HasNumber document .ma value) ∨
    coefficients.maCoefficient = none ∧ document.Lacks Field.ma.name
  staleness : HasWindow document coefficients.stalenessWindowMs
  widthTemperature : HasNumberOr document .widthTemperatureMillicPerStep
    coefficients.widthTemperatureMillicPerStep 2000
  widthPerformance : HasNumberOr document .widthPerformanceBenefitMilliPerStep
    coefficients.widthPerformanceBenefitMilliPerStep 100

section

variable {document : Document} (valid : document.Valid)
include valid

theorem InScope.bias (inScope : InScope document .bias) {v}
    (read : parseBias CText.strtod document.text = .ok v) : HasNumber document .bias v := by
  unfold parseBias at read
  split at read
  · cases read
  · cases read
  · next field =>
      cases Except.ok.inj read
      rcases inScope.number valid field with ⟨written, equal, has⟩ | ⟨absent, -⟩
      · cases Option.some.inj equal
        exact has
      · cases absent

theorem InScope.temperature (inScope : InScope document .arTemperature) {values}
    (read : parseTemperature CText.strtod document.text = .ok values) :
    HasNumbers document .arTemperature values := by
  unfold parseTemperature at read
  split at read
  · cases read
  · next _ field =>
      split at read
      · cases read
      · next ne =>
          cases Except.ok.inj read
          exact (inScope.numbers valid rfl field).resolve_right fun absent => ne absent.2

theorem InScope.width {field} (inScope : InScope document field) {default nonneg v}
    (read : parseWidthField CText.strtod document.text field default nonneg = .ok v) :
    HasNumberOr document field v.1 default := by
  unfold parseWidthField at read
  split at read
  · cases read
  · next absent =>
      cases Except.ok.inj read
      rcases inScope.number valid absent with ⟨written, equal, -⟩ | ⟨-, lacks⟩
      · cases equal
      · exact .inr ⟨lacks, rfl⟩
  · next written present =>
      split at read
      · cases read
      · cases Except.ok.inj read
        rcases inScope.number valid present with ⟨_, equal, has⟩ | ⟨absent, -⟩
        · cases Option.some.inj equal
          exact .inl has
        · cases absent

theorem InScope.staleness (inScope : InScope document .stalenessWindowMs) {window}
    (read : parseStaleness .binary64 document.text = .ok window) : HasWindow document window := by
  unfold parseStaleness parseUint64Field Floats.binary64 at read
  dsimp only at read
  cases number : parseDoubleField CText.strtod document.text .stalenessWindowMs false with
  | error e =>
    simp only [number] at read
    cases read
  | ok =>
    simp only [number] at read
    rcases inScope.number valid number with ⟨written, rfl, has⟩ | ⟨rfl, lacks⟩
    · by_cases outside : written < 0 ∨ 2 ^ 64 < written
      · simp only [if_pos outside] at read
        cases read
      · simp only [if_neg outside] at read
        obtain ⟨nonneg, bounded⟩ := not_or.mp outside
        refine .inl ⟨written, has, not_lt.mp nonneg, not_lt.mp bounded, fun small => ?_⟩
        rw [← Except.ok.inj read]
        have upper : ⌊nearest (written + 1 / 2)⌋ < 2 ^ 64 := by
          rw [Int.floor_lt]
          exact_mod_cast small
        split <;> omega
    · exact .inr ⟨lacks, (Except.ok.inj read).symm⟩

end

/-- With every field in the root's scope, what is stored is what the root says. -/
theorem coefficients_from_root {document : Document} (valid : document.Valid)
    (inScope : ∀ field, InScope document field) (model : ArxModel)
    (succeeds : (model.parseContent .binary64 document.text).2 = none) :
    Stores document (model.parseContent .binary64 document.text).1.coefficients := by
  cases read : readContent .binary64 document.text with
  | error e =>
    simp only [ArxModel.parseContent, read] at succeeds
    cases succeeds
  | ok coefficients =>
    simp only [ArxModel.parseContent, read]
    have reads := (readContent_eq_ok_iff .binary64).mp read
    obtain ⟨_, widthTemperature⟩ := reads.widthTemperature
    obtain ⟨_, widthPerformance⟩ := reads.widthPerformance
    exact {
      bias := (inScope _).bias valid reads.bias
      temperature := (inScope _).temperature valid reads.temperature
      ratio := (inScope _).numbers valid rfl reads.ratio
      severity := (inScope _).numbers valid rfl reads.severity
      trimmedRatio := (inScope _).numbers valid rfl reads.trimmedRatio
      ma := (inScope _).number valid reads.ma
      staleness := (inScope _).staleness valid reads.staleness
      widthTemperature := (inScope _).width valid widthTemperature
      widthPerformance := (inScope _).width valid widthPerformance }

theorem hides_of_ne {field member} (noBackslash : '\\' ∉ member.key)
    (hidden : (∀ raw ∈ member.strings, ¬ Shows field.name raw) ∧ member.key ≠ field.name) :
    Hides field member :=
  ⟨hidden.1, fun spells => hidden.2 (spells.eq_of_notMem noBackslash)⟩

theorem CoefficientRecord.Renders.inScope {strtod} {record : CoefficientRecord} {document}
    (renders : record.Renders strtod document) (field) : InScope document field := by
  have plain : ∀ member ∈ document.members, '\\' ∉ member.key := by
    intro member inside
    obtain ⟨own, -, isKey, -⟩ := renders.known member inside
    rw [isKey]
    exact fun backslash => (own.isKey_name.plain _ backslash).2.1 rfl
  cases has : record.value field with
  | none => exact .inr fun member inside => hides_of_ne (plain _ inside) (renders.hidden has inside)
  | some v =>
    obtain ⟨before, member, after, split, isKey, rendered, hidden⟩ := renders.split has
    refine .inl ⟨before, member, after, split, isKey, fun other earlier => ?_, fun isArray => ?_⟩
    · exact hides_of_ne (plain _ (split ▸ List.mem_append_left _ earlier)) (hidden other earlier)
    · cases v with
      | number v => cases field <;> simp [Field.isArray, CoefficientRecord.value] at isArray has
      | numbers =>
        obtain ⟨contents, inner, isGroup, -⟩ := rendered
        exact .inl ⟨contents, inner, isGroup⟩

theorem short_document_from_root :
    Stores shortDocument
      (ArxModel.initial.parseContent .binary64 shortDocument.text).1.coefficients :=
  coefficients_from_root shortDocument_valid shortDocument_renders.inScope .initial
    (by decide +kernel)

/-- The name `ma` with its first letter escaped. -/
def escapedMa : List Char := ['\\', 'u', '0', '0', '6', 'd', 'a']

theorem spells_escapedMa : Spells escapedMa Field.ma.name := by
  have hex : ∀ c ∈ ['0', '0', '6', 'd'], isHexDigit c = true := List.all_eq_true.mp (by decide)
  have last : Spells ['a'] ['a'] := spells_plain (by decide)
  exact .unicode rfl hex last

/-- A nested bias, an escaped `ma`, a ratio that is a number, and a window of zero. -/
def borrowingDocument : Document where
  lead := []
  members :=
    [⟨[], ['x'], [], [], .group .object
        (.leaf ⟨[], .string Field.bias.name, []⟩ (.leaf ⟨[], .number ['5'], []⟩ .nil)) [], []⟩,
      ⟨[], Field.bias.name, [], [], .scalar (.number ['7']), []⟩,
      ⟨[], Field.stalenessWindowMs.name, [], [], .scalar (.number ['0']), []⟩,
      ⟨[], Field.arTemperature.name, [], [],
        .group .array (.leaf ⟨[], .number ['1'], []⟩ .nil) [], []⟩,
      ⟨[], Field.ratio.name, [], [], .scalar (.number ['5']), []⟩,
      ⟨[], Field.severity.name, [], [], .group .array (.leaf ⟨[], .number ['2'], []⟩ .nil) [], []⟩,
      ⟨[], escapedMa, [], [], .scalar (.number ['3']), []⟩]
  inner := []
  trail := []

theorem borrowingDocument_valid : borrowingDocument.Valid where
  lead := by decide
  members := by
    have digit (c) (isDigit) : (Word.number [c]).Valid :=
      ⟨_, writesReal_digit isDigit⟩
    have key (text)
        (plain) :
        ∃ spelled, Spells text spelled := ⟨text, spells_plain plain⟩
    simp only [borrowingDocument, List.forall_mem_cons]
    exact ⟨⟨by decide, key _ (by decide), by decide, by decide,
        ⟨⟨by decide, by decide, key _ (by decide), fun _ => ⟨_, rfl⟩, by decide, by decide,
          digit '5' rfl, nofun, nofun⟩, by decide⟩, by decide⟩,
      ⟨by decide, key _ (by decide), by decide, by decide, digit '7' rfl, by decide⟩,
      ⟨by decide, key _ (by decide), by decide, by decide, digit '0' rfl, by decide⟩,
      ⟨by decide, key _ (by decide), by decide, by decide,
        ⟨⟨by decide, by decide, digit '1' rfl, nofun, nofun⟩, by decide⟩, by decide⟩,
      ⟨by decide, key _ (by decide), by decide, by decide, digit '5' rfl, by decide⟩,
      ⟨by decide, key _ (by decide), by decide, by decide,
        ⟨⟨by decide, by decide, digit '2' rfl, nofun, nofun⟩, by decide⟩, by decide⟩,
      ⟨by decide, ⟨_, spells_escapedMa⟩, by decide, by decide, digit '3' rfl, by decide⟩,
      fun _ none => absurd none List.not_mem_nil⟩
  inner := by decide
  trail := by decide

theorem hasNumber_of_plain {document field v} (before) {after member text}
    (split : document.members = before ++ member :: after) (spells : Spells member.key field.name)
    (plain : before.all (fun other => '\\' ∉ other.key && other.key ≠ field.name) = true)
    (isNumber : member.value = .scalar (.number text)) (writes : WritesDouble text v) :
    HasNumber document field v := by
  refine ⟨member, text, ⟨before, after, split, spells, fun other earlier spelled => ?_⟩, isNumber,
    writes⟩
  have both := List.all_eq_true.mp plain other earlier
  rw [Bool.and_eq_true, decide_eq_true_eq, decide_eq_true_eq] at both
  exact both.2 (spelled.eq_of_notMem both.1)

/-- The bias comes from another object, the ratio from another member, an escaped key is not seen,
and a window of zero is stored as one. -/
theorem fields_out_of_scope :
    borrowingDocument.Valid ∧ HasNumber borrowingDocument .bias 7 ∧
      HasNumber borrowingDocument .stalenessWindowMs 0 ∧ HasNumber borrowingDocument .ratio 5 ∧
      HasNumber borrowingDocument .ma 3 ∧
      (readContent .binary64 borrowingDocument.text).toOption.map (fun coefficients =>
        (coefficients.bias, coefficients.stalenessWindowMs, coefficients.ratioCoeffs,
          coefficients.maCoefficient)) = some (5, 1, [2], none) := by
  have writes (c : Char) (value : ℚ) (digit : c.isDigit = true)
      (equal : value = nearest (digitValue c)) : WritesDouble [c] value :=
    ⟨_, writesReal_digit digit, equal⟩
  refine ⟨borrowingDocument_valid, ?_, ?_, ?_, ?_, by decide +kernel⟩
  · exact hasNumber_of_plain (borrowingDocument.members.take 1) rfl Field.bias.spells_name
      (by decide) rfl (writes '7' 7 rfl (by decide +kernel))
  · exact hasNumber_of_plain (borrowingDocument.members.take 2) rfl
      Field.stalenessWindowMs.spells_name (by decide) rfl (writes '0' 0 rfl (by decide +kernel))
  · exact hasNumber_of_plain (borrowingDocument.members.take 4) rfl Field.ratio.spells_name
      (by decide) rfl (writes '5' 5 rfl (by decide +kernel))
  · exact hasNumber_of_plain (borrowingDocument.members.take 6) rfl spells_escapedMa
      (by decide) rfl (writes '3' 3 rfl (by decide +kernel))

end Policy
end ThermalSimd
