import ThermalSimd.CoefficientFile

/-!
# Rendered coefficients

A coefficient record rendered as one flat object, with its fields in any order and any white space,
is read back as it was.
-/

namespace ThermalSimd
namespace Policy

open CText JsonSyntax

variable {c : Char} {p : Char → Bool} {contents : Contents} {values : List ℚ}

theorem isNumberChar_eq_true_iff :
    isNumberChar c = true ↔ c.isDigit = true ∨ c ∈ ['-', '+', '.', 'e', 'E'] := by
  simp only [isNumberChar, Bool.or_eq_true, beq_iff_eq, List.mem_cons, List.not_mem_nil, or_false,
    or_assoc]

theorem plain_of_isNumberChar (number : isNumberChar c = true) :
    isSpace c = false ∧ isTrimmed c = false ∧ inEntry c = true ∧ c ≠ '\x00' := by
  rcases isNumberChar_eq_true_iff.mp number with digit | sign
  · have different (other) (outside) : c ≠ other :=
      ne_of_isDigit digit outside
    refine ⟨isSpace_of_isDigit digit, ?_, ?_, different _ (by decide)⟩
    · simp [isTrimmed, different]
    · simp [inEntry, different]
  · simp only [List.mem_cons, List.not_mem_nil, or_false] at sign
    rcases sign with rfl | rfl | rfl | rfl | rfl <;> decide

theorem isNumberChar_of_mem_stops (isStop : c ∈ stops) : isNumberChar c = false := by
  simp only [stops, List.mem_cons, List.not_mem_nil, or_false] at isStop
  rcases isStop with rfl | rfl | rfl | rfl | rfl | rfl | rfl | rfl <;> decide

theorem plain_of_blank {text} (blank : Blank text) (member : c ∈ text) :
    isSpace c = true ∧ isTrimmed c = true ∧ inEntry c = true := by
  have space := blank c member
  simp only [List.mem_cons, List.not_mem_nil, or_false] at space
  rcases space with rfl | rfl | rfl | rfl <;> decide

/-- Characters that `extractNumberToken` takes whole. -/
structure NumberText (text : List Char) : Prop where
  nonempty : text ≠ []
  chars : ∀ c ∈ text, isNumberChar c = true

theorem numberText_of_writesReal {text value} (writes : WritesReal text value) :
    NumberText text where
  nonempty := writes.ne_nil
  chars := fun c member => isNumberChar_eq_true_iff.mpr (mem_of_writesReal writes c member)

theorem numberText_of_valid {word : Word} (valid : word.Valid) {text}
    (isNumber : word = .number text) : NumberText text := by
  subst isNumber
  obtain ⟨_, writes⟩ := valid
  exact numberText_of_writesReal writes

namespace NumberText

variable {text : List Char} (number : NumberText text)
include number

theorem dropWhile_eq (stays : ∀ c, isNumberChar c = true → p c = false) (rest) :
    (text ++ rest).dropWhile p = text ++ rest := by
  obtain ⟨c, _, rfl⟩ := List.exists_cons_of_ne_nil number.nonempty
  have first := stays c (number.chars c List.mem_cons_self)
  rw [List.cons_append, List.dropWhile_cons_of_neg (by simp [first])]

theorem rdropWhile_eq (stays : ∀ c, isNumberChar c = true → p c = false) :
    text.rdropWhile p = text := by
  rw [List.rdropWhile_eq_self_iff]
  intro ne trimmed
  rw [stays _ (number.chars _ (List.getLast_mem ne))] at trimmed
  exact Bool.false_ne_true trimmed

theorem takeWhile_eq : text.takeWhile (· ≠ '\x00') = text := by
  rw [List.takeWhile_eq_self_iff]
  exact fun c member => decide_eq_true (plain_of_isNumberChar (number.chars c member)).2.2.2

end NumberText

theorem takeWhile_append_of_head {front rest : List Char} (all : ∀ c ∈ front, p c = true)
    (ends : ∀ c ∈ rest.head?, p c = false) : (front ++ rest).takeWhile p = front := by
  rw [List.takeWhile_append_of_pos all]
  cases rest with
  | nil => simp
  | cons c rest => simp [ends c rfl]

theorem dropWhile_append_of_head {front rest : List Char} (all : ∀ c ∈ front, p c = true)
    (ends : ∀ c ∈ rest.head?, p c = false) : (front ++ rest).dropWhile p = rest := by
  rw [List.dropWhile_append_of_pos all]
  cases rest with
  | nil => rfl
  | cons c rest => simp [ends c rfl]

section

variable (strtod : List Char → Converted (Option ℚ)) {inner content tail : List Char}
  {field : Field}

section

variable {member : Member} (valid : member.Valid)
  (found : behindFirst (quoted field.name) content = some (member.behindKey tail))
include valid found

theorem parseDoubleField_of_found (required) :
    parseDoubleField strtod content field required =
      let token := ((member.fromValue tail).dropWhile isSpace).takeWhile isNumberChar
      if token = [] then .error (.invalidNumeric field)
      else
        match finiteNumber strtod token with
        | none => .error (.notFinite field)
        | some value => .ok (some value) := by
  have colon : behindFirst [':'] (member.behindKey tail) =
      some (member.afterColon ++ member.fromValue tail) := by
    rw [Member.behindKey,
      behindFirst_append_of_notMem (valid.beforeColon.notMem (by decide)) _]
    exact behindFirst_self (List.cons_ne_nil _ _) _
  have spaces : (member.afterColon ++ member.fromValue tail).dropWhile isSpace =
      (member.fromValue tail).dropWhile isSpace :=
    List.dropWhile_append_of_pos fun c inside => (plain_of_blank valid.afterColon inside).1
  rewrite [parseDoubleField, found]
  dsimp only
  rewrite [colon]
  dsimp only
  rewrite [spaces]
  rfl

theorem parseDoubleField_number {text} (isNumber : member.value = .scalar (.number text))
    (number : NumberText text) (ends : Stops tail) (required) :
    parseDoubleField strtod content field required =
      match finiteNumber strtod text with
      | none => .error (.notFinite field)
      | some value => .ok (some value) := by
  have after : Stops (member.trail ++ tail) := stops_append_of_blank valid.trail ends
  have fromValue : member.fromValue tail = text ++ (member.trail ++ tail) := by
    rw [Member.fromValue, isNumber]
    rfl
  have token : ((member.fromValue tail).dropWhile isSpace).takeWhile isNumberChar = text := by
    rw [fromValue, number.dropWhile_eq fun c isChar => (plain_of_isNumberChar isChar).1]
    exact takeWhile_append_of_head number.chars fun c first =>
      isNumberChar_of_mem_stops (after c first)
  rw [parseDoubleField_of_found strtod valid found]
  simp only [token, if_neg number.nonempty]

theorem parseDoubleArrayField_of_found (isArray : member.value = .group .array contents inner) :
    parseDoubleArrayField strtod content field =
      arrayLoop strtod field
        (render (.element true) contents ++ (inner ++ ']' :: (member.trail ++ tail))) := by
  have fromValue : member.fromValue tail = '[' ::
      (render (.element true) contents ++ (inner ++ ']' :: (member.trail ++ tail))) := by
    rw [Member.fromValue, isArray]
    simp [Item.text, Bracket.opening, Bracket.closing, Slot.ofBracket]
  have bracket : behindFirst ['['] (member.behindKey tail) =
      some (render (.element true) contents ++ (inner ++ ']' :: (member.trail ++ tail))) := by
    rw [Member.behindKey, behindFirst_append_of_notMem (valid.beforeColon.notMem (by decide)),
      behindFirst_cons_of_ne (by decide),
      behindFirst_append_of_notMem (valid.afterColon.notMem (by decide)), fromValue]
    exact behindFirst_self (List.cons_ne_nil _ _) _
  simp only [parseDoubleArrayField, found, bracket]

end

variable (field)

theorem arrayLoop_close {blank} (isBlank : Blank blank) (rest) :
    arrayLoop strtod field (blank ++ ']' :: rest) = .ok [] := by
  have spaces : (blank ++ ']' :: rest).dropWhile isSpace = ']' :: rest :=
    dropWhile_append_of_head (fun c member => (plain_of_blank isBlank member).1)
      fun c first => by cases Option.some.inj first; decide
  rw [arrayLoop.eq_def, spaces]
  rfl

theorem arrayLoop_step {text entry more}
    (spaced : text.dropWhile isSpace = c :: more) (noBracket : c ≠ ']')
    (trimmed : (((c :: more).takeWhile inEntry).dropWhile isTrimmed).rdropWhile isTrimmed = entry)
    (ne : entry ≠ []) :
    arrayLoop strtod field text =
      match finiteNumber strtod entry with
      | none => .error (.invalidEntry field)
      | some value =>
        match arrayLoop strtod field (skipComma ((c :: more).dropWhile inEntry)) with
        | .error e => .error e
        | .ok values => .ok (value :: values) := by
  subst trimmed
  rewrite [arrayLoop.eq_def, spaced]
  dsimp only
  rewrite [if_neg noBracket, dif_neg ne]
  rfl

theorem arrayLoop_entry {lead text trail rest} (leadBlank : Blank lead) (number : NumberText text)
    (trailBlank : Blank trail) (ends : ∀ c ∈ rest.head?, inEntry c = false) :
    arrayLoop strtod field (lead ++ (text ++ (trail ++ rest))) =
      match finiteNumber strtod text with
      | none => .error (.invalidEntry field)
      | some value =>
        match arrayLoop strtod field (skipComma rest) with
        | .error e => .error e
        | .ok values => .ok (value :: values) := by
  have spaces : (lead ++ (text ++ (trail ++ rest))).dropWhile isSpace =
      text ++ (trail ++ rest) := by
    rw [List.dropWhile_append_of_pos fun c member => (plain_of_blank leadBlank member).1]
    exact number.dropWhile_eq (fun c isChar => (plain_of_isNumberChar isChar).1) _
  have all : ∀ c ∈ text ++ trail, inEntry c = true := by
    refine List.forall_mem_append.mpr ⟨fun c member => ?_, fun c member => ?_⟩
    · exact (plain_of_isNumberChar (number.chars c member)).2.2.1
    · exact (plain_of_blank trailBlank member).2.2
  have token : (text ++ (trail ++ rest)).takeWhile inEntry = text ++ trail := by
    rw [← List.append_assoc]
    exact takeWhile_append_of_head all ends
  have behind : (text ++ (trail ++ rest)).dropWhile inEntry = rest := by
    rw [← List.append_assoc]
    exact dropWhile_append_of_head all ends
  have trimmed : ((text ++ trail).dropWhile isTrimmed).rdropWhile isTrimmed = text := by
    rw [number.dropWhile_eq fun c isChar => (plain_of_isNumberChar isChar).2.1, List.rdropWhile,
      List.reverse_append, List.dropWhile_append_of_pos fun c member =>
        (plain_of_blank trailBlank (List.mem_reverse.mp member)).2.1]
    exact number.rdropWhile_eq fun c isChar => (plain_of_isNumberChar isChar).2.1
  rw [← token] at trimmed
  obtain ⟨c, _, rfl⟩ := List.exists_cons_of_ne_nil number.nonempty
  have noBracket : c ≠ ']' := by
    rintro rfl
    exact absurd (plain_of_isNumberChar (number.chars _ List.mem_cons_self)).2.2.1 (by decide)
  rw [List.cons_append] at spaces behind trimmed ⊢
  rw [arrayLoop_step strtod field spaces noBracket trimmed number.nonempty, behind]

theorem behindEntry (rest) (blank : Blank inner) (more) :
    ∃ front stop, render (.element false) rest ++ (inner ++ ']' :: more) = front ++ stop ∧
      Blank front ∧ (∀ c ∈ stop.head?, inEntry c = false) ∧
      arrayLoop strtod field (skipComma stop) =
        arrayLoop strtod field (render (.element true) rest ++ (inner ++ ']' :: more)) := by
  have noBlank : Blank [] := fun c member => absurd member List.not_mem_nil
  cases rest with
  | nil =>
    refine ⟨inner, ']' :: more, rfl, blank, fun c ends => by cases ends; rfl, ?_⟩
    have bracket := arrayLoop_close strtod field noBlank more
    exact bracket.trans (arrayLoop_close strtod field blank more).symm
  | leaf | node => exact ⟨[], _, rfl, noBlank, fun c ends => by cases ends; rfl, rfl⟩

theorem arrayLoop_leaf {padded} {rest : Contents}
    (valid : ValidContents (.element true) (.leaf padded rest)) {text}
    (isNumber : padded.word = .number text) (blank : Blank inner) (more) :
    arrayLoop strtod field (render (.element true) (.leaf padded rest) ++ (inner ++ ']' :: more)) =
      match finiteNumber strtod text with
      | none => .error (.invalidEntry field)
      | some value =>
        match arrayLoop strtod field
          (render (.element true) rest ++ (inner ++ ']' :: more)) with
        | .error e => .error e
        | .ok values => .ok (value :: values) := by
  obtain ⟨lead, trail, word, -, -⟩ := valid
  obtain ⟨front, stop, split, frontBlank, ends, loop⟩ := behindEntry strtod field rest blank more
  have layout : render (.element true) (.leaf padded rest) ++ (inner ++ ']' :: more) =
      padded.lead ++ (text ++ ((padded.trail ++ front) ++ stop)) := by
    simp only [render, Slot.mark, Slot.next, isNumber, Word.text, List.nil_append,
      List.append_assoc, split]
  have blanks : Blank (padded.trail ++ front) := List.forall_mem_append.mpr ⟨trail, frontBlank⟩
  rw [layout, arrayLoop_entry strtod field lead (numberText_of_valid word isNumber) blanks ends,
    loop]

def Elements (writes : List Char → ℚ → Prop) : Contents → List ℚ → Prop
  | .nil, values => values = []
  | .leaf padded rest, values => ∃ text value others, padded.word = .number text ∧
      writes text value ∧ values = value :: others ∧ Elements writes rest others
  | .node _ _ _, _ => False

theorem arrayLoop_complete (valid : ValidContents (.element true) contents)
    (elements : Elements (fun text value => finiteNumber strtod text = some value) contents values)
    (blank : Blank inner) (more) :
    arrayLoop strtod field (render (.element true) contents ++ (inner ++ ']' :: more)) =
      .ok values := by
  induction contents generalizing values with
  | nil =>
    cases elements
    exact arrayLoop_close strtod field blank more
  | leaf _ rest ih =>
    obtain ⟨text, value, _, isNumber, converts, rfl, elements⟩ := elements
    have later : ValidContents (.element true) rest := valid.2.2.2.2.element true
    rw [arrayLoop_leaf strtod field valid isNumber blank more, ih later elements]
    simp only [converts]
  | node => exact elements.elim

variable {field}

theorem parseDoubleArrayField_of_absent (absent : behindFirst (quoted field.name) content = none) :
    parseDoubleArrayField strtod content field = .ok [] := by
  simp only [parseDoubleArrayField, absent]

end

theorem Field.isKey_name (field : Field) : IsKey field.name := by
  cases field <;> decide

theorem Field.name_injective : Function.Injective Field.name := by
  intro left right equal
  cases left <;> cases right <;> first | rfl | exact absurd equal (by decide)

/-- The coefficients a file gives; optional fields may be absent. -/
structure CoefficientRecord where
  bias : ℚ
  arTemperature : List ℚ
  ratio : Option (List ℚ)
  severity : Option (List ℚ)
  trimmedRatio : Option (List ℚ)
  ma : Option ℚ
  stalenessWindowMs : Option ℕ
  widthTemperatureMillicPerStep : Option {value : ℚ // 0 ≤ value}
  widthPerformanceBenefitMilliPerStep : Option {value : ℚ // 0 ≤ value}
  arTemperature_ne_nil : arTemperature ≠ []
  staleness_pos : ∀ window ∈ stalenessWindowMs, 0 < window ∧ window < 2 ^ 64

/-- What a field of a record holds. -/
inductive FieldValue
  | number (value : ℚ)
  | numbers (values : List ℚ)

namespace CoefficientRecord

def value (record : CoefficientRecord) : Field → Option FieldValue
  | .bias => some (.number record.bias)
  | .arTemperature => some (.numbers record.arTemperature)
  | .ratio => record.ratio.map .numbers
  | .severity => record.severity.map .numbers
  | .trimmedRatio => record.trimmedRatio.map .numbers
  | .ma => record.ma.map .number
  | .stalenessWindowMs => record.stalenessWindowMs.map fun window : ℕ => .number window
  | .widthTemperatureMillicPerStep => record.widthTemperatureMillicPerStep.map (.number ·.1)
  | .widthPerformanceBenefitMilliPerStep =>
    record.widthPerformanceBenefitMilliPerStep.map (.number ·.1)

def coefficients (record : CoefficientRecord) : Coefficients where
  bias := record.bias
  temperatureCoeffs := record.arTemperature
  ratioCoeffs := record.ratio.getD []
  severityCoeffs := record.severity.getD []
  trimmedRatioCoeffs := record.trimmedRatio.getD []
  maCoefficient := record.ma
  stalenessWindowMs := record.stalenessWindowMs.getD 500
  widthTemperatureMillicPerStep :=
    (record.widthTemperatureMillicPerStep.getD
      ⟨2000, Coefficients.initial.widthTemperature_nonneg⟩).1
  widthPerformanceBenefitMilliPerStep :=
    (record.widthPerformanceBenefitMilliPerStep.getD
      ⟨100, Coefficients.initial.widthPerformanceBenefit_nonneg⟩).1
  widthTemperature_nonneg := (record.widthTemperatureMillicPerStep.getD _).2
  widthPerformanceBenefit_nonneg := (record.widthPerformanceBenefitMilliPerStep.getD _).2

end CoefficientRecord

section

variable (strtod : List Char → Converted (Option ℚ))

variable {value : FieldValue}

/-- `strtod` reads the value back from its text. -/
def Inverts (text : List Char) (value : ℚ) : Prop := strtod text = ⟨some value, [], false⟩

def FieldValue.Renders : FieldValue → Item → Prop
  | number value, item => ∃ text, item = .scalar (.number text) ∧ Inverts strtod text value
  | numbers values, item => ∃ contents inner, item = .group .array contents inner ∧
      Elements (Inverts strtod) contents values

/-- The document is one flat object with the fields of the record, each once, in any order. -/
structure CoefficientRecord.Renders (record : CoefficientRecord) (document : Document) : Prop where
  valid : document.Valid
  nodup : (document.members.map (·.key)).Nodup
  known : ∀ member ∈ document.members, ∃ field value, member.key = field.name ∧
    record.value field = some value ∧ value.Renders strtod member.value
  complete : ∀ field, (record.value field).isSome → ∃ member ∈ document.members,
    member.key = field.name

variable {strtod}

theorem Inverts.finiteNumber {text} (number : NumberText text) {value}
    (inverts : Inverts strtod text value) : finiteNumber strtod text = some value := by
  have converted : strtod text = ⟨some value, [], false⟩ := inverts
  simp only [Policy.finiteNumber, number.takeWhile_eq, converted, and_self, if_true]

theorem strings_of_elements {writes}
    (elements : Elements writes contents values) : strings contents = [] := by
  induction contents generalizing values with
  | nil => rfl
  | leaf _ _ ih =>
    obtain ⟨_, _, _, isNumber, -, -, elements⟩ := elements
    rw [strings, isNumber, ih elements]
    rfl
  | node => exact elements.elim

theorem Elements.mono {writes reads slot} (valid : ValidContents slot contents)
    (implies : ∀ text value, NumberText text → writes text value → reads text value)
    (elements : Elements writes contents values) : Elements reads contents values := by
  induction contents generalizing slot values with
  | nil => exact elements
  | leaf _ _ ih =>
    obtain ⟨text, value, others, isNumber, written, equal, elements⟩ := elements
    obtain ⟨-, -, word, -, later⟩ := valid
    exact ⟨text, value, others, isNumber, implies _ _ (numberText_of_valid word isNumber) written,
      equal, ih later elements⟩
  | node => exact elements.elim

theorem FieldValue.Renders.strings_eq_nil {item} (renders : value.Renders strtod item) :
    item.strings = [] := by
  cases value with
  | number value =>
    obtain ⟨_, rfl, -⟩ := renders
    rfl
  | numbers =>
    obtain ⟨_, _, rfl, elements⟩ := renders
    exact strings_of_elements elements

namespace CoefficientRecord

variable {record : CoefficientRecord} {document : Document}

theorem hidden_of_ne {field other : Field} {member : Member} (isKey : member.key = field.name)
    (renders : value.Renders strtod member.value) (different : member.key ≠ other.name) :
    ∀ raw ∈ member.strings, ¬ Shows other.name raw := by
  have noQuote : '"' ∉ member.key := by
    rw [isKey]
    exact fun inside => (field.isKey_name.plain _ inside).1 rfl
  rw [Member.strings, renders.strings_eq_nil]
  intro raw inside
  cases List.mem_singleton.mp inside
  exact mt (shows_iff_of_notMem noQuote).mp different

theorem floor_add_half (window : ℕ) : ⌊(window : ℚ) + 1 / 2⌋.toNat = window := by
  have floor : ⌊(window : ℚ) + 1 / 2⌋ = (window : ℤ) := by
    rw [Int.floor_eq_iff]
    constructor
    · push_cast
      linarith
    · push_cast
      linarith
  rw [floor, Int.toNat_natCast]

variable (renders : record.Renders strtod document) {field : Field}
include renders

theorem Renders.split (has : record.value field = some value) :
    ∃ before member after, document.members = before ++ member :: after ∧
      member.key = field.name ∧ value.Renders strtod member.value ∧
      ∀ other ∈ before, (∀ raw ∈ other.strings, ¬ Shows field.name raw) ∧
        other.key ≠ field.name := by
  obtain ⟨member, inside, isKey⟩ := renders.complete field (by rw [has]; rfl)
  obtain ⟨before, after, split⟩ := List.append_of_mem inside
  obtain ⟨_, _, ownKey, ownHas, rendered⟩ := renders.known member inside
  cases Field.name_injective (isKey.symm.trans ownKey)
  cases Option.some.inj (has.symm.trans ownHas)
  have nodup := renders.nodup
  rw [split, List.map_append, List.map_cons, List.nodup_append] at nodup
  refine ⟨before, member, after, split, isKey, rendered, fun other earlier => ?_⟩
  obtain ⟨_, _, otherKey, -, otherRendered⟩ :=
    renders.known other (split ▸ List.mem_append_left _ earlier)
  have different : other.key ≠ field.name :=
    isKey ▸ nodup.2.2 _ (List.mem_map_of_mem earlier) _ List.mem_cons_self
  exact ⟨hidden_of_ne otherKey otherRendered different, different⟩

theorem Renders.found (has : record.value field = some value) :
    ∃ (member : Member) (tail : List Char), member.Valid ∧ Stops tail ∧
      behindFirst (quoted field.name) document.text = some (member.behindKey tail) ∧
      value.Renders strtod member.value := by
  obtain ⟨_, member, after, split, isKey, rendered, hidden⟩ := renders.split has
  have inside : member ∈ document.members :=
    split ▸ List.mem_append_right _ List.mem_cons_self
  refine ⟨member, membersText false after document.ending, renders.valid.members member inside,
    stops_membersText after renders.valid.stops_ending, ?_, rendered⟩
  rw [← isKey]
  exact renders.valid.behindFirst_eq_some split (isKey ▸ field.isKey_name)
    fun other earlier => isKey ▸ (hidden other earlier).1

theorem Renders.hidden (lacks : record.value field = none) {member}
    (inside : member ∈ document.members) :
    (∀ raw ∈ member.strings, ¬ Shows field.name raw) ∧ member.key ≠ field.name := by
  obtain ⟨_, value, ownKey, has, rendered⟩ := renders.known member inside
  have different : member.key ≠ field.name := by
    rw [ownKey]
    intro equal
    cases Field.name_injective equal
    exact Option.some_ne_none _ (has.symm.trans lacks)
  exact ⟨hidden_of_ne ownKey rendered different, different⟩

theorem Renders.absent (lacks : record.value field = none) :
    behindFirst (quoted field.name) document.text = none :=
  renders.valid.behindFirst_eq_none field.isKey_name fun _ inside => (renders.hidden lacks inside).1

theorem Renders.parseDoubleField_eq {value} (has : record.value field = some (.number value))
    (required) : parseDoubleField strtod document.text field required = .ok (some value) := by
  obtain ⟨_, _, valid, ends, found, text, isNumber, inverts⟩ := renders.found has
  have written := valid.value
  rw [isNumber] at written
  have number := @numberText_of_valid (.number text) written text rfl
  rw [parseDoubleField_number strtod valid found isNumber number ends]
  simp only [inverts.finiteNumber number]

theorem Renders.parseDoubleArrayField_eq (has : record.value field = some (.numbers values)) :
    parseDoubleArrayField strtod document.text field = .ok values := by
  obtain ⟨_, _, valid, _, found, contents, inner, isArray, elements⟩ :=
    renders.found has
  obtain ⟨within, blank⟩ : ValidContents (.element true) contents ∧ Blank inner := by
    have written := valid.value
    rwa [isArray] at written
  rw [parseDoubleArrayField_of_found strtod valid found isArray]
  exact arrayLoop_complete strtod field within
    (elements.mono within fun _ _ number inverts => inverts.finiteNumber number) blank _

theorem Renders.parseDoubleField_optional {value} (has : record.value field = value.map .number) :
    parseDoubleField strtod document.text field false = .ok value := by
  cases value with
  | none =>
    simp only [parseDoubleField, renders.absent has, Bool.false_eq_true, if_false]
  | some value => exact renders.parseDoubleField_eq has false

theorem Renders.parseDoubleArrayField_optional {values : Option (List ℚ)}
    (has : record.value field = values.map .numbers) :
    parseDoubleArrayField strtod document.text field = .ok (values.getD []) := by
  cases values with
  | none => exact parseDoubleArrayField_of_absent strtod (renders.absent has)
  | some values => exact renders.parseDoubleArrayField_eq has

theorem Renders.parseWidthField_eq {width : Option {value : ℚ // 0 ≤ value}}
    (has : record.value field = width.map (.number ·.1)) {default} (nonneg) :
    parseWidthField strtod document.text field default nonneg =
      .ok (width.getD ⟨default, nonneg⟩) := by
  have numbers : record.value field = (width.map (·.1)).map .number := by
    rw [has, Option.map_map]
    rfl
  have read := renders.parseDoubleField_optional numbers
  cases width with
  | none => simp only [parseWidthField, read, Option.map_none, Option.getD_none]
  | some width =>
    simp only [parseWidthField, read, Option.map_some, Option.getD_some,
      dif_neg (not_lt.mpr width.2)]

theorem Renders.parseStaleness_eq :
    parseStaleness (.exact strtod) document.text = .ok (record.stalenessWindowMs.getD 500) := by
  have numbers : record.value .stalenessWindowMs =
      (record.stalenessWindowMs.map fun window : ℕ => (window : ℚ)).map .number := by
    rw [value, Option.map_map]
    rfl
  have read := renders.parseDoubleField_optional numbers
  cases recorded : record.stalenessWindowMs with
  | none =>
    rw [recorded] at read
    simp only [parseStaleness, parseUint64Field, Floats.exact, read, Option.map_none,
      Option.getD_none]
  | some window =>
    rw [recorded] at read
    obtain ⟨pos, small⟩ := record.staleness_pos window recorded
    have inRange : ¬ ((window : ℚ) < 0 ∨ 2 ^ 64 < (window : ℚ)) := by
      have : (window : ℚ) < 2 ^ 64 := by exact_mod_cast small
      exact not_or.mpr ⟨not_lt.mpr (Nat.cast_nonneg window), not_lt.mpr this.le⟩
    simp only [parseStaleness, parseUint64Field, Floats.exact, id, read, Option.map_some,
      Option.getD_some, if_neg inRange, floor_add_half, Nat.mod_eq_of_lt small, if_neg pos.ne']

theorem Renders.reads :
    Reads (.exact strtod) document.text record.coefficients where
  bias := by
    have read := renders.parseDoubleField_eq (show record.value .bias = _ from rfl) true
    simp only [parseBias, Floats.exact, read]
    rfl
  temperature := by
    have read := renders.parseDoubleArrayField_eq (show record.value .arTemperature = _ from rfl)
    simp only [parseTemperature, Floats.exact, read, if_neg record.arTemperature_ne_nil]
    rfl
  ratio := renders.parseDoubleArrayField_optional rfl
  severity := renders.parseDoubleArrayField_optional rfl
  trimmedRatio := renders.parseDoubleArrayField_optional rfl
  ma := renders.parseDoubleField_optional rfl
  staleness := renders.parseStaleness_eq
  widthTemperature := ⟨_, renders.parseWidthField_eq rfl (by norm_num)⟩
  widthPerformance := ⟨_, renders.parseWidthField_eq rfl (by norm_num)⟩

end CoefficientRecord

end

/-- The parser reads back every rendered record, and keeps the coefficients where it fails. -/
theorem coefficients_round_trip (strtod : List Char → Converted (Option ℚ)) (model : ArxModel) :
    (∀ (record : CoefficientRecord) (document : Document), record.Renders strtod document →
      model.parseContent (.exact strtod) document.text =
        ({ model with coefficients := record.coefficients }, none)) ∧
    (∀ floats content e, (model.parseContent floats content).2 = some e →
      (model.parseContent floats content).1.coefficients = model.coefficients) := by
  constructor
  · intro record document renders
    have read := (readContent_eq_ok_iff (.exact strtod)).mpr renders.reads
    simp only [ArxModel.parseContent, read]
  · intro floats content e failed
    cases read : readContent floats content with
    | error e => simp only [ArxModel.parseContent, read]
    | ok coefficients =>
      simp only [ArxModel.parseContent, read] at failed
      cases failed

theorem writesReal_digit (digit : c.isDigit = true) : WritesReal [c] (digitValue c) := by
  refine ⟨false, [c], [], [], 0, ⟨List.cons_ne_nil _ _, ?_⟩, .inl rfl, .inl ⟨rfl, rfl⟩, rfl, ?_⟩
  · intro d member
    cases List.mem_singleton.mp member
    exact digit
  · simp [signed, ofDigits]

def shortRecord : CoefficientRecord where
  bias := 7
  arTemperature := [1, 20]
  ratio := none
  severity := none
  trimmedRatio := none
  ma := some (-1 / 2)
  stalenessWindowMs := none
  widthTemperatureMillicPerStep := none
  widthPerformanceBenefitMilliPerStep := none
  arTemperature_ne_nil := List.cons_ne_nil _ _
  staleness_pos := nofun

def shortDocument : Document where
  lead := [' ']
  members :=
    [⟨['\n'], Field.ma.name, [], [' '], .scalar (.number ['-', '0', '.', '5']), []⟩,
      ⟨[], Field.arTemperature.name, [' '], [], .group .array (.leaf ⟨[' '], .number ['1'], ['\t']⟩
        (.leaf ⟨[], .number ['2', 'e', '1'], []⟩ .nil)) [' '], []⟩,
      ⟨[], Field.bias.name, [], [], .scalar (.number ['7']), [' ']⟩]
  inner := []
  trail := ['\n']

theorem shortDocument_valid : shortDocument.Valid where
  lead := by decide
  members := by
    have half : WritesReal ['-', '0', '.', '5'] (-1 / 2) :=
      ⟨true, ['0'], ['5'], [], 0, by decide, .inr (by decide), .inl ⟨rfl, rfl⟩, rfl,
        by decide +kernel⟩
    have twenty : WritesReal ['2', 'e', '1'] 20 :=
      ⟨false, ['2'], [], ['e', '1'], 1, by decide, .inl rfl,
        .inr ⟨'e', by decide, false, [], by decide, ['1'], by decide, rfl, by decide⟩, rfl,
        by decide +kernel⟩
    simp only [shortDocument, List.forall_mem_cons]
    exact ⟨⟨by decide, ⟨_, spells_plain (by decide)⟩, by decide, by decide, ⟨_, half⟩, by decide⟩,
      ⟨by decide, ⟨_, spells_plain (by decide)⟩, by decide, by decide,
        ⟨⟨by decide, by decide, ⟨_, writesReal_digit rfl⟩, nofun, by decide, by decide, ⟨_, twenty⟩,
          nofun, nofun⟩, by decide⟩, by decide⟩,
      ⟨by decide, ⟨_, spells_plain (by decide)⟩, by decide, by decide, ⟨_, writesReal_digit rfl⟩,
        by decide⟩,
      fun _ none => absurd none List.not_mem_nil⟩
  inner := by decide
  trail := by decide

theorem shortDocument_renders : shortRecord.Renders CText.strtod shortDocument where
  valid := shortDocument_valid
  nodup := by decide
  known := by
    have inverts (text) (value)
        (converted : CText.strtod text = ⟨some value, [], false⟩) :
        Inverts CText.strtod text value := converted
    simp only [shortDocument, List.forall_mem_cons]
    exact ⟨⟨.ma, _, rfl, rfl, _, rfl, inverts _ _ (by decide +kernel)⟩,
      ⟨.arTemperature, _, rfl, rfl, _, _, rfl, _, 1, _, rfl, inverts _ _ (by decide +kernel), rfl,
        _, 20, _, rfl, inverts _ _ (by decide +kernel), rfl, rfl⟩,
      ⟨.bias, _, rfl, rfl, _, rfl, inverts _ _ (by decide +kernel)⟩,
      fun _ none => absurd none List.not_mem_nil⟩
  complete := by
    intro field has
    cases field <;> first | exact absurd has (by decide) | decide

theorem short_record_round_trip :
    shortRecord.Renders CText.strtod shortDocument ∧
      ArxModel.initial.parseContent (.exact CText.strtod) shortDocument.text =
        ({ ArxModel.initial with coefficients := shortRecord.coefficients }, none) :=
  ⟨shortDocument_renders,
    (coefficients_round_trip CText.strtod .initial).1 _ _ shortDocument_renders⟩

end Policy
end ThermalSimd
