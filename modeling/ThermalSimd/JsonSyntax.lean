import Mathlib.Data.List.Infix
import ThermalSimd.CText
import ThermalSimd.Forest

/-!
# JSON documents as they are written

Concrete syntax trees of JSON objects: tokens with the white space around them, strings as they are
spelled. A search for a quoted key finds the first string whose spelling ends in the key behind a
quote, and nothing else.
-/

namespace JsonSyntax

variable {front more tail : List Char}

/-- The text behind the first occurrence of `needle`, which is not empty. -/
def behindFirst (needle : List Char) : List Char → Option (List Char)
  | [] => none
  | c :: rest =>
    if needle <+: c :: rest then some ((c :: rest).drop needle.length)
    else behindFirst needle rest

theorem behindFirst_cons_of_not {needle c rest}
    (absent : ¬ needle <+: c :: rest) : behindFirst needle (c :: rest) = behindFirst needle rest :=
  if_neg absent

theorem behindFirst_append_of_notMem {first} (absent : first ∉ front) (rest) :
    behindFirst (first :: more) (front ++ rest) = behindFirst (first :: more) rest := by
  induction front with
  | nil => rfl
  | cons c front ih =>
    obtain ⟨different, later⟩ := not_or.mp (mt List.mem_cons.mpr absent)
    rw [List.cons_append, behindFirst_cons_of_not, ih later]
    exact fun starts => different (List.cons_prefix_cons.mp starts).1

theorem behindFirst_cons_of_ne {first c} (different : first ≠ c) (rest) :
    behindFirst (first :: more) (c :: rest) = behindFirst (first :: more) rest :=
  behindFirst_append_of_notMem (mt List.mem_singleton.mp different) rest

theorem behindFirst_self {needle} (ne : needle ≠ []) (rest) :
    behindFirst needle (needle ++ rest) = some rest := by
  obtain ⟨c, more, rfl⟩ := List.exists_cons_of_ne_nil ne
  have starts : c :: more <+: c :: (more ++ rest) := List.prefix_append (c :: more) rest
  rw [List.cons_append, behindFirst, if_pos starts]
  exact congrArg some (@List.drop_left _ (c :: more) rest)

def escapes : List (Char × Char) :=
  [('"', '"'), ('\\', '\\'), ('/', '/'), ('b', '\x08'), ('f', '\x0c'), ('n', '\n'), ('r', '\r'),
    ('t', '\t')]

/-- How a string literal spells a text; the halves of a surrogate pair are kept apart. -/
inductive Spells : List Char → List Char → Prop
  | nil : Spells [] []
  | plain {c raw text} (noQuote : c ≠ '"') (noBackslash : c ≠ '\\') (printable : 32 ≤ c.toNat)
      (rest : Spells raw text) :
      Spells (c :: raw) (c :: text)
  | escape {mark c raw text} (isEscape : (mark, c) ∈ escapes) (rest : Spells raw text) :
      Spells ('\\' :: mark :: raw) (c :: text)
  | unicode {digits raw text} (four : digits.length = 4)
      (hex : ∀ c ∈ digits, CText.isHexDigit c = true) (rest : Spells raw text) :
      Spells ('\\' :: 'u' :: (digits ++ raw)) (Char.ofNat (CText.ofDigits 16 digits) :: text)

theorem spells_plain {text}
    (plain : text.all (fun c => c ≠ '"' && c ≠ '\\' && 32 ≤ c.toNat) = true) :
    Spells text text := by
  induction text with
  | nil => exact .nil
  | cons c text ih =>
    rw [List.all_cons, Bool.and_eq_true] at plain
    obtain ⟨first, later⟩ := plain
    simp only [Bool.and_eq_true, decide_eq_true_eq] at first
    exact .plain first.1.1 first.1.2 first.2 (ih later)

theorem Spells.eq_of_notMem {raw text} (spells : Spells raw text)
    (noBackslash : '\\' ∉ raw) : raw = text := by
  induction spells with
  | nil => rfl
  | plain _ _ _ _ ih => rw [ih fun inside => noBackslash (List.mem_cons_of_mem _ inside)]
  | escape | unicode => exact absurd List.mem_cons_self noBackslash

def stops : List Char := [' ', '\t', '\n', '\r', ',', ':', ']', '}']

def Stops (text : List Char) : Prop := ∀ c ∈ text.head?, c ∈ stops

/-- A name that needs no escape and cannot be mistaken for punctuation. -/
structure IsKey (key : List Char) : Prop where
  nonempty : key ≠ []
  plain : ∀ c ∈ key, c ≠ '"' ∧ c ≠ '\\' ∧ c ∉ stops

instance (key : List Char) : Decidable (IsKey key) :=
  have : Decidable (∀ c ∈ key, c ≠ '"' ∧ c ≠ '\\' ∧ c ∉ stops) := List.decidableBAll _ key
  decidable_of_iff (key ≠ [] ∧ ∀ c ∈ key, c ≠ '"' ∧ c ≠ '\\' ∧ c ∉ stops)
    ⟨fun isKey => ⟨isKey.1, isKey.2⟩, fun isKey => ⟨isKey.nonempty, isKey.plain⟩⟩

def quoted (key : List Char) : List Char := '"' :: (key ++ ['"'])

def Shows (key raw : List Char) : Prop := ('"' :: key) <:+ ('"' :: raw)
  deriving Decidable

theorem suffix_append_of_notMem {first} (absent : first ∉ front) (rest) :
    (first :: more) <:+ front ++ rest ↔ (first :: more) <:+ rest := by
  induction front with
  | nil => rfl
  | cons c front ih =>
    obtain ⟨different, later⟩ := not_or.mp (mt List.mem_cons.mpr absent)
    rw [List.cons_append, List.suffix_cons_iff, ih later, or_iff_right]
    exact fun same => different (List.cons.inj same).1

theorem suffix_cons_of_ne {first c} (different : first ≠ c) (rest) :
    (first :: more) <:+ c :: rest ↔ (first :: more) <:+ rest :=
  suffix_append_of_notMem (mt List.mem_singleton.mp different) rest

theorem Spells.eq_of_isPrefix {raw text key rest} (spells : Spells raw text)
    (plain : ∀ c ∈ key, c ≠ '"' ∧ c ≠ '\\' ∧ c ∉ stops)
    (starts : key ++ ['"'] <+: raw ++ '"' :: rest) : raw = key := by
  induction key generalizing raw text with
  | nil =>
    cases spells with
    | nil => rfl
    | plain noQuote => exact absurd (List.cons_prefix_cons.mp starts).1.symm noQuote
    | escape | unicode => exact absurd (List.cons_prefix_cons.mp starts).1 (by decide)
  | cons c key ih =>
    obtain ⟨⟨noQuote, noBackslash, -⟩, plain⟩ := List.forall_mem_cons.mp plain
    cases spells with
    | nil => exact absurd (List.cons_prefix_cons.mp starts).1 noQuote
    | plain _ _ _ later =>
      obtain ⟨rfl, further⟩ := List.cons_prefix_cons.mp starts
      rw [ih later plain further]
    | escape | unicode => exact absurd (List.cons_prefix_cons.mp starts).1 noBackslash

theorem pass_append (absent : '"' ∉ front) (key rest) :
    behindFirst (quoted key) (front ++ rest) = behindFirst (quoted key) rest :=
  behindFirst_append_of_notMem absent rest

theorem pass_cons {c} (noQuote : '"' ≠ c) (key rest) :
    behindFirst (quoted key) (c :: rest) = behindFirst (quoted key) rest :=
  behindFirst_cons_of_ne noQuote rest

theorem behindFirst_quoted (key rest) :
    behindFirst (quoted key) ('"' :: (key ++ '"' :: rest)) = some rest := by
  have split : '"' :: (key ++ '"' :: rest) = quoted key ++ rest := by simp [quoted]
  rw [split]
  exact behindFirst_self (List.cons_ne_nil _ _) rest

theorem shows_self (key) : Shows key key := List.suffix_refl _

theorem shows_iff_of_ne {key raw} (different : raw ≠ key) :
    Shows key raw ↔ ('"' :: key) <:+ raw := by
  unfold Shows
  rw [List.suffix_cons_iff, or_iff_right]
  exact fun equal => different (List.cons.inj equal).2.symm

theorem shows_iff_of_notMem {key raw} (noQuote : '"' ∉ raw) : Shows key raw ↔ raw = key := by
  constructor
  · intro shows
    by_contra different
    have inside := (shows_iff_of_ne different).mp shows
    exact noQuote (inside.subset List.mem_cons_self)
  · rintro rfl
    exact shows_self raw

section

variable {raw text key rest : List Char} (isKey : IsKey key) (ends : Stops rest)
include isKey

theorem quoted_isPrefix_iff (spells : Spells raw text) :
    quoted key <+: '"' :: (raw ++ '"' :: rest) ↔ raw = key := by
  unfold quoted
  rw [List.cons_prefix_cons, and_iff_right rfl]
  constructor
  · exact spells.eq_of_isPrefix isKey.plain
  · rintro rfl
    exact ⟨rest, by simp⟩

include ends

theorem not_quoted_isPrefix : ¬ quoted key <+: '"' :: rest := by
  intro starts
  have starts := (List.cons_prefix_cons.mp starts).2
  obtain ⟨c, _, rfl⟩ := List.exists_cons_of_ne_nil isKey.nonempty
  cases rest with
  | nil => exact absurd (List.prefix_nil.mp starts) (List.cons_ne_nil _ _)
  | cons d rest =>
    obtain ⟨rfl, -⟩ := List.cons_prefix_cons.mp starts
    exact (isKey.plain c List.mem_cons_self).2.2 (ends c rfl)

theorem behindFirst_inside (spells : Spells raw text) :
    behindFirst (quoted key) (raw ++ '"' :: rest) =
      if ('"' :: key) <:+ raw then some rest else behindFirst (quoted key) rest := by
  induction spells with
  | nil =>
    rw [List.nil_append, behindFirst_cons_of_not (not_quoted_isPrefix isKey ends), if_neg]
    exact fun suffix => absurd (List.suffix_nil.mp suffix) (List.cons_ne_nil _ _)
  | plain noQuote _ _ later ih =>
    rw [List.cons_append, pass_cons noQuote.symm, ih]
    simp only [suffix_cons_of_ne noQuote.symm]
  | @escape mark c raw text isEscape later ih =>
    have shorter : ('"' :: key) <:+ '\\' :: mark :: raw ↔ ('"' :: key) <:+ mark :: raw :=
      suffix_cons_of_ne (by decide) _
    rw [List.cons_append, List.cons_append, pass_cons (by decide)]
    simp only [shorter]
    by_cases quote : mark = '"'
    · subst quote
      by_cases same : raw = key
      · subst same
        rw [if_pos (List.suffix_refl ('"' :: raw))]
        exact behindFirst_quoted raw rest
      · rw [behindFirst_cons_of_not (mt (quoted_isPrefix_iff isKey later).mp same), ih]
        simp only [show ('"' :: key) <:+ '"' :: raw ↔ _ from shows_iff_of_ne same]
    · have different : '"' ≠ mark := fun equal => quote equal.symm
      rw [pass_cons different, ih]
      simp only [suffix_cons_of_ne different]
  | @unicode digits raw text four hex j ih =>
    have absent : '"' ∉ '\\' :: 'u' :: digits := by
      simpa using fun inside => absurd (hex '"' inside) (by decide)
    have skip := pass_append absent key (raw ++ '"' :: rest)
    have shorter : ('"' :: key) <:+ '\\' :: 'u' :: digits ++ raw ↔ ('"' :: key) <:+ raw :=
      suffix_append_of_notMem absent _
    simp only [List.cons_append, List.append_assoc] at skip shorter ⊢
    rw [skip, ih]
    simp only [shorter]

theorem behindFirst_literal (spells : Spells raw text) :
    behindFirst (quoted key) ('"' :: (raw ++ '"' :: rest)) =
      if Shows key raw then some rest else behindFirst (quoted key) rest := by
  by_cases same : raw = key
  · subst same
    rw [if_pos (shows_self raw)]
    exact behindFirst_quoted raw rest
  · rw [behindFirst_cons_of_not (mt (quoted_isPrefix_iff isKey spells).mp same),
      behindFirst_inside isKey ends spells]
    simp only [shows_iff_of_ne same]

end

def Blank (text : List Char) : Prop := ∀ c ∈ text, c ∈ [' ', '\t', '\n', '\r']

instance (text : List Char) : Decidable (Blank text) :=
  List.decidableBAll _ text

/-- The words of JSON. -/
inductive Literal
  | true | false | null
  deriving DecidableEq

def Literal.text : Literal → List Char
  | true => ['t', 'r', 'u', 'e']
  | false => ['f', 'a', 'l', 's', 'e']
  | null => ['n', 'u', 'l', 'l']

/-- A scalar as it is written. -/
inductive Word
  | string (raw : List Char)
  | number (text : List Char)
  | literal (name : Literal)
  deriving DecidableEq

namespace Word

def text : Word → List Char
  | string raw => '"' :: (raw ++ ['"'])
  | number text => text
  | literal name => name.text

def Valid : Word → Prop
  | string raw => ∃ text, Spells raw text
  | number text => ∃ value, CText.WritesReal text value
  | literal _ => True

def strings : Word → List (List Char)
  | string raw => [raw]
  | number _ => []
  | literal _ => []

end Word

/-- The two kinds of brackets. -/
inductive Bracket
  | object
  | array
  deriving DecidableEq

namespace Bracket

def opening : Bracket → Char
  | object => '\x7b'
  | array => '['

def closing : Bracket → Char
  | object => '\x7d'
  | array => ']'

end Bracket

/-- A word with the white space around it. -/
structure Padded where
  lead : List Char
  word : Word
  trail : List Char
  deriving DecidableEq

/-- The brackets of a container with their white space. -/
structure Group where
  bracket : Bracket
  lead : List Char
  inner : List Char
  trail : List Char
  deriving DecidableEq

/-- What stands between two brackets; the keys and values of an object take turns. -/
abbrev Contents : Type := Forest Padded Group

/-- A key or an element, the first one or not, or the value of a key comes next. -/
inductive Slot
  | key (first : Bool)
  | value
  | element (first : Bool)
  deriving DecidableEq

namespace Slot

def next : Slot → Slot
  | key _ => value
  | value => key false
  | element _ => element false

def mark : Slot → List Char
  | key true => []
  | element true => []
  | key false => [',']
  | element false => [',']
  | value => [':']

def ofBracket : Bracket → Slot
  | .object => key true
  | .array => element true

end Slot

def render : Slot → Contents → List Char
  | _, .nil => []
  | slot, .leaf padded rest =>
    slot.mark ++ (padded.lead ++ (padded.word.text ++ (padded.trail ++ render slot.next rest)))
  | slot, .node group children rest =>
    slot.mark ++ (group.lead ++ (group.bracket.opening ::
      (render (.ofBracket group.bracket) children ++ (group.inner ++ (group.bracket.closing ::
        (group.trail ++ render slot.next rest))))))

def ValidContents : Slot → Contents → Prop
  | slot, .nil => slot ≠ .value
  | slot, .leaf padded rest =>
    Blank padded.lead ∧ Blank padded.trail ∧ padded.word.Valid ∧
      ((∃ first, slot = .key first) → ∃ raw, padded.word = .string raw) ∧
      ValidContents slot.next rest
  | slot, .node group children rest =>
    Blank group.lead ∧ Blank group.inner ∧ Blank group.trail ∧ (∀ first, slot ≠ .key first) ∧
      ValidContents (.ofBracket group.bracket) children ∧ ValidContents slot.next rest

theorem ValidContents.element {first contents} (valid : ValidContents (.element first) contents)
    (second) : ValidContents (.element second) contents := by
  cases contents with
  | nil => exact nofun
  | leaf _ rest =>
    obtain ⟨lead, trail, word, -, later⟩ := valid
    exact ⟨lead, trail, word, fun ⟨_, isKey⟩ => (nomatch isKey), later⟩
  | node _ _ rest =>
    obtain ⟨lead, inner, trail, -, within, later⟩ := valid
    exact ⟨lead, inner, trail, fun _ => nofun, within, later⟩

def strings : Contents → List (List Char)
  | .nil => []
  | .leaf padded rest => padded.word.strings ++ strings rest
  | .node _ children rest => strings children ++ strings rest

/-- A value as it is written. -/
inductive Item
  | scalar (word : Word)
  | group (bracket : Bracket) (contents : Contents) (inner : List Char)
  deriving DecidableEq

namespace Item

def text : Item → List Char
  | scalar word => word.text
  | group bracket contents inner =>
    bracket.opening :: (render (.ofBracket bracket) contents ++ (inner ++ [bracket.closing]))

def Valid : Item → Prop
  | scalar word => word.Valid
  | group bracket contents inner => ValidContents (.ofBracket bracket) contents ∧ Blank inner

def strings : Item → List (List Char)
  | scalar word => word.strings
  | group _ contents _ => JsonSyntax.strings contents

end Item

/-- A member of an object as it is written. -/
structure Member where
  lead : List Char
  key : List Char
  beforeColon : List Char
  afterColon : List Char
  value : Item
  trail : List Char
  deriving DecidableEq

namespace Member

def fromValue (member : Member) (tail : List Char) : List Char :=
  member.value.text ++ (member.trail ++ tail)

def behindKey (member : Member) (tail : List Char) : List Char :=
  member.beforeColon ++ ':' :: (member.afterColon ++ member.fromValue tail)

def text (member : Member) (tail : List Char) : List Char :=
  member.lead ++ '"' :: (member.key ++ '"' :: member.behindKey tail)

/-- The member is well formed. -/
structure Valid (member : Member) : Prop where
  lead : Blank member.lead
  key : ∃ text, Spells member.key text
  beforeColon : Blank member.beforeColon
  afterColon : Blank member.afterColon
  value : member.value.Valid
  trail : Blank member.trail

def strings (member : Member) : List (List Char) := member.key :: member.value.strings

end Member

def membersText : Bool → List Member → List Char → List Char
  | _, [], tail => tail
  | first, member :: rest, tail =>
    (if first then [] else [',']) ++ member.text (membersText false rest tail)

/-- An object as it is written. -/
structure Document where
  lead : List Char
  members : List Member
  inner : List Char
  trail : List Char
  deriving DecidableEq

namespace Document

def ending (document : Document) : List Char := document.inner ++ '\x7d' :: document.trail

def text (document : Document) : List Char :=
  document.lead ++ '\x7b' :: membersText true document.members document.ending

def First (document : Document) (name : List Char) (member : Member) : Prop :=
  ∃ before after, document.members = before ++ member :: after ∧ Spells member.key name ∧
    ∀ other ∈ before, ¬ Spells other.key name

def Lacks (document : Document) (name : List Char) : Prop :=
  ∀ member ∈ document.members, ¬ Spells member.key name

/-- The document is well formed JSON. -/
structure Valid (document : Document) : Prop where
  lead : Blank document.lead
  members : ∀ member ∈ document.members, member.Valid
  inner : Blank document.inner
  trail : Blank document.trail

end Document

theorem Blank.notMem {text} (blank : Blank text) {c}
    (other : c ∉ [' ', '\t', '\n', '\r']) : c ∉ text :=
  fun mem => other (blank c mem)

theorem stops_append_of_blank {front rest} (blank : Blank front) (ends : Stops rest) :
    Stops (front ++ rest) := by
  cases front with
  | nil => exact ends
  | cons c front =>
    intro d first
    cases Option.some.inj first
    have space := blank c List.mem_cons_self
    simp only [stops, List.mem_cons, List.not_mem_nil, or_false] at space ⊢
    tauto

theorem stops_cons {c} (isStop : c ∈ stops) (rest) : Stops (c :: rest) := by
  intro d first
  cases Option.some.inj first
  exact isStop

theorem Bracket.closing_mem_stops (bracket : Bracket) : bracket.closing ∈ stops := by
  cases bracket <;> decide

theorem stops_render_next (slot : Slot) (rest) (ends : Stops tail) :
    Stops (render slot.next rest ++ tail) := by
  have marked (more) : Stops (slot.next.mark ++ more) := by
    cases slot <;> exact stops_cons (by decide) _
  cases rest with
  | nil => exact ends
  | leaf padded rest | node group kids rest =>
    rw [render, List.append_assoc]
    exact marked _

theorem stops_membersText (members) (ends : Stops tail) :
    Stops (membersText false members tail) := by
  cases members with
  | nil => exact ends
  | cons => exact stops_cons (by decide) _

theorem Document.Valid.stops_ending {document : Document} (valid : document.Valid) :
    Stops document.ending :=
  stops_append_of_blank valid.inner (stops_cons (by decide) _)

theorem mem_of_writesExponent {text v} (writes : CText.WritesExponent text v) :
    ∀ c ∈ text, c.isDigit = true ∨ c ∈ ['-', '+', '.', 'e', 'E'] := by
  rcases writes with ⟨rfl, -⟩ | ⟨mark, isMark, negative, sign, isSign, digits, row, rfl, -⟩
  · exact fun c mem => absurd mem List.not_mem_nil
  · intro c mem
    rcases List.mem_cons.mp mem with rfl | later
    · refine .inr ?_
      tauto
    rcases List.mem_append.mp later with signed | digit
    · have signs : sign = [] ∨ sign = ['+'] ∨ sign = ['-'] := by
        cases negative <;> simp at isSign <;> tauto
      rcases signs with rfl | rfl | rfl
      · exact absurd signed List.not_mem_nil
      · cases List.mem_singleton.mp signed
        exact .inr (by decide)
      · cases List.mem_singleton.mp signed
        exact .inr (by decide)
    · exact .inl (row.2 c digit)

theorem mem_of_writesReal {text v} (writes : CText.WritesReal text v) :
    ∀ c ∈ text, c.isDigit = true ∨ c ∈ ['-', '+', '.', 'e', 'E'] := by
  obtain ⟨_, _, _, _, _, row, fractionRow, writesExponent, rfl,
    -⟩ := writes
  intro c mem
  rw [List.mem_append, List.mem_append, List.mem_append] at mem
  rcases mem with sign | digit | point | mark
  · split at sign
    · cases List.mem_singleton.mp sign
      exact .inr (by decide)
    · exact absurd sign List.not_mem_nil
  · exact .inl (row.2 c digit)
  · split at point
    · exact absurd point List.not_mem_nil
    · next fractional =>
      rcases List.mem_cons.mp point with rfl | digit
      · exact .inr (by decide)
      · exact .inl ((fractionRow.resolve_left fractional).2 c digit)
  · exact mem_of_writesExponent writesExponent c mark

theorem Slot.notMem_mark (slot : Slot) : '"' ∉ slot.mark := by
  rcases slot with ⟨_ | _⟩ | _ | ⟨_ | _⟩ <;> decide

theorem Bracket.noQuote (bracket : Bracket) : '"' ≠ bracket.opening ∧ '"' ≠ bracket.closing := by
  cases bracket <;> decide

theorem Blank.behindFirst (blank : Blank front) (key rest) :
    behindFirst (quoted key) (front ++ rest) = JsonSyntax.behindFirst (quoted key) rest :=
  pass_append (blank.notMem (by decide)) key rest

theorem notMem_comma (first : Bool) : '"' ∉ (if first then [] else [',']) := by
  cases first <;> decide

section

variable {key : List Char} (isKey : IsKey key)
include isKey

theorem Word.behindFirst_hidden {word : Word} (valid : word.Valid)
    (hidden : ∀ raw ∈ word.strings, ¬ Shows key raw) (ends : Stops tail) :
    behindFirst (quoted key) (word.text ++ tail) = behindFirst (quoted key) tail := by
  cases word with
  | string raw =>
    obtain ⟨text, spells⟩ := valid
    have literal := behindFirst_literal isKey ends spells
    rw [if_neg (hidden raw List.mem_cons_self)] at literal
    rw [← literal, Word.text, List.cons_append, List.append_assoc]
    rfl
  | number text =>
    obtain ⟨_, writes⟩ := valid
    refine pass_append (fun quote => ?_) key tail
    exact absurd (mem_of_writesReal writes '"' quote) (by decide)
  | literal name => exact pass_append (by cases name <;> decide) key tail

theorem behindFirst_render {slot contents} (valid : ValidContents slot contents)
    (hidden : ∀ raw ∈ strings contents, ¬ Shows key raw) (ends : Stops tail) :
    behindFirst (quoted key) (render slot contents ++ tail) = behindFirst (quoted key) tail := by
  induction contents generalizing slot tail with
  | nil => rfl
  | leaf _ rest ih =>
    obtain ⟨lead, trail, word, -, later⟩ := valid
    obtain ⟨own, others⟩ := List.forall_mem_append.mp hidden
    have after := stops_render_next slot rest ends
    simp only [render, List.append_assoc]
    rw [pass_append slot.notMem_mark, lead.behindFirst,
      Word.behindFirst_hidden isKey word own (stops_append_of_blank trail after),
      trail.behindFirst, ih later others ends]
  | node group _ rest inside ih =>
    obtain ⟨lead, inner, trail, -, within, later⟩ := valid
    obtain ⟨own, others⟩ := List.forall_mem_append.mp hidden
    have closes : Stops (group.inner ++ (group.bracket.closing ::
        (group.trail ++ (render slot.next rest ++ tail)))) :=
      stops_append_of_blank inner (stops_cons group.bracket.closing_mem_stops _)
    simp only [render, List.append_assoc, List.cons_append]
    rw [pass_append slot.notMem_mark, lead.behindFirst, pass_cons group.bracket.noQuote.1,
      inside within own closes, inner.behindFirst, pass_cons group.bracket.noQuote.2,
      trail.behindFirst, ih later others ends]

theorem Item.behindFirst_hidden {item : Item} (valid : item.Valid)
    (hidden : ∀ raw ∈ item.strings, ¬ Shows key raw) (ends : Stops tail) :
    behindFirst (quoted key) (item.text ++ tail) = behindFirst (quoted key) tail := by
  cases item with
  | scalar => exact Word.behindFirst_hidden isKey valid hidden ends
  | group bracket _ inner =>
    obtain ⟨within, blank⟩ := valid
    have closes : Stops (inner ++ bracket.closing :: tail) :=
      stops_append_of_blank blank (stops_cons bracket.closing_mem_stops _)
    simp only [Item.text, List.cons_append, List.append_assoc, List.nil_append]
    rw [pass_cons bracket.noQuote.1, behindFirst_render isKey within hidden closes,
      blank.behindFirst, pass_cons bracket.noQuote.2]

theorem Member.Valid.behindFirst_hidden {mem : Member} (valid : mem.Valid)
    (hidden : ∀ raw ∈ mem.strings, ¬ Shows key raw) (ends : Stops tail) :
    behindFirst (quoted key) (mem.text tail) = behindFirst (quoted key) tail := by
  obtain ⟨own, others⟩ := List.forall_mem_cons.mp hidden
  obtain ⟨text, spells⟩ := valid.key
  have stops : Stops (mem.behindKey tail) :=
    stops_append_of_blank valid.beforeColon (stops_cons (by decide) _)
  rw [Member.text, valid.lead.behindFirst, behindFirst_literal isKey stops spells, if_neg own,
    behindKey, valid.beforeColon.behindFirst, pass_cons (by decide), valid.afterColon.behindFirst,
    fromValue,
    Item.behindFirst_hidden isKey valid.value others (stops_append_of_blank valid.trail ends),
    valid.trail.behindFirst]

theorem behindFirst_membersText {before} (valid : ∀ mem ∈ before, mem.Valid)
    (hidden : ∀ mem ∈ before, ∀ raw ∈ mem.strings, ¬ Shows key raw) (ends : Stops tail)
    (first rest) :
    behindFirst (quoted key) (membersText first (before ++ rest) tail) =
      behindFirst (quoted key) (membersText (first && before.isEmpty) rest tail) := by
  induction before generalizing first with
  | nil => simp
  | cons mem before ih =>
    obtain ⟨ownValid, valid⟩ := List.forall_mem_cons.mp valid
    obtain ⟨own, hidden⟩ := List.forall_mem_cons.mp hidden
    rw [List.cons_append, membersText, pass_append (notMem_comma first),
      ownValid.behindFirst_hidden isKey own (stops_membersText _ ends), ih valid hidden]
    simp

end

namespace Document

variable {document : Document}

variable (valid : document.Valid)
include valid

theorem Valid.behindFirst_text (key) :
    behindFirst (quoted key) document.text =
      behindFirst (quoted key) (membersText true document.members document.ending) := by
  rw [text, valid.lead.behindFirst, pass_cons (by decide)]

theorem Valid.behindFirst_eq_none {key} (isKey : IsKey key)
    (hidden : ∀ mem ∈ document.members, ∀ raw ∈ mem.strings, ¬ Shows key raw) :
    behindFirst (quoted key) document.text = none := by
  rw [valid.behindFirst_text, ← List.append_nil document.members,
    behindFirst_membersText isKey valid.members hidden valid.stops_ending, membersText, ending,
    valid.inner.behindFirst, pass_cons (by decide), ← List.append_nil document.trail,
    valid.trail.behindFirst]
  rfl

theorem Valid.behindFirst_eq_some {before after mem}
    (split : document.members = before ++ mem :: after)
    (isKey : IsKey mem.key)
    (hidden : ∀ other ∈ before, ∀ raw ∈ other.strings, ¬ Shows mem.key raw) :
    behindFirst (quoted mem.key) document.text =
      some (mem.behindKey (membersText false after document.ending)) := by
  obtain ⟨earlier, later⟩ := List.forall_mem_append.mp (split ▸ valid.members)
  have ownValid := later mem List.mem_cons_self
  rw [valid.behindFirst_text, split,
    behindFirst_membersText isKey earlier hidden valid.stops_ending, membersText,
    pass_append (notMem_comma _), Member.text, ownValid.lead.behindFirst, behindFirst_quoted]

end Document

end JsonSyntax
