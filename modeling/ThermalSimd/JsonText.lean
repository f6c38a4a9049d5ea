import Mathlib.Data.Nat.SuccPred
import ThermalSimd.ConfigDocument

/-!
# JSON texts

The texts that write a document as JSON: ASCII, strings without escapes, white space wherever JSON
allows it. The tokenizer turns such a text into its document (`parse_object_text`).
-/

namespace ThermalSimd.ConfigFile

open Jsmn

variable {text rest : List Char}

def Blank (text : List Char) : Prop := ∀ c ∈ text, c ∈ [' ', '\t', '\n', '\r']

theorem blank_nil : Blank [] := List.forall_mem_nil _

def Clean (content : List Char) : Prop :=
  ∀ c ∈ content, 32 ≤ c.toNat ∧ c.toNat < 128 ∧ c ≠ '"' ∧ c ≠ '\\'

def Plain (content : List Char) : Prop :=
  content ≠ [] ∧ ∀ c ∈ content, c.isAlphanum = true ∨ c ∈ ['+', '-', '.']

def Word.spelling (word : Word) : List Char :=
  match word.kind with
  | .string => '"' :: (word.content ++ ['"'])
  | .primitive => word.content

def Word.Spellable (word : Word) : Prop :=
  match word.kind with
  | .string => Clean word.content
  | .primitive => Plain word.content

-- The characters of the word are tested, not all characters.
instance (word : Word) : Decidable word.Spellable :=
  match word with
  | ⟨.string, content⟩ => List.decidableBAll _ content
  | ⟨.primitive, content⟩ => @instDecidableAnd _ _ _ (List.decidableBAll _ content)

def opening : Container → Char
  | .object => '{'
  | .array => '['

def closing : Container → Char
  | .object => '}'
  | .array => ']'

/-- The place of an item; the first one has no comma before it. -/
inductive Slot
  | key (first : Bool)
  | value
  | element (first : Bool)
  deriving DecidableEq

namespace Slot

def next : Slot → Slot
  | key _ => value
  | value => key false
  | element _ => element false

def Lead (text : List Char) : Slot → Prop
  | key true | element true => Blank text
  | key false | element false =>
    ∃ before after, Blank before ∧ Blank after ∧ text = before ++ ',' :: after
  | value => ∃ before after, Blank before ∧ Blank after ∧ text = before ++ ':' :: after

def ofContainer : Container → Slot
  | .object => key true
  | .array => element true

end Slot

/-- `text` writes the trees of a document one after another. -/
def Writes : Slot → Document → List Char → Prop
  | slot, .nil, text => slot ≠ .value ∧ Blank text
  | slot, .leaf word rest, text =>
    ((∃ first, slot = .key first) → word.kind = .string) ∧ word.Spellable ∧
      ∃ lead after, slot.Lead lead ∧ text = lead ++ (word.spelling ++ after) ∧
        Writes slot.next rest after
  | slot, .node container children rest, text =>
    (∀ first, slot ≠ .key first) ∧
      ∃ lead inner after, slot.Lead lead ∧
        text = lead ++ opening container :: (inner ++ closing container :: after) ∧
        Writes (.ofContainer container) children inner ∧ Writes slot.next rest after

/-- `text` is a JSON object with these members. -/
def WritesObject (members : Document) (text : List Char) : Prop :=
  ∃ before inner after, Blank before ∧ Blank after ∧
    text = before ++ '{' :: (inner ++ '}' :: after) ∧ Writes (.key true) members inner

private def EndsPrimitive (text : List Char) : Prop :=
  ∃ c rest, text = c :: rest ∧ c ∈ primitiveEnds

theorem Blank.mem_separators (blank : Blank text) : ∀ c ∈ text, c ∈ separators := by
  intro c mem
  have isBlank := blank c mem
  simp only [separators, List.mem_cons, List.not_mem_nil, or_false] at isBlank ⊢
  tauto

theorem mem_separators_around {before after mark} (blankBefore : Blank before)
    (blankAfter : Blank after) (isMark : mark ∈ separators) :
    ∀ c ∈ before ++ mark :: after, c ∈ separators := by
  intro c mem
  rcases List.mem_append.mp mem with early | late
  · exact blankBefore.mem_separators c early
  · rcases List.mem_cons.mp late with rfl | late
    · exact isMark
    · exact blankAfter.mem_separators c late

theorem Slot.Lead.mem_separators {slot : Slot} (lead : slot.Lead text) :
    ∀ c ∈ text, c ∈ separators := by
  match slot with
  | .key true | .element true => exact Blank.mem_separators lead
  | .key false | .element false | .value =>
    obtain ⟨_, _, blankBefore, blankAfter, rfl⟩ := lead
    exact mem_separators_around blankBefore blankAfter (by decide)

theorem parseString_clean {content rest} (clean : Clean content) :
    parseString (content ++ '"' :: rest) = .ok content.length := by
  induction content with
  | nil => rw [List.nil_append, parseString.eq_def]; rfl
  | cons c content contentHolds =>
    obtain ⟨-, -, noQuote, noBackslash⟩ := clean c List.mem_cons_self
    have later := contentHolds fun other mem => clean other (List.mem_cons_of_mem _ mem)
    rw [List.cons_append, parseString.eq_def]
    simp only [noQuote, noBackslash, if_false, later, Except.map, List.length_cons]

theorem plain_range {c} (plain : c.isAlphanum = true ∨ c ∈ ['+', '-', '.']) :
    c.toNat = 43 ∨ c.toNat = 45 ∨ c.toNat = 46 ∨ (48 ≤ c.toNat ∧ c.toNat ≤ 57) ∨
      (65 ≤ c.toNat ∧ c.toNat ≤ 90) ∨ (97 ≤ c.toNat ∧ c.toNat ≤ 122) := by
  rcases plain with alphanumeric | sign
  · delta Char.isAlphanum Char.isAlpha Char.isUpper Char.isLower Char.isDigit at alphanumeric
    simp only [Bool.or_eq_true, Bool.and_eq_true, decide_eq_true_eq, UInt32.le_iff_toNat_le,
      ge_iff_le] at alphanumeric
    change ((65 ≤ c.toNat ∧ c.toNat ≤ 90) ∨ (97 ≤ c.toNat ∧ c.toNat ≤ 122)) ∨
      (48 ≤ c.toNat ∧ c.toNat ≤ 57) at alphanumeric
    omega
  · simp only [List.mem_cons, List.not_mem_nil, or_false] at sign
    rcases sign with rfl | rfl | rfl <;> decide

theorem plain_char {c} (plain : c.isAlphanum = true ∨ c ∈ ['+', '-', '.']) :
    (32 ≤ c.toNat ∧ c.toNat < 127) ∧ c ∉ primitiveEnds ∧ c ∉ separators ∧
      c ∉ ['{', '[', '}', ']', '"'] := by
  have range := plain_range plain
  have excluded (others)
      (outside : others.all (fun other => ¬ (other.toNat = 43 ∨ other.toNat = 45 ∨
        other.toNat = 46 ∨ (48 ≤ other.toNat ∧ other.toNat ≤ 57) ∨
        (65 ≤ other.toNat ∧ other.toNat ≤ 90) ∨ (97 ≤ other.toNat ∧ other.toNat ≤ 122))) = true) :
      c ∉ others :=
    fun mem => of_decide_eq_true (List.all_eq_true.mp outside c mem) range
  exact ⟨by omega, excluded _ (by decide), excluded _ (by decide), excluded _ (by decide)⟩

theorem parsePrimitive_plain {content rest} (plain : Plain content)
    (ends : EndsPrimitive rest) : parsePrimitive (content ++ rest) = .ok content.length := by
  obtain ⟨-, all⟩ := plain
  induction content with
  | nil =>
    obtain ⟨c, rest, rfl, isEnd⟩ := ends
    rw [List.nil_append, parsePrimitive, if_pos isEnd]
    rfl
  | cons c content contentHolds =>
    obtain ⟨_, inside, -⟩ := plain_char (all c List.mem_cons_self)
    have later := contentHolds fun other mem => all other (List.mem_cons_of_mem _ mem)
    rw [List.cons_append, parsePrimitive, if_neg inside, if_neg (by omega), later]
    rfl

theorem run_separators (capacity) {lead} (allSeparators : ∀ c ∈ lead, c ∈ separators) (pos rest p) :
    run capacity pos (lead ++ rest) p = run capacity (pos + lead.length) rest p := by
  induction lead generalizing pos with
  | nil => rfl
  | cons c lead leadHolds =>
    have isSeparator := allSeparators c List.mem_cons_self
    have next : nextPiece pos c (lead ++ rest) = .ok (.separator, 1) := by
      simp only [separators, List.mem_cons, List.not_mem_nil, or_false] at isSeparator
      rcases isSeparator with rfl | rfl | rfl | rfl | rfl | rfl <;> rfl
    rw [List.cons_append, run_cons next]
    simp only [Parser.take, List.drop_one, List.tail_cons]
    rw [leadHolds (fun other mem => allSeparators other (List.mem_cons_of_mem _ mem)),
      List.length_cons, Nat.add_assoc, Nat.add_comm 1]

theorem slice_append (front content rest) :
    slice (front ++ (content ++ rest)) front.length (front.length + content.length) = content := by
  rw [slice, List.drop_left, Nat.add_sub_cancel_left, List.take_left]

/-- The span of a word that is written at offset `pos`. -/
def Word.span (word : Word) (pos : ℕ) : Span Scalar :=
  match word.kind with
  | .string => ⟨.string, pos + 1, pos + 1 + word.content.length⟩
  | .primitive => ⟨.primitive, pos, pos + word.content.length⟩

theorem Word.view_span (word front rest) :
    (⟨(word.span front.length).kind,
      slice (front ++ (word.spelling ++ rest)) (word.span front.length).start
        (word.span front.length).stop⟩ : Word) = word := by
  obtain ⟨kind, content⟩ := word
  cases kind with
  | string =>
    have inner := slice_append (front ++ ['"']) content ('"' :: rest)
    simpa [Word.span, Word.spelling] using inner
  | primitive => simpa [Word.span, Word.spelling] using slice_append front content rest

theorem nextPiece_word {word : Word} (spellable : word.Spellable)
    (ends : word.kind = .primitive → EndsPrimitive rest) (pos) :
    ∃ c more, word.spelling ++ rest = c :: more ∧
      nextPiece pos c more = .ok (.scalar (word.span pos), word.spelling.length) := by
  obtain ⟨kind, content⟩ := word
  cases kind with
  | string =>
    have scanned : parseString (content ++ '"' :: rest) = .ok content.length :=
      parseString_clean spellable
    simp [nextPiece, scanned, Except.map, Word.span, Word.spelling]
  | primitive =>
    obtain ⟨ne, all⟩ := spellable
    cases content with
    | nil => exact absurd rfl ne
    | cons c content =>
      have scanned := parsePrimitive_plain ⟨ne, all⟩ (ends rfl)
      obtain ⟨-, -, noSeparator, noBracket⟩ := plain_char (all c List.mem_cons_self)
      simp only [List.mem_cons, List.not_mem_nil, or_false, not_or] at noBracket
      simp only [List.cons_append] at scanned
      simp [nextPiece, noBracket, noSeparator, scanned, Except.map, Word.span, Word.spelling]

section

variable {capacity : ℕ} {spine : Unfinished}

theorem run_word {word : Word} (spellable : word.Spellable)
    (ends : word.kind = .primitive → EndsPrimitive rest) (room : spine.size < capacity) (pos) :
    run capacity pos (word.spelling ++ rest) (.ofSpine spine) =
      run capacity (pos + word.spelling.length) rest
        (.ofSpine (spine.extend (.leaf (word.span pos) .nil))) := by
  obtain ⟨c, _, head, next⟩ := nextPiece_word spellable ends pos
  rw [head, run_cons next, take_ofSpine, grow, if_pos room, ← head, List.drop_left]
  rfl

theorem run_opening (room : spine.size < capacity) (container pos rest) :
    run capacity pos (opening container :: rest) (.ofSpine spine) =
      run capacity (pos + 1) rest (.ofSpine (.inside spine (container, pos) .nil)) := by
  have next : nextPiece pos (opening container) rest = .ok (.opens container, 1) := by
    cases container <;> rfl
  rw [run_cons next, take_ofSpine, grow, if_pos room]
  rfl

theorem run_closing (container start pos) (items : Items) (rest) :
    run capacity pos (closing container :: rest)
      (.ofSpine (.inside spine (container, start) items)) =
      run capacity (pos + 1) rest
        (.ofSpine (spine.extend (.node ⟨container, start, pos + 1⟩ items .nil))) := by
  have next : nextPiece pos (closing container) rest = .ok (.closes container, 1) := by
    cases container <;> rfl
  rw [run_cons next, take_ofSpine, grow, if_pos rfl]
  rfl

end

theorem endsPrimitive_closing (container rest) : EndsPrimitive (closing container :: rest) := by
  refine ⟨closing container, rest, rfl, ?_⟩
  cases container <;> decide

theorem Writes.endsPrimitive {slot document}
    (later : slot = .key false ∨ slot = .element false) (writes : Writes slot document text)
    (ends : EndsPrimitive rest) : EndsPrimitive (text ++ rest) := by
  have blankEnds {c} (blank : c ∈ [' ', '\t', '\n', '\r']) : c ∈ primitiveEnds := by
    simp only [primitiveEnds, List.mem_cons, List.not_mem_nil, or_false] at blank ⊢
    tauto
  have leadEnds {lead after} (isLead : slot.Lead lead) :
      EndsPrimitive (lead ++ after) := by
    have comma : ∃ before behind, Blank before ∧ Blank behind ∧ lead = before ++ ',' :: behind := by
      rcases later with rfl | rfl <;> exact isLead
    obtain ⟨before, behind, blankBefore, -, rfl⟩ := comma
    cases before with
    | nil => exact ⟨',', behind ++ after, by simp, by decide⟩
    | cons c before =>
      exact ⟨c, before ++ ',' :: behind ++ after, by simp,
        blankEnds (blankBefore c List.mem_cons_self)⟩
  cases document with
  | nil =>
    cases text with
    | nil => exact ends
    | cons c text => exact ⟨c, text ++ rest, rfl, blankEnds (writes.2 c List.mem_cons_self)⟩
  | leaf _ items =>
    obtain ⟨-, -, lead, after, isLead, rfl, -⟩ := writes
    rw [List.append_assoc]
    exact leadEnds isLead
  | node _ _ items =>
    obtain ⟨-, lead, _, after, isLead, rfl, -⟩ := writes
    rw [List.append_assoc]
    exact leadEnds isLead

theorem run_writes {slot document} (writes : Writes slot document text)
    {capacity spine whole front rest} (room : spine.size + document.size ≤ capacity)
    (stands : whole = front ++ (text ++ rest)) (ends : EndsPrimitive rest) :
    ∃ items : Items, view whole items = document ∧
      run capacity front.length (text ++ rest) (.ofSpine spine) =
        run capacity (front.length + text.length) rest (.ofSpine (spine.extend items)) := by
  induction document generalizing slot text spine front rest with
  | nil =>
    refine ⟨.nil, rfl, ?_⟩
    rw [run_separators capacity (Blank.mem_separators writes.2), Spine.extend_nil]
  | leaf word later laterHolds =>
    obtain ⟨string, spellable, lead, after, isLead, rfl, writesLater⟩ := writes
    simp only [Forest.size] at room
    have wordEnds : word.kind = .primitive → EndsPrimitive (after ++ rest) := by
      intro primitive
      refine Writes.endsPrimitive ?_ writesLater ends
      cases slot with
      | key first => simp [string ⟨first, rfl⟩] at primitive
      | value => exact .inl rfl
      | element first => exact .inr rfl
    have standsLater : whole = (front ++ lead ++ word.spelling) ++ (after ++ rest) := by
      simp [stands]
    let span := word.span (front ++ lead).length
    have roomLater : (spine.extend (.leaf span .nil)).size + later.size ≤ capacity := by
      simp only [Spine.size_extend, Forest.size]
      omega
    obtain ⟨items, viewed, runs⟩ := laterHolds writesLater roomLater standsLater ends
    refine ⟨.leaf span items, ?_, ?_⟩
    · have here := word.view_span (front ++ lead) (after ++ rest)
      rw [← List.append_assoc (front ++ lead), ← standsLater] at here
      rw [← viewed]
      exact congrArg (Forest.leaf · (view whole items)) here
    · rw [List.append_assoc, List.append_assoc,
        run_separators capacity isLead.mem_separators, ← List.length_append,
        run_word spellable wordEnds (by omega), ← List.length_append, runs, Spine.extend_extend]
      simp [Forest.append, Nat.add_assoc]
  | node container kids later childrenHold laterHolds =>
    obtain ⟨-, lead, inner, after, isLead, rfl, writesChildren, writesLater⟩ := writes
    simp only [Forest.size] at room
    have standsInner : whole = (front ++ lead ++ [opening container]) ++
        (inner ++ closing container :: (after ++ rest)) := by
      simp [stands]
    obtain ⟨start, startEq⟩ : ∃ start, start = front.length + lead.length := ⟨_, rfl⟩
    have innerStart : (front ++ lead ++ [opening container]).length = start + 1 := by
      rw [List.length_append, List.length_append, List.length_singleton, startEq]
    have roomInner : (Spine.inside spine (container, start) .nil : Unfinished).size +
        kids.size ≤ capacity := by
      simp only [Spine.size, Forest.size]
      omega
    obtain ⟨inside, viewedInside, runsInside⟩ := childrenHold writesChildren roomInner standsInner
      (endsPrimitive_closing container _)
    rw [innerStart] at runsInside
    obtain ⟨stop, stopEq⟩ : ∃ stop, stop = start + 1 + inner.length := ⟨_, rfl⟩
    have laterStart : (front ++ lead ++ [opening container] ++ inner ++
        [closing container]).length = stop + 1 := by
      rw [List.length_append, List.length_append, innerStart, stopEq, List.length_singleton]
    have standsLater : whole = (front ++ lead ++ [opening container] ++ inner ++
        [closing container]) ++ (after ++ rest) := by
      simp [stands]
    have roomLater : (spine.extend (.node ⟨container, start, stop + 1⟩ inside .nil)).size +
        later.size ≤ capacity := by
      have size := congrArg Forest.size viewedInside
      rw [view, Forest.size_map] at size
      simp only [Spine.size_extend, Forest.size]
      omega
    obtain ⟨items, viewed, runs⟩ := laterHolds writesLater roomLater standsLater ends
    rw [laterStart, Spine.extend_extend] at runs
    refine ⟨.node ⟨container, start, stop + 1⟩ inside items, ?_, ?_⟩
    · rw [← viewedInside, ← viewed]
      rfl
    · have shape : lead ++ opening container :: (inner ++ closing container :: after) ++ rest =
          lead ++ opening container :: (inner ++ closing container :: (after ++ rest)) := by
        simp
      have length : front.length +
          (lead ++ opening container :: (inner ++ closing container :: after)).length =
            stop + 1 + after.length := by
        simp [stopEq, startEq]
        omega
      rw [shape, length, run_separators capacity isLead.mem_separators, ← startEq,
        run_opening (by omega), runsInside, ← stopEq]
      exact (run_closing container start stop inside _).trans runs

theorem parse_object_text {members} (writes : WritesObject members text) :
    ∃ (root : Span Container) (kids : Items),
      parse text.length text = .ok ((Forest.node root kids .nil).layout draw none 0) ∧
      root.kind = .object ∧ view text kids = members := by
  obtain ⟨before, inner, after, blankBefore, blankAfter, stands, writesMembers⟩ := writes
  have standsInner : text = (before ++ ['{']) ++ (inner ++ closing .object :: after) := by
    simp [stands, closing]
  have room : (Spine.inside (.ground .nil) (Container.object, before.length) .nil :
      Unfinished).size + members.size ≤ members.size + 1 := by
    simp only [Spine.size, Forest.size]
    omega
  obtain ⟨kids, viewed, runs⟩ := run_writes writesMembers room standsInner
    (endsPrimitive_closing .object after)
  rw [List.length_append, List.length_singleton] at runs
  let stop := before.length + 1 + inner.length
  let root : Span Container := ⟨.object, before.length, stop + 1⟩
  have ran : run (members.size + 1) 0 text init =
      .ok (.ofSpine (.ground (.node root kids .nil))) := by
    rw [init_eq_ofSpine, stands, run_separators _ blankBefore.mem_separators, Nat.zero_add]
    refine (run_opening (by simp [Spine.size, Forest.size]) .object before.length _).trans ?_
    refine runs.trans ?_
    refine (run_closing .object before.length stop kids after).trans ?_
    have rest := run_separators (members.size + 1) blankAfter.mem_separators (stop + 1) []
      (.ofSpine (.ground (.node root kids .nil)))
    rwa [List.append_nil, run_nil] at rest
  have parsed : parse (members.size + 1) text =
      .ok ((Forest.node root kids .nil).layout draw none 0) := by
    rw [parse, ← run, ran]
    exact if_pos (lastOpen_layout _ none 0)
  obtain ⟨_, same, -, bound⟩ := parse_eq_layout parsed
  refine ⟨root, kids, parse_of_fits parsed ?_, rfl, viewed⟩
  rw [same, Forest.length_layout]
  exact bound

end ThermalSimd.ConfigFile
