import ThermalSimd.Forest
import Mathlib.Order.Nat

/-!
# The JSON tokenizer

`third_party/jsmn.c` with parent links. Strings and primitives are counted in the `size` of their
container; containers are not. A text it accepts leaves the preorder layout of a forest
(`parse_eq_layout`); the size of the array decides only whether the tokens fit (`parse_of_le`,
`parse_eq_nomem`).
-/

namespace ThermalSimd.Jsmn

variable {length pos capacity larger : ℕ} {text rest : List Char}

/-- `jsmntype_t`. -/
inductive Kind
  | undefined | object | array | string | primitive
  deriving DecidableEq

/-- `JSMN_OBJECT` and `JSMN_ARRAY`. -/
inductive Container
  | object | array
  deriving DecidableEq

/-- `JSMN_STRING` and `JSMN_PRIMITIVE`. -/
inductive Scalar
  | string | primitive
  deriving DecidableEq

def Container.toKind : Container → Kind
  | object => .object
  | array => .array

def Scalar.toKind : Scalar → Kind
  | string => .string
  | primitive => .primitive

@[simp]
theorem Container.toKind_inj {left right : Container} :
    left.toKind = right.toKind ↔ left = right := by
  cases left <;> cases right <;> simp [toKind]

/-- `jsmntok_t`; the value -1 of `end` and `parent` is `none`. -/
structure Token where
  kind : Kind
  start : ℕ
  stop : Option ℕ
  size : ℕ
  parent : Option ℕ
  deriving DecidableEq

/-- `jsmnerr_t`. -/
inductive Error
  | nomem | inval | part
  deriving DecidableEq

def primitiveEnds : List Char := ['\t', '\r', '\n', ' ', ',', ']', '}']

/-- The characters `jsmn_parse` passes over. -/
def separators : List Char := ['\t', '\r', '\n', ' ', ':', ',']

def escapes : List Char := ['"', '/', '\\', 'b', 'f', 'r', 'n', 't']

/-- `jsmn_parse_primitive`: the length of the primitive at the head of the text. -/
def parsePrimitive : List Char → Except Error ℕ
  | [] => .error .part
  | c :: rest =>
    if c ∈ primitiveEnds then .ok 0
    else if c.toNat < 32 ∨ 127 ≤ c.toNat then .error .inval
    else (parsePrimitive rest).map (· + 1)

/-- `jsmn_parse_string` behind the opening quote: what precedes the closing one. -/
def parseString : List Char → Except Error ℕ
  | [] => .error .part
  | c :: rest =>
    if c = '"' then .ok 0
    else if c = '\\' then
      match rest with
      -- A backslash as the last character is an ordinary one, and then the text is over.
      | [] => .error .part
      | escape :: rest =>
        if escape ∈ escapes then (parseString rest).map (· + 2)
        else if escape = 'u' then
          match rest with
          | _ :: _ :: _ :: _ :: rest => (parseString rest).map (· + 6)
          | _ => .error .inval
        else .error .inval
    else (parseString rest).map (· + 1)

/-- The text between two offsets, of a token of type `kind`. -/
structure Span (κ : Type) where
  kind : κ
  start : ℕ
  stop : ℕ
  deriving DecidableEq

/-- What one turn of the tokenizer's loop finds. -/
inductive Piece
  | opens (kind : Container)
  | closes (kind : Container)
  | scalar (span : Span Scalar)
  | separator
  deriving DecidableEq

/-- The `switch` of `jsmn_parse` at offset `pos`: the piece and its length. -/
def nextPiece (pos : ℕ) (c : Char) (rest : List Char) : Except Error (Piece × ℕ) :=
  if c = '{' then .ok (.opens .object, 1)
  else if c = '[' then .ok (.opens .array, 1)
  else if c = '}' then .ok (.closes .object, 1)
  else if c = ']' then .ok (.closes .array, 1)
  else if c = '"' then
    (parseString rest).map fun length =>
      (.scalar ⟨.string, pos + 1, pos + 1 + length⟩, length + 2)
  else if c ∈ separators then .ok (.separator, 1)
  else
    (parsePrimitive (c :: rest)).map fun length =>
      (.scalar ⟨.primitive, pos, pos + length⟩, length)

/-- `jsmn_parser` with the allocated tokens; `toknext` is their number. -/
structure Parser where
  tokens : List Token
  super : Option ℕ
  deriving DecidableEq

/-- `jsmn_alloc_token`, and what its caller fills in. -/
def Parser.allocToken (p : Parser) (capacity : ℕ) (token : Token) : Except Error (List Token) :=
  if p.tokens.length < capacity then .ok (p.tokens ++ [token]) else .error .nomem

/-- `tokens[toksuper].size++`. -/
def countIn (super : Option ℕ) (tokens : List Token) : List Token :=
  match super with
  | none => tokens
  | some index => tokens.modify index fun token => { token with size := token.size + 1 }

def lastOpen : List Token → Option ℕ
  | [] => none
  | token :: rest =>
    match lastOpen rest with
    | some index => some (index + 1)
    | none => if token.stop = none then some 0 else none

/-- A closing bracket that ends at offset `stop`. -/
def Parser.closeToken (p : Parser) (kind : Container) (stop : ℕ) : Except Error Parser :=
  match lastOpen p.tokens with
  | none => .ok p
  | some index =>
    match p.tokens[index]? with
    | none => .ok p
    | some token =>
      if token.kind = kind.toKind then
        .ok ⟨p.tokens.set index { token with stop := some stop }, token.parent⟩
      else .error .inval

/-- The `switch` of `jsmn_parse`, as far as it changes the parser. -/
def Parser.take (p : Parser) (capacity pos : ℕ) : Piece → Except Error Parser
  | .opens kind =>
    (p.allocToken capacity ⟨kind.toKind, pos, none, 0, p.super⟩).map fun tokens =>
      ⟨tokens, some p.tokens.length⟩
  | .closes kind => p.closeToken kind (pos + 1)
  | .scalar span =>
    (p.allocToken capacity ⟨span.kind.toKind, span.start, some span.stop, 0, p.super⟩).map
      fun tokens => ⟨countIn p.super tokens, p.super⟩
  | .separator => .ok p

/-- The loop of `jsmn_parse` from offset `pos` on; the text's length is enough fuel. -/
def loop (capacity : ℕ) : ℕ → ℕ → List Char → Parser → Except Error Parser
  | _, _, [], p => .ok p
  | 0, _, _ :: _, _ => .error .part
  | fuel + 1, pos, c :: rest, p =>
    match nextPiece pos c rest with
    | .error e => .error e
    | .ok (piece, length) =>
      match p.take capacity pos piece with
      | .error e => .error e
      | .ok p => loop capacity fuel (pos + length) ((c :: rest).drop length) p

/-- `jsmn_init`. -/
def init : Parser := ⟨[], none⟩

/-- `jsmn_parse` with room for `capacity` tokens. -/
def parse (capacity : ℕ) (text : List Char) : Except Error (List Token) :=
  match loop capacity text.length 0 text init with
  | .error e => .error e
  | .ok p => if lastOpen p.tokens = none then .ok p.tokens else .error .part

theorem map_eq_ok {α β : Type} {f : α → β} {res : Except Error α} {v}
    (mapped : res.map f = .ok v) : ∃ inner, res = .ok inner ∧ f inner = v := by
  cases res with
  | error e => cases mapped
  | ok inner => exact ⟨inner, rfl, Except.ok.inj mapped⟩

theorem map_eq_error {α β : Type} {f : α → β} {res : Except Error α} {e}
    (mapped : res.map f = .error e) : res = .error e := by
  cases res with
  | error => exact congrArg Except.error (Except.error.inj mapped)
  | ok => cases mapped

theorem parseString_lt (scanned : parseString text = .ok length) : length < text.length := by
  fun_induction parseString text generalizing length with
  | case1 => cases scanned
  | case2 rest => cases scanned; simp
  | case3 => cases scanned
  | case4 escape rest _ _ ih | case5 escape _ _ _ _ _ rest ih | case8 c rest _ _ ih =>
    obtain ⟨_, found, rfl⟩ := map_eq_ok scanned
    have lt := ih found
    simp only [List.length_cons]
    omega
  | case6 => cases scanned
  | case7 => cases scanned

theorem parsePrimitive_lt (scanned : parsePrimitive text = .ok length) : length < text.length := by
  fun_induction parsePrimitive text generalizing length with
  | case1 => cases scanned
  | case2 => cases scanned; simp
  | case3 => cases scanned
  | case4 c _ _ _ ih =>
    obtain ⟨_, found, rfl⟩ := map_eq_ok scanned
    have lt := ih found
    simp only [List.length_cons]
    omega

theorem mem_primitiveEnds {c} (ends : c ∈ primitiveEnds) : c ∈ separators ∨ c = ']' ∨ c = '}' := by
  simp only [primitiveEnds, separators, List.mem_cons, List.not_mem_nil, or_false] at ends ⊢
  tauto

variable {piece : Piece}

theorem nextPiece_length {c} (next : nextPiece pos c rest = .ok (piece, length)) :
    0 < length ∧ length ≤ rest.length + 1 := by
  unfold nextPiece at next
  split_ifs at next with curly square closeCurly closeSquare quote separator
  case pos | pos | pos | pos => cases next; simp
  · obtain ⟨inner, scanned, equal⟩ := map_eq_ok next
    cases equal
    have lt := parseString_lt scanned
    omega
  · cases next; simp
  · obtain ⟨inner, scanned, equal⟩ := map_eq_ok next
    cases equal
    have inside : c ∉ primitiveEnds := by
      intro ends
      rcases mem_primitiveEnds ends with blank | bracket | bracket <;> contradiction
    have lt := parsePrimitive_lt scanned
    refine ⟨?_, by simpa using lt.le⟩
    rw [parsePrimitive, if_neg inside] at scanned
    split_ifs at scanned
    obtain ⟨inner, -, rfl⟩ := map_eq_ok scanned
    exact Nat.succ_pos inner

/-- The loop of `jsmn_parse` from offset `pos` to the end of the text. -/
def run (capacity pos : ℕ) (text : List Char) (p : Parser) : Except Error Parser :=
  loop capacity text.length pos text p

variable {p : Parser}

theorem loop_eq_run {capacity fuel pos} (enough : text.length ≤ fuel) :
    loop capacity fuel pos text p = run capacity pos text p := by
  induction fuel using Nat.strongRecOn generalizing pos text p with
  | ind fuel ih =>
    cases text with
    | nil => cases fuel <;> rfl
    | cons c rest =>
      obtain ⟨fuel, rfl⟩ : ∃ less, fuel = less + 1 := ⟨fuel - 1, by simp at enough; omega⟩
      rw [run, List.length_cons, loop, loop]
      cases next : nextPiece pos c rest with
      | error e => rfl
      | ok found =>
        obtain ⟨_, _⟩ := nextPiece_length next
        simp only [List.length_cons] at enough
        have shorter : ((c :: rest).drop found.2).length ≤ rest.length := by
          simp only [List.length_drop, List.length_cons]
          omega
        dsimp only
        cases p.take capacity pos found.1 with
        | error e => rfl
        | ok p =>
          dsimp only
          rw [ih fuel (by omega) (shorter.trans (by omega)),
            ih rest.length (by omega) shorter]

@[simp]
theorem run_nil (capacity pos p) : run capacity pos [] p = .ok p := rfl

theorem run_cons {c} (next : nextPiece pos c rest = .ok (piece, length)) :
    run capacity pos (c :: rest) p =
      match p.take capacity pos piece with
      | .error e => .error e
      | .ok p => run capacity (pos + length) ((c :: rest).drop length) p := by
  obtain ⟨_, -⟩ := nextPiece_length next
  rw [run, List.length_cons, loop, next]
  dsimp only
  cases p.take capacity pos piece with
  | error e => rfl
  | ok p =>
    refine loop_eq_run ?_
    simp only [List.length_drop, List.length_cons]
    omega

theorem run_cons_error {c e} (next : nextPiece pos c rest = .error e) :
    run capacity pos (c :: rest) p = .error e := by
  rw [run, List.length_cons, loop, next]

abbrev Items := Forest (Span Scalar) (Span Container)

abbrev Unfinished := Spine (Container × ℕ) (Span Scalar) (Span Container)

def draw : Drawing (Span Scalar) (Span Container) Token where
  leaf parent span := ⟨span.kind.toKind, span.start, some span.stop, 0, parent⟩
  node parent span scalars := ⟨span.kind.toKind, span.start, some span.stop, scalars, parent⟩

private def drawOpen (parent : Option ℕ) (opened : Container × ℕ) (scalars : ℕ) : Token :=
  ⟨opened.1.toKind, opened.2, none, scalars, parent⟩

@[simp]
theorem draw_leaf (parent span) :
    draw.leaf parent span = ⟨span.kind.toKind, span.start, some span.stop, 0, parent⟩ := rfl

@[simp]
theorem draw_node (parent span scalars) :
    draw.node parent span scalars =
      ⟨span.kind.toKind, span.start, some span.stop, scalars, parent⟩ := rfl

def Parser.ofSpine (spine : Unfinished) : Parser :=
  ⟨spine.layout draw drawOpen, spine.super⟩

@[simp]
theorem Parser.ofSpine_tokens (spine) :
    (ofSpine spine).tokens = spine.layout draw drawOpen := rfl

@[simp]
theorem Parser.ofSpine_super (spine) : (ofSpine spine).super = spine.super := rfl

/-- What a piece at offset `pos` makes of an unfinished forest. -/
def grow (capacity pos : ℕ) (spine : Unfinished) : Piece → Except Error Unfinished
  | .opens kind =>
    if spine.size < capacity then .ok (.inside spine (kind, pos) .nil) else .error .nomem
  | .closes kind =>
    match spine with
    | .ground _ => .ok spine
    | .inside outer opened items =>
      if opened.1 = kind then
        .ok (outer.extend (.node ⟨kind, opened.2, pos + 1⟩ items .nil))
      else .error .inval
  | .scalar span =>
    if spine.size < capacity then .ok (spine.extend (.leaf span .nil)) else .error .nomem
  | .separator => .ok spine

theorem lastOpen_append (before after) :
    lastOpen (before ++ after) =
      match lastOpen after with
      | some i => some (before.length + i)
      | none => lastOpen before := by
  induction before with
  | nil =>
    rw [List.nil_append]
    cases lastOpen after <;> simp [lastOpen]
  | cons _ _ ih =>
    rw [List.cons_append, lastOpen, ih]
    cases lastOpen after with
    | none => rfl
    | some i => simp only [List.length_cons]; congr 1; omega

@[simp]
theorem lastOpen_layout (items : Items) (parent base) :
    lastOpen (items.layout draw parent base) = none := by
  induction items generalizing parent base with
  | nil => rfl
  | leaf span rest hrest => simp [Forest.layout, lastOpen, hrest]
  | node span _ rest childrenHold hrest =>
    simp [Forest.layout, lastOpen, lastOpen_append, childrenHold, hrest]

theorem lastOpen_ofSpine (spine : Unfinished) :
    lastOpen (spine.layout draw drawOpen) = spine.super := by
  cases spine with
  | ground items => simp [Spine.layout, Spine.super]
  | inside _ _ items =>
    simp [Spine.layout, Spine.super, lastOpen_append, lastOpen, drawOpen]

theorem modify_append_cons (before after : List Token) (token f) :
    (before ++ token :: after).modify before.length f = before ++ f token :: after := by
  induction before with
  | nil => rfl
  | cons _ _ ih => simp only [List.cons_append, List.length_cons, List.modify_succ_cons, ih]

theorem countIn_layout_extend (spine : Unfinished) (span) :
    countIn spine.super
        (spine.layout draw drawOpen ++
          [⟨span.kind.toKind, span.start, some span.stop, 0, spine.super⟩]) =
      (spine.extend (.leaf span .nil)).layout draw drawOpen := by
  cases spine with
  | ground items =>
    simp [countIn, Spine.layout, Spine.extend, Forest.layout_append, Forest.layout]
  | inside outer opened items =>
    have atOpen := modify_append_cons (outer.layout draw drawOpen)
    rw [Spine.length_layout] at atOpen
    simp only [countIn, Spine.super_inside, Spine.layout_inside, List.append_assoc,
      List.cons_append, atOpen]
    simp [Spine.extend, Spine.layout_inside, Forest.layout_append, Forest.layout, Forest.leaves,
      drawOpen]

theorem closeToken_ofSpine (spine capacity pos kind) :
    (Parser.ofSpine spine).closeToken kind (pos + 1) =
      (grow capacity pos spine (.closes kind)).map Parser.ofSpine := by
  unfold Parser.closeToken
  rw [Parser.ofSpine_tokens, lastOpen_ofSpine]
  cases spine with
  | ground items => rfl
  | inside outer opened items =>
    have length := Spine.length_layout draw drawOpen outer
    have found : (Spine.layout draw drawOpen (.inside outer opened items))[outer.size]? =
        some (drawOpen outer.super opened items.leaves) := by
      rw [Spine.layout_inside, List.getElem?_append_right length.le, length, Nat.sub_self]
      rfl
    simp only [Spine.super_inside, found, grow]
    by_cases same : opened.1 = kind
    · subst same
      simp only [drawOpen, if_true, Except.map]
      rw [Parser.ofSpine, Spine.super_extend,
        Spine.layout_extend_of_leaves_eq_zero _ _ _ (by rfl), Spine.layout_inside,
        List.set_append_right _ _ length.le, length, Nat.sub_self]
      simp [Forest.layout]
    · simp [drawOpen, same, Except.map]

theorem take_ofSpine (spine capacity pos piece) :
    (Parser.ofSpine spine).take capacity pos piece =
      (grow capacity pos spine piece).map Parser.ofSpine := by
  cases piece with
  | opens kind =>
    simp only [Parser.take, Parser.allocToken, grow, Parser.ofSpine_tokens, Spine.length_layout]
    split_ifs
    · rfl
    · rfl
  | closes kind => exact closeToken_ofSpine spine capacity pos kind
  | scalar =>
    simp only [Parser.take, Parser.allocToken, grow, Parser.ofSpine_tokens, Spine.length_layout]
    split_ifs
    · simp only [Except.map, Parser.ofSpine_super, countIn_layout_extend]
      rw [Parser.ofSpine, Spine.super_extend]
    · rfl
  | separator => rfl

theorem run_induction (capacity) {motive : ℕ → List Char → Parser → Except Error Parser → Prop}
    (done : ∀ pos p, motive pos [] p (.ok p))
    (badText : ∀ pos c rest p e, nextPiece pos c rest = .error e →
      motive pos (c :: rest) p (.error e))
    (refused : ∀ pos c rest p piece length e, nextPiece pos c rest = .ok (piece, length) →
      p.take capacity pos piece = .error e → motive pos (c :: rest) p (.error e))
    (turn : ∀ pos c rest p piece length p' res, nextPiece pos c rest = .ok (piece, length) →
      p.take capacity pos piece = .ok p' →
      motive (pos + length) ((c :: rest).drop length) p' res →
      motive pos (c :: rest) p res)
    (pos text p) : motive pos text p (run capacity pos text p) := by
  induction size : text.length using Nat.strongRecOn generalizing pos text p with
  | ind size ih =>
    cases text with
    | nil => exact done pos p
    | cons c rest =>
      cases next : nextPiece pos c rest with
      | error e =>
        rw [run_cons_error next]
        exact badText pos c rest p e next
      | ok found =>
        obtain ⟨piece, length⟩ := found
        rw [run_cons next]
        cases took : p.take capacity pos piece with
        | error e => exact refused pos c rest p piece length e next took
        | ok p' =>
          refine turn pos c rest p piece length p' _ next took (ih _ ?_ _ _ _ rfl)
          have positive := (nextPiece_length next).1
          simp only [List.length_drop, List.length_cons] at size ⊢
          omega

theorem parseString_ne_nomem (text) : parseString text ≠ .error .nomem := by
  intro scanned
  fun_induction parseString text with
  | case1 | case2 | case3 | case6 | case7 => cases scanned
  | case4 _ _ _ _ ih | case5 _ _ _ _ _ _ _ ih | case8 _ _ _ _ ih => exact ih (map_eq_error scanned)

theorem parsePrimitive_ne_nomem (text) : parsePrimitive text ≠ .error .nomem := by
  intro scanned
  fun_induction parsePrimitive text with
  | case1 | case2 | case3 => cases scanned
  | case4 _ _ _ _ ih => exact ih (map_eq_error scanned)

theorem nextPiece_ne_nomem (pos c rest) : nextPiece pos c rest ≠ .error .nomem := by
  intro next
  unfold nextPiece at next
  split_ifs at next
  · exact parseString_ne_nomem rest (map_eq_error next)
  · exact parsePrimitive_ne_nomem (c :: rest) (map_eq_error next)

theorem take_of_le (le : capacity ≤ larger) (fits : p.take capacity pos piece ≠ .error .nomem) :
    p.take larger pos piece = p.take capacity pos piece := by
  cases piece with
  | opens kind | scalar span =>
    simp only [Parser.take, Parser.allocToken] at fits ⊢
    by_cases room : p.tokens.length < capacity
    · rw [if_pos room, if_pos (by omega)]
    · rw [if_neg room] at fits
      exact absurd rfl fits
  | closes kind | separator => rfl

theorem run_of_le (le : capacity ≤ larger) (pos text p)
    (fits : run capacity pos text p ≠ .error .nomem) :
    run larger pos text p = run capacity pos text p := by
  revert fits
  apply run_induction capacity (motive := fun pos text p res =>
    res ≠ .error .nomem → run larger pos text p = res)
  · intro pos p _
    rfl
  · intro pos c rest p e next _
    exact run_cons_error next
  · intro pos c rest p piece length e next took fits
    rw [run_cons next, take_of_le le (by rwa [took]), took]
  · intro pos c rest p piece length _ res next took ih fits
    rw [run_cons next, take_of_le le (by simp [took]), took]
    exact ih fits

theorem grow_size {spine grown} (grows : grow capacity pos spine piece = .ok grown) :
    grown.size ≤ spine.size + 1 ∧ (spine.size ≤ capacity → grown.size ≤ capacity) := by
  cases piece with
  | opens kind =>
    simp only [grow] at grows
    split_ifs at grows
    cases grows
    simp only [Spine.size, Forest.size]
    omega
  | closes kind =>
    cases spine with
    | ground items => cases grows; simp
    | inside _ _ items =>
      simp only [grow] at grows
      split_ifs at grows
      cases grows
      simp only [Spine.size_extend, Spine.size, Forest.size]
      omega
  | scalar =>
    simp only [grow] at grows
    split_ifs at grows
    cases grows
    simp only [Spine.size_extend, Forest.size]
    omega
  | separator => cases grows; simp

variable {spine : Unfinished}

theorem grow_ne_nomem (piece) (room : spine.size < capacity) :
    grow capacity pos spine piece ≠ .error .nomem := by
  cases piece with
  | opens kind | scalar span => simp [grow, room]
  | closes kind =>
    cases spine with
    | ground items => simp [grow]
    | inside _ _ items => simp only [grow]; split_ifs <;> simp
  | separator => simp [grow]

theorem take_ofSpine_eq_ok (took : (Parser.ofSpine spine).take capacity pos piece = .ok p) :
    ∃ grown, p = .ofSpine grown ∧ grow capacity pos spine piece = .ok grown := by
  rw [take_ofSpine] at took
  obtain ⟨grown, grows, rfl⟩ := map_eq_ok took
  exact ⟨grown, rfl, grows⟩

theorem run_ofSpine (ends : run capacity pos text (.ofSpine spine) = .ok p) :
    ∃ final, p = .ofSpine final ∧ final.size ≤ spine.size + text.length ∧
      (spine.size ≤ capacity → final.size ≤ capacity) := by
  have whole := run_induction capacity (motive := fun _ text p res =>
    ∀ spine after, p = Parser.ofSpine spine → res = .ok after →
      ∃ final, after = Parser.ofSpine final ∧ final.size ≤ spine.size + text.length ∧
        (spine.size ≤ capacity → final.size ≤ capacity)) ?_ ?_ ?_ ?_ pos text (.ofSpine spine)
  · exact whole spine p rfl ends
  · rintro pos p spine after rfl ends
    cases ends
    exact ⟨spine, rfl, by simp, id⟩
  · rintro pos c rest p e next spine after - ends
    cases ends
  · rintro pos c rest p piece length e next took spine after - ends
    cases ends
  · rintro pos c rest p piece length _ res next took ih spine after rfl ends
    obtain ⟨grown, rfl, grows⟩ := take_ofSpine_eq_ok took
    obtain ⟨final, reached, bound, fits⟩ := ih grown after rfl ends
    obtain ⟨_, grownFits⟩ := grow_size grows
    have positive := (nextPiece_length next).1
    refine ⟨final, reached, ?_, fun small => fits (grownFits small)⟩
    simp only [List.length_drop, List.length_cons] at bound ⊢
    omega

theorem run_ne_nomem (room : spine.size + text.length ≤ capacity) :
    run capacity pos text (.ofSpine spine) ≠ .error .nomem := by
  have whole := run_induction capacity (motive := fun _ text p res =>
    ∀ spine, p = Parser.ofSpine spine → spine.size + text.length ≤ capacity →
      res ≠ .error .nomem) ?_ ?_ ?_ ?_ pos text (.ofSpine spine)
  · exact whole spine rfl room
  · rintro pos p spine - -
    simp
  · rintro pos c rest p e next spine - - rfl'
    cases rfl'
    exact nextPiece_ne_nomem pos c rest next
  · rintro pos c rest p piece length e next took spine rfl room rfl'
    cases rfl'
    rw [take_ofSpine] at took
    refine grow_ne_nomem piece ?_ (map_eq_error took)
    simp only [List.length_cons] at room
    omega
  · rintro pos c rest p piece length _ res next took ih spine rfl room
    obtain ⟨grown, rfl, grows⟩ := take_ofSpine_eq_ok took
    refine ih grown rfl ?_
    have bound := (grow_size grows).1
    have positive := (nextPiece_length next).1
    simp only [List.length_drop, List.length_cons] at room ⊢
    omega

theorem grow_of_fits {spine grown} (grows : grow larger pos spine piece = .ok grown)
    (fits : grown.size ≤ capacity) :
    grow capacity pos spine piece = .ok grown ∧ spine.size ≤ grown.size := by
  cases piece with
  | opens kind =>
    simp only [grow] at grows ⊢
    split_ifs at grows
    cases grows
    simp only [Spine.size, Forest.size] at fits ⊢
    exact ⟨if_pos (by omega), by omega⟩
  | closes kind =>
    refine ⟨grows, ?_⟩
    cases spine with
    | ground items => cases grows; rfl
    | inside _ _ items =>
      simp only [grow] at grows
      split_ifs at grows
      cases grows
      simp only [Spine.size_extend, Spine.size, Forest.size]
      omega
  | scalar =>
    simp only [grow] at grows ⊢
    split_ifs at grows
    cases grows
    simp only [Spine.size_extend, Forest.size] at fits ⊢
    exact ⟨if_pos (by omega), by omega⟩
  | separator => cases grows; exact ⟨rfl, le_rfl⟩

theorem run_of_fits (ends : run larger pos text (.ofSpine spine) = .ok p)
    (fits : p.tokens.length ≤ capacity) : run capacity pos text (.ofSpine spine) = .ok p := by
  have whole := run_induction larger (motive := fun pos text before res =>
    ∀ spine, before = Parser.ofSpine spine → res = .ok p →
      run capacity pos text before = .ok p ∧ spine.size ≤ p.tokens.length)
    ?_ ?_ ?_ ?_ pos text (.ofSpine spine)
  · exact (whole spine rfl ends).1
  · rintro pos before spine rfl ends
    cases ends
    exact ⟨rfl, by simp⟩
  · rintro pos c rest before e next spine - ends
    cases ends
  · rintro pos c rest before piece length e next took spine - ends
    cases ends
  · rintro pos c rest before piece length _ res next took ih spine rfl ends
    obtain ⟨grown, rfl, grows⟩ := take_ofSpine_eq_ok took
    obtain ⟨same, bound⟩ := ih grown rfl ends
    obtain ⟨grows, larger⟩ := grow_of_fits grows (bound.trans fits)
    refine ⟨?_, larger.trans bound⟩
    rw [run_cons next, take_ofSpine, grows]
    exact same

theorem init_eq_ofSpine : init = .ofSpine (.ground .nil) := rfl

variable {tokens : List Token}

theorem parse_eq_layout (parsed : parse capacity text = .ok tokens) :
    ∃ items : Items, tokens = items.layout draw none 0 ∧ items.size ≤ capacity ∧
      items.size ≤ text.length := by
  unfold parse at parsed
  rw [init_eq_ofSpine, ← run] at parsed
  cases ends : run capacity 0 text (.ofSpine (.ground .nil)) with
  | error e => rw [ends] at parsed; cases parsed
  | ok p =>
    rw [ends] at parsed
    obtain ⟨final, rfl, bound, fits⟩ := run_ofSpine ends
    dsimp only at parsed
    split_ifs at parsed with closed
    cases parsed
    cases final with
    | ground items =>
      exact ⟨items, rfl, fits (Nat.zero_le _), by simpa [Spine.size, Forest.size] using bound⟩
    | inside _ _ items =>
      rw [Parser.ofSpine_tokens, lastOpen_ofSpine] at closed
      cases closed

theorem parse_of_le (le : capacity ≤ larger) (fits : parse capacity text ≠ .error .nomem) :
    parse larger text = parse capacity text := by
  have same : run larger 0 text init = run capacity 0 text init := by
    refine run_of_le le 0 text init fun lacking => fits ?_
    rw [parse, ← run, lacking]
  rw [parse, parse, ← run, ← run, same]

theorem parse_ne_nomem (le : text.length ≤ capacity) : parse capacity text ≠ .error .nomem := by
  have room : run capacity 0 text init ≠ .error .nomem := by
    rw [init_eq_ofSpine]
    exact run_ne_nomem (by simpa [Spine.size, Forest.size] using le)
  rw [parse, ← run]
  cases ends : run capacity 0 text init with
  | error e => rw [ends] at room; simpa using room
  | ok p => dsimp only; split_ifs <;> simp

theorem parse_of_fits (parsed : parse larger text = .ok tokens) (fits : tokens.length ≤ capacity) :
    parse capacity text = .ok tokens := by
  unfold parse at parsed ⊢
  rw [init_eq_ofSpine, ← run] at parsed ⊢
  cases ends : run larger 0 text (.ofSpine (.ground .nil)) with
  | error e => rw [ends] at parsed; cases parsed
  | ok p =>
    rw [ends] at parsed
    dsimp only at parsed
    split_ifs at parsed with closed
    cases parsed
    rw [run_of_fits ends fits]
    exact if_pos closed

theorem parse_eq_nomem (parsed : parse larger text = .ok tokens)
    (small : capacity < tokens.length) :
    parse capacity text = .error .nomem := by
  by_contra fits
  rcases Nat.le_total capacity larger with le | le
  · rw [parse_of_le le fits] at parsed
    obtain ⟨items, rfl, bound, -⟩ := parse_eq_layout parsed
    simp at small
    omega
  · obtain ⟨items, rfl, bound, -⟩ := parse_eq_layout parsed
    simp at small
    omega

end ThermalSimd.Jsmn
