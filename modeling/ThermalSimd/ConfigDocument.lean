import ThermalSimd.ConfigFile

/-!
# Configuration documents

The forest of scalars and containers behind a token array, and what the section parsers do with it.
The token array of an accepted text shows the text's forest (`shows_layout`), and the parsers over
the array do what the walks over the forest do (`parsePairs_eq`).
-/

namespace ThermalSimd.ConfigFile

open Jsmn

variable {base index : ℕ} {token : Token} {after tokens : List Token} {items : Items}
  {text : List Char} {parser : Token → ℕ → Run ℕ}

/-- A scalar of a document. -/
structure Word where
  kind : Scalar
  content : List Char
  deriving DecidableEq

abbrev Document := Forest Word Container

def view (text : List Char) (items : Items) : Document :=
  items.map (fun span => ⟨span.kind, slice text span.start span.stop⟩) Span.kind

theorem of_drop_eq_cons {tokens rest : List Token} (laid : tokens.drop base = token :: rest) :
    tokens[base]? = some token ∧ tokens.drop (base + 1) = rest := by
  constructor
  · rw [← List.head?_drop, laid, List.head?_cons]
  · rw [← List.drop_drop, laid, List.drop_one, List.tail_cons]

theorem drop_add_of_append {tokens front rest : List Token}
    (laid : tokens.drop base = front ++ rest) : tokens.drop (base + front.length) = rest := by
  rw [← List.drop_drop, laid, List.drop_left]

/-- The tokens that follow do not stand below `index`. -/
def LeavesBelow (index : ℕ) (after : List Token) : Prop :=
  ∀ token ∈ after.head?, isBelow token index = false

theorem LeavesBelow.mono {index larger} (leaves : LeavesBelow index after) (le : index ≤ larger) :
    LeavesBelow larger after := by
  intro token first
  have outside := leaves token first
  unfold isBelow at outside ⊢
  split at outside <;> simp_all
  omega

theorem LeavesBelow.layout {parent} (lt : ∀ p ∈ parent, p < index)
    (leaves : LeavesBelow index after) (items : Items) :
    LeavesBelow index (items.layout draw parent base ++ after) := by
  have outside : ∀ token : Token, token.parent = parent → isBelow token index = false := by
    intro token under
    unfold isBelow
    rw [under]
    cases parent with
    | none => rfl
    | some p => simpa using lt p rfl
  cases items with
  | nil => exact leaves
  | leaf span rest | node span kids rest =>
    intro token first
    cases first
    exact outside _ rfl

@[simp]
theorem isFlat_leaf (parent span) : isFlat (draw.leaf parent span) = true := by
  obtain ⟨kind, _, _⟩ := span
  cases kind <;> rfl

@[simp]
theorem isFlat_node (parent span scalars) : isFlat (draw.node parent span scalars) = false := by
  obtain ⟨kind, _, _⟩ := span
  cases kind <;> rfl

theorem skipLoop_layout {index base fuel}
    (laid : tokens.drop base = items.layout draw (some index) base ++ after)
    (earlier : index < base) (leaves : LeavesBelow index after)
    (enough : 2 * items.size + 1 ≤ fuel) :
    skipLoop tokens index fuel base = base + items.size := by
  induction items generalizing index base fuel after with
  | nil =>
    obtain ⟨fuel, rfl⟩ : ∃ less, fuel = less + 1 := ⟨fuel - 1, by omega⟩
    simp only [Forest.layout, List.nil_append] at laid
    rw [skipLoop, ← List.head?_drop, laid]
    cases after with
    | nil => rfl
    | cons token after => simp [leaves token rfl, Forest.size]
  | leaf span rest hrest =>
    simp only [Forest.size] at enough ⊢
    obtain ⟨fuel, rfl⟩ : ∃ less, fuel = less + 2 := ⟨fuel - 2, by omega⟩
    obtain ⟨found, later⟩ := of_drop_eq_cons laid
    have skipped : skipFrom tokens (fuel + 1) base = base + 1 := by
      rw [skipFrom, found]
      simp only [isFlat_leaf, if_true]
    have inside : isBelow (draw.leaf (some index) span) index = true := by simp [isBelow]
    rw [skipLoop, found]
    simp only [inside, if_true, skipped]
    rw [hrest later (by omega) leaves (by omega)]
    omega
  | node span kids rest childrenHold hrest =>
    simp only [Forest.size] at enough ⊢
    obtain ⟨fuel, rfl⟩ : ∃ less, fuel = less + 2 := ⟨fuel - 2, by omega⟩
    simp only [Forest.layout, List.cons_append, List.append_assoc] at laid
    obtain ⟨found, later⟩ := of_drop_eq_cons laid
    have restLaid := drop_add_of_append later
    rw [Forest.length_layout] at restLaid
    have outside : LeavesBelow base (rest.layout draw (some index) (base + 1 + kids.size) ++
        after) := by
      refine LeavesBelow.layout ?_ (leaves.mono earlier.le) rest
      simpa using earlier
    have skipped : skipFrom tokens (fuel + 1) base = base + 1 + kids.size := by
      rw [skipFrom, found]
      simp only [isFlat_node, Bool.false_eq_true, if_false]
      exact childrenHold later (by omega) outside (by omega)
    have inside : isBelow (draw.node (some index) span kids.leaves) index = true := by
      simp [isBelow]
    rw [skipLoop, found]
    simp only [inside, if_true, skipped]
    rw [hrest restLaid (by omega) leaves (by omega)]
    omega

def parentOf (tokens : List Token) (index : ℕ) : Option ℕ := tokens[index]?.bind Token.parent

/-- The roots of a document that starts at `index` all stand in `parent`. -/
def Siblings (tokens : List Token) (parent : ℕ) : ℕ → Document → Prop
  | _, .nil => True
  | index, .leaf _ rest =>
    parentOf tokens index = some parent ∧ Siblings tokens parent (index + 1) rest
  | index, .node _ children rest =>
    parentOf tokens index = some parent ∧
      Siblings tokens parent (index + 1 + children.size) rest

/-- The tokens from `index` on write this document, and the next one is no child of it. -/
inductive Shows (source : Source) : ℕ → Document → Prop
  | nil : Shows source source.tokens.length .nil
  | leaf {index : ℕ} {token : Token} {word : Word} {rest : Document}
      (found : source.tokens[index]? = some token) (kind : token.kind = word.kind.toKind)
      (content : source.content token = word.content) (later : Shows source (index + 1) rest) :
      Shows source index (.leaf word rest)
  | node {index : ℕ} {token : Token} {container : Container} {children rest : Document}
      (found : source.tokens[index]? = some token) (kind : token.kind = container.toKind)
      (skips : jsonSkip source.tokens index = index + 1 + children.size)
      (siblings : Siblings source.tokens index (index + 1) children)
      (outside : parentOf source.tokens (index + 1 + children.size) ≠ some index)
      (inner : Shows source (index + 1) (children.append rest))
      (later : Shows source (index + 1 + children.size) rest) :
      Shows source index (.node container children rest)

theorem siblings_layout {parent base}
    (laid : tokens.drop base = items.layout draw (some parent) base ++ after) :
    Siblings tokens parent base (view text items) := by
  induction items generalizing base with
  | nil => trivial
  | leaf span rest hrest =>
    obtain ⟨found, later⟩ := of_drop_eq_cons laid
    exact ⟨by rw [parentOf, found]; rfl, hrest later⟩
  | node span _ rest _ hrest =>
    simp only [Forest.layout, List.cons_append, List.append_assoc] at laid
    obtain ⟨found, later⟩ := of_drop_eq_cons laid
    have restLaid := drop_add_of_append later
    rw [Forest.length_layout] at restLaid
    refine ⟨by rw [parentOf, found]; rfl, ?_⟩
    rw [Forest.size_map]
    exact hrest restLaid

theorem shows_layout {source parent follow}
    (laid : source.tokens.drop base = items.layout draw parent base ++ after)
    (lt : ∀ p ∈ parent, p < base) (leaves : LeavesBelow base after)
    (later : Shows source (base + items.size) follow) :
    Shows source base ((view source.text items).append follow) := by
  induction items generalizing base parent after follow with
  | nil => exact later
  | leaf span rest hrest =>
    obtain ⟨found, restLaid⟩ := of_drop_eq_cons laid
    refine .leaf found rfl rfl (hrest restLaid ?_ (leaves.mono (by omega)) ?_)
    · exact fun p mem => (lt p mem).trans (Nat.lt_succ_self base)
    · rwa [Forest.size, ← Nat.add_assoc, Nat.add_right_comm] at later
  | node span kids rest childrenHold hrest =>
    simp only [Forest.layout, List.cons_append, List.append_assoc] at laid
    obtain ⟨found, childrenLaid⟩ := of_drop_eq_cons laid
    have restLaid := drop_add_of_append childrenLaid
    rw [Forest.length_layout] at restLaid
    have outside : LeavesBelow base
        (rest.layout draw parent (base + 1 + kids.size) ++ after) :=
      LeavesBelow.layout lt leaves rest
    have restShown : Shows source (base + 1 + kids.size)
        ((view source.text rest).append follow) := by
      refine hrest restLaid ?_ (leaves.mono (by omega)) ?_
      · exact fun p mem => (lt p mem).trans (by omega)
      · rwa [Forest.size, show base + (kids.size + rest.size + 1) =
          base + 1 + kids.size + rest.size by omega] at later
    refine .node found rfl ?_ (siblings_layout childrenLaid) ?_ ?_ (by rwa [Forest.size_map])
    · rw [jsonSkip, skipFrom, found]
      simp only [isFlat_node, Bool.false_eq_true, if_false]
      rw [Forest.size_map]
      refine skipLoop_layout childrenLaid (by omega) outside ?_
      have bound := congrArg List.length childrenLaid
      simp only [List.length_drop, List.length_append, Forest.length_layout] at bound
      omega
    · rw [Forest.size_map, parentOf, ← List.head?_drop, restLaid]
      intro under
      obtain ⟨token, first, same⟩ := Option.bind_eq_some_iff.mp under
      have notBelow := outside token first
      simp [isBelow, same] at notBelow
    · refine childrenHold childrenLaid ?_ (outside.mono (by omega)) restShown
      simp

theorem shows_view {source} (laid : source.tokens = items.layout draw none 0) :
    Shows source 0 (view source.text items) := by
  have shown : Shows source 0 ((view source.text items).append .nil) := by
    have whole : source.tokens.drop 0 = items.layout draw none 0 ++ [] := by simpa using laid
    refine shows_layout whole (by simp) (by simp [LeavesBelow]) ?_
    have length := congrArg List.length laid
    rw [Forest.length_layout] at length
    rw [Nat.zero_add, ← length]
    exact .nil
  rwa [Forest.append_nil] at shown

def headSize : Document → ℕ
  | .nil => 0
  | .leaf _ _ => 1
  | .node _ children _ => children.size + 1

def tail : Document → Document
  | .nil => .nil
  | .leaf _ rest => rest
  | .node _ _ rest => rest

variable {document : Document}

theorem Shows.size {source} (shown : Shows source index document) :
    index + document.size = source.tokens.length := by
  induction shown with
  | nil => rfl
  | leaf _ _ _ _ later | node _ _ _ _ _ _ _ _ later => simp only [Forest.size]; omega

theorem Shows.skip {source} (shown : Shows source index document) :
    jsonSkip source.tokens index = index + headSize document := by
  cases shown with
  | nil =>
    rw [jsonSkip, skipFrom]
    simp [headSize]
  | @leaf _ token word rest found kind _ _ =>
    have flat : isFlat token = true := by
      rw [isFlat, kind]
      cases word.kind <;> rfl
    rw [jsonSkip, skipFrom, found]
    simp only [flat, if_true, headSize]
  | node _ _ skips => rw [skips, headSize]; omega

theorem Shows.tail {source} (shown : Shows source index document) :
    Shows source (index + headSize document) (tail document) := by
  cases shown with
  | nil => exact .nil
  | leaf _ _ _ later => exact later
  | node _ _ _ _ _ _ later =>
    rw [headSize, ← Nat.add_assoc, Nat.add_right_comm]
    exact later

def Word.is (word : Word) (name : String) : Bool :=
  word.kind = .string && word.content = name.toList

/-- A field: `value` follows the key, inside the object or behind it. If nothing does, a zeroed
token is read, unless the array is full. -/
def walkField (full : Bool) (fields : List Field) (key : Word) (index : ℕ) (value : Document) :
    Run Unit :=
  match fields.find? (key.is ·.name) with
  | none => .pure ()
  | some field =>
    match value with
    | .nil => if full then .undefined else .rejected
    | .node _ _ _ => .rejected
    | .leaf word _ =>
      match field.reader.read word.kind.toKind word.content with
      | none => .rejected
      | some stored => ⟨.done (), [⟨index, index + 1, (field.setting, stored)⟩]⟩

def walkKey (objects : List (String × (ℕ → Document → Run Unit)))
    (otherwise : Word → ℕ → Document → Run Unit) (key : Word) (index : ℕ) (value : Document) :
    Run Unit :=
  match objects.find? (key.is ·.1) with
  | some object => object.2 (index + 1) value
  | none => otherwise key index value

/-- The keys of an object; `follow` is what stands behind the object. -/
def walkObject (onKey : Word → ℕ → Document → Run Unit) (follow : Document) :
    Document → ℕ → Run Unit
  | .nil, _ => .pure ()
  | .node _ _ _, _ => .rejected
  | .leaf key .nil, index => if key.kind = .string then onKey key index follow else .rejected
  | .leaf key (.leaf word rest), index =>
    if key.kind = .string then
      (onKey key index ((Forest.leaf word rest).append follow)).bind fun _ =>
        walkObject onKey follow rest (index + 2)
    else .rejected
  | .leaf key (.node container children rest), index =>
    if key.kind = .string then
      (onKey key index ((Forest.node container children rest).append follow)).bind fun _ =>
        walkObject onKey follow rest (index + 2 + children.size)
    else .rejected

def walkValue (full : Bool) (onKey : Word → ℕ → Document → Run Unit) (index : ℕ) :
    Document → Run Unit
  | .nil => if full then .undefined else .pure ()
  | .leaf _ _ => .pure ()
  | .node .array _ _ => .pure ()
  | .node .object children rest => walkObject onKey rest children (index + 1)

def walkPairs (full : Bool) (onKey : Word → ℕ → Document → Run Unit) :
    ℕ → Document → ℕ → Run Unit
  | 0, _, _ => .pure ()
  | _ + 1, .nil, _ => if full then .undefined else .rejected
  | _ + 1, .node _ _ _, _ => .rejected
  | pairs + 1, .leaf key rest, index =>
    if key.kind = .string then
      (onKey key index rest).bind fun _ =>
        walkPairs full onKey pairs (tail rest) (index + 1 + headSize rest)
    else .rejected

def walkMetrics (full : Bool) : ℕ → Document → Run Unit :=
  walkValue full
    (walkKey
      [("tls", walkValue full (walkField full tlsFields)),
        ("basic_auth", walkValue full (walkField full basicAuthFields)),
        ("statsd", walkValue full (walkField full statsdFields))]
      (walkField full metricsFields))

def walkSection (full : Bool) : Word → ℕ → Document → Run Unit :=
  walkKey
    [("predictive", walkValue full (walkField full predictiveFields)),
      ("telemetry", walkValue full (walkField full telemetryFields)),
      ("metrics", walkMetrics full)]
    fun _ _ _ => .pure ()

namespace Run

variable {α β γ : Type}

@[simp]
theorem pure_bind (v) (next : α → Run β) : (pure v).bind next = next v := rfl

@[simp]
theorem rejected_bind (next : α → Run β) : (rejected : Run α).bind next = rejected := rfl

@[simp]
theorem undefined_bind (next : α → Run β) : (undefined : Run α).bind next = undefined := rfl

theorem bind_assoc (first : Run α) (second) (third : β → Run γ) :
    (first.bind second).bind third = first.bind fun v => (second v).bind third := by
  obtain ⟨out, _⟩ := first
  cases out with
  | done v => simp only [bind]; cases (second v).outcome <;> simp
  | rejected | undefined => rfl

end Run

def Source.full (source : Source) : Bool := decide (source.capacity ≤ source.tokens.length)

variable {source : Source}

private def KeyRefines (source : Source) (parser : Token → ℕ → Run ℕ)
    (walk : Word → ℕ → Document → Run Unit) : Prop :=
  ∀ ⦃index : ℕ⦄ ⦃token : Token⦄ ⦃key : Word⦄ ⦃value : Document⦄,
    token.kind = key.kind.toKind → source.content token = key.content →
    Shows source (index + 1) value →
    parser token index =
      (walk key index value).bind fun _ => .pure (jsonSkip source.tokens (index + 1))

private def ValueRefines (source : Source) (parser : ℕ → Run ℕ) (walk : ℕ → Document → Run Unit) :
    Prop :=
  ∀ ⦃index : ℕ⦄ ⦃value : Document⦄, Shows source index value →
    parser index = (walk index value).bind fun _ => .pure (jsonSkip source.tokens index)

theorem token_of_getElem? (found : source.tokens[index]? = some token) :
    source.token index = some token := by
  rw [Source.token, found]

theorem Shows.token_nil (shown : Shows source index .nil) :
    source.token index = if source.full then none else some zeroToken := by
  cases shown
  simp only [Source.token, List.getElem?_eq_none_iff.mpr le_rfl, Source.full, decide_eq_true_eq]
  split_ifs <;> first | rfl | omega

theorem Shows.token_leaf {word} {rest : Document} (shown : Shows source index (.leaf word rest)) :
    ∃ token, source.token index = some token ∧ token.kind = word.kind.toKind ∧
      source.content token = word.content := by
  cases shown with
  | leaf found kind content => exact ⟨_, token_of_getElem? found, kind, content⟩

theorem Shows.token_node {container} {kids rest : Document}
    (shown : Shows source index (.node container kids rest)) :
    ∃ token, source.token index = some token ∧ token.kind = container.toKind := by
  cases shown with
  | node found kind => exact ⟨_, token_of_getElem? found, kind⟩

theorem Scalar.toKind_eq_string {kind : Scalar} : kind.toKind = .string ↔ kind = .string := by
  cases kind <;> simp [Scalar.toKind]

theorem jsonTokenEquals_eq {key : Word} (kind : token.kind = key.kind.toKind)
    (content : source.content token = key.content) (name) :
    source.jsonTokenEquals token name = key.is name := by
  rw [Source.jsonTokenEquals, Word.is, kind, content]
  simp only [Scalar.toKind_eq_string]

@[simp]
theorem Reader.read_container (reader : Reader) (container : Container) (content) :
    reader.read container.toKind content = none := by
  cases container <;> cases reader <;> simp [read, Container.toKind]

@[simp]
theorem Reader.read_undefined (reader : Reader) (content) :
    reader.read .undefined content = none := by
  cases reader <;> simp [read]

theorem parseField_refines (fields) :
    KeyRefines source (source.parseField fields) (walkField source.full fields) := by
  intro _ _ key v kind content shown
  unfold Source.parseField walkField
  simp only [jsonTokenEquals_eq kind content]
  cases fields.find? (key.is ·.name) with
  | none => rfl
  | some field =>
    cases v with
    | nil =>
      simp only [shown.token_nil]
      cases source.full with
      | true => rfl
      | false => simp [zeroToken]
    | leaf _ rest =>
      obtain ⟨found, foundAt, valueKind, valueContent⟩ := shown.token_leaf
      simp only [foundAt, valueKind, valueContent]
      cases field.reader.read _ _ <;> rfl
    | node _ _ rest =>
      obtain ⟨found, foundAt, valueKind⟩ := shown.token_node
      simp [foundAt, valueKind]

variable {walk : Word → ℕ → Document → Run Unit}

theorem parseKey_refines (objects : List (String × (ℕ → Run ℕ) × (ℕ → Document → Run Unit)))
    (each : ∀ object ∈ objects, ValueRefines source object.2.1 object.2.2)
    (others : KeyRefines source parser walk) :
    KeyRefines source (source.parseKey (objects.map fun object => (object.1, object.2.1)) parser)
      (walkKey (objects.map fun object => (object.1, object.2.2)) walk) := by
  intro _ _ key _ kind content shown
  unfold Source.parseKey walkKey
  simp only [jsonTokenEquals_eq kind content, List.find?_map, Function.comp_def]
  cases chosen : objects.find? (key.is ·.1) with
  | none => exact others kind content shown
  | some object => exact each object (List.mem_of_find?_eq_some chosen) shown

theorem objectLoop_of_le {stop fuel cursor} (le : stop ≤ cursor) :
    source.objectLoop parser stop fuel cursor = .pure stop := by
  cases fuel with
  | zero => rfl
  | succ fuel => rw [Source.objectLoop, if_neg (by omega)]

theorem Shows.later {word} {rest : Document} (shown : Shows source index (.leaf word rest)) :
    Shows source (index + 1) rest := by
  cases shown with
  | leaf _ _ _ later => exact later

theorem objectLoop_leaf (refines : KeyRefines source parser walk) {key} {v : Document}
    {index stop fuel} (shown : Shows source index (.leaf key v)) (before : index < stop) :
    source.objectLoop parser stop (fuel + 1) index =
      if key.kind = .string then
        (walk key index v).bind fun _ =>
          source.objectLoop parser stop fuel (index + 1 + headSize v)
      else .rejected := by
  obtain ⟨_, found, kind, content⟩ := shown.token_leaf
  rw [Source.objectLoop, if_pos before, found]
  simp only [kind, Scalar.toKind_eq_string]
  split_ifs
  · rw [refines kind content shown.later, Run.bind_assoc]
    simp only [Run.pure_bind, shown.later.skip]
  · rfl

theorem objectLoop_eq (refines : KeyRefines source parser walk) {items follow index fuel stop}
    (shown : Shows source index (items.append follow))
    (enough : items.size ≤ fuel) (ends : stop = index + items.size) :
    source.objectLoop parser stop fuel index =
      (walkObject walk follow items index).bind fun _ => .pure stop := by
  fun_induction walkObject walk follow items index generalizing fuel with
  | case1 index => exact objectLoop_of_le (by simp [Forest.size] at ends; omega)
  | case2 container kids rest index =>
    simp only [Forest.size] at enough ends
    obtain ⟨fuel, rfl⟩ : ∃ less, fuel = less + 1 := ⟨fuel - 1, by omega⟩
    obtain ⟨_, found, kind⟩ := shown.token_node
    rw [Source.objectLoop, if_pos (by omega), found]
    cases container <;> simp [kind, Container.toKind]
  | case3 key index string =>
    simp only [Forest.size] at enough ends
    obtain ⟨fuel, rfl⟩ : ∃ less, fuel = less + 1 := ⟨fuel - 1, by omega⟩
    rw [objectLoop_leaf refines shown (by omega), if_pos string]
    congr 1
    funext _
    -- The value may lie behind the object; the loop is over either way.
    exact objectLoop_of_le (by omega)
  | case5 key _ rest index string hrest =>
    simp only [Forest.size] at enough ends
    obtain ⟨fuel, rfl⟩ : ∃ less, fuel = less + 1 := ⟨fuel - 1, by omega⟩
    rw [objectLoop_leaf refines shown (by omega), if_pos string, Run.bind_assoc]
    congr 1
    funext _
    exact hrest shown.later.tail (by omega) (by omega)
  | case7 key container kids rest index string hrest =>
    simp only [Forest.size] at enough ends
    obtain ⟨fuel, rfl⟩ : ∃ less, fuel = less + 1 := ⟨fuel - 1, by omega⟩
    rw [objectLoop_leaf refines shown (by omega), if_pos string, Run.bind_assoc]
    congr 1
    funext _
    have behind := shown.later.tail
    have position : index + 1 + headSize ((Forest.node container kids rest).append follow) =
        index + 2 + kids.size := by
      simp only [Forest.append, headSize]
      omega
    rw [position] at behind ⊢
    exact hrest behind (by omega) (by omega)
  | case4 _ _ noString | case6 _ _ _ _ noString | case8 _ _ _ _ _ noString =>
    simp only [Forest.size] at enough ends
    obtain ⟨fuel, rfl⟩ : ∃ less, fuel = less + 1 := ⟨fuel - 1, by omega⟩
    rw [objectLoop_leaf refines shown (by omega), if_neg noString]
    rfl

theorem parseObject_refines (refines : KeyRefines source parser walk) :
    ValueRefines source (source.parseObject parser) (walkValue source.full walk) := by
  intro _ v shown
  unfold Source.parseObject
  cases v with
  | nil =>
    rw [shown.token_nil, walkValue]
    cases source.full <;> simp [zeroToken]
  | leaf word rest =>
    obtain ⟨token, found, kind, -⟩ := shown.token_leaf
    rw [found, walkValue]
    cases same : word.kind <;> simp [kind, same, Scalar.toKind]
  | node container _ rest =>
    obtain ⟨token, found, kind⟩ := shown.token_node
    rw [found]
    cases container with
    | array => simp [kind, Container.toKind, walkValue]
    | object =>
      simp only [kind, Container.toKind, if_true, walkValue]
      have size := shown.size
      simp only [Forest.size] at size
      cases shown with
      | node _ _ skips _ _ inner =>
        exact objectLoop_eq refines inner (by omega) skips

theorem parseMetricsObject_refines :
    ValueRefines source source.parseMetricsObject (walkMetrics source.full) := by
  refine parseObject_refines (parseKey_refines
    [("tls", source.parseMetricsTlsObject,
        walkValue source.full (walkField source.full tlsFields)),
      ("basic_auth", source.parseMetricsBasicAuthObject,
        walkValue source.full (walkField source.full basicAuthFields)),
      ("statsd", source.parseMetricsStatsdObject,
        walkValue source.full (walkField source.full statsdFields))]
    ?_ (parseField_refines metricsFields))
  simp only [List.mem_cons, List.not_mem_nil, or_false]
  rintro _ (rfl | rfl | rfl)
  all_goals exact parseObject_refines (parseField_refines _)

theorem parseSection_refines : KeyRefines source source.parseSection (walkSection source.full) := by
  refine parseKey_refines
    [("predictive", source.parsePredictiveObject,
        walkValue source.full (walkField source.full predictiveFields)),
      ("telemetry", source.parseTelemetryObject,
        walkValue source.full (walkField source.full telemetryFields)),
      ("metrics", source.parseMetricsObject, walkMetrics source.full)]
    ?_ fun _ _ _ _ _ _ _ => rfl
  simp only [List.mem_cons, List.not_mem_nil, or_false]
  rintro _ (rfl | rfl | rfl)
  · exact parseObject_refines (parseField_refines predictiveFields)
  · exact parseObject_refines (parseField_refines telemetryFields)
  · exact parseMetricsObject_refines

theorem parsePairs_eq (shown : Shows source index document) (pairs) :
    source.parsePairs pairs index =
      walkPairs source.full (walkSection source.full) pairs document index := by
  induction pairs generalizing document index with
  | zero => simp [Source.parsePairs, walkPairs]
  | succ pairs pairsHold =>
    rw [Source.parsePairs]
    cases document with
    | nil =>
      rw [shown.token_nil, walkPairs]
      cases source.full <;> simp [zeroToken]
    | leaf _ rest =>
      obtain ⟨token, found, kind, content⟩ := shown.token_leaf
      rw [found, walkPairs]
      simp only [kind, Scalar.toKind_eq_string]
      split_ifs
      · rw [parseSection_refines kind content shown.later, Run.bind_assoc]
        simp only [Run.pure_bind, shown.later.skip, pairsHold shown.later.tail]
      · rfl
    | node container _ rest =>
      obtain ⟨token, found, kind⟩ := shown.token_node
      rw [found, walkPairs]
      cases container <;> simp [kind, Container.toKind]

theorem allocate_eq (text fuel capacity) (enough : text.length ≤ capacity * 2 ^ fuel) :
    ∃ doublings, allocate text fuel capacity =
        (capacity * 2 ^ doublings, parse (capacity * 2 ^ doublings) text) ∧
      parse (capacity * 2 ^ doublings) text ≠ .error .nomem ∧
      ∀ fewer < doublings, parse (capacity * 2 ^ fewer) text = .error .nomem := by
  induction fuel generalizing capacity with
  | zero =>
    exact ⟨0, by simp [allocate], by simpa using parse_ne_nomem enough, by simp⟩
  | succ fuel fuelHolds =>
    rw [allocate]
    split_ifs with small
    · rw [pow_succ', ← Nat.mul_assoc] at enough
      obtain ⟨doublings, reached, large, smaller⟩ := fuelHolds (capacity * 2) enough
      rw [Nat.mul_assoc, ← pow_succ'] at reached large
      refine ⟨doublings + 1, reached, large, ?_⟩
      intro fewer _
      cases fewer with
      | zero => simpa using small
      | succ fewer =>
        have step := smaller fewer (by omega)
        rwa [Nat.mul_assoc, ← pow_succ'] at step
    · exact ⟨0, by simp, by simpa using small, by simp⟩

def FillsArray (count : ℕ) : Prop := ∃ doublings, count = 128 * 2 ^ doublings

instance (count : ℕ) : Decidable (FillsArray count) :=
  decidable_of_iff (∃ doublings < count, count = 128 * 2 ^ doublings) <| by
    constructor
    · rintro ⟨doublings, -, equal⟩
      exact ⟨doublings, equal⟩
    · rintro ⟨doublings, equal⟩
      have := @Nat.lt_two_pow_self doublings
      exact ⟨doublings, by omega, equal⟩

theorem allocate_tokens (parsed : parse text.length text = .ok tokens) :
    ∃ capacity, allocate text text.length 128 = (capacity, .ok tokens) ∧
      (capacity ≤ tokens.length ↔ FillsArray tokens.length) := by
  have enough : text.length ≤ 128 * 2 ^ text.length :=
    Nat.lt_two_pow_self.le.trans (Nat.le_mul_of_pos_left _ (by norm_num))
  obtain ⟨doublings, reached, large, smaller⟩ := allocate_eq text text.length 128 enough
  have fits : tokens.length ≤ 128 * 2 ^ doublings := by
    by_contra tooMany
    exact large (parse_eq_nomem parsed (by omega))
  rw [parse_of_fits parsed fits] at reached
  refine ⟨128 * 2 ^ doublings, reached, fun filled => ⟨doublings, fits.antisymm filled⟩, ?_⟩
  rintro ⟨count, equal⟩
  by_contra room
  -- A smaller array of that size would have been enough.
  have fewer : count < doublings := by
    refine (Nat.pow_lt_pow_iff_right (by norm_num : 1 < 2)).mp ?_
    omega
  have lacking := smaller count fewer
  rw [parse_of_fits parsed equal.le] at lacking
  cases lacking

theorem parseConfigFile_eq {root} {kids others : Items}
    (parsed : parse text.length text = .ok ((Forest.node root kids others).layout draw none 0))
    (object : root.kind = .object) (short : text.length < 2 ^ 31) :
    ∃ source : Source, source.tokens = (Forest.node root kids others).layout draw none 0 ∧
      source.full = decide (FillsArray source.tokens.length) ∧
      Shows source 1 ((view text kids).append (view text others)) ∧
      parseConfigFile text =
        walkPairs source.full (walkSection source.full) kids.leaves
          ((view text kids).append (view text others)) 1 := by
  obtain ⟨capacity, allocated, filled⟩ := allocate_tokens parsed
  let source : Source := ⟨text, (Forest.node root kids others).layout draw none 0, capacity⟩
  have shown : Shows source 0 (view text (.node root kids others)) := shows_view rfl
  have inner : Shows source 1 ((view text kids).append (view text others)) := by
    cases shown with
    | node _ _ _ _ _ inner => exact inner
  refine ⟨source, rfl, decide_eq_decide.mpr filled, inner, ?_⟩
  rw [parseConfigFile, if_neg (by omega), allocated]
  change (if root.kind.toKind = .object then source.parsePairs kids.leaves 1 else .rejected) = _
  rw [if_pos (by rw [object]; rfl), parsePairs_eq inner]

theorem exists_items_of_object (parsed : parse text.length text = .ok tokens)
    (object : tokens.head?.map Token.kind = some .object) :
    ∃ (root : Span Container) (kids others : Items),
      tokens = (Forest.node root kids others).layout draw none 0 ∧ root.kind = .object := by
  obtain ⟨items, rfl, -, -⟩ := parse_eq_layout parsed
  cases items with
  | nil => cases object
  | leaf span =>
    obtain ⟨kind, start, stop⟩ := span
    cases kind <;> cases object
  | node root kids others =>
    refine ⟨root, kids, others, rfl, ?_⟩
    obtain ⟨kind, start, stop⟩ := root
    cases kind <;> first | rfl | cases object

end ThermalSimd.ConfigFile
