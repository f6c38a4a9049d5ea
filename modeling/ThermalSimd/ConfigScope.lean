import ThermalSimd.ConfigDocument

/-!
# Bounds and scope of the configuration parser

`parse_config_file` takes the number of scalars below the root for its number of pairs, and the
token behind a key for its value. `Reading` says where that goes wrong: a token is looked for where
the array ends, or a value comes from outside its key's object. Everywhere else the accesses are
sound (`token_accesses_sound_iff`).
-/

namespace ThermalSimd.ConfigFile

open Jsmn

variable {walk : Word → ℕ → Document → Run Unit}

def InScope (tokens : List Token) (stored : Stored) : Prop :=
  parentOf tokens stored.value = parentOf tokens stored.key ∧
    ((parentOf tokens stored.key).bind (tokens[·]?)).map Token.kind = some .object
  deriving Decidable

def Run.Sound {α : Type} [DecidableEq α] (tokens : List Token) (run : Run α) : Prop :=
  run.outcome ≠ .undefined ∧ ∀ stored ∈ run.stored, InScope tokens stored
  deriving Decidable

/-- A document is read to its end, or up to something that is rejected, or up to a slip. -/
inductive Reading
  | completes | stops | slips
  deriving DecidableEq

def Reading.andThen : Reading → Reading → Reading
  | completes, next => next
  | reading, _ => reading

/-- It slips if it looks behind a full array, or accepts a value from outside its object. -/
def readField (full : Bool) (fields : List Field) (key : Word) (inside : Bool) (value : Document) :
    Reading :=
  match fields.find? (key.is ·.name) with
  | none => .completes
  | some field =>
    match value with
    | .nil => if full then .slips else .stops
    | .node _ _ _ => .stops
    | .leaf word _ =>
      match field.reader.read word.kind.toKind word.content with
      | none => .stops
      | some _ => if inside then .completes else .slips

def readKey (objects : List (String × (Document → Reading)))
    (otherwise : Word → Bool → Document → Reading) (key : Word) (inside : Bool) (value : Document) :
    Reading :=
  match objects.find? (key.is ·.1) with
  | some object => object.2 value
  | none => otherwise key inside value

def readObject (onKey : Word → Bool → Document → Reading) (follow : Document) : Document → Reading
  | .nil => .completes
  | .node _ _ _ => .stops
  | .leaf key .nil => if key.kind = .string then onKey key false follow else .stops
  | .leaf key (.leaf word rest) =>
    if key.kind = .string then
      (onKey key true ((Forest.leaf word rest).append follow)).andThen
        (readObject onKey follow rest)
    else .stops
  | .leaf key (.node container children rest) =>
    if key.kind = .string then
      (onKey key true ((Forest.node container children rest).append follow)).andThen
        (readObject onKey follow rest)
    else .stops

def readValue (full : Bool) (onKey : Word → Bool → Document → Reading) : Document → Reading
  | .nil => if full then .slips else .completes
  | .leaf _ _ => .completes
  | .node .array _ _ => .completes
  | .node .object children rest => readObject onKey rest children

def readPairs (full : Bool) (onKey : Word → Document → Reading) : ℕ → Document → Reading
  | 0, _ => .completes
  | _ + 1, .nil => if full then .slips else .stops
  | _ + 1, .node _ _ _ => .stops
  | pairs + 1, .leaf key rest =>
    if key.kind = .string then
      (onKey key rest).andThen (readPairs full onKey pairs (tail rest))
    else .stops

def readMetrics (full : Bool) : Document → Reading :=
  readValue full
    (readKey
      [("tls", readValue full (readField full tlsFields)),
        ("basic_auth", readValue full (readField full basicAuthFields)),
        ("statsd", readValue full (readField full statsdFields))]
      (readField full metricsFields))

def readSection (full : Bool) (key : Word) (value : Document) : Reading :=
  readKey
    [("predictive", readValue full (readField full predictiveFields)),
      ("telemetry", readValue full (readField full telemetryFields)),
      ("metrics", readMetrics full)]
    (fun _ _ _ => .completes) key true value

private def Agrees (tokens : List Token) (run : Run Unit) : Reading → Prop
  | .completes => run.outcome = .done () ∧ ∀ stored ∈ run.stored, InScope tokens stored
  | .stops => run.outcome = .rejected ∧ ∀ stored ∈ run.stored, InScope tokens stored
  | .slips => ¬ run.Sound tokens

variable {tokens : List Token}

theorem Agrees.sound_iff {run reading} (agrees : Agrees tokens run reading) :
    run.Sound tokens ↔ reading ≠ .slips := by
  cases reading with
  | completes | stops => exact ⟨fun _ => by simp, fun _ => ⟨by simp [agrees.1], agrees.2⟩⟩
  | slips => exact ⟨fun sound => absurd sound agrees, fun slips => absurd rfl slips⟩

theorem agrees_pure : Agrees tokens (.pure ()) .completes := ⟨rfl, by simp [Run.pure]⟩

theorem agrees_rejected : Agrees tokens .rejected .stops := ⟨rfl, by simp [Run.rejected]⟩

theorem agrees_undefined : Agrees tokens .undefined .slips := fun sound => sound.1 rfl

theorem Agrees.bind {first second reading next} (agrees : Agrees tokens first reading)
    (nextAgrees : Agrees tokens (second ()) next) :
    Agrees tokens (first.bind second) (reading.andThen next) := by
  obtain ⟨out, stored⟩ := first
  cases reading with
  | completes =>
    obtain ⟨done, inScope⟩ := agrees
    subst done
    cases next with
    | completes | stops =>
      refine ⟨nextAgrees.1, ?_⟩
      simp only [Run.bind, List.mem_append]
      rintro found (early | late)
      · exact inScope found early
      · exact nextAgrees.2 found late
    | slips =>
      intro sound
      refine nextAgrees ⟨sound.1, fun found mem => sound.2 found ?_⟩
      exact List.mem_append_right stored mem
  | stops =>
    obtain ⟨rejected, inScope⟩ := agrees
    subst rejected
    exact ⟨rfl, inScope⟩
  | slips =>
    intro sound
    refine agrees ⟨?_, fun found mem => sound.2 found ?_⟩
    · rintro rfl
      exact sound.1 rfl
    · cases out with
      | done => exact List.mem_append_left _ mem
      | rejected | undefined => exact mem

variable {source : Source}

/-- The walk at a key goes as the reading says; `inside`: the value is a child too. -/
def KeyAgrees (source : Source) (walk : Word → ℕ → Document → Run Unit)
    (reading : Word → Bool → Document → Reading) : Prop :=
  ∀ ⦃index parent : ℕ⦄ ⦃key : Word⦄ ⦃inside : Bool⦄ ⦃value : Document⦄,
    source.tokens[parent]?.map Token.kind = some .object →
    parentOf source.tokens index = some parent →
    (parentOf source.tokens (index + 1) = some parent ↔ inside = true) →
    Shows source (index + 1) value →
    Agrees source.tokens (walk key index value) (reading key inside value)

private def ValueAgrees (source : Source) (walk : ℕ → Document → Run Unit)
    (reading : Document → Reading) : Prop :=
  ∀ ⦃index : ℕ⦄ ⦃value : Document⦄, Shows source index value →
    Agrees source.tokens (walk index value) (reading value)

theorem walkField_agrees (full fields) :
    KeyAgrees source (walkField full fields) (readField full fields) := by
  intro i _ key inside v object under beside _
  unfold walkField readField
  cases fields.find? (key.is ·.name) with
  | none => exact agrees_pure
  | some field =>
    cases v with
    | nil =>
      cases full with
      | true => exact agrees_undefined
      | false => exact agrees_rejected
    | node _ _ rest => exact agrees_rejected
    | leaf word rest =>
      dsimp only
      cases field.reader.read word.kind.toKind word.content with
      | none => exact agrees_rejected
      | some stored =>
        have scope : InScope source.tokens ⟨i, i + 1, (field.setting, stored)⟩ ↔
            inside = true := by
          rw [InScope, under, ← beside]
          exact and_iff_left object
        cases inside with
        | true => exact ⟨rfl, by simpa using scope⟩
        | false =>
          intro sound
          simpa [scope] using sound.2 _ List.mem_cons_self

variable {reading : Word → Bool → Document → Reading}

theorem walkKey_agrees (objects : List (String × (ℕ → Document → Run Unit) × (Document → Reading)))
    (each : ∀ object ∈ objects, ValueAgrees source object.2.1 object.2.2)
    (others : KeyAgrees source walk reading) :
    KeyAgrees source (walkKey (objects.map fun object => (object.1, object.2.1)) walk)
      (readKey (objects.map fun object => (object.1, object.2.2)) reading) := by
  intro i _ key _ _ object under beside shown
  unfold walkKey readKey
  simp only [List.find?_map, Function.comp_def]
  cases chosen : objects.find? (key.is ·.1) with
  | none => exact others object under beside shown
  | some object => exact each object (List.mem_of_find?_eq_some chosen) shown

theorem walkObject_agrees (agrees : KeyAgrees source walk reading) {items follow i parent}
    (object : source.tokens[parent]?.map Token.kind = some .object)
    (shown : Shows source i (items.append follow))
    (siblings : Siblings source.tokens parent i items)
    (outside : parentOf source.tokens (i + items.size) ≠ some parent) :
    Agrees source.tokens (walkObject walk follow items i) (readObject reading follow items) := by
  fun_induction walkObject walk follow items i with
  | case1 i => exact agrees_pure
  | case2 container kids rest i => exact agrees_rejected
  | case3 key i string =>
    rw [readObject, if_pos string]
    refine agrees object siblings.1 ?_ shown.later
    simpa [Forest.size] using outside
  | case4 key i noString =>
    rw [readObject, if_neg noString]
    exact agrees_rejected
  | case5 key word rest i string hrest =>
    obtain ⟨under, besides⟩ := siblings
    rw [readObject, if_pos string]
    refine (agrees object under (by simpa using besides.1) shown.later).bind ?_
    refine hrest shown.later.tail besides.2 ?_
    rwa [show i + 2 + rest.size = i + (Forest.leaf key (.leaf word rest)).size by
      simp only [Forest.size]; omega]
  | case6 key word rest i noString =>
    rw [readObject, if_neg noString]
    exact agrees_rejected
  | case7 key container kids rest i string hrest =>
    obtain ⟨under, besides⟩ := siblings
    rw [readObject, if_pos string]
    refine (agrees object under (by simpa using besides.1) shown.later).bind ?_
    have behind := shown.later.tail
    rw [show i + 1 + headSize ((Forest.node container kids rest).append follow) =
      i + 2 + kids.size by simp only [Forest.append, headSize]; omega] at behind
    refine hrest behind ?_ ?_
    · rw [show i + 2 + kids.size = i + 1 + 1 + kids.size by omega]
      exact besides.2
    · rwa [show i + 2 + kids.size + rest.size =
        i + (Forest.leaf key (.node container kids rest)).size by
          simp only [Forest.size]; omega]
  | case8 key container kids rest i noString =>
    rw [readObject, if_neg noString]
    exact agrees_rejected

theorem walkValue_agrees (full) (agrees : KeyAgrees source walk reading) :
    ValueAgrees source (walkValue full walk) (readValue full reading) := by
  intro i v shown
  cases v with
  | nil =>
    cases full with
    | true => exact agrees_undefined
    | false => exact agrees_pure
  | leaf _ rest => exact agrees_pure
  | node container _ rest =>
    cases container with
    | array => exact agrees_pure
    | object =>
      cases shown with
      | node found kind _ siblings outside inner =>
        exact walkObject_agrees agrees (by rw [found]; simp [kind, Container.toKind]) inner
          siblings outside

theorem walkMetrics_agrees (full) : ValueAgrees source (walkMetrics full) (readMetrics full) := by
  refine walkValue_agrees full (walkKey_agrees
    [("tls", walkValue full (walkField full tlsFields), readValue full (readField full tlsFields)),
      ("basic_auth", walkValue full (walkField full basicAuthFields),
        readValue full (readField full basicAuthFields)),
      ("statsd", walkValue full (walkField full statsdFields),
        readValue full (readField full statsdFields))]
    ?_ (walkField_agrees full metricsFields))
  simp only [List.mem_cons, List.not_mem_nil, or_false]
  rintro _ (rfl | rfl | rfl)
  all_goals exact walkValue_agrees full (walkField_agrees full _)

theorem walkSection_agrees (full key) {i v} (shown : Shows source (i + 1) v) :
    Agrees source.tokens (walkSection full key i v) (readSection full key v) := by
  unfold walkSection readSection walkKey readKey
  simp only [List.find?_cons, List.find?_nil]
  cases key.is "predictive" with
  | true => exact walkValue_agrees full (walkField_agrees full predictiveFields) shown
  | false =>
    cases key.is "telemetry" with
    | true => exact walkValue_agrees full (walkField_agrees full telemetryFields) shown
    | false =>
      cases key.is "metrics" with
      | true => exact walkMetrics_agrees full shown
      | false => exact agrees_pure

theorem walkPairs_agrees (full pairs) {i document} (shown : Shows source i document) :
    Agrees source.tokens (walkPairs full (walkSection full) pairs document i)
      (readPairs full (readSection full) pairs document) := by
  induction pairs generalizing i document with
  | zero => cases document <;> exact agrees_pure
  | succ pairs pairsHold =>
    cases document with
    | nil =>
      cases full with
      | true => exact agrees_undefined
      | false => exact agrees_rejected
    | node _ _ rest => exact agrees_rejected
    | leaf key rest =>
      rw [walkPairs, readPairs]
      split_ifs
      · exact (walkSection_agrees full key shown.later).bind (pairsHold shown.later.tail)
      · exact agrees_rejected

def readFile (count : ℕ) (children others : Document) : Reading :=
  readPairs (decide (FillsArray count)) (readSection (decide (FillsArray count))) children.leaves
    (children.append others)

/-- Every token read is in the array and every value beside its key, unless it slips. -/
theorem token_accesses_sound_iff {text : List Char} {tokens : List Token}
    (parsed : parse text.length text = .ok tokens)
    (object : tokens.head?.map Token.kind = some .object) :
    ∃ (root : Span Container) (children others : Items),
      tokens = (Forest.node root children others).layout draw none 0 ∧
      ((parseConfigFile text).Sound tokens ↔
        text.length < 2 ^ 31 ∧
          readFile tokens.length (view text children) (view text others) ≠ .slips) := by
  obtain ⟨root, children, others, rfl, isObject⟩ := exists_items_of_object parsed object
  refine ⟨root, children, others, rfl, ?_⟩
  by_cases short : text.length < 2 ^ 31
  · obtain ⟨source, tokensEq, full, shown, run⟩ := parseConfigFile_eq parsed isObject short
    have agrees := walkPairs_agrees source.full children.leaves shown
    rw [run, ← tokensEq, and_iff_right short, agrees.sound_iff, full, readFile, view,
      Forest.leaves_map]
  · have overflows : parseConfigFile text = .undefined := by
      rw [parseConfigFile, if_pos (by omega)]
    rw [overflows]
    exact ⟨fun sound => absurd rfl sound.1, fun condition => absurd condition.1 short⟩

/-- A file with a section and an unknown key is read soundly. -/
theorem token_accesses_sound_one_section :
    let text := "\x7b\"telemetry\":\x7b\"interval_ms\":80\x7d,\"x\":\x7b\x7d\x7d".toList
    let tokens := (parse text.length text).toOption.getD []
    ∃ (root : Span Container) (children others : Items),
      tokens = (Forest.node root children others).layout draw none 0 ∧
      ((parseConfigFile text).Sound tokens ↔
        text.length < 2 ^ 31 ∧
          readFile tokens.length (view text children) (view text others) ≠ .slips) :=
  token_accesses_sound_iff (by decide +kernel) (by decide +kernel)

/-- A key without a value takes the key behind its section; and behind a full array, the pair is
looked for that a scalar of the root makes the loop expect. -/
theorem value_from_outside_and_index_behind_array :
    (let text := "\x7b\"telemetry\":\x7b\"profile\"\x7d,\"x\":\x7b\x7d\x7d".toList
      let tokens := (parse text.length text).toOption.getD []
      parse text.length text = .ok tokens ∧ tokens.head?.map Token.kind = some .object ∧
        (parseConfigFile text).outcome = .done () ∧ ¬ (parseConfigFile text).Sound tokens) ∧
    (let text := "\x7b\"a\":[".toList ++ (List.replicate 123 ['1', ',']).flatten ++
        "],\"b\":1\x7d".toList
      let tokens := (parse text.length text).toOption.getD []
      parse text.length text = .ok tokens ∧ tokens.head?.map Token.kind = some .object ∧
        ¬ (parseConfigFile text).Sound tokens) := by
  decide +kernel

end ThermalSimd.ConfigFile
