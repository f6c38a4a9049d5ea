import ThermalSimd.ConfigAccept

/-!
# What a well typed configuration file sets

A document gives each setting whose field stands in its section the value written there. A well
typed file is loaded with these values alone, unless a member of its root is a scalar or a
conversion underflows (`well_typed_file_loads_iff`).
-/

namespace ThermalSimd.ConfigFile

open Jsmn CText

/-- A value the reader is for: of its type and range, and no longer than the buffers. -/
def Reader.Denotes (reader : Reader) (item : Item) (value : Value) : Prop :=
  ∃ word, item = .scalar word ∧
    match reader with
    | .string size =>
      word.kind = .string ∧ '\x00' ∉ word.content ∧ word.content.length < size ∧
        value = .text (String.ofList word.content)
    | .int min max =>
      word.kind = .primitive ∧ word.content.length < 64 ∧
        ∃ number, WritesInt word.content number ∧ min ≤ number ∧ number ≤ max ∧
          value = .int number
    | .double min max =>
      word.kind = .primitive ∧ word.content.length < 64 ∧
        ∃ number, WritesDouble word.content number ∧ min ≤ number ∧ number ≤ max ∧
          value = .real (.finite number)
    | .bool =>
      word.kind = .primitive ∧ (word.content = "true".toList ∧ value = .int 1 ∨
        word.content = "false".toList ∧ value = .int 0)

def placed (fields : List Field) (object : Document) : List (Field × Option Item) :=
  fields.map fun field => (field, lookup field.name object)

def known (root : Document) : List (Field × Option Item) :=
  let metrics := subobject "metrics" root
  placed predictiveFields (subobject "predictive" root) ++
    placed telemetryFields (subobject "telemetry" root) ++
    placed tlsFields (subobject "tls" metrics) ++
    placed basicAuthFields (subobject "basic_auth" metrics) ++
    placed statsdFields (subobject "statsd" metrics) ++ placed metricsFields metrics

def Gives (root : Document) (setting : Setting) (value : Value) : Prop :=
  ∃ field item, (field, some item) ∈ known root ∧ field.setting = setting ∧
    field.reader.Denotes item value

def IsSection (name : String) (object : Document) : Prop :=
  ∀ item, lookup name object = some item → ∃ children, item = .container .object children

theorem isSection_of_absent {name object} (absent : lookup name object = none) :
    IsSection name object := by
  intro _ found
  rw [absent] at found
  cases found

/-- Sections are objects, and known fields have values of their types. -/
structure WellTyped (root : Document) : Prop where
  sections : ∀ name ∈ ["predictive", "telemetry", "metrics"], IsSection name root
  metricsSections : ∀ name ∈ ["tls", "basic_auth", "statsd"],
    IsSection name (subobject "metrics" root)
  fields : ∀ field item, (field, some item) ∈ known root →
    ∃ value, field.reader.Denotes item value

/-- `cfg'` is `cfg` with the values of the document and no other change. -/
structure Loaded (root : Document) (cfg cfg' : RuntimeConfig) : Prop where
  given : ∀ setting value, Gives root setting value → setting.get cfg' = value
  kept : ∀ setting, (∀ value, ¬ Gives root setting value) → setting.get cfg' = setting.get cfg
  enabled : ∀ port, Gives root .metricsPort (.int port) →
    cfg'.metricsEnabled = if 0 < port then 1 else 0
  enabledKept : (∀ value, ¬ Gives root .metricsPort value) →
    cfg'.metricsEnabled = cfg.metricsEnabled
  downRatioMilli : cfg'.downRatioMilli = cfg.downRatioMilli
  unset : cfg'.unset = cfg.unset

/-- The item is a number whose conversion to a `double` underflows. -/
def Reader.Underflows (reader : Reader) (item : Item) : Prop :=
  ∃ min max word, reader = .double min max ∧ item = .scalar word ∧ WritesUnderflow word.content

/-- No number that the document gives for a `double` underflows. -/
def NoUnderflow (root : Document) : Prop :=
  ∀ field item, (field, some item) ∈ known root → ¬ field.reader.Underflows item

private def Reader.Bounded : Reader → Prop
  | .int min max => -2 ^ 63 ≤ min ∧ max ≤ 2 ^ 63 - 1
  | .double min max => -10 ≤ min ∧ max ≤ 10
  | _ => True

instance (reader : Reader) : Decidable reader.Bounded := by
  cases reader <;> unfold Reader.Bounded <;> infer_instance

theorem Reader.reads_of_underflows {reader : Reader} {item} (underflows : reader.Underflows item) :
    reader.reads item = none := by
  obtain ⟨min, max, word, rfl, rfl, writes⟩ := underflows
  rw [reads, read, parseDoubleOption_of_underflow writes, Option.map_none, ite_self]

theorem Reader.reads_of_denotes {reader : Reader} (bounded : reader.Bounded) {item value}
    (denotes : reader.Denotes item value) (exact : ¬ reader.Underflows item) :
    reader.reads item = some value := by
  obtain ⟨⟨_, content⟩, rfl, denotes⟩ := denotes
  cases reader with
  | string =>
    obtain ⟨rfl, whole, fits, rfl⟩ := denotes
    have all : content.takeWhile (· ≠ '\x00') = content := by
      rw [List.takeWhile_eq_self_iff]
      intro c mem
      exact decide_eq_true fun zero => whole (zero ▸ mem)
    rw [reads, read, if_pos ⟨rfl, fits⟩, all]
  | int min max =>
    obtain ⟨rfl, short, number, writes, least, greatest, rfl⟩ := denotes
    have parsed := parseIntOption_of_writesInt writes ⟨least, greatest⟩ bounded
    simp [reads, read, Scalar.toKind, short, writes.ne_nil, parsed]
  | double min max =>
    obtain ⟨rfl, short, number, writes, least, greatest, rfl⟩ := denotes
    have parsed := parseDoubleOption_of_writesDouble writes ⟨least, greatest⟩ bounded
      fun underflow => exact ⟨min, max, _, rfl, rfl, underflow⟩
    rw [reads, read, if_pos ⟨rfl, writes.ne_nil, short⟩, parsed, Option.map_some]
  | bool =>
    obtain ⟨rfl, ⟨rfl, rfl⟩ | ⟨rfl, rfl⟩⟩ := denotes
    all_goals simp [reads, read, Scalar.toKind]

/-- Keys and values take turns and no key occurs twice, in the object and below. -/
structure Proper (object : Document) : Prop where
  alternates : Alternates object
  distinct : DistinctKeys object
  below : DistinctBelow object

variable {object : Document} {root : Document}

theorem Proper.within (proper : Proper object) (name) : Proper (subobject name object) := by
  unfold subobject
  split
  · next _ found =>
      obtain ⟨_, mem, -⟩ := (lookup_eq_some_iff proper.distinct name _).mp found
      obtain ⟨distinct, inner⟩ := proper.below.keys mem
      exact ⟨proper.alternates.below mem, distinct, inner⟩
  · exact ⟨trivial, by simp [DistinctKeys, members], trivial⟩

theorem Proper.fineObject_iff (proper : Proper object) (entries) :
    FineObject entries object ↔
      ∀ entry ∈ entries, ∀ item, lookup entry.name object = some item → entry.fine item := by
  simp only [lookup_eq_some_iff proper.distinct, forall_exists_index, and_imp]
  constructor
  · intro fine entry known item _ mem named
    exact fine _ mem entry known ((Word.is_iff (proper.alternates.string _ mem) _).mpr named)
  · intro fine mem isMember entry known is
    exact fine entry known mem.2 mem.1 isMember
      ((Word.is_iff (proper.alternates.string _ isMember) _).mp is)

theorem Proper.givesObject_iff (proper : Proper object) (entries asg) :
    GivesObject entries object asg ↔
      ∃ entry ∈ entries, ∃ item, lookup entry.name object = some item ∧
        entry.gives item asg := by
  simp only [lookup_eq_some_iff proper.distinct]
  constructor
  · rintro ⟨mem, isMember, entry, known, is, gives⟩
    exact ⟨entry, known, mem.2, ⟨mem.1, isMember,
      (Word.is_iff (proper.alternates.string _ isMember) _).mp is⟩, gives⟩
  · rintro ⟨entry, known, item, ⟨key, mem, named⟩, gives⟩
    exact ⟨(key, item), mem, entry, known,
      (Word.is_iff (proper.alternates.string _ mem) _).mpr named, gives⟩

theorem subobject_fine_iff (name entries object) :
    (∀ item, lookup name object = some item → (objectEntry name entries).fine item) ↔
      FineObject entries (subobject name object) := by
  unfold subobject
  split
  · next kids found => simp [found, objectEntry]
  · next other =>
      simp only [objectEntry, FineObject, members, List.not_mem_nil, false_imp_iff, implies_true,
        iff_true]
      rintro _ found kids rfl
      exact absurd found (other kids)

theorem subobject_gives_iff (name entries object asg) :
    (∃ item, lookup name object = some item ∧ (objectEntry name entries).gives item asg) ↔
      GivesObject entries (subobject name object) asg := by
  unfold subobject
  split
  · next kids found => simp [found, objectEntry]
  · next other =>
      simp only [objectEntry, GivesObject, members, List.not_mem_nil, false_and, exists_false,
        iff_false]
      rintro ⟨_, found, kids, rfl, -⟩
      exact other kids found

private def AllRead (fields : List (Field × Option Item)) : Prop :=
  ∀ field item, (field, some item) ∈ fields → ∃ value, field.reader.reads item = some value

private def Assigns (fields : List (Field × Option Item)) (assignment : Assignment) : Prop :=
  ∃ field item, (field, some item) ∈ fields ∧
    ∃ value, field.reader.reads item = some value ∧ assignment = (field.setting, value)

theorem allRead_append (first second) :
    AllRead (first ++ second) ↔ AllRead first ∧ AllRead second := by
  simp only [AllRead, List.mem_append, or_imp, forall_and]

theorem assigns_append (first second asg) :
    Assigns (first ++ second) asg ↔ Assigns first asg ∨ Assigns second asg := by
  simp only [Assigns, List.mem_append, or_and_right, exists_or]

section

variable {object : Document} (proper : Proper object)

include proper

theorem Proper.fineFields_iff (fields) :
    FineObject (fields.map fieldEntry) object ↔ AllRead (placed fields object) := by
  rw [proper.fineObject_iff, List.forall_mem_map]
  simp only [AllRead, placed, fieldEntry, List.mem_map, Prod.mk.injEq]
  constructor
  · rintro fine field item ⟨_, isField, rfl, found⟩
    exact fine _ isField item found
  · intro fine field isField item found
    exact fine field item ⟨field, isField, rfl, found⟩

theorem Proper.givesFields_iff (fields asg) :
    GivesObject (fields.map fieldEntry) object asg ↔
      Assigns (placed fields object) asg := by
  rw [proper.givesObject_iff]
  simp only [Assigns, placed, fieldEntry, List.mem_map, Prod.mk.injEq, exists_exists_and_eq_and]
  constructor
  · rintro ⟨field, isField, item, found, gives⟩
    exact ⟨field, item, ⟨field, isField, rfl, found⟩, gives⟩
  · rintro ⟨field, item, ⟨_, isField, rfl, found⟩, gives⟩
    exact ⟨_, isField, item, found, gives⟩

theorem Proper.fineObject_cons (name entries more) :
    FineObject (objectEntry name entries :: more) object ↔
      FineObject entries (subobject name object) ∧ FineObject more object := by
  rw [proper.fineObject_iff, proper.fineObject_iff more, List.forall_mem_cons,
    ← subobject_fine_iff]
  rfl

theorem Proper.givesObject_cons (name entries more asg) :
    GivesObject (objectEntry name entries :: more) object asg ↔
      GivesObject entries (subobject name object) asg ∨
        GivesObject more object asg := by
  rw [proper.givesObject_iff, proper.givesObject_iff more, ← subobject_gives_iff]
  simp only [List.mem_cons, or_and_right, exists_or, exists_eq_left]
  rfl

theorem Proper.fineRoot_iff : FineObject rootEntries object ↔ AllRead (known object) := by
  have metrics := proper.within "metrics"
  simp only [rootEntries, metricsEntries, List.cons_append, List.nil_append,
    proper.fineObject_cons, metrics.fineObject_cons, metrics.fineFields_iff,
    (proper.within "predictive").fineFields_iff, (proper.within "telemetry").fineFields_iff,
    (metrics.within "tls").fineFields_iff, (metrics.within "basic_auth").fineFields_iff,
    (metrics.within "statsd").fineFields_iff, known, allRead_append,
    and_assoc]
  simp only [FineObject, List.not_mem_nil, false_imp_iff, implies_true, and_true]

theorem Proper.givesRoot_iff (asg) :
    GivesObject rootEntries object asg ↔ Assigns (known object) asg := by
  have metrics := proper.within "metrics"
  simp only [rootEntries, metricsEntries, List.cons_append, List.nil_append,
    proper.givesObject_cons, metrics.givesObject_cons, metrics.givesFields_iff,
    (proper.within "predictive").givesFields_iff, (proper.within "telemetry").givesFields_iff,
    (metrics.within "tls").givesFields_iff, (metrics.within "basic_auth").givesFields_iff,
    (metrics.within "statsd").givesFields_iff, known, assigns_append,
    or_assoc]
  simp only [GivesObject, List.not_mem_nil, false_and, exists_false, and_false, or_false]

end

private def knownFields : List Field :=
  predictiveFields ++ telemetryFields ++ tlsFields ++ basicAuthFields ++ statsdFields ++
    metricsFields

theorem map_fst_known (root) : (known root).map Prod.fst = knownFields := by
  simp [known, placed, knownFields, Function.comp_def]

theorem mem_knownFields {field item} (mem : (field, item) ∈ known root) : field ∈ knownFields := by
  rw [← map_fst_known root]
  exact List.mem_map_of_mem mem

theorem knownFields_bounded : ∀ field ∈ knownFields, field.reader.Bounded := by decide

theorem known_inj {field other item another}
    (mem : (field, item) ∈ known root) (otherMember : (other, another) ∈ known root)
    (same : field.setting = other.setting) : field = other ∧ item = another := by
  have nodup : ((known root).map (·.1.setting)).Nodup := by
    have fields : (knownFields.map Field.setting).Nodup := by decide
    rwa [← map_fst_known root, List.map_map] at fields
  exact Prod.mk.injEq .. ▸ List.inj_on_of_nodup_map nodup mem otherMember same

theorem known_reads (exact : NoUnderflow root) {field item value}
    (member : (field, some item) ∈ known root) (denotes : field.reader.Denotes item value) :
    field.reader.reads item = some value :=
  Reader.reads_of_denotes (knownFields_bounded field (mem_knownFields member)) denotes
    (exact field item member)

section

variable {root : Document} (typed : WellTyped root)

include typed

theorem WellTyped.allRead_iff : AllRead (known root) ↔ NoUnderflow root := by
  constructor
  · intro allRead field item member underflows
    obtain ⟨_, reads⟩ := allRead field item member
    rw [Reader.reads_of_underflows underflows] at reads
    cases reads
  · intro exact field item member
    obtain ⟨value, denotes⟩ := typed.fields field item member
    exact ⟨value, known_reads exact member denotes⟩

theorem WellTyped.assigns_iff (exact : NoUnderflow root) (setting value) :
    Assigns (known root) (setting, value) ↔ Gives root setting value := by
  constructor
  · rintro ⟨field, item, member, _, reads, same⟩
    cases same
    obtain ⟨value, denotes⟩ := typed.fields field item member
    rw [known_reads exact member denotes] at reads
    cases reads
    exact ⟨field, item, member, rfl, denotes⟩
  · rintro ⟨field, item, member, rfl, denotes⟩
    exact ⟨field, item, member, value, known_reads exact member denotes, rfl⟩

end

theorem assigns_functional {setting v other} (assigns : Assigns (known root) (setting, v))
    (assignsOther : Assigns (known root) (setting, other)) : other = v := by
  obtain ⟨_, _, mem, _, reads, same⟩ := assigns
  obtain ⟨_, _, member', _, reads', same'⟩ := assignsOther
  obtain ⟨rfl, rfl⟩ := Prod.mk.inj same
  obtain ⟨sameSetting, rfl⟩ := Prod.mk.inj same'
  obtain ⟨rfl, sameItem⟩ := known_inj mem member' sameSetting
  cases sameItem
  rw [reads] at reads'
  exact (Option.some.inj reads').symm

theorem WellTyped.loaded (typed : WellTyped root)
    (exact : NoUnderflow root) {assignments} (admitted : ∀ asg ∈ assignments, asg.Admitted)
    (assigned : ∀ asg, asg ∈ assignments ↔ Assigns (known root) asg)
    (cfg) : Loaded root cfg (cfg.assign assignments) := by
  have last : ∀ setting v, Gives root setting v →
      lastValue setting assignments = some v := by
    intro setting v gives
    have assigns := (typed.assigns_iff exact setting v).mpr gives
    exact lastValue_eq_some_of_unique ((assigned _).mpr assigns) fun other mem =>
      assigns_functional assigns ((assigned _).mp mem)
  have noLast : ∀ setting, (∀ v, ¬ Gives root setting v) →
      lastValue setting assignments = none := by
    intro setting never
    refine lastValue_eq_none_iff.mpr fun v mem => never v ?_
    exact (typed.assigns_iff exact setting v).mp ((assigned _).mp mem)
  have noRatio : ∀ v, ¬ Gives root .downRatio v := by
    rintro v ⟨field, _, mem, isRatio, -⟩
    have other : ∀ field ∈ knownFields, field.setting ≠ .downRatio := by decide
    exact other field (mem_knownFields mem) isRatio
  constructor
  case given =>
    intro setting v gives
    rw [setting.get_assign cfg admitted, last setting v gives, Option.getD_some]
  case kept =>
    intro setting never
    rw [setting.get_assign cfg admitted, noLast setting never, Option.getD_none]
  case enabled =>
    intro _ gives
    rw [RuntimeConfig.metricsEnabled_assign, last _ _ gives]
    rfl
  case enabledKept =>
    intro never
    rw [RuntimeConfig.metricsEnabled_assign, noLast _ never]
    rfl
  case downRatioMilli =>
    rw [RuntimeConfig.downRatioMilli_assign, noLast _ noRatio]
    rfl
  case unset => exact cfg.unset_assign assignments

theorem parseConfigFile_completes {text root}
    (writes : WritesObject root text) (proper : Proper root) (short : text.length < 2 ^ 31) :
    Completes (parseConfigFile text) (AllRead (known root) ∧ ContainersOnly root)
      (Assigns (known root)) := by
  obtain ⟨_, kids, parsed, object, rfl⟩ := parse_object_text writes
  obtain ⟨source, -, -, -, parses⟩ := parseConfigFile_eq parsed object short
  have leaves : (view text kids).leaves = kids.leaves := Forest.leaves_map ..
  rw [show view text .nil = .nil from rfl, Forest.append_nil, ← leaves] at parses
  obtain ⟨enough, exact⟩ := length_members_eq_leaves_iff proper.alternates
  have completes := walkPairs_completes source.full 1 proper.alternates enough
  rw [← parses] at completes
  refine completes.congr ?_ fun _ asg => proper.givesRoot_iff asg
  rw [proper.fineRoot_iff, exact]

/-- A well typed file is loaded exactly if its offsets fit an `int`, its root has no scalar member
and no number underflows. -/
theorem well_typed_file_loads_iff {text : List Char} {root : Document}
    (writes : WritesObject root text) (distinct : DistinctKeys root) (below : DistinctBelow root)
    (typed : WellTyped root) :
    ((parseConfigFile text).outcome = .done () ∧
        ∀ cfg : RuntimeConfig, Loaded root cfg (cfg.assign (parseConfigFile text).assignments)) ↔
      text.length < 2 ^ 31 ∧ ContainersOnly root ∧ NoUnderflow root := by
  have proper : Proper root := ⟨writes.alternates, distinct, below⟩
  constructor
  · rintro ⟨done, -⟩
    have short : text.length < 2 ^ 31 := by
      by_contra long
      rw [parseConfigFile, if_pos (by omega)] at done
      cases done
    obtain ⟨allRead, containers⟩ := (parseConfigFile_completes writes proper short).ends.mp done
    exact ⟨short, containers, typed.allRead_iff.mp allRead⟩
  · rintro ⟨short, containers, exact⟩
    obtain ⟨ends, stores⟩ := parseConfigFile_completes writes proper short
    have fine := And.intro (typed.allRead_iff.mpr exact) containers
    refine ⟨ends.mpr fine, typed.loaded exact (parseConfigFile_admitted text) fun assignment => ?_⟩
    rw [← stores fine assignment, Run.assignments, List.mem_map]

def sampleDocument : Document :=
  .leaf ⟨.string, "telemetry".toList⟩
    (.node .object
      (.leaf ⟨.string, "interval_ms".toList⟩ (.leaf ⟨.primitive, "100".toList⟩ .nil)) .nil)

def sampleText : List Char := "\x7b\"telemetry\":\x7b\"interval_ms\":100\x7d\x7d".toList

theorem sample_writes : WritesObject sampleDocument sampleText := by
  have interval : Writes (.key true)
      (.leaf ⟨.string, "interval_ms".toList⟩ (.leaf ⟨.primitive, "100".toList⟩ .nil))
      "\"interval_ms\":100".toList :=
    ⟨fun _ => rfl, by decide, [], ":100".toList, blank_nil, rfl, by simp [Slot.next], by decide,
      [':'], [], ⟨[], [], blank_nil, blank_nil, rfl⟩, rfl, by simp [Slot.next], blank_nil⟩
  exact ⟨[], "\"telemetry\":\x7b\"interval_ms\":100\x7d".toList, [], blank_nil, blank_nil, rfl,
    fun _ => rfl, by decide, [], ":\x7b\"interval_ms\":100\x7d".toList, blank_nil, rfl,
    by simp [Slot.next], [':'], _, [], ⟨[], [], blank_nil, blank_nil, rfl⟩, rfl, interval,
    by simp [Slot.next], blank_nil⟩

theorem sample_known {field item} (mem : (field, some item) ∈ known sampleDocument) :
    field = ⟨"interval_ms", .telemetryIntervalMs, .int 10 60000⟩ ∧
      item = .scalar ⟨.primitive, "100".toList⟩ := by
  have evaluated : known sampleDocument = knownFields.map fun field =>
      (field, if field.setting = .telemetryIntervalMs then
        some (.scalar ⟨.primitive, "100".toList⟩) else none) := rfl
  rw [evaluated] at mem
  simpa [knownFields, telemetryFields, predictiveFields, tlsFields, basicAuthFields, statsdFields,
    metricsFields, eq_comm] using mem

theorem sample_typed : WellTyped sampleDocument where
  sections := by
    refine List.forall_mem_cons.mpr ⟨isSection_of_absent rfl, List.forall_mem_cons.mpr
      ⟨fun item found => ?_, List.forall_mem_singleton.mpr (isSection_of_absent rfl)⟩⟩
    exact ⟨_, (Option.some.inj found).symm⟩
  metricsSections := fun _ _ => isSection_of_absent rfl
  fields := by
    intro _ item mem
    obtain ⟨rfl, rfl⟩ := sample_known mem
    have hundred : WritesInt "100".toList 100 :=
      ⟨false, "100".toList, by decide, rfl, by decide⟩
    exact ⟨.int 100, _, rfl, rfl, by decide, 100, hundred, by decide, by decide, rfl⟩

/-- A file with one known field is loaded. -/
theorem well_typed_file_loads_sample :
    WritesObject sampleDocument sampleText ∧ WellTyped sampleDocument ∧
      (parseConfigFile sampleText).outcome = .done () ∧
      ∀ cfg : RuntimeConfig,
        Loaded sampleDocument cfg (cfg.assign (parseConfigFile sampleText).assignments) := by
  refine ⟨sample_writes, sample_typed,
    (well_typed_file_loads_iff sample_writes ?_ ?_ sample_typed).mpr ⟨by decide, ?_, ?_⟩⟩
  · simp [DistinctKeys, members, sampleDocument]
  · simp [DistinctBelow, DistinctKeys, members, sampleDocument]
  · simp [ContainersOnly, members, sampleDocument]
  · rintro _ _ member ⟨_, _, _, isDouble, -⟩
    obtain ⟨rfl, rfl⟩ := sample_known member
    cases isDouble

/-- An unknown key with a scalar value makes the file unacceptable. -/
theorem unknown_scalar_rejected :
    let root : Document := .leaf ⟨.string, ['a']⟩ (.leaf ⟨.primitive, ['1']⟩ .nil)
    let text := "\x7b\"a\":1\x7d".toList
    WritesObject root text ∧ DistinctKeys root ∧ DistinctBelow root ∧ WellTyped root ∧
      parseConfigFile text = .rejected := by
  refine ⟨?_, by simp [DistinctKeys, members], by simp [DistinctBelow], ?_, by decide +kernel⟩
  · exact ⟨[], "\"a\":1".toList, [], blank_nil, blank_nil, rfl, fun _ => rfl, by decide, [],
      ":1".toList, blank_nil, rfl, by simp [Slot.next], by decide, [':'], [],
      ⟨[], [], blank_nil, blank_nil, rfl⟩, rfl, by simp [Slot.next], blank_nil⟩
  · have sections : ∀ name ∈ ["predictive", "telemetry", "metrics"],
        IsSection name (.leaf ⟨.string, ['a']⟩ (.leaf ⟨.primitive, ['1']⟩ .nil)) :=
      List.forall_mem_cons.mpr ⟨isSection_of_absent rfl, List.forall_mem_cons.mpr
        ⟨isSection_of_absent rfl, List.forall_mem_singleton.mpr (isSection_of_absent rfl)⟩⟩
    refine ⟨sections, fun _ _ => isSection_of_absent rfl, fun field item member => ?_⟩
    have evaluated : known (.leaf ⟨.string, ['a']⟩ (.leaf ⟨.primitive, ['1']⟩ .nil)) =
        knownFields.map fun field => (field, none) := rfl
    rw [evaluated] at member
    obtain ⟨_, -, same⟩ := List.mem_map.mp member
    cases same

end ThermalSimd.ConfigFile
