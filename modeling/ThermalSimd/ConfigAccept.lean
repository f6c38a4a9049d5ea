import ThermalSimd.JsonText
import Mathlib.Data.List.Nodup

/-!
# Which configuration files are accepted

What the walk over a document does at the members of an object. It ends well if every known key
accepts its value, and then makes their assignments (`walkSection_completes`). The root is walked
for as many pairs as it has scalars (`walkPairs_completes`).
-/

namespace ThermalSimd.ConfigFile

open Jsmn CText

/-- The value of a member. -/
inductive Item
  | scalar (word : Word)
  | container (kind : Container) (children : Document)

private def Item.before (rest : Document) : Item → Document
  | scalar word => .leaf word rest
  | container kind children => .node kind children rest

def members : Document → List (Word × Item)
  | .leaf key (.leaf word rest) => (key, .scalar word) :: members rest
  | .leaf key (.node kind children rest) => (key, .container kind children) :: members rest
  | _ => []

def lookup (name : String) (object : Document) : Option Item :=
  ((members object).find? (·.1.content = name.toList)).map Prod.snd

def subobject (name : String) (object : Document) : Document :=
  match lookup name object with
  | some (.container .object children) => children
  | _ => .nil

def DistinctKeys (object : Document) : Prop := ((members object).map (·.1.content)).Nodup

def DistinctBelow : Document → Prop
  | .nil => True
  | .leaf _ rest => DistinctBelow rest
  | .node kind children rest =>
    (kind = .object → DistinctKeys children) ∧ DistinctBelow children ∧ DistinctBelow rest

/-- Keys and values take turns, in the object and its members. -/
def Alternates : Document → Prop
  | .nil => True
  | .leaf key (.leaf _ rest) => key.kind = .string ∧ Alternates rest
  | .leaf key (.node kind children rest) =>
    key.kind = .string ∧ (kind = .object → Alternates children) ∧ Alternates rest
  | _ => False

private def Item.Alternates : Item → Prop
  | .container .object children => ConfigFile.Alternates children
  | _ => True

theorem Alternates.item {key kind} {kids rest : Document}
    (alternates : Alternates (.leaf key (.node kind kids rest))) :
    (Item.container kind kids).Alternates := by
  cases kind with
  | object => exact alternates.2.1 rfl
  | array => trivial

theorem Writes.alternates {first object text}
    (writes : Writes (.key first) object text) : Alternates object := by
  fun_induction Alternates object generalizing first text with
  | case1 => trivial
  | case2 key word rest hrest =>
    obtain ⟨string, -, _, after, -, -, writesValue⟩ := writes
    obtain ⟨-, -, _, later, -, -, writesRest⟩ := writesValue
    exact ⟨string ⟨first, rfl⟩, hrest writesRest⟩
  | case3 key kind kids rest childrenHold hrest =>
    obtain ⟨string, -, _, after, -, -, writesValue⟩ := writes
    obtain ⟨-, _, _, later, -, -, writesChildren, writesRest⟩ := writesValue
    refine ⟨string ⟨first, rfl⟩, ?_, hrest writesRest⟩
    rintro rfl
    exact childrenHold writesChildren
  | case4 object noNil noScalar noContainer =>
    match object with
    | .nil => exact absurd rfl noNil
    | .node kind kids rest => exact writes.1 first rfl
    | .leaf key .nil =>
      obtain ⟨-, -, _, after, -, -, writesValue⟩ := writes
      exact writesValue.1 rfl
    | .leaf key (.leaf word rest) => exact absurd rfl (noScalar key word rest)
    | .leaf key (.node kind kids rest) =>
      exact absurd rfl (noContainer key kind kids rest)

theorem WritesObject.alternates {object text}
    (writes : WritesObject object text) : Alternates object := by
  obtain ⟨_, _, _, -, -, -, writes⟩ := writes
  exact Writes.alternates writes

theorem Alternates.string {object} (alternates : Alternates object) :
    ∀ mem ∈ members object, mem.1.kind = .string := by
  fun_induction members object with
  | case1 key _ rest hrest =>
    obtain ⟨string, later⟩ := alternates
    simpa using ⟨string, by simpa using hrest later⟩
  | case2 key kind _ rest hrest =>
    obtain ⟨string, -, later⟩ := alternates
    simpa using ⟨string, by simpa using hrest later⟩
  | case3 => simp

theorem Alternates.below {object kids} (alternates : Alternates object) {key}
    (mem : (key, .container .object kids) ∈ members object) : Alternates kids := by
  fun_induction members object with
  | case1 key _ rest hrest =>
    simp only [List.mem_cons, Prod.mk.injEq, reduceCtorEq, and_false, false_or] at mem
    exact hrest alternates.2 mem
  | case2 key _ _ rest hrest =>
    simp only [List.mem_cons, Prod.mk.injEq, Item.container.injEq] at mem
    rcases mem with ⟨-, rfl, rfl⟩ | mem
    · exact alternates.2.1 rfl
    · exact hrest alternates.2.2 mem
  | case3 => simp at mem

theorem DistinctBelow.keys {object kids} (distinct : DistinctBelow object)
    {key} (mem : (key, .container .object kids) ∈ members object) :
    DistinctKeys kids ∧ DistinctBelow kids := by
  fun_induction members object with
  | case1 key _ rest hrest =>
    simp only [List.mem_cons, Prod.mk.injEq, reduceCtorEq, and_false, false_or] at mem
    exact hrest distinct mem
  | case2 key _ _ rest hrest =>
    simp only [List.mem_cons, Prod.mk.injEq, Item.container.injEq] at mem
    obtain ⟨here, inner, later⟩ := distinct
    rcases mem with ⟨-, rfl, rfl⟩ | mem
    · exact ⟨here rfl, inner⟩
    · exact hrest later mem
  | case3 => simp at mem

theorem Word.is_iff {word : Word} (string : word.kind = .string) (name) :
    word.is name = true ↔ word.content = name.toList := by
  simp [Word.is, string]

theorem lookup_eq_some_iff {object} (distinct : DistinctKeys object) (name item) :
    lookup name object = some item ↔
      ∃ key, (key, item) ∈ members object ∧ key.content = name.toList := by
  rw [lookup, Option.map_eq_some_iff]
  constructor
  · rintro ⟨⟨key, item⟩, found, rfl⟩
    exact ⟨key, List.mem_of_find?_eq_some found, by simpa using List.find?_some found⟩
  · rintro ⟨key, mem, named⟩
    cases found : (members object).find? (·.1.content = name.toList) with
    | none => exact absurd named (by simpa using List.find?_eq_none.mp found _ mem)
    | some other =>
      have otherNamed : other.1.content = name.toList := by simpa using List.find?_some found
      have same := List.inj_on_of_nodup_map distinct (List.mem_of_find?_eq_some found) mem
        (otherNamed.trans named.symm)
      exact ⟨other, rfl, by rw [same]⟩

/-- The run ends well exactly if the file is `fine`, with the assignments of `gives`. -/
structure Completes (run : Run Unit) (fine : Prop) (gives : Assignment → Prop) : Prop where
  ends : run.outcome = .done () ↔ fine
  stores : fine →
    ∀ assignment, (∃ stored ∈ run.stored, stored.assignment = assignment) ↔ gives assignment

theorem Completes.congr {run fine other gives others} (completes : Completes run fine gives)
    (same : fine ↔ other) (sameGifts : fine → ∀ asg, gives asg ↔ others asg) :
    Completes run other others where
  ends := completes.ends.trans same
  stores isFine asg :=
    (completes.stores (same.mpr isFine) asg).trans (sameGifts (same.mpr isFine) asg)

theorem completes_pure : Completes (.pure ()) True fun _ => False where
  ends := by simp [Run.pure]
  stores := by simp [Run.pure]

theorem completes_rejected {fine gives} (notFine : ¬ fine) :
    Completes .rejected fine gives where
  ends := by simp [Run.rejected, notFine]
  stores isFine := absurd isFine notFine

theorem completes_undefined {fine gives} (notFine : ¬ fine) :
    Completes .undefined fine gives where
  ends := by simp [Run.undefined, notFine]
  stores isFine := absurd isFine notFine

theorem Completes.bind {first second fine fineNext gives givesNext}
    (completes : Completes first fine gives)
    (next : Completes (second ()) fineNext givesNext) :
    Completes (first.bind second) (fine ∧ fineNext) fun asg =>
      gives asg ∨ givesNext asg := by
  obtain ⟨out, _⟩ := first
  obtain ⟨ends, stores⟩ := completes
  cases out with
  | done =>
    have isFine : fine := ends.mp rfl
    refine ⟨by simpa [Run.bind, isFine] using next.ends, fun both asg => ?_⟩
    have early := stores isFine asg
    have late := next.stores both.2 asg
    simp only [Run.bind, List.mem_append, or_and_right, exists_or]
    rw [← early, ← late]
  | rejected | undefined =>
    have notFine : ¬ fine := fun isFine => by cases ends.mpr isFine
    exact ⟨by simp [Run.bind, notFine], fun both => absurd both.1 notFine⟩

/-- A known key: the values it accepts and the assignments they give. -/
structure Entry where
  name : String
  fine : Item → Prop
  gives : Item → Assignment → Prop

def Reader.reads (reader : Reader) : Item → Option Value
  | .scalar word => reader.read word.kind.toKind word.content
  | .container _ _ => none

def fieldEntry (field : Field) : Entry where
  name := field.name
  fine item := ∃ value, field.reader.reads item = some value
  gives item assignment :=
    ∃ value, field.reader.reads item = some value ∧ assignment = (field.setting, value)

def FineObject (entries : List Entry) (object : Document) : Prop :=
  ∀ member ∈ members object, ∀ entry ∈ entries, member.1.is entry.name = true → entry.fine member.2

def GivesObject (entries : List Entry) (object : Document) (assignment : Assignment) : Prop :=
  ∃ member ∈ members object, ∃ entry ∈ entries, member.1.is entry.name = true ∧
    entry.gives member.2 assignment

def objectEntry (name : String) (entries : List Entry) : Entry where
  name := name
  fine item := ∀ children, item = .container .object children → FineObject entries children
  gives item assignment :=
    ∃ children, item = .container .object children ∧ GivesObject entries children assignment

private def KeyCompletes (walk : Word → ℕ → Document → Run Unit) (entries : List Entry) : Prop :=
  ∀ ⦃key : Word⦄ ⦃index : ℕ⦄ ⦃item : Item⦄ ⦃rest : Document⦄, item.Alternates →
    Completes (walk key index (item.before rest))
      (∀ entry ∈ entries, key.is entry.name = true → entry.fine item) fun assignment =>
        ∃ entry ∈ entries, key.is entry.name = true ∧ entry.gives item assignment

private def ValueCompletes (walk : ℕ → Document → Run Unit) (entry : Entry) : Prop :=
  ∀ ⦃index : ℕ⦄ ⦃item : Item⦄ ⦃rest : Document⦄, item.Alternates →
    Completes (walk index (item.before rest)) (entry.fine item) (entry.gives item)

theorem Word.is_inj {word : Word} {name other} (is : word.is name = true)
    (isOther : word.is other = true) : name = other := by
  simp only [Word.is, Bool.and_eq_true, decide_eq_true_eq] at is isOther
  exact String.toList_inj.mp (is.2.symm.trans isOther.2)

theorem Completes.of_unknown {entries : List Entry} {key : Word} {item}
    (unknown : ∀ entry ∈ entries, ¬ key.is entry.name = true) :
    Completes (.pure ()) (∀ entry ∈ entries, key.is entry.name = true → entry.fine item)
      fun asg =>
        ∃ entry ∈ entries, key.is entry.name = true ∧ entry.gives item asg := by
  refine completes_pure.congr ?_ fun _ asg => ?_
  · simp only [true_iff]
    exact fun entry mem is => absurd is (unknown entry mem)
  · simp only [false_iff]
    rintro ⟨entry, mem, is, -⟩
    exact unknown entry mem is

theorem Completes.of_known {run} {entries : List Entry} {key : Word} {item entry}
    (completes : Completes run (entry.fine item) (entry.gives item))
    (mem : entry ∈ entries) (is : key.is entry.name = true)
    (only : ∀ other ∈ entries, other.name = entry.name → other = entry) :
    Completes run (∀ entry ∈ entries, key.is entry.name = true → entry.fine item)
      fun asg =>
        ∃ entry ∈ entries, key.is entry.name = true ∧ entry.gives item asg := by
  refine completes.congr ⟨?_, fun fine => fine entry mem is⟩ fun _ asg => ⟨?_, ?_⟩
  · intro fine other otherMember isOther
    obtain rfl := only other otherMember (Word.is_inj isOther is)
    exact fine
  · exact fun gives => ⟨entry, mem, is, gives⟩
  · rintro ⟨other, otherMember, isOther, gives⟩
    obtain rfl := only other otherMember (Word.is_inj isOther is)
    exact gives

theorem walkField_completes (full) {fields} (distinct : (fields.map Field.name).Nodup) :
    KeyCompletes (walkField full fields) (fields.map fieldEntry) := by
  intro key i item _ _
  unfold walkField
  cases chosen : fields.find? (key.is ·.name) with
  | none =>
    refine .of_unknown fun entry mem => ?_
    obtain ⟨field, isField, rfl⟩ := List.mem_map.mp mem
    exact List.find?_eq_none.mp chosen field isField
  | some field =>
    have mem := List.mem_of_find?_eq_some chosen
    have is : key.is field.name = true := by simpa using List.find?_some chosen
    refine @Completes.of_known _ _ key _ (fieldEntry field) ?_ (List.mem_map_of_mem mem) is ?_
    · cases item with
      | container kind =>
        exact completes_rejected (by simp [fieldEntry, Reader.reads])
      | scalar word =>
        simp only [Item.before]
        cases read : field.reader.read word.kind.toKind word.content with
        | none =>
          exact completes_rejected (by simp [fieldEntry, Reader.reads, read])
        | some =>
          constructor
          · simp [fieldEntry, Reader.reads, read]
          · simp [fieldEntry, Reader.reads, read, eq_comm]
    · intro _ otherMember sameName
      obtain ⟨_, isField, rfl⟩ := List.mem_map.mp otherMember
      rw [List.inj_on_of_nodup_map distinct isField mem sameName]

theorem walkObject_completes {walk entries} (completes : KeyCompletes walk entries) {object follow}
    (i) (alternates : Alternates object) :
    Completes (walkObject walk follow object i) (FineObject entries object)
      (GivesObject entries object) := by
  fun_induction walkObject walk follow object i with
  | case1 i =>
    exact completes_pure.congr (by simp [FineObject, members])
      (by simp [GivesObject, members])
  | case2 => exact alternates.elim
  | case3 => exact alternates.elim
  | case4 => exact alternates.elim
  | case5 key word rest i string hrest =>
    have here := @completes key i (.scalar word) (rest.append follow) trivial
    refine (here.bind (hrest alternates.2)).congr ?_ fun _ asg => ?_
    · simp [FineObject, members]
    · simp [GivesObject, members]
  | case7 key kind kids rest i string hrest =>
    have here := @completes key i (.container kind kids) (rest.append follow)
      alternates.item
    refine (here.bind (hrest alternates.2.2)).congr ?_ fun _ asg => ?_
    · simp [FineObject, members]
    · simp [GivesObject, members]
  | case6 _ _ _ _ noString | case8 _ _ _ _ _ noString => exact absurd alternates.1 noString

theorem walkValue_completes {walk entries} (completes : KeyCompletes walk entries) (full name) :
    ValueCompletes (walkValue full walk) (objectEntry name entries) := by
  intro i item _ alternates
  match item with
  | .scalar word | .container .array kids =>
    exact completes_pure.congr (by simp [objectEntry]) (by simp [objectEntry])
  | .container .object kids =>
    refine (walkObject_completes completes (i + 1) alternates).congr ?_ ?_
    · simp [objectEntry]
    · simp [objectEntry]

theorem walkKey_completes {objects : List (Entry × (ℕ → Document → Run Unit))}
    (each : ∀ object ∈ objects, ValueCompletes object.2 object.1)
    (distinct : (objects.map (·.1.name)).Nodup) {walk entries} (others : KeyCompletes walk entries)
    (apart : ∀ object ∈ objects, ∀ entry ∈ entries, entry.name ≠ object.1.name) :
    KeyCompletes (walkKey (objects.map fun object => (object.1.name, object.2)) walk)
      (objects.map Prod.fst ++ entries) := by
  intro key i _ _ alternates
  unfold walkKey
  simp only [List.find?_map, Function.comp_def]
  cases chosen : objects.find? (key.is ·.1.name) with
  | none =>
    have noObject : ∀ object ∈ objects, ¬ key.is object.1.name = true := by
      simpa using chosen
    refine (others alternates).congr ?_ fun _ asg => ?_
    · simp only [List.forall_mem_append, List.forall_mem_map]
      exact ⟨fun fine => ⟨fun object mem is => absurd is (noObject object mem), fine⟩,
        And.right⟩
    · simp only [List.mem_append, List.mem_map]
      constructor
      · rintro ⟨entry, mem, is, gives⟩
        exact ⟨entry, .inr mem, is, gives⟩
      · rintro ⟨entry, ⟨object, mem, rfl⟩ | mem, is, gives⟩
        · exact absurd is (noObject object mem)
        · exact ⟨entry, mem, is, gives⟩
  | some object =>
    have mem := List.mem_of_find?_eq_some chosen
    have is : key.is object.1.name = true := by simpa using List.find?_some chosen
    refine (each object mem alternates).of_known
      (List.mem_append_left _ (List.mem_map_of_mem mem)) is fun other known sameName => ?_
    rcases List.mem_append.mp known with early | late
    · obtain ⟨_, otherMember, rfl⟩ := List.mem_map.mp early
      rw [List.inj_on_of_nodup_map distinct otherMember mem sameName]
    · exact absurd sameName (apart object mem other late)

def metricsEntries : List Entry :=
  [objectEntry "tls" (tlsFields.map fieldEntry),
    objectEntry "basic_auth" (basicAuthFields.map fieldEntry),
    objectEntry "statsd" (statsdFields.map fieldEntry)] ++ metricsFields.map fieldEntry

def rootEntries : List Entry :=
  [objectEntry "predictive" (predictiveFields.map fieldEntry),
    objectEntry "telemetry" (telemetryFields.map fieldEntry),
    objectEntry "metrics" metricsEntries]

theorem walkMetrics_completes (full) :
    ValueCompletes (walkMetrics full) (objectEntry "metrics" metricsEntries) := by
  refine walkValue_completes (@walkKey_completes
    [(objectEntry "tls" (tlsFields.map fieldEntry), walkValue full (walkField full tlsFields)),
      (objectEntry "basic_auth" (basicAuthFields.map fieldEntry),
        walkValue full (walkField full basicAuthFields)),
      (objectEntry "statsd" (statsdFields.map fieldEntry),
        walkValue full (walkField full statsdFields))]
    ?_ (by simp [objectEntry]) _ _ (walkField_completes full (by decide)) ?_) full "metrics"
  · simp only [List.mem_cons, List.not_mem_nil, or_false]
    rintro _ (rfl | rfl | rfl)
    all_goals exact walkValue_completes (walkField_completes full (by decide)) full _
  · simp [metricsFields, fieldEntry, objectEntry]

theorem walkSection_completes (full) : KeyCompletes (walkSection full) rootEntries := by
  refine @walkKey_completes
    [(objectEntry "predictive" (predictiveFields.map fieldEntry),
        walkValue full (walkField full predictiveFields)),
      (objectEntry "telemetry" (telemetryFields.map fieldEntry),
        walkValue full (walkField full telemetryFields)),
      (objectEntry "metrics" metricsEntries, walkMetrics full)]
    ?_ (by simp [objectEntry]) (fun _ _ _ => .pure ()) [] ?_ (by simp)
  · simp only [List.mem_cons, List.not_mem_nil, or_false]
    rintro _ (rfl | rfl | rfl)
    · exact walkValue_completes (walkField_completes full (by decide)) full _
    · exact walkValue_completes (walkField_completes full (by decide)) full _
    · exact walkMetrics_completes full
  · intro _ i _ _ _
    exact .of_unknown (by simp)

theorem walkPairs_completes (full) {object} (i)
    (alternates : Alternates object) {pairs} (enough : (members object).length ≤ pairs) :
    Completes (walkPairs full (walkSection full) pairs object i)
      (FineObject rootEntries object ∧ pairs = (members object).length)
      (GivesObject rootEntries object) := by
  fun_induction Alternates object generalizing i pairs with
  | case1 =>
    cases pairs with
    | zero =>
      exact completes_pure.congr (by simp [FineObject, members])
        (by simp [GivesObject, members])
    | succ pairs =>
      cases full with
      | true => exact completes_undefined (by simp [members])
      | false => exact completes_rejected (by simp [members])
  | case2 key word rest hrest =>
    obtain ⟨more, rfl⟩ : ∃ more, pairs = more + 1 := Nat.exists_eq_add_one.mpr (by
      simp only [members, List.length_cons] at enough; omega)
    simp only [members, List.length_cons, Nat.add_le_add_iff_right] at enough
    have here := @walkSection_completes full key i (.scalar word) rest trivial
    rw [walkPairs, if_pos alternates.1]
    refine (here.bind (hrest _ alternates.2 enough)).congr ?_ fun _ asg => ?_
    · simp [FineObject, members, and_assoc]
    · simp [GivesObject, members]
  | case3 key kind kids rest _ hrest =>
    obtain ⟨more, rfl⟩ : ∃ more, pairs = more + 1 := Nat.exists_eq_add_one.mpr (by
      simp only [members, List.length_cons] at enough; omega)
    simp only [members, List.length_cons, Nat.add_le_add_iff_right] at enough
    have here := @walkSection_completes full key i (.container kind kids) rest
      (Alternates.item alternates)
    rw [walkPairs, if_pos alternates.1]
    refine (here.bind (hrest _ alternates.2.2 enough)).congr ?_ fun _ asg => ?_
    · simp [FineObject, members, and_assoc]
    · simp [GivesObject, members]
  | case4 => exact alternates.elim

def ContainersOnly (object : Document) : Prop :=
  ∀ member ∈ members object, ∃ kind children, member.2 = .container kind children

theorem length_members_eq_leaves_iff {object} (alternates : Alternates object) :
    (members object).length ≤ object.leaves ∧
      (object.leaves = (members object).length ↔ ContainersOnly object) := by
  fun_induction Alternates object with
  | case1 => simp [members, Forest.leaves, ContainersOnly]
  | case2 key _ rest hrest =>
    have later := (hrest alternates.2).1
    simp only [members, Forest.leaves, List.length_cons, ContainersOnly, List.forall_mem_cons]
    refine ⟨by omega, fun same => by omega, ?_⟩
    rintro ⟨⟨_, _, container⟩, -⟩
    cases container
  | case3 key _ _ rest _ hrest =>
    obtain ⟨later, laterIff⟩ := hrest alternates.2.2
    simp only [members, Forest.leaves, List.length_cons, ContainersOnly, List.forall_mem_cons]
    simp only [ContainersOnly] at laterIff
    refine ⟨by omega, ?_⟩
    rw [← laterIff]
    simp
  | case4 => exact alternates.elim

end ThermalSimd.ConfigFile
