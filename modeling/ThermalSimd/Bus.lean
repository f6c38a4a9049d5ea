import Mathlib.Data.List.AList
import Mathlib.Data.List.Induction
import Mathlib.Data.Prod.Lex
import Mathlib.Data.Rat.Defs
import ThermalSimd.Greatest

/-!
# The telemetry bus

Producers publish readings to the slot of their own source, newest first; fusion picks among the
slots by quality. Neither depends on the order of arrival or iteration, except in exact ties.
-/

namespace ThermalSimd
namespace Telemetry

open Greatest

/-- What is measured. -/
inductive TelemetrySignal
  | packageTempC
  | frequencyRatio
  | thermalCpi
  | powerBudgetWatts
  deriving DecidableEq

/-- A reading; a value that is not finite is `none`, and times are nanoseconds. -/
structure TelemetryReading where
  value : Option ℚ := some 0
  valid : Bool := false
  quality : ℤ := 0
  timestamp : ℤ := 0
  source : List Char := []
  deriving DecidableEq

def defaultSource : List Char := ['d', 'e', 'f', 'a', 'u', 'l', 't']

namespace TelemetryReading

variable (reading : TelemetryReading)

def key : List Char :=
  if reading.source = [] then defaultSource else reading.source

def filed : TelemetryReading :=
  { reading with source := reading.key }

def recency : ℤ ×ₗ ℤ := toLex (reading.timestamp, reading.quality)

/-- A slot never written, an older one, or one of the same time that is no better. -/
def replaces (reading slot : TelemetryReading) : Prop :=
  slot.timestamp = 0 ∨ slot.timestamp < reading.timestamp ∨
    reading.timestamp = slot.timestamp ∧ slot.quality ≤ reading.quality
  deriving Decidable

theorem replaces_iff {slot} (dated : slot.timestamp ≠ 0) :
    reading.replaces slot ↔ slot.recency ≤ reading.filed.recency := by
  unfold replaces recency
  rw [or_iff_right dated, Prod.Lex.toLex_le_toLex, @eq_comm _ slot.timestamp]
  rfl

def preference : ℤ ×ₗ ℤ := toLex (reading.quality, reading.timestamp)

end TelemetryReading

abbrev SourceMap : Type := AList fun _ : List Char => TelemetryReading

/-- The slots of every signal. -/
structure TelemetryBus where
  slots : TelemetrySignal → SourceMap

namespace TelemetryBus

def empty : TelemetryBus := ⟨fun _ => ∅⟩

variable (bus : TelemetryBus) (signal : TelemetrySignal) (reading : TelemetryReading)

def publish : TelemetryBus :=
  let slot := ((bus.slots signal).lookup reading.key).getD {}
  let slot := if reading.replaces slot then reading.filed else slot
  ⟨Function.update bus.slots signal ((bus.slots signal).insert reading.key slot)⟩

def slot (source : List Char) : Option TelemetryReading :=
  (bus.slots signal).lookup source

def readings : List TelemetryReading :=
  (bus.slots signal).entries.map Sigma.snd

def publishAll (readings : List TelemetryReading) : TelemetryBus :=
  readings.foldl (fun bus reading => bus.publish signal reading) bus

theorem slots_publish :
    (bus.publish signal reading).slots signal = (bus.slots signal).insert reading.key
      (if reading.replaces ((bus.slot signal reading.key).getD {}) then reading.filed
        else (bus.slot signal reading.key).getD {}) :=
  Function.update_self ..

theorem slot_publish_of_ne {reading source} (other : source ≠ reading.key) :
    (bus.publish signal reading).slot signal source = bus.slot signal source := by
  rw [slot, slots_publish, AList.lookup_insert_ne other, slot]

theorem slot_publish_self (dated : ∀ held ∈ bus.slot signal reading.key, held.timestamp ≠ 0) :
    ((bus.publish signal reading).slot signal reading.key = some reading.filed ∧
      ∀ held ∈ bus.slot signal reading.key, held.recency ≤ reading.filed.recency) ∨
    ((bus.publish signal reading).slot signal reading.key = bus.slot signal reading.key ∧
      ∃ held ∈ bus.slot signal reading.key, reading.filed.recency ≤ held.recency) := by
  have written : (bus.publish signal reading).slot signal reading.key = some
      (if reading.replaces ((bus.slot signal reading.key).getD {}) then reading.filed
        else (bus.slot signal reading.key).getD {}) := by
    rw [slot, slots_publish, AList.lookup_insert]
  rw [written]
  cases held : bus.slot signal reading.key with
  | none =>
    refine .inl ⟨?_, fun held none => absurd none (Option.not_mem_none _)⟩
    rw [Option.getD_none, if_pos (.inl rfl)]
  | some slot =>
    have replaces := reading.replaces_iff (dated slot held)
    rw [Option.getD_some]
    by_cases newer : slot.recency ≤ reading.filed.recency
    · refine .inl ⟨by rw [if_pos (replaces.mpr newer)], fun held same => ?_⟩
      rwa [← Option.some.inj same]
    · refine .inr ⟨by rw [if_neg (mt replaces.mp newer)], slot, rfl, ?_⟩
      exact (not_le.mp newer).le

end TelemetryBus

def publishedFor (source : List Char) (readings : List TelemetryReading) : Set TelemetryReading :=
  {filed | ∃ reading ∈ readings, reading.key = source ∧ reading.filed = filed}

namespace TelemetryBus

theorem publishAll_append_singleton (bus : TelemetryBus) (signal readings reading) :
    bus.publishAll signal (readings ++ [reading]) =
      (bus.publishAll signal readings).publish signal reading :=
  List.foldl_append

theorem publishedFor_append_self (readings reading) :
    publishedFor reading.key (readings ++ [reading]) =
      insert reading.filed (publishedFor reading.key readings) := by
  simp only [publishedFor, List.mem_append, List.mem_singleton]
  grind

theorem publishedFor_append_of_ne (readings) {reading source} (other : source ≠ reading.key) :
    publishedFor source (readings ++ [reading]) = publishedFor source readings := by
  simp only [publishedFor, List.mem_append, List.mem_singleton]
  grind

theorem top_slot_publishAll (signal) {readings}
    (dated : ∀ reading ∈ readings, reading.timestamp ≠ 0) (source) :
    Top TelemetryReading.recency (publishedFor source readings)
      ((empty.publishAll signal readings).slot signal source) := by
  induction readings using List.reverseRecOn with
  | nil =>
    have unpublished : publishedFor source [] = ∅ :=
      Set.eq_empty_of_forall_notMem fun _ ⟨_, absent, _⟩ => List.not_mem_nil absent
    rw [unpublished]
    exact top_empty
  | append_singleton readings reading ih =>
    have top := ih fun other mem => dated other (List.mem_append_left _ mem)
    rw [publishAll_append_singleton]
    by_cases own : source = reading.key
    · subst own
      rw [publishedFor_append_self]
      -- The slot holds a reading that was published, so its time is set.
      have heldDated : ∀ held ∈ (empty.publishAll signal readings).slot signal reading.key,
          held.timestamp ≠ 0 := by
        intro held mem
        obtain ⟨old, pub, -, rfl⟩ := top.mem held mem
        exact dated old (List.mem_append_left _ pub)
      rcases slot_publish_self (empty.publishAll signal readings) signal reading heldDated with
        ⟨replaced, above⟩ | ⟨kept, below⟩
      · rw [replaced]
        exact top.replace above
      · rw [kept]
        exact top.keep below
    · rw [publishedFor_append_of_ne readings own, slot_publish_of_ne _ _ own]
      exact top

theorem publishedFor_perm {readings order} (permuted : readings.Perm order)
    (source) : publishedFor source readings = publishedFor source order := by
  ext filed
  constructor
  · rintro ⟨reading, mem, rest⟩
    exact ⟨reading, permuted.mem_iff.mp mem, rest⟩
  · rintro ⟨reading, mem, rest⟩
    exact ⟨reading, permuted.mem_iff.mpr mem, rest⟩

end TelemetryBus

namespace TelemetryReading

/-- A reading fusion may use: valid, finite, dated, not in the future and fresh. -/
def Eligible (freshnessWindow now : ℤ) (reading : TelemetryReading) : Prop :=
  reading.valid = true ∧ reading.value.isSome ∧ reading.timestamp ≠ 0 ∧
    reading.timestamp ≤ now ∧ now - reading.timestamp ≤ freshnessWindow
  deriving Decidable

end TelemetryReading

variable (freshnessWindow now : ℤ) (candidates : List TelemetryReading)
  (best : Option TelemetryReading) (reading : TelemetryReading)

def prefer : Option TelemetryReading :=
  match best with
  | none => some reading
  | some held =>
    if held.quality < reading.quality ∨
        reading.quality = held.quality ∧ held.timestamp < reading.timestamp then some reading
    else best

/-- The choice `assign_value` makes while it looks at one more slot. -/
def assignStep : Option TelemetryReading :=
  if !reading.valid || reading.value.isNone then best
  else if reading.timestamp = 0 ∨ now < reading.timestamp then best
  else if freshnessWindow < now - reading.timestamp then best
  else prefer best reading

def assignBest : Option TelemetryReading :=
  candidates.foldl (assignStep freshnessWindow now) none

/-- The value of a signal, if available; a slot that is chosen is finite. -/
def assignValue : Option ℚ :=
  (assignBest freshnessWindow now candidates).bind TelemetryReading.value

theorem prefer_step :
    (prefer best reading = some reading ∧ ∀ held ∈ best, held.preference ≤ reading.preference) ∨
      (prefer best reading = best ∧ ∃ held ∈ best, reading.preference ≤ held.preference) := by
  cases best with
  | none => exact .inl ⟨rfl, fun held none => absurd none (Option.not_mem_none _)⟩
  | some held =>
    have better : held.preference < reading.preference ↔ held.quality < reading.quality ∨
        reading.quality = held.quality ∧ held.timestamp < reading.timestamp := by
      unfold TelemetryReading.preference
      rw [Prod.Lex.toLex_lt_toLex, @eq_comm _ held.quality]
    by_cases above : held.preference < reading.preference
    · refine .inl ⟨if_pos (better.mp above), fun other same => ?_⟩
      rw [← Option.some.inj same]
      exact above.le
    · exact .inr ⟨if_neg (mt better.mpr above), held, rfl, not_lt.mp above⟩

theorem assignStep_eq : assignStep freshnessWindow now best reading =
      if reading.Eligible freshnessWindow now then prefer best reading else best := by
  have eligible_iff : reading.Eligible freshnessWindow now ↔
      ¬ (!reading.valid || reading.value.isNone) = true ∧
      ¬ (reading.timestamp = 0 ∨ now < reading.timestamp) ∧
      ¬ freshnessWindow < now - reading.timestamp := by
    unfold TelemetryReading.Eligible
    rw [Bool.or_eq_true, Bool.not_eq_true', not_or, not_or, not_lt, not_lt, Bool.not_eq_false,
      Option.isNone_iff_eq_none, ← Option.ne_none_iff_isSome, and_assoc, and_assoc]
  unfold assignStep
  by_cases eligible : reading.Eligible freshnessWindow now
  · obtain ⟨usable, dated, fresh⟩ := eligible_iff.mp eligible
    rw [if_pos eligible, if_neg usable, if_neg dated, if_neg fresh]
  · rw [if_neg eligible]
    split_ifs with unusable undated stale
    · rfl
    · rfl
    · rfl
    · exact absurd (eligible_iff.mpr ⟨unusable, undated, stale⟩) eligible

theorem top_assignBest : Top TelemetryReading.preference
      {reading | reading ∈ candidates ∧ reading.Eligible freshnessWindow now}
      (assignBest freshnessWindow now candidates) := by
  have top := top_foldl prefer_step
    (candidates.filter fun reading => reading.Eligible freshnessWindow now)
  rw [List.foldl_filter] at top
  simp only [List.mem_filter, decide_eq_true_eq, ← assignStep_eq] at top
  exact top

/-- A value is reported exactly if a slot is eligible, and then the preferred one's. -/
structure Resolved (freshnessWindow now : ℤ) (slots : List TelemetryReading)
    (reported : Option ℚ) : Prop where
  available : reported.isSome ↔ ∃ slot ∈ slots, slot.Eligible freshnessWindow now
  value : ∀ value ∈ reported, ∃ slot ∈ slots, slot.Eligible freshnessWindow now ∧
    slot.value = some value ∧
    ∀ other ∈ slots, other.Eligible freshnessWindow now → other.preference ≤ slot.preference

theorem resolved_assignValue (slots) :
    Resolved freshnessWindow now slots (assignValue freshnessWindow now slots) := by
  have top := top_assignBest freshnessWindow now slots
  have finite := fun chosen mem => (top.mem chosen mem).2.2.1
  constructor
  · have same : (assignValue freshnessWindow now slots).isSome =
        (assignBest freshnessWindow now slots).isSome := by
      unfold assignValue
      cases chosen : assignBest freshnessWindow now slots with
      | none => rfl
      | some reading => exact finite reading chosen
    rw [same, top.isSome_iff]
    rfl
  · intro v reported
    obtain ⟨chosen, taken, valued⟩ := Option.mem_bind_iff.mp reported
    obtain ⟨mem, eligible⟩ := top.mem chosen taken
    refine ⟨chosen, mem, eligible, valued, fun other present usable => ?_⟩
    obtain ⟨_, kept, below⟩ := top.le other ⟨present, usable⟩
    cases Option.mem_unique kept taken
    exact below

theorem Resolved.perm {freshnessWindow now slots order reported}
    (resolved : Resolved freshnessWindow now slots reported)
    (permuted : slots.Perm order) : Resolved freshnessWindow now order reported := by
  constructor
  · rw [resolved.available]
    exact exists_congr fun slot => and_congr_left' permuted.mem_iff
  · intro v given
    obtain ⟨slot, mem, eligible, valued, greatest⟩ := resolved.value v given
    exact ⟨slot, permuted.mem_iff.mp mem, eligible, valued,
      fun other present => greatest other (permuted.mem_iff.mpr present)⟩

theorem assignValue_perm {slots order}
    (permuted : slots.Perm order)
    (untied : ∀ first ∈ slots, ∀ second ∈ slots, first.Eligible freshnessWindow now →
      second.Eligible freshnessWindow now → first.preference = second.preference →
      first = second) :
    assignValue freshnessWindow now order = assignValue freshnessWindow now slots := by
  have top := top_assignBest freshnessWindow now slots
  have again := top_assignBest freshnessWindow now order
  have same : {reading | reading ∈ order ∧ reading.Eligible freshnessWindow now} =
      {reading | reading ∈ slots ∧ reading.Eligible freshnessWindow now} := by
    ext reading
    exact and_congr_left' permuted.mem_iff.symm
  rw [same] at again
  unfold assignValue
  rw [top.eq_of_untied again fun first taken second present tied =>
    untied first (top.mem first taken).1 second present.1 (top.mem first taken).2 present.2 tied]

/-- Slots hold each source's latest reading and fusion the preferred one, in every order of arrival
and iteration up to exact ties. -/
theorem readings_resolved_in_any_order (signal : TelemetrySignal)
    (readings : List TelemetryReading) (dated : ∀ reading ∈ readings, reading.timestamp ≠ 0) :
    (∀ source, ∀ order, readings.Perm order →
      let slot := (TelemetryBus.empty.publishAll signal order).slot signal source
      Top TelemetryReading.recency (publishedFor source readings) slot ∧
      ((∀ first ∈ publishedFor source readings, ∀ second ∈ publishedFor source readings,
          first.recency = second.recency → first = second) →
        slot = (TelemetryBus.empty.publishAll signal readings).slot signal source)) ∧
    (∀ (bus : TelemetryBus) (reading : TelemetryReading) (source : List Char),
      source ≠ reading.key →
      (bus.publish signal reading).slot signal source = bus.slot signal source) ∧
    ∀ (bus : TelemetryBus) (freshnessWindow now : ℤ) (order : List TelemetryReading),
      (bus.readings signal).Perm order →
      Resolved freshnessWindow now (bus.readings signal)
        (assignValue freshnessWindow now order) ∧
      ((∀ first ∈ bus.readings signal, ∀ second ∈ bus.readings signal,
          first.Eligible freshnessWindow now → second.Eligible freshnessWindow now →
          first.preference = second.preference → first = second) →
        assignValue freshnessWindow now order =
          assignValue freshnessWindow now (bus.readings signal)) := by
  refine ⟨fun source order permuted => ?_, fun bus reading source other => ?_,
    fun bus freshnessWindow now order permuted =>
      ⟨?_, assignValue_perm freshnessWindow now permuted⟩⟩
  · have top := TelemetryBus.top_slot_publishAll signal
      (fun reading member => dated reading (permuted.mem_iff.mpr member)) source
    rw [← TelemetryBus.publishedFor_perm permuted] at top
    refine ⟨top, fun untied => top.eq_of_untied
      (TelemetryBus.top_slot_publishAll signal dated source) fun first held second present => ?_⟩
    exact untied first (top.mem first held) second present
  · exact bus.slot_publish_of_ne signal other
  · exact (resolved_assignValue freshnessWindow now order).perm permuted.symm

def lateReadings : List TelemetryReading :=
  [⟨some 50, true, 1, 20, ['a']⟩, ⟨some 70, true, 2, 10, ['b']⟩, ⟨some 40, true, 5, 5, ['a']⟩]

theorem late_readings_resolved :
    Top TelemetryReading.recency (publishedFor ['a'] lateReadings)
      ((TelemetryBus.empty.publishAll .packageTempC lateReadings.reverse).slot
        .packageTempC ['a']) :=
  ((readings_resolved_in_any_order .packageTempC lateReadings
    (by unfold lateReadings; simp)).1 ['a'] _ lateReadings.reverse_perm.symm).1

/-- A slot whose time was never set is unavailable, however fresh it would count. -/
theorem undated_slot_unavailable :
    let bus := TelemetryBus.empty.publish .packageTempC ⟨some 50, true, 1, 0, ['a']⟩
    (∃ slot ∈ bus.readings .packageTempC, slot.valid = true ∧ slot.value.isSome ∧
      slot.timestamp ≤ 10 ∧ 10 - slot.timestamp ≤ 1000) ∧
    assignValue 1000 10 (bus.readings .packageTempC) = none := by
  decide

end Telemetry
end ThermalSimd
