import Mathlib.Data.List.Rotate
import Mathlib.Data.Fin.Basic
import Mathlib.Data.Nat.ModEq

/-!
# Ring buffers

A buffer of fixed size whose oldest entry is overwritten first. However many entries are pushed, the
slots in use hold the last of them, in some order.
-/

namespace RingBuffer

/-- Slots, how many are in use, and where the next entry goes. -/
structure Buffer (α : Type*) (n : ℕ) where
  slots : Vector α n
  count : ℕ
  cursor : Fin n

open List

namespace Buffer

variable {α : Type*} {n : ℕ}

/-- Two of the last `n` writes go to different slots. -/
theorem slot_ne {start earlier later} (before : earlier < later) (recent : later < earlier + n) :
    (start + earlier) % n ≠ (start + later) % n := by
  intro same
  have congruent : earlier ≡ later [MOD n] := Nat.ModEq.add_left_cancel' start same
  have divides := (Nat.modEq_iff_dvd' before.le).mp congruent
  have := Nat.le_of_dvd (by omega) divides
  omega

variable [NeZero n]

def push (buffer : Buffer α n) (entry : α) : Buffer α n where
  slots := buffer.slots.set buffer.cursor entry
  count := if buffer.count < n then buffer.count + 1 else buffer.count
  cursor := buffer.cursor + 1

def pushAll (buffer : Buffer α n) (entries : List α) : Buffer α n := entries.foldl push buffer

def used (buffer : Buffer α n) : List α := buffer.slots.toList.take buffer.count

variable (buffer : Buffer α n) (entries : List α)

@[simp]
theorem pushAll_snoc (entry) :
    buffer.pushAll (entries ++ [entry]) = (buffer.pushAll entries).push entry :=
  foldl_concat ..

theorem cursor_pushAll :
    ((buffer.pushAll entries).cursor : ℕ) = (buffer.cursor + entries.length) % n := by
  induction entries using reverseRecOn with
  | nil => exact (Nat.mod_eq_of_lt buffer.cursor.isLt).symm
  | append_singleton entries _ ih =>
    rw [pushAll_snoc, push, Fin.val_add, ih, length_append, length_singleton, Fin.val_one',
      ← Nat.add_mod, add_assoc]

theorem count_pushAll (bound : buffer.count ≤ n) :
    (buffer.pushAll entries).count = min (buffer.count + entries.length) n := by
  induction entries using reverseRecOn with
  | nil => exact (min_eq_left bound).symm
  | append_singleton entries entry ih =>
    have step : (buffer.pushAll (entries ++ [entry])).count =
        if (buffer.pushAll entries).count < n then (buffer.pushAll entries).count + 1
        else (buffer.pushAll entries).count := by rw [pushAll_snoc, push]
    rw [step, ih, length_append, length_singleton]
    split <;> omega

/-- Each of the last `n` entries stands where it was written. -/
theorem slots_pushAll {i} (pushed : i < entries.length) (recent : entries.length ≤ i + n) :
    (buffer.pushAll entries).slots[(buffer.cursor + i) % n]? = entries[i]? := by
  induction entries using reverseRecOn with
  | nil => exact absurd pushed (Nat.not_lt_zero i)
  | append_singleton entries _ ih =>
    rw [length_append, length_singleton] at pushed recent
    rw [pushAll_snoc, push, Vector.getElem?_set, cursor_pushAll]
    rcases Nat.lt_succ_iff_lt_or_eq.mp pushed with earlier | rfl
    · rw [if_neg (slot_ne earlier (by omega)).symm, ih earlier (by omega),
        getElem?_append_left earlier]
    · rw [if_pos rfl, getElem?_concat_length]

/-- Once every slot has been written, the slots hold the last `n` entries. -/
theorem slots_pushAll_perm (full : n ≤ entries.length) :
    (buffer.pushAll entries).slots.toList ~ entries.drop (entries.length - n) := by
  have rotated : entries.drop (entries.length - n) =
      (buffer.pushAll entries).slots.toList.rotate ((buffer.cursor + entries.length) % n) := by
    apply ext_getElem?
    intro i
    by_cases inside : i < n
    · rw [getElem?_drop, getElem?_rotate (by simpa using inside), Vector.length_toList,
        ← slots_pushAll buffer entries (by omega) (by omega), Vector.getElem?_toList,
        Nat.add_mod_mod]
      have shift : buffer.cursor + (entries.length - n + i) + n =
          i + (buffer.cursor + entries.length) := by omega
      rw [← shift, Nat.add_mod_right]
    · rw [getElem?_eq_none (by simp; omega), getElem?_eq_none (by simp; omega)]
  rw [rotated]
  exact (rotate_perm _ _).symm

theorem take_slots_pushAll (start : (buffer.cursor : ℕ) = 0) (room : entries.length ≤ n) :
    (buffer.pushAll entries).slots.toList.take entries.length = entries := by
  apply ext_getElem?
  intro i
  by_cases pushed : i < entries.length
  · have written := slots_pushAll buffer entries pushed (by omega)
    rw [start, zero_add, Nat.mod_eq_of_lt (by omega)] at written
    rw [getElem?_take_of_lt pushed, Vector.getElem?_toList, written]
  · rw [getElem?_eq_none (by simp; omega), getElem?_eq_none (by omega)]

/-- The slots in use of a buffer that was fresh hold the last `n` entries. -/
theorem used_pushAll_perm (unused : buffer.count = 0) (start : (buffer.cursor : ℕ) = 0) :
    (buffer.pushAll entries).used ~ entries.drop (entries.length - n) := by
  rw [used, count_pushAll buffer entries (by omega), unused, zero_add]
  rcases le_total entries.length n with room | full
  · rw [min_eq_left room, take_slots_pushAll buffer entries start room, Nat.sub_eq_zero_of_le room,
      drop_zero]
  · rw [min_eq_right full, take_of_length_le (by simp)]
    exact slots_pushAll_perm buffer entries full

theorem used_push_ne_nil (entry) : (buffer.push entry).used ≠ [] := by
  have size : n ≠ 0 := NeZero.ne n
  have count : 0 < (buffer.push entry).count := by
    unfold push
    dsimp only
    split <;> omega
  rw [used, ← length_pos_iff, length_take, Vector.length_toList]
  omega

theorem forall₂_used_push {related} (same : ∀ entry, related entry entry)
    {left right} (less : related left right) :
    Forall₂ related (buffer.push left).used (buffer.push right).used := by
  have set : ∀ (slots : List α) (slot),
      Forall₂ related (slots.set slot left) (slots.set slot right) := by
    intro slots
    induction slots with
    | nil => exact fun _ => .nil
    | cons entry slots ih =>
      intro slot
      cases slot with
      | zero => exact .cons less (forall₂_same.mpr fun entry _ => same entry)
      | succ slot => exact .cons (same entry) (ih slot)
  exact forall₂_take _ (set _ _)

theorem mem_of_mem_used_pushAll
    (covered : n ≤ entries.length ∨ buffer.count = 0 ∧ (buffer.cursor : ℕ) = 0) {entry}
    (mem : entry ∈ (buffer.pushAll entries).used) : entry ∈ entries := by
  rcases covered with full | ⟨unused, start⟩
  · exact mem_of_mem_drop
      ((slots_pushAll_perm buffer entries full).mem_iff.mp (mem_of_mem_take mem))
  · exact mem_of_mem_drop ((used_pushAll_perm buffer entries unused start).mem_iff.mp mem)

end Buffer

end RingBuffer
