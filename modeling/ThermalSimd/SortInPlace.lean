import Mathlib.Data.List.Induction
import Mathlib.Data.List.Sort

/-!
# Insertion sort in place

An entry sinks into the sorted front before it: the entries above it move up, and it fills the hole
they leave.
-/

namespace SortInPlace

open List

variable {α : Type*} (r : α → α → Prop) [DecidableRel r]

/-- Entries not below `key` move up; then `key` fills the hole. -/
def sink (key : α) : ℕ → List α → List α
  | 0, scratch => scratch.set 0 key
  | hole + 1, scratch =>
    match scratch[hole]? with
    | none => scratch
    | some before =>
      if r before key then scratch.set (hole + 1) key
      else sink key hole (scratch.set (hole + 1) before)

/-- The entries from `position` on sink, one in each turn. -/
def sortFrom : ℕ → ℕ → List α → List α
  | 0, _, scratch => scratch
  | turns + 1, position, scratch =>
    match scratch[position]? with
    | none => scratch
    | some key => sortFrom turns (position + 1) (sink r key position scratch)

def sort (scratch : List α) : List α := sortFrom r (scratch.length - 1) 1 scratch

variable [Std.Total r] [IsTrans α r] {front : List α}

theorem sink_sorted (key hole rest) (sorted : front.Pairwise r) :
    ∃ larger, sink r key front.length (front ++ hole :: rest) = larger ++ rest ∧
      larger ~ key :: front ∧ larger.Pairwise r := by
  induction front using reverseRecOn generalizing hole rest with
  | nil => exact ⟨[key], rfl, .rfl, pairwise_singleton r key⟩
  | append_singleton front before ih =>
    obtain ⟨frontSorted, -, below⟩ := pairwise_append.mp sorted
    have below : ∀ a ∈ front, r a before := fun a mem => below a mem before (mem_singleton_self _)
    have found : (front ++ [before] ++ hole :: rest)[front.length]? = some before := by simp
    have put (entry) : (front ++ [before] ++ hole :: rest).set (front.length + 1) entry =
        front ++ before :: entry :: rest := by simp
    rw [length_append, length_singleton, sink, found]
    simp only [put]
    split
    · next order =>
      refine ⟨front ++ [before] ++ [key], by simp, perm_append_singleton _ _, ?_⟩
      refine pairwise_append.mpr ⟨sorted, pairwise_singleton r key, fun a mem b last => ?_⟩
      obtain rfl := mem_singleton.mp last
      rcases mem_append.mp mem with early | late
      · exact IsTrans.trans _ _ _ (below a early) order
      · rwa [mem_singleton.mp late]
    · next order =>
      obtain ⟨larger, sunk, perm, largerSorted⟩ := ih before (before :: rest) frontSorted
      refine ⟨larger ++ [before], by simpa using sunk, perm.append_right _, ?_⟩
      refine pairwise_append.mpr ⟨largerSorted, pairwise_singleton r before, fun a mem b last => ?_⟩
      obtain rfl := mem_singleton.mp last
      rcases mem_cons.mp (perm.mem_iff.mp mem) with rfl | early
      · exact (total_of r a b).resolve_right order
      · exact below a early

theorem sortFrom_sorted (rest) (sorted : front.Pairwise r) :
    sortFrom r rest.length front.length (front ++ rest) ~ front ++ rest ∧
      (sortFrom r rest.length front.length (front ++ rest)).Pairwise r := by
  induction rest generalizing front with
  | nil => simpa [sortFrom] using sorted
  | cons key rest ih =>
    obtain ⟨_, sunk, perm, largerSorted⟩ := sink_sorted r key key rest sorted
    have found : (front ++ key :: rest)[front.length]? = some key := by simp
    rw [length_cons, sortFrom, found]
    simp only [sunk]
    rw [← length_cons (a := key), ← perm.length_eq]
    obtain ⟨whole, wholeSorted⟩ := ih largerSorted
    exact ⟨whole.trans ((perm.append_right rest).trans perm_middle.symm), wholeSorted⟩

theorem sort_eq_insertionSort [Std.Antisymm r] (scratch) :
    sort r scratch = scratch.insertionSort r := by
  cases scratch with
  | nil => rfl
  | cons first rest =>
    obtain ⟨perm, sorted⟩ := sortFrom_sorted r rest (pairwise_singleton r first)
    exact (perm.trans (perm_insertionSort r _).symm).eq_of_pairwise' sorted
      (pairwise_insertionSort r _)

end SortInPlace
