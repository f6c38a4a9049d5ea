import Mathlib.Algebra.Order.BigOperators.Group.List
import Mathlib.Algebra.Order.Ring.Nat
import Mathlib.Data.List.Sort
import Mathlib.Data.Nat.SuccPred

/-!
# Trimmed means

The mean of a list of naturals, rounded down, and the mean without the least and the greatest entry.
Both are independent of the order, monotone in each entry, and above every lower bound.
-/

namespace TrimmedMean

open List

variable {left right entries : List ℕ}

section

variable {α : Type*} [LinearOrder α]

theorem orderedInsert_of_forall_le {a : α} {entries} (least : ∀ b ∈ entries, a ≤ b) :
    entries.orderedInsert (· ≤ ·) a = a :: entries := by
  cases entries with
  | nil => rfl
  | cons b entries => exact orderedInsert_cons_of_le _ _ (least b mem_cons_self)

theorem forall₂_orderedInsert {left right : List α} (below : Forall₂ (· ≤ ·) left right)
    (sortedLeft : left.Pairwise (· ≤ ·)) (sortedRight : right.Pairwise (· ≤ ·)) {a b} (ab : a ≤ b) :
    Forall₂ (· ≤ ·) (left.orderedInsert (· ≤ ·) a) (right.orderedInsert (· ≤ ·) b) := by
  induction below generalizing a b with
  | nil => exact .cons ab .nil
  | @cons x y left right xy below ih =>
    obtain ⟨leastLeft, sortedLeft⟩ := pairwise_cons.mp sortedLeft
    obtain ⟨leastRight, sortedRight⟩ := pairwise_cons.mp sortedRight
    -- Where only one of the two stops here, the head of its list goes on in its place.
    rcases le_or_gt a x with ax | xa <;> rcases le_or_gt b y with bY | yb
    · rw [orderedInsert_cons_of_le _ _ ax, orderedInsert_cons_of_le _ _ bY]
      exact .cons ab (.cons xy below)
    · rw [orderedInsert_cons_of_le _ _ ax, orderedInsert_of_not_le _ _ yb.not_ge]
      have rest := ih sortedLeft sortedRight (xy.trans yb.le)
      rw [orderedInsert_of_forall_le leastLeft] at rest
      exact .cons (ax.trans xy) rest
    · rw [orderedInsert_of_not_le _ _ xa.not_ge, orderedInsert_cons_of_le _ _ bY]
      have rest := ih sortedLeft sortedRight (ab.trans bY)
      rw [orderedInsert_of_forall_le leastRight] at rest
      exact .cons (xa.le.trans ab) rest
    · rw [orderedInsert_of_not_le _ _ xa.not_ge, orderedInsert_of_not_le _ _ yb.not_ge]
      exact .cons xy (ih sortedLeft sortedRight ab)

theorem forall₂_insertionSort {left right : List α} (below : Forall₂ (· ≤ ·) left right) :
    Forall₂ (· ≤ ·) (left.insertionSort (· ≤ ·)) (right.insertionSort (· ≤ ·)) := by
  induction below with
  | nil => exact .nil
  | cons ab _ ih =>
    exact forall₂_orderedInsert ih (pairwise_insertionSort _ _) (pairwise_insertionSort _ _) ab

end

def mean (entries : List ℕ) : ℕ := entries.sum / entries.length

theorem mean_le_mean (below : Forall₂ (· ≤ ·) left right) : mean left ≤ mean right := by
  rw [mean, mean, below.length_eq]
  exact Nat.div_le_div_right below.sum_le_sum

theorem le_mean {bound} (above : ∀ entry ∈ entries, bound ≤ entry) (nonempty : entries ≠ []) :
    bound ≤ mean entries := by
  rw [mean, Nat.le_div_iff_mul_le (length_pos_of_ne_nil nonempty), mul_comm]
  exact card_nsmul_le_sum entries bound above

theorem mean_lt {bound} (below : ∀ entry ∈ entries, entry < bound) (pos : 0 < bound) :
    mean entries < bound := by
  rcases entries.eq_nil_or_concat with rfl | concat
  · exact pos
  · have length : 0 < entries.length := by
      obtain ⟨_, _, rfl⟩ := concat
      simp
    rw [mean, Nat.div_lt_iff_lt_mul length]
    calc entries.sum ≤ entries.length * (bound - 1) :=
          sum_le_card_nsmul entries _ fun entry mem => Nat.le_sub_one_of_lt (below entry mem)
      _ < entries.length * bound := Nat.mul_lt_mul_of_pos_left (by omega) length
      _ = bound * entries.length := mul_comm _ _

theorem mean_perm (perm : left ~ right) : mean left = mean right := by
  rw [mean, mean, perm.sum_eq, perm.length_eq]

def trimmed (entries : List ℕ) : List ℕ :=
  ((entries.insertionSort (· ≤ ·)).drop 1).take (entries.length - 2)

def trimmedMean (entries : List ℕ) : ℕ :=
  if entries.length ≤ 2 then mean entries else mean (trimmed entries)

@[simp]
theorem length_trimmed (entries) : (trimmed entries).length = entries.length - 2 := by
  simp only [trimmed, length_take, length_drop, length_insertionSort]
  omega

theorem mem_of_mem_trimmed {entry} (mem : entry ∈ trimmed entries) : entry ∈ entries :=
  (mem_insertionSort _).mp (mem_of_mem_drop (mem_of_mem_take mem))

theorem trimmed_perm (perm : left ~ right) : trimmed left = trimmed right := by
  have sorted : left.insertionSort (· ≤ ·) = right.insertionSort (· ≤ ·) :=
    Perm.eq_of_pairwise' (pairwise_insertionSort _ _) (pairwise_insertionSort _ _)
      ((perm_insertionSort _ _).trans (perm.trans (perm_insertionSort _ _).symm))
  rw [trimmed, trimmed, sorted, perm.length_eq]

theorem trimmedMean_perm (perm : left ~ right) : trimmedMean left = trimmedMean right := by
  rw [trimmedMean, trimmedMean, trimmed_perm perm, mean_perm perm, perm.length_eq]

theorem trimmedMean_le_trimmedMean (below : Forall₂ (· ≤ ·) left right) :
    trimmedMean left ≤ trimmedMean right := by
  rw [trimmedMean, trimmedMean, below.length_eq]
  split
  · exact mean_le_mean below
  · apply mean_le_mean
    rw [trimmed, trimmed, below.length_eq]
    exact forall₂_take _ (forall₂_drop _ (forall₂_insertionSort below))

theorem sum_trimmed {least greatest} (two : 2 ≤ entries.length)
    (below : IsLeast {entry | entry ∈ entries} least)
    (above : IsGreatest {entry | entry ∈ entries} greatest) :
    (trimmed entries).sum + least + greatest = entries.sum := by
  have perm := perm_insertionSort (· ≤ ·) entries
  have sorted := pairwise_insertionSort (· ≤ ·) entries
  have length := perm.length_eq
  unfold trimmed
  generalize entries.insertionSort (· ≤ ·) = cells at perm sorted length
  -- The sorted entries are the least, those between, and the greatest.
  obtain _ | ⟨first, rest⟩ := cells
  · simp at length
    omega
  obtain rfl | ⟨middle, last, rfl⟩ := rest.eq_nil_or_concat'
  · simp at length
    omega
  obtain ⟨first_le, sorted⟩ := pairwise_cons.mp sorted
  have le_last := (pairwise_append.mp sorted).2.2
  have mem (entry) : entry ∈ entries ↔ entry = first ∨ entry ∈ middle ∨ entry = last := by
    rw [← perm.mem_iff]
    simp
  have isLeast : IsLeast {entry | entry ∈ entries} first := by
    refine ⟨(mem first).mpr (.inl rfl), fun entry here => ?_⟩
    rcases (mem entry).mp here with rfl | between | rfl
    · exact le_rfl
    · exact first_le entry (mem_append_left _ between)
    · exact first_le entry (by simp)
  have isGreatest : IsGreatest {entry | entry ∈ entries} last := by
    refine ⟨(mem last).mpr (.inr (.inr rfl)), fun entry here => ?_⟩
    rcases (mem entry).mp here with rfl | between | rfl
    · exact first_le last (by simp)
    · exact le_last entry between last (mem_singleton_self _)
    · exact le_rfl
  have cut : ((first :: (middle ++ [last])).drop 1).take (entries.length - 2) = middle := by
    rw [← length]
    simp
  rw [cut, ← perm.sum_eq, isLeast.unique below, isGreatest.unique above]
  simp
  omega

theorem trimmedMean_eq_div {least greatest} (below : IsLeast {entry | entry ∈ entries} least)
    (above : IsGreatest {entry | entry ∈ entries} greatest) :
    trimmedMean entries =
      if 3 ≤ entries.length then (entries.sum - least - greatest) / (entries.length - 2)
      else entries.sum / entries.length := by
  by_cases two : entries.length ≤ 2
  · rw [trimmedMean, if_pos two, if_neg (by omega), mean]
  · have sum := sum_trimmed (by omega) below above
    rw [trimmedMean, if_neg two, if_pos (by omega), mean, length_trimmed]
    congr 1
    omega

theorem trimmedMean_le {bound} (below : ∀ entry ∈ entries, entry ≤ bound) :
    trimmedMean entries ≤ bound := by
  rw [← Nat.lt_succ_iff, trimmedMean]
  split
  · exact mean_lt (fun entry mem => Nat.lt_succ_of_le (below entry mem)) bound.succ_pos
  · refine mean_lt (fun entry mem => Nat.lt_succ_of_le ?_) bound.succ_pos
    exact below entry (mem_of_mem_trimmed mem)

theorem le_trimmedMean {bound} (above : ∀ entry ∈ entries, bound ≤ entry)
    (nonempty : entries ≠ []) :
    bound ≤ trimmedMean entries := by
  unfold trimmedMean
  split
  · exact le_mean above nonempty
  · next _ =>
      apply le_mean fun entry mem => above entry (mem_of_mem_trimmed mem)
      rw [← length_pos_iff, length_trimmed]
      omega

end TrimmedMean
