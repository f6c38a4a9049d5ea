import Mathlib.Data.Nat.Count
import Mathlib.Order.Interval.Finset.Nat

/-!
# Counters along a sequence

A counter that grows only on hits and falls back to zero on a break counts no more than the hits
since the last break, or since it was last set otherwise.
-/

namespace Streak

variable {hit broken set cleared : ℕ → Prop} [DecidablePred hit]

/-- The number of hits from `first` on, before `last`. -/
def hits (hit : ℕ → Prop) [DecidablePred hit] (first last : ℕ) : ℕ :=
  Nat.count (fun offset => hit (first + offset)) (last - first)

@[simp]
theorem hits_self (first) : hits hit first first = 0 := by
  simp [hits]

theorem hits_succ {first last} (le : first ≤ last) :
    hits hit first (last + 1) = hits hit first last + if hit last then 1 else 0 := by
  rw [hits, Nat.succ_sub le, Nat.count_succ, Nat.add_sub_cancel' le, hits]

theorem hits_le (hit) [DecidablePred hit] (first last) : hits hit first last ≤ last - first :=
  Nat.count_le _

/-- The hits since some point, with no break since, account for the counter. -/
def Accounted (hit broken : ℕ → Prop) [DecidablePred hit] (count : ℤ) (last : ℕ) : Prop :=
  ∃ first ≤ last, count ≤ hits hit first last ∧
    ∀ index, first ≤ index → index < last → ¬ broken index

theorem Accounted.of_nonpos {count} (nonpos : count ≤ 0) (last) :
    Accounted hit broken count last := by
  refine ⟨last, le_rfl, by simpa using nonpos, fun i above lt => ?_⟩
  exact absurd (above.trans_lt lt) (lt_irrefl last)

theorem Accounted.succ {count next last} (accounted : Accounted hit broken count last)
    (whole : ¬ broken last) (grows : next ≤ count + if hit last then 1 else 0) :
    Accounted hit broken next (last + 1) := by
  obtain ⟨first, le, _, since⟩ := accounted
  refine ⟨first, Nat.le_succ_of_le le, ?_, fun i above lt => ?_⟩
  · rw [hits_succ le]
    split_ifs at grows ⊢ <;> push_cast <;> omega
  · rcases Nat.lt_succ_iff_lt_or_eq.mp lt with lt | rfl
    · exact since i above lt
    · exact whole

def SetSince (set cleared : ℕ → Prop) (last : ℕ) : Prop :=
  ∃ moment < last, set moment ∧ ∀ index, moment < index → index < last → ¬ cleared index

theorem SetSince.of_set {last} (sets : set last) : SetSince set cleared (last + 1) :=
  ⟨last, Nat.lt_succ_self last, sets, fun _ above lt =>
    absurd (Nat.lt_of_lt_of_le above (Nat.le_of_lt_succ lt)) (lt_irrefl last)⟩

theorem SetSince.succ {last} (since : SetSince set cleared last) (kept : ¬ cleared last) :
    SetSince set cleared (last + 1) := by
  obtain ⟨moment, before, sets, uncleared⟩ := since
  refine ⟨moment, Nat.lt_succ_of_lt before, sets, fun i above lt => ?_⟩
  rcases Nat.lt_succ_iff_lt_or_eq.mp lt with lt | rfl
  · exact uncleared i above lt
  · exact kept

def Steps (hit broken set : ℕ → Prop) [DecidablePred hit] (before after : ℤ) (index : ℕ) : Prop :=
  after ≤ 0 ∨ (¬ broken index ∧ after ≤ before + if hit index then 1 else 0) ∨ set index

theorem accounted_or_setSince {counter : ℕ → ℤ} {length} (start : counter 0 ≤ 0)
    (steps : ∀ i < length, Steps hit broken set (counter i) (counter (i + 1)) i)
    (clears : ∀ i < length, cleared i → counter (i + 1) ≤ 0) :
    ∀ i ≤ length, Accounted hit broken (counter i) i ∨ SetSince set cleared i := by
  intro i
  induction i with
  | zero => exact fun _ => .inl (.of_nonpos start 0)
  | succ i ih =>
    intro lt
    rcases steps i lt with nonpos | ⟨whole, grows⟩ | sets
    · exact .inl (.of_nonpos nonpos _)
    · rcases ih (Nat.le_of_succ_le lt) with accounted | since
      · exact .inl (accounted.succ whole grows)
      · by_cases cleared : cleared i
        · exact .inl (.of_nonpos (clears i lt cleared) _)
        · exact .inr (since.succ cleared)
    · exact .inr (.of_set sets)

theorem accounted {counter : ℕ → ℤ} {length} (start : counter 0 ≤ 0)
    (steps : ∀ i < length, Steps hit broken (fun _ => False) (counter i) (counter (i + 1)) i) :
    ∀ i ≤ length, Accounted hit broken (counter i) i := by
  intro i lt
  have uncleared : ∀ i < length, (fun _ => False : ℕ → Prop) i → counter (i + 1) ≤ 0 :=
    fun _ _ => False.elim
  rcases accounted_or_setSince start steps uncleared i lt with accounted | ⟨_, _, never, _⟩
  · exact accounted
  · exact never.elim

theorem lt_of_brief {counter : ℕ → ℤ} {limit bound length} (start : counter 0 ≤ limit)
    (steps : ∀ i < length, counter (i + 1) ≤ limit ∨
      ¬ broken i ∧ counter (i + 1) ≤ counter i + if hit i then 1 else 0)
    (brief : ∀ first last, first ≤ last → last ≤ length →
      (∀ i, first ≤ i → i < last → ¬ broken i) →
      limit + hits hit first last < bound) : ∀ i ≤ length, counter i < bound := by
  intro i upto
  have past : ∀ i < length, Steps hit broken (fun _ => False) (counter i - limit)
      (counter (i + 1) - limit) i := by
    intro i lt
    rcases steps i lt with within | ⟨unset, grows⟩
    · exact .inl (by omega)
    · exact .inr (.inl ⟨unset, by omega⟩)
  obtain ⟨first, le, bound, since⟩ := accounted (by omega) past i upto
  have few := brief first i le upto since
  omega

end Streak
