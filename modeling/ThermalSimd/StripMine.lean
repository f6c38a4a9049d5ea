import Mathlib.Algebra.Order.Group.Nat

/-!
# Strip-mined loops

A function applied to a range of memory, by a loop over blocks of lanes followed by a loop over the
elements that are left. Memory is a function of addresses, so a write outside the range would show.
-/

namespace StripMine

variable {Value : Type*}

variable {function : Value → Value}

/-- A function applied to the elements from `start` to before `stop`. -/
def mapped (function : Value → Value) (input : ℕ → Value) (start stop : ℕ) (output : ℕ → Value) :
    ℕ → Value :=
  fun address =>
    if start ≤ address ∧ address < stop then function (input address) else output address

theorem mapped_of_le (function : Value → Value) (input) {start stop}
    (empty : stop ≤ start) (output) :
    mapped function input start stop output = output := by
  funext address
  exact if_neg fun inside => (inside.1.trans_lt inside.2).not_ge empty

theorem mapped_trans (function : Value → Value) (input) {start middle stop}
    (left : start ≤ middle) (right : middle ≤ stop) (output) :
    mapped function input middle stop (mapped function input start middle output) =
      mapped function input start stop output := by
  funext address
  unfold mapped
  split_ifs <;> first | rfl | omega

def scalarLoop (function : Value → Value) (input : ℕ → Value) (stop index : ℕ)
    (output : ℕ → Value) : ℕ → Value :=
  if index < stop then
    scalarLoop function input stop (index + 1)
      (Function.update output index (function (input index)))
  else output
  termination_by stop - index

theorem update_eq_mapped (function : Value → Value) (input i output) :
    Function.update output i (function (input i)) =
      mapped function input i (i + 1) output := by
  funext address
  unfold mapped
  by_cases same : address = i
  · subst same
    rw [Function.update_self, if_pos ⟨le_rfl, Nat.lt_succ_self address⟩]
  · rw [Function.update_of_ne same, if_neg]
    rintro ⟨low, high⟩
    exact same (Nat.le_antisymm (Nat.le_of_lt_succ high) low)

theorem scalarLoop_eq (function : Value → Value) (input stop i output) :
    scalarLoop function input stop i output = mapped function input i stop output := by
  fun_induction scalarLoop function input stop i output with
  | case1 i output inside ih =>
    rw [ih, update_eq_mapped, mapped_trans _ _ (Nat.le_succ i) inside]
  | case2 i output outside => exact (mapped_of_le _ _ (not_lt.mp outside) _).symm

variable {lanes : ℕ}

def load (lanes : ℕ) (input : ℕ → Value) (index : ℕ) : Vector Value lanes :=
  Vector.ofFn fun lane => input (index + lane)

def store (output : ℕ → Value) (index : ℕ) (value : Vector Value lanes) : ℕ → Value :=
  fun address =>
    if inside : index ≤ address ∧ address < index + lanes then
      have bound : address - index < lanes := Nat.sub_lt_left_of_lt_add inside.1 inside.2
      value[address - index]
    else output address

def blockLoop (block : Vector Value lanes → Vector Value lanes) (input : ℕ → Value)
    (stop index : ℕ) (output : ℕ → Value) : ℕ × (ℕ → Value) :=
  if 0 < lanes ∧ index + lanes ≤ stop then
    blockLoop block input stop (index + lanes) (store output index (block (load lanes input index)))
  else (index, output)
  termination_by stop - index

variable {block : Vector Value lanes → Vector Value lanes}

theorem store_eq_mapped (lanewise : ∀ v, block v = v.map function) (input i output) :
    store output i (block (load lanes input i)) =
      mapped function input i (i + lanes) output := by
  funext address
  unfold store mapped
  by_cases inside : i ≤ address ∧ address < i + lanes
  · rw [dif_pos inside, if_pos inside, lanewise, Vector.getElem_map]
    unfold load
    rw [Vector.getElem_ofFn, Nat.add_sub_cancel' inside.1]
  · rw [dif_neg inside, if_neg inside]

theorem blockLoop_spec (lanewise : ∀ v, block v = v.map function) (input)
    {stop i} (within : i ≤ stop) (output) :
    i ≤ (blockLoop block input stop i output).1 ∧
      (blockLoop block input stop i output).1 ≤ stop ∧
      (blockLoop block input stop i output).2 =
        mapped function input i (blockLoop block input stop i output).1 output := by
  fun_induction blockLoop block input stop i output with
  | case1 i output fits ih =>
    rw [store_eq_mapped lanewise] at ih ⊢
    obtain ⟨low, high, res⟩ := ih fits.2
    refine ⟨(Nat.le_add_right _ _).trans low, high, ?_⟩
    rw [res, mapped_trans _ _ (Nat.le_add_right _ _) low]
  | case2 i output _ => exact ⟨le_rfl, within, (mapped_of_le _ _ le_rfl _).symm⟩

theorem scalarLoop_blockLoop (lanewise : ∀ v, block v = v.map function)
    (input) {stop i} (within : i ≤ stop) (output) :
    scalarLoop function input stop (blockLoop block input stop i output).1
        (blockLoop block input stop i output).2 =
      mapped function input i stop output := by
  obtain ⟨low, high, res⟩ := blockLoop_spec lanewise input within output
  rw [scalarLoop_eq, res, mapped_trans _ _ low high]

end StripMine
