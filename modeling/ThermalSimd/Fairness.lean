import ThermalSimd.Interleaving

/-!
# Fair runs of a pool of threads

An unending run is fair if every thread that is able to move again and again moves again and again;
who is able is a parameter. The liveness proofs repeat one argument: a rank that no move raises and
that every move of one thread lowers.
-/

namespace Interleaving

section

variable {Thread Shared Local : Type*} [DecidableEq Thread] {program : Program Thread Shared Local}
  {trace : ℕ → Pool Thread Shared Local} {thread : Thread}

def MovesAt (program : Program Thread Shared Local) (trace : ℕ → Pool Thread Shared Local)
    (thread : Thread) (index : ℕ) : Prop :=
  ∃ shared loc, program thread (trace index).shared ((trace index).locals thread) shared loc ∧
    trace (index + 1) = (trace index).set thread shared loc

/-- An unending run: at every index some thread moves, or nothing happens. -/
def Runs (program : Program Thread Shared Local) (trace : ℕ → Pool Thread Shared Local) : Prop :=
  ∀ index, trace (index + 1) = trace index ∨ ∃ thread, MovesAt program trace thread index

/-- Who is able again and again moves again and again. -/
def Fair (program : Program Thread Shared Local)
    (able : Pool Thread Shared Local → Thread → Prop) (trace : ℕ → Pool Thread Shared Local) :
    Prop :=
  ∀ thread, (∀ index, ∃ later, index ≤ later ∧ able (trace later) thread) →
    ∀ index, ∃ later, index ≤ later ∧ MovesAt program trace thread later

theorem Runs.invariant (runs : Runs program trace) (good : Pool Thread Shared Local → Prop)
    (start : good (trace 0))
    (keep : ∀ i thread, MovesAt program trace thread i → good (trace i) → good (trace (i + 1))) :
    ∀ i, good (trace i) := by
  intro i
  induction i with
  | zero => exact start
  | succ i ih =>
    rcases runs i with same | ⟨thread, moves⟩
    · rwa [same]
    · exact keep i thread moves ih

theorem Runs.locals_eq (runs : Runs program trace) {i} (still : ¬ MovesAt program trace thread i) :
    (trace (i + 1)).locals thread = (trace i).locals thread := by
  rcases runs i with same | ⟨mover, moves⟩
  · rw [same]
  · have other : thread ≠ mover := by
      rintro rfl
      exact still moves
    obtain ⟨_, _, -, next⟩ := moves
    rw [next, Pool.set_other _ other]

theorem Fair.descends {able}
    (fair : Fair program able trace) (runs : Runs program trace) (first)
    (stage goal : Pool Thread Shared Local → Prop) (rank : Pool Thread Shared Local → ℕ)
    (thread)
    (keeps : ∀ i, first ≤ i → stage (trace i) → goal (trace (i + 1)) ∨
      stage (trace (i + 1)) ∧ rank (trace (i + 1)) ≤ rank (trace i))
    (drops : ∀ i, first ≤ i → stage (trace i) → MovesAt program trace thread i →
      goal (trace (i + 1)) ∨ rank (trace (i + 1)) < rank (trace i))
    (recurs : ∀ i, first ≤ i → (∀ later, i ≤ later → stage (trace later) ∧
      (trace later).locals thread = (trace i).locals thread) →
        ∃ later, i ≤ later ∧ able (trace later) thread) :
    ∀ i, first ≤ i → stage (trace i) → ∃ later, i ≤ later ∧ goal (trace later) := by
  intro i
  induction rank_eq : rank (trace i) using Nat.strong_induction_on generalizing i with
  | _ bound ih =>
    intro since here
    by_contra never
    push Not at never
    have stays : ∀ later, i ≤ later → stage (trace later) ∧ rank (trace later) ≤ bound := by
      intro later le
      induction later, le using Nat.le_induction with
      | base => exact ⟨here, rank_eq.le⟩
      | succ later le before =>
        rcases keeps later (since.trans le) before.1 with reached | ⟨stays, lower⟩
        · exact absurd reached (never _ (Nat.le_succ_of_le le))
        · exact ⟨stays, lower.trans before.2⟩
    by_cases moves : ∃ later, i ≤ later ∧ MovesAt program trace thread later
    · obtain ⟨later, le, moved⟩ := moves
      have after : i ≤ later + 1 := Nat.le_succ_of_le le
      rcases drops later (since.trans le) (stays later le).1 moved with reached | lower
      · exact never _ after reached
      · obtain ⟨final, following, reached⟩ := ih _ (lower.trans_le (stays later le).2)
          (later + 1) rfl (since.trans after) (stays _ after).1
        exact never final (after.trans following) reached
    · push Not at moves
      have same : ∀ later, i ≤ later →
          (trace later).locals thread = (trace i).locals thread := by
        intro later le
        induction later, le using Nat.le_induction with
        | base => rfl
        | succ later le before => rw [runs.locals_eq (moves later le), before]
      have recurring : ∀ start, ∃ later, start ≤ later ∧ able (trace later) thread := by
        intro start
        have above := le_max_right start i
        obtain ⟨later, le, able⟩ := recurs (max start i) (since.trans above) fun later le =>
          ⟨(stays later (above.trans le)).1, by rw [same _ (above.trans le), same _ above]⟩
        exact ⟨later, (le_max_left _ _).trans le, able⟩
      obtain ⟨later, le, moved⟩ := fair thread recurring i
      exact moves later le moved

theorem Path.runs {pool} (path : Path (Step program) pool) : Runs program path.trace := by
  intro index
  rcases lt_or_ge index path.length with below | le
  · right
    have step := path.isRun index below
    generalize after_eq : path.trace (index + 1) = after at step
    obtain ⟨thread, here, moves⟩ := step
    exact ⟨thread, _, _, here ▸ moves, after_eq⟩
  · left
    rw [path.trace_of_length_le le, path.trace_of_length_le (Nat.le_succ_of_le le)]

theorem Path.fair {able pool} (path : Path (Step program) pool)
    (ended : ∀ thread, ¬ able path.final thread) : Fair program able path.trace := by
  intro thread recurs
  obtain ⟨_, le, able⟩ := recurs path.length
  rw [path.trace_of_length_le le] at able
  exact absurd able (ended thread)

end

end Interleaving
