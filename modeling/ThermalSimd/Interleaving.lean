import Mathlib.Data.Set.Card

/-!
# Interleaved threads over a shared state

A pool is one shared state together with one local state per thread, whose moves it interleaves. The
file packages the arguments every protocol proof repeats: invariants along a run, mutual exclusion,
and counting the threads in some region.
-/

namespace Interleaving

section

variable {State : Type*} {step : State → State → Prop} {trace : ℕ → State} {length : ℕ}

/-- The first `length` moves of `trace` are moves of `step`. -/
def IsRun (step : State → State → Prop) (trace : ℕ → State) (length : ℕ) : Prop :=
  ∀ index < length, step (trace index) (trace (index + 1))

section

variable (run : IsRun step trace length)
include run

theorem IsRun.take {shorter} (le : shorter ≤ length) :
    IsRun step trace shorter :=
  fun i lt => run i (lt.trans_le le)

theorem IsRun.invariant {good : State → Prop}
    (start : good (trace 0)) (keep : ∀ before after, good before → step before after → good after) :
    ∀ i ≤ length, good (trace i) := by
  intro i
  induction i with
  | zero => exact fun _ => start
  | succ i ih =>
    intro le
    exact keep _ _ (ih (Nat.le_of_succ_le le)) (run i le)

theorem IsRun.invariant_from (good : State → Prop) {first}
    (start : good (trace first))
    (keep : ∀ i, first ≤ i → i < length → step (trace i) (trace (i + 1)) →
      good (trace i) → good (trace (i + 1))) :
    ∀ i, first ≤ i → i ≤ length → good (trace i) := by
  intro i after
  induction i, after using Nat.le_induction with
  | base => exact fun _ => start
  | succ i after ih =>
    intro le
    exact keep i after le (run i le) (ih (Nat.le_of_succ_le le))

theorem IsRun.kept_until (good : State → Prop) (event : ℕ → Prop)
    {first} (start : good (trace first))
    (keep : ∀ i < length, step (trace i) (trace (i + 1)) → good (trace i) →
      good (trace (i + 1)) ∨ event i) :
    ∀ later, first ≤ later → later ≤ length →
      good (trace later) ∨ ∃ i, first ≤ i ∧ i < later ∧ event i := by
  intro later after
  induction later, after using Nat.le_induction with
  | base => exact fun _ => .inl start
  | succ i after ih =>
    intro le
    rcases ih (Nat.le_of_succ_le le) with still | ⟨earlier, above, lt, happens⟩
    · refine (keep i le (run i le) still).imp_right fun happens => ?_
      exact ⟨i, after, Nat.lt_succ_self i, happens⟩
    · exact .inr ⟨earlier, above, Nat.lt_succ_of_lt lt, happens⟩

end

/-- A fact that holds now and not at `first` was established in between, and has held since. -/
theorem exists_last_entry (holds : ℕ → Prop) {first i} (le : first ≤ i)
    (start : ¬ holds first) (now : holds i) :
    ∃ entry, first ≤ entry ∧ entry < i ∧ ¬ holds entry ∧
      ∀ later, entry < later → later ≤ i → holds later := by
  induction i, le using Nat.le_induction with
  | base => exact absurd now start
  | succ i le ih =>
    by_cases before : holds i
    · obtain ⟨entry, after, lt, out, since⟩ := ih before
      refine ⟨entry, after, Nat.lt_succ_of_lt lt, out, fun later above upto => ?_⟩
      rcases Nat.le_succ_iff.mp upto with upto | rfl
      · exact since later above upto
      · exact now
    · refine ⟨i, le, Nat.lt_succ_self i, before, fun later above upto => ?_⟩
      rwa [le_antisymm upto above]

end

section

variable {State : Type*} {step : State → State → Prop}

/-- Moves from a state on, each with the proof that it is allowed. -/
inductive Path (step : State → State → Prop) : State → Type _
  | done {state : State} : Path step state
  | move {state next : State} (allowed : step state next) (rest : Path step next) : Path step state

namespace Path

/-- The number of moves. -/
def length : ∀ {state}, Path step state → ℕ
  | _, done => 0
  | _, move _ rest => rest.length + 1

/-- The state after the first `index` moves. -/
def trace : ∀ {state}, Path step state → ℕ → State
  | state, done, _ => state
  | state, move _ _, 0 => state
  | _, move _ rest, index + 1 => rest.trace index

/-- The state after the last move. -/
def final {state} (path : Path step state) : State := path.trace path.length

/-- One path after the other. -/
def append : ∀ {state} (path : Path step state), Path step path.final → Path step state
  | _, done, second => second
  | _, move allowed rest, second => move allowed (rest.append second)

theorem isRun {state} (path : Path step state) : IsRun step path.trace path.length := by
  induction path with
  | done => exact fun index below => absurd below (Nat.not_lt_zero index)
  | @move _ next allowed rest ih =>
    intro index below
    cases index with
    | zero =>
      have start : rest.trace 0 = next := by cases rest <;> rfl
      simpa [trace, start] using allowed
    | succ index => exact ih index (Nat.lt_of_succ_lt_succ below)

theorem trace_of_length_le {state} (path : Path step state) {index} (le : path.length ≤ index) :
    path.trace index = path.final := by
  induction path generalizing index with
  | done => rfl
  | move _ _ ih =>
    obtain _ | index := index
    · cases le
    · exact ih (Nat.le_of_succ_le_succ le)

end Path

end

/-- A shared state and the local states of its threads. -/
structure Pool (Thread Shared Local : Type*) where
  shared : Shared
  locals : Thread → Local

/-- The moves of a thread. -/
abbrev Program (Thread Shared Local : Type*) :=
  Thread → Shared → Local → Shared → Local → Prop

variable {Thread Shared Local : Type*} [DecidableEq Thread]

/-- The pool after a move. -/
def Pool.set (pool : Pool Thread Shared Local) (thread : Thread) (shared : Shared)
    (loc : Local) : Pool Thread Shared Local where
  shared := shared
  locals := Function.update pool.locals thread loc

@[simp]
theorem Pool.set_shared (pool : Pool Thread Shared Local) (thread shared loc) :
    (pool.set thread shared loc).shared = shared := rfl

@[simp]
theorem Pool.set_self (pool : Pool Thread Shared Local) (thread shared loc) :
    (pool.set thread shared loc).locals thread = loc := by
  simp [Pool.set]

theorem Pool.set_other (pool : Pool Thread Shared Local) {thread other} (ne : other ≠ thread)
    (shared loc) : (pool.set thread shared loc).locals other = pool.locals other := by
  simp [Pool.set, ne]

theorem Pool.locals_of_set {pool : Pool Thread Shared Local} {thread other shared loc target}
    (ne : loc ≠ target)
    (here : (pool.set thread shared loc).locals other = target) : pool.locals other = target := by
  rcases eq_or_ne other thread with rfl | old
  · rw [Pool.set_self] at here
    exact absurd here ne
  · rwa [Pool.set_other _ old] at here

theorem Pool.forall_set (good : Thread → Local → Prop) {pool : Pool Thread Shared Local}
    {thread shared loc} (mover : good thread loc)
    (others : ∀ other, other ≠ thread → good other (pool.locals other)) :
    ∀ other, good other ((pool.set thread shared loc).locals other) := by
  intro other
  by_cases same : other = thread
  · subst other
    simpa using mover
  · rw [Pool.set_other _ same]
    exact others other same

/-- One thread moves. -/
inductive Step (program : Program Thread Shared Local) :
    Pool Thread Shared Local → Pool Thread Shared Local → Prop
  | move {pool} (thread : Thread) {shared before after} (here : pool.locals thread = before)
      (moves : program thread pool.shared before shared after) :
      Step program pool (pool.set thread shared after)

section

variable {program : Program Thread Shared Local} {pool next : Pool Thread Shared Local}
  {thread : Thread}

theorem Step.moved (step : Step program pool next)
    (changed : pool.locals thread ≠ next.locals thread) :
    program thread pool.shared (pool.locals thread) next.shared (next.locals thread) := by
  obtain ⟨mover, rfl, moves⟩ := step
  rcases eq_or_ne thread mover with rfl | ne
  · simpa using moves
  · exact absurd (Pool.set_other _ ne _ _).symm changed

theorem IsRun.arrival {trace length first i loc}
    (run : IsRun (Step program) trace length) (le : first ≤ i) (within : i ≤ length)
    (start : (trace first).locals thread ≠ loc) (now : (trace i).locals thread = loc) :
    ∃ entry, first ≤ entry ∧ entry < i ∧ (trace entry).locals thread ≠ loc ∧
      program thread (trace entry).shared ((trace entry).locals thread)
        (trace (entry + 1)).shared loc ∧
      ∀ later, entry < later → later ≤ i → (trace later).locals thread = loc := by
  obtain ⟨entry, after, lt, out, since⟩ :=
    exists_last_entry (fun n => (trace n).locals thread = loc) le start now
  refine ⟨entry, after, lt, out, ?_, since⟩
  have arrived := since (entry + 1) (Nat.lt_succ_self entry) lt
  have moved := (run entry (lt.trans_le within)).moved (arrived ▸ out)
  rwa [arrived] at moved

/-- A path whose first move is one of `thread`. -/
def Path.act {source shared loc} (thread : Thread) (here : pool.locals thread = source)
    (moves : program thread pool.shared source shared loc)
    (rest : Path (Step program) (pool.set thread shared loc)) : Path (Step program) pool :=
  .move (.move thread here moves) rest

end

/-- The thread inside the critical section is the recorded holder of the lock. -/
def Guards (lock : Shared → Option Thread) (inside : Local → Prop)
    (pool : Pool Thread Shared Local) : Prop :=
  ∀ thread, inside (pool.locals thread) ↔ lock pool.shared = some thread

section

variable {lock : Shared → Option Thread} {inside : Local → Prop}
  {pool : Pool Thread Shared Local} {thread : Thread} {shared : Shared} {loc : Local}

omit [DecidableEq Thread] in
theorem Guards.exclusive (guards : Guards lock inside pool) {first second : Thread}
    (firstInside : inside (pool.locals first)) (secondInside : inside (pool.locals second)) :
    first = second := by
  have firstHolds := (guards first).mp firstInside
  have secondHolds := (guards second).mp secondInside
  exact Option.some.inj (firstHolds.symm.trans secondHolds)

/-- A move leaves a lock and its section alone, takes it and enters, or drops it and leaves. -/
inductive LockStep (lock : Shared → Option Thread) (inside : Local → Prop) (thread : Thread)
    (before : Shared) (source : Local) (after : Shared) (target : Local) : Prop
  | keeps (lock_eq : lock after = lock before) (inside_iff : inside target ↔ inside source)
  | acquires (free : lock before = none) (taken : lock after = some thread) (enters : inside target)
  | releases (held : inside source) (freed : lock after = none) (leaves : ¬ inside target)

theorem Guards.set {source} (guards : Guards lock inside pool) (here : pool.locals thread = source)
    (step : LockStep lock inside thread pool.shared source shared loc) :
    Guards lock inside (pool.set thread shared loc) := by
  subst source
  intro other
  by_cases same : other = thread
  · subst other
    cases step with
    | keeps lock_eq inside_iff =>
      simp only [Pool.set_self, Pool.set_shared, lock_eq, inside_iff]
      exact guards thread
    | acquires _ taken enters => simp [taken, enters]
    | releases _ freed leaves => simp [freed, leaves]
  · cases step with
    | keeps lock_eq =>
      rw [Pool.set_other _ same, Pool.set_shared, lock_eq]
      exact guards other
    | acquires free taken =>
      have outside : ¬ inside (pool.locals other) := by
        rw [guards other, free]
        simp
      simp [Pool.set_other _ same, outside, taken, Ne.symm same]
    | releases held freed =>
      have outside : ¬ inside (pool.locals other) := fun also => same (guards.exclusive also held)
      simp [Pool.set_other _ same, outside, freed]

omit [DecidableEq Thread] in
theorem LockStep.lift {Shared' Local' : Type*} {lock' : Shared' → Option Thread}
    {inside' : Local' → Prop} {before after : Shared} {source target : Local}
    {before' after' : Shared'} {source' target' : Local'}
    (step : LockStep lock inside thread before source after target)
    (lock_before : lock' before' = lock before) (lock_after : lock' after' = lock after)
    (inside_source : inside' source' ↔ inside source)
    (inside_target : inside' target' ↔ inside target) :
    LockStep lock' inside' thread before' source' after' target' := by
  cases step with
  | keeps lock_eq inside_iff =>
    exact .keeps (by rw [lock_after, lock_before, lock_eq])
      (by rw [inside_target, inside_source, inside_iff])
  | acquires free taken enters =>
    exact .acquires (lock_before.trans free) (lock_after.trans taken) (inside_target.mpr enters)
  | releases held freed leaves =>
    exact .releases (inside_source.mpr held) (lock_after.trans freed) (mt inside_target.mp leaves)

end

/-- The threads whose local state lies in `region`. -/
def members (region : Local → Prop) (locals : Thread → Local) : Set Thread :=
  {thread | region (locals thread)}

/-- Finitely many threads lie in `region`, and `count` of them. -/
def Counts (region : Local → Prop) (locals : Thread → Local) (count : ℕ) : Prop :=
  (members region locals).Finite ∧ (members region locals).ncard = count

section

variable {region : Local → Prop} {locals : Thread → Local} {count : ℕ} {thread : Thread}
  {loc : Local}

omit [DecidableEq Thread] in
theorem Counts.of_empty (empty : ∀ thread, ¬ region (locals thread)) : Counts region locals 0 := by
  have vacant : members region locals = ∅ := Set.eq_empty_of_forall_notMem empty
  exact ⟨by rw [vacant]; exact Set.finite_empty, by rw [vacant, Set.ncard_empty]⟩

omit [DecidableEq Thread] in
theorem Counts.empty (counts : Counts region locals 0) (thread : Thread) :
    ¬ region (locals thread) := by
  have vacant := (Set.ncard_eq_zero counts.1).mp counts.2
  exact fun mem => (Set.eq_empty_iff_forall_notMem.mp vacant thread) mem

omit [DecidableEq Thread] in
theorem Counts.pos (counts : Counts region locals count) (mem : region (locals thread)) :
    0 < count := by
  rw [← counts.2]
  exact (Set.ncard_pos counts.1).mpr ⟨thread, mem⟩

theorem members_update_of_iff (same : region loc ↔ region (locals thread)) :
    members region (Function.update locals thread loc) = members region locals := by
  ext other
  by_cases eq : other = thread
  · subst other
    simp [members, same]
  · simp [members, eq]

theorem Counts.update_same (counts : Counts region locals count)
    (same : region loc ↔ region (locals thread)) :
    Counts region (Function.update locals thread loc) count := by
  rw [Counts, members_update_of_iff same]
  exact counts

theorem Counts.update_enter (counts : Counts region locals count)
    (outside : ¬ region (locals thread)) (enters : region loc) :
    Counts region (Function.update locals thread loc) (count + 1) := by
  have members_eq :
      members region (Function.update locals thread loc) =
        insert thread (members region locals) := by
    ext other
    by_cases eq : other = thread
    · subst other
      simp [members, enters]
    · simp [members, eq]
  have fresh : thread ∉ members region locals := outside
  refine ⟨?_, ?_⟩
  · rw [members_eq]
    exact counts.1.insert thread
  · rw [members_eq, Set.ncard_insert_of_notMem fresh counts.1, counts.2]

theorem Counts.update_leave {rest} (counts : Counts region locals count)
    (one_more : count = rest + 1) (inside : region (locals thread)) (leaves : ¬ region loc) :
    Counts region (Function.update locals thread loc) rest := by
  have members_eq :
      members region (Function.update locals thread loc) =
        members region locals \ {thread} := by
    ext other
    by_cases eq : other = thread
    · subst other
      simp [members, leaves]
    · simp [members, eq]
  have mem : thread ∈ members region locals := inside
  refine ⟨?_, ?_⟩
  · rw [members_eq]
    exact counts.1.sdiff
  · rw [members_eq, Set.ncard_sdiff_singleton_of_mem mem, counts.2, one_more,
      Nat.add_sub_cancel]

end

end Interleaving
