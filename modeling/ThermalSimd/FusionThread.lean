import ThermalSimd.Interleaving

/-!
# The fusion worker and its callers

The lifecycle of `TelemetryFusion` in `telemetry/fusion.cpp`: threads that call `start` and `stop`,
the worker loop, and `stop` called on the worker itself. The worker is known by its
`std::thread::id`, which may be given to a new thread after the join. Waiting for the next poll has
a timeout, so the worker may wake up at any time.
-/

namespace ThermalSimd.Fusion

open Interleaving

variable {n : ℕ}

/-- A thread that calls the service, or worker number `n`. -/
inductive Agent (Caller : Type)
  | caller (c : Caller)
  | worker (n : ℕ)
  deriving DecidableEq

/-- The members of `TelemetryFusion` that the lifecycle reads. -/
structure Shared (Caller : Type) where
  running : Bool
  stopCallers : ℕ
  /-- `stop_join_in_progress_`, with the stop that set it (auxiliary). -/
  stopJoinInProgress : Option (Agent Caller)
  workerThreadId : Option ℕ
  /-- `thread_`: the worker it can join, if it is joinable. -/
  thread : Option ℕ
  threadMutex : Option (Agent Caller)
  wakeMutex : Option (Agent Caller)
  /-- How often `thread_cv_` has been notified. -/
  threadCv : ℕ
  published : Bool
  spawned : ℕ
  /-- Which workers have returned from `run`. -/
  finished : ℕ → Bool
  owner : ℕ → Option (Agent Caller)

/-- Where a call of `start` is. -/
inductive StartPc
  | acquiring | admitting | creating | announcing | failing
  deriving DecidableEq

/-- Where a call of `stop` is. -/
inductive StopPc
  | entering | locked | clearing | unlocking | deciding | leaving | yielding
  | checking
  | sleeping (seen : ℕ)
  | relocking
  | joining (n : ℕ)
  | reaped | retiring | finishing
  deriving DecidableEq

/-- Where the worker is in `run`. -/
inductive LoopPc
  | top | body
  | publishing (running : Bool)
  | pausing | waking | wakeChecking | napping | exited
  deriving DecidableEq

/-- Where a thread is. -/
inductive Local
  | absent
  | idle
  | start (pc : StartPc)
  | stop (pc : StopPc)
  | loop (pc : LoopPc)
  deriving DecidableEq

abbrev System (Caller : Type) := Pool (Agent Caller) (Shared Caller) Local

/-- Where a thread goes on after a call of `stop`. -/
def Agent.resume {Caller : Type} : Agent Caller → Local
  | .caller _ => .idle
  | .worker _ => .loop .body

section

variable {Caller : Type}

/-- `start` has nothing to do, or may not. -/
def Shared.Busy (s : Shared Caller) : Prop :=
  s.running = true ∨ s.stopCallers ≠ 0 ∨ s.stopJoinInProgress.isSome = true ∨ s.thread.isSome = true

/-- The end of a call of `stop`: its count, the notification and the mutex. -/
def Shared.leave (s : Shared Caller) : Shared Caller :=
  { s with stopCallers := s.stopCallers - 1, threadCv := s.threadCv + 1, threadMutex := none }

def Shared.own (s : Shared Caller) (id : ℕ) (t : Agent Caller) : Shared Caller :=
  { s with owner := Function.update s.owner id (some t) }

def Shared.disown (s : Shared Caller) (id : ℕ) : Shared Caller :=
  { s with owner := Function.update s.owner id none }

section

variable (ids : Agent Caller → ℕ)

/-- One move of a thread.  Worker number `n` gets the identifier `ids (.worker n)`. -/
inductive Moves : Program (Agent Caller) (Shared Caller) Local
  -- The threads around the service.
  | create {s c} (free : s.owner (ids (.caller c)) = none) :
      Moves (.caller c) s .absent (s.own (ids (.caller c)) (.caller c)) .idle
  | terminate {s c} : Moves (.caller c) s .idle (s.disown (ids (.caller c))) .absent
  | callStart {s c} : Moves (.caller c) s .idle s (.start .acquiring)
  | callStop {s c} : Moves (.caller c) s .idle s (.stop .entering)
  -- `start`
  | startLock {s t} (free : s.threadMutex = none) :
      Moves t s (.start .acquiring) { s with threadMutex := some t } (.start .admitting)
  | startRefuse {s c} (busy : s.Busy) :
      Moves (.caller c) s (.start .admitting) { s with threadMutex := none } .idle
  | startAdmit {s t} (quiet : ¬ s.Busy) :
      Moves t s (.start .admitting) { s with running := true } (.start .creating)
  | startCreate {s t} (free : s.owner (ids (.worker s.spawned)) = none) :
      Moves t s (.start .creating)
        { s.own (ids (.worker s.spawned)) (.worker s.spawned) with
          thread := some s.spawned
          workerThreadId := some (ids (.worker s.spawned))
          spawned := s.spawned + 1 }
        (.start .announcing)
  | startFail {s t} :
      Moves t s (.start .creating) { s with workerThreadId := none, running := false }
        (.start .failing)
  | startThrow {s c} :
      Moves (.caller c) s (.start .failing) { s with published := false, threadMutex := none } .idle
  | startAnnounce {s c} :
      Moves (.caller c) s (.start .announcing) { s with published := true, threadMutex := none }
        .idle
  -- `stop`, as far as every caller goes
  | stopLock {s t} (free : s.threadMutex = none) :
      Moves t s (.stop .entering) { s with threadMutex := some t, stopCallers := s.stopCallers + 1 }
        (.stop .locked)
  | stopWake {s t} (free : s.wakeMutex = none) :
      Moves t s (.stop .locked) { s with wakeMutex := some t } (.stop .clearing)
  | stopClear {s t} : Moves t s (.stop .clearing) { s with running := false } (.stop .unlocking)
  | stopUnlock {s t} : Moves t s (.stop .unlocking) { s with wakeMutex := none } (.stop .deciding)
  | stopNone {s t} (alone : s.stopJoinInProgress = none) (unjoinable : s.thread = none) :
      Moves t s (.stop .deciding) { s with published := false, workerThreadId := none }
        (.stop .leaving)
  | stopLeave {s t} : Moves t s (.stop .leaving) s.leave t.resume
  -- `stop` on the worker
  | stopYield {s t} (joins : s.stopJoinInProgress.isSome = true)
      (itself : s.workerThreadId = some (ids t)) :
      Moves t s (.stop .deciding) s (.stop .yielding)
  | stopYielded {s t} : Moves t s (.stop .yielding) s.leave t.resume
  | stopSelf {s t n} (alone : s.stopJoinInProgress = none) (joinable : s.thread = some n)
      (itself : s.workerThreadId = some (ids t)) :
      Moves t s (.stop .deciding) { s with published := false } (.stop .leaving)
  -- `stop` beside the one that joins
  | stopAwait {s t} (joins : s.stopJoinInProgress.isSome = true)
      (other : s.workerThreadId ≠ some (ids t)) :
      Moves t s (.stop .deciding) s (.stop .checking)
  | stopPark {s t} (joins : s.stopJoinInProgress.isSome = true) :
      Moves t s (.stop .checking) { s with threadMutex := none } (.stop (.sleeping s.threadCv))
  | stopNotified {s t seen} (notified : seen ≠ s.threadCv) :
      Moves t s (.stop (.sleeping seen)) s (.stop .relocking)
  | stopSpurious {s t seen} : Moves t s (.stop (.sleeping seen)) s (.stop .relocking)
  | stopRelock {s t} (free : s.threadMutex = none) :
      Moves t s (.stop .relocking) { s with threadMutex := some t } (.stop .checking)
  | stopChecked {s t} (done : s.stopJoinInProgress = none) :
      Moves t s (.stop .checking) s.leave t.resume
  -- `stop` that joins
  | stopJoin {s t n} (alone : s.stopJoinInProgress = none) (joinable : s.thread = some n)
      (other : s.workerThreadId ≠ some (ids t)) :
      Moves t s (.stop .deciding)
        { s with stopJoinInProgress := some t, thread := none, threadMutex := none }
        (.stop (.joining n))
  | stopReap {s t n} (done : s.finished n = true) :
      Moves t s (.stop (.joining n)) (s.disown (ids (.worker n))) (.stop .reaped)
  | stopReacquire {s t} (free : s.threadMutex = none) :
      Moves t s (.stop .reaped) { s with threadMutex := some t } (.stop .retiring)
  | stopRetire {s t} :
      Moves t s (.stop .retiring) { s with workerThreadId := none, published := false }
        (.stop .finishing)
  | stopFinish {s t} :
      Moves t s (.stop .finishing) { s.leave with stopJoinInProgress := none } t.resume
  -- `run`
  | loopEnter {s n} (born : n < s.spawned) (running : s.running = true) :
      Moves (.worker n) s (.loop .top) s (.loop .body)
  | loopExit {s n} (born : n < s.spawned) (stopped : s.running = false) :
      Moves (.worker n) s (.loop .top) { s with finished := Function.update s.finished n true }
        (.loop .exited)
  | loopStop {s n} : Moves (.worker n) s (.loop .body) s (.stop .entering)
  | loopLoad {s n} : Moves (.worker n) s (.loop .body) s (.loop (.publishing s.running))
  | loopPublish {s n running} :
      Moves (.worker n) s (.loop (.publishing running)) { s with published := running }
        (.loop .body)
  | loopReturn {s n} : Moves (.worker n) s (.loop .body) s (.loop .pausing)
  | loopOverrun {s n} : Moves (.worker n) s (.loop .pausing) s (.loop .top)
  | loopPause {s n} : Moves (.worker n) s (.loop .pausing) s (.loop .waking)
  | loopLock {s n} (free : s.wakeMutex = none) :
      Moves (.worker n) s (.loop .waking) { s with wakeMutex := some (.worker n) }
        (.loop .wakeChecking)
  | loopNap {s n} (running : s.running = true) :
      Moves (.worker n) s (.loop .wakeChecking) { s with wakeMutex := none } (.loop .napping)
  | loopRouse {s n} : Moves (.worker n) s (.loop .napping) s (.loop .waking)
  | loopUnlock {s n} :
      Moves (.worker n) s (.loop .wakeChecking) { s with wakeMutex := none } (.loop .top)

end

end

def initial (Caller : Type) : System Caller where
  shared :=
    { running := false
      stopCallers := 0
      stopJoinInProgress := none
      workerThreadId := none
      thread := none
      threadMutex := none
      wakeMutex := none
      threadCv := 0
      published := false
      spawned := 0
      finished := fun _ => false
      owner := fun _ => none }
  locals
    | .caller _ => .absent
    | .worker _ => .loop .top

variable {Caller : Type}

/-- The first `length` moves of `trace` are moves of the threads. -/
structure Execution [DecidableEq Caller] (ids : Agent Caller → ℕ) (trace : ℕ → System Caller)
    (length : ℕ) : Prop where
  start : trace 0 = initial Caller
  run : IsRun (Step (Moves ids)) trace length

/-- Holding `thread_mutex_`. -/
def Local.InMutex : Local → Prop
  | .start .admitting | .start .creating | .start .announcing | .start .failing => True
  | .stop .locked | .stop .clearing | .stop .unlocking | .stop .deciding => True
  | .stop .leaving | .stop .yielding | .stop .checking => True
  | .stop .retiring | .stop .finishing => True
  | _ => False

/-- Holding `wake_mutex_`. -/
def Local.InWake : Local → Prop
  | .stop .clearing | .stop .unlocking | .loop .wakeChecking => True
  | _ => False

/-- Between setting `stop_join_in_progress_` and clearing it. -/
def Local.Joins : Local → Prop
  | .stop (.joining _) | .stop .reaped | .stop .retiring | .stop .finishing => True
  | _ => False

/-- Counted in `stop_callers_`. -/
def Local.Counted : Local → Prop
  | .stop .entering => False
  | .stop _ => True
  | _ => False

/-- A stop that has cleared `running_`. -/
def Local.Cleared : Local → Prop
  | .stop .entering | .stop .locked | .stop .clearing => False
  | .stop _ => True
  | _ => False

/-- On the way from a change of `running_` to its publication. -/
def Local.Unsettled : Local → Prop
  | .start .creating | .start .announcing | .start .failing => True
  | .stop .unlocking | .stop .deciding => True
  | .stop (.joining _) | .stop .reaped | .stop .retiring => True
  | _ => False

def Local.Waiting : Local → Prop
  | .stop .checking | .stop (.sleeping _) | .stop .relocking => True
  | _ => False

def Local.Answered : Local → Prop
  | .stop .leaving | .stop .finishing => True
  | _ => False

/-- What a thread of each kind can be doing: the worker never waits for itself. -/
def Local.Fits : Agent Caller → Local → Prop
  | .caller _, .loop _ => False
  | .caller _, _ => True
  | .worker _, .loop _ => True
  | .worker _, .stop .entering | .worker _, .stop .locked | .worker _, .stop .clearing => True
  | .worker _, .stop .unlocking | .worker _, .stop .deciding => True
  | .worker _, .stop .leaving | .worker _, .stop .yielding => True
  | .worker _, _ => False

def Shared.Unreaped (ids : Agent Caller → ℕ) (s : Shared Caller) (n : ℕ) : Prop :=
  s.owner (ids (.worker n)) = some (.worker n)

/-- The service is stopped, and says so. -/
structure Shared.Quiet (ids : Agent Caller → ℕ) (s : Shared Caller) : Prop where
  running : s.running = false
  published : s.published = false
  reaped : ∀ n, ¬ s.Unreaped ids n

/-- What holds while a start past its admission is at `pc`. -/
def StartPc.Holds (s : Shared Caller) : StartPc → Prop
  | .acquiring | .admitting => True
  | .creating =>
    s.stopCallers = 0 ∧ s.stopJoinInProgress = none ∧ s.running = true ∧ s.thread = none
  | .announcing => s.stopCallers = 0 ∧ s.running = true
  | .failing =>
    s.stopCallers = 0 ∧ s.stopJoinInProgress = none ∧ s.running = false ∧ s.thread = none

/-- What holds in every reachable state. -/
structure Invariant (ids : Agent Caller → ℕ) (pool : System Caller) : Prop where
  mutex : Guards Shared.threadMutex Local.InMutex pool
  wake : Guards Shared.wakeMutex Local.InWake pool
  join : Guards Shared.stopJoinInProgress Local.Joins pool
  counted : Counts Local.Counted pool.locals pool.shared.stopCallers
  fits : ∀ t, (pool.locals t).Fits t
  existing : ∀ c, pool.locals (.caller c) ≠ .absent →
    pool.shared.owner (ids (.caller c)) = some (.caller c)
  last : ∀ n, pool.shared.Unreaped ids n → n + 1 = pool.shared.spawned
  held : ∀ n, pool.shared.Unreaped ids n →
    pool.shared.thread = some n ∨ ∃ t, pool.locals t = .stop (.joining n)
  handle : ∀ n, pool.shared.thread = some n →
    pool.shared.Unreaped ids n ∧ pool.shared.stopJoinInProgress = none
  joining : ∀ t n, pool.locals t = .stop (.joining n) → pool.shared.Unreaped ids n
  named : ∀ n, pool.shared.Unreaped ids n → pool.shared.workerThreadId = some (ids (.worker n))
  alive : ∀ n, n < pool.shared.spawned → pool.shared.finished n = false →
    pool.shared.Unreaped ids n
  unborn : ∀ n, pool.shared.spawned ≤ n → pool.locals (.worker n) = .loop .top
  finished : ∀ n, pool.shared.finished n = true ↔ pool.locals (.worker n) = .loop .exited
  started : ∀ t pc, pool.locals t = .start pc → pc.Holds pool.shared
  cleared : ∀ t, (pool.locals t).Cleared → pool.shared.running = false
  sleeping : ∀ t seen, pool.locals t = .stop (.sleeping seen) → seen ≤ pool.shared.threadCv ∧
    (seen = pool.shared.threadCv → pool.shared.stopJoinInProgress.isSome = true)
  loads : ∀ n running, pool.locals (.worker n) = .loop (.publishing running) →
    pool.shared.running = true → running = true
  settled : (∀ t, ¬ (pool.locals t).Unsettled) → pool.shared.published = pool.shared.running ∧
    ∀ n running, pool.locals (.worker n) = .loop (.publishing running) →
      running = pool.shared.running
  waiting : ∀ c, (pool.locals (.caller c)).Waiting →
    pool.shared.stopJoinInProgress.isSome = true ∨ pool.shared.Quiet ids
  answered : ∀ c, (pool.locals (.caller c)).Answered → pool.shared.Quiet ids
  yielding : ∀ c, pool.locals (.caller c) = .stop .yielding →
    pool.shared.stopJoinInProgress.isSome = true ∧
      pool.shared.workerThreadId = some (ids (.caller c)) ∧ ∀ n, ¬ pool.shared.Unreaped ids n

variable {l : Local}

theorem Local.Cleared.counted (cleared : l.Cleared) : l.Counted := by
  unfold Local.Cleared at cleared
  split at cleared
  all_goals simp_all [Local.Counted]

theorem Local.Waiting.counted (waiting : l.Waiting) : l.Counted := by
  unfold Local.Waiting at waiting
  split at waiting
  all_goals simp_all [Local.Counted]

theorem Local.Answered.counted (answered : l.Answered) : l.Counted := by
  unfold Local.Answered at answered
  split at answered
  all_goals simp_all [Local.Counted]

theorem Local.Joins.unsettled (joins : l.Joins) : l.Unsettled ∨ l.InMutex := by
  unfold Local.Joins at joins
  split at joins
  all_goals simp_all [Local.Unsettled, Local.InMutex]

section

variable (t : Agent Caller)

@[simp]
theorem not_inMutex_resume : ¬ t.resume.InMutex := by cases t <;> exact id

@[simp]
theorem not_inWake_resume : ¬ t.resume.InWake := by cases t <;> exact id

@[simp]
theorem not_joins_resume : ¬ t.resume.Joins := by cases t <;> exact id

@[simp]
theorem not_counted_resume : ¬ t.resume.Counted := by cases t <;> exact id

@[simp]
theorem fits_resume : t.resume.Fits t := by cases t <;> trivial

end

section

variable {ids : Agent Caller → ℕ} {t : Agent Caller} {s s' : Shared Caller} {before after : Local}

/-- The members that `thread_mutex_` protects. -/
def Shared.guarded (s : Shared Caller) :
    Bool × ℕ × Option (Agent Caller) × Option ℕ × Option ℕ × ℕ × ℕ :=
  (s.running, s.stopCallers, s.stopJoinInProgress, s.workerThreadId, s.thread, s.threadCv,
    s.spawned)

section

variable (moves : Moves ids t s before s' after)
include moves

theorem Moves.mutex :
    LockStep Shared.threadMutex Local.InMutex t s before s' after := by
  cases moves with
  | startLock free | stopLock free | stopRelock free | stopReacquire free =>
    exact .acquires free rfl trivial
  | startRefuse | startThrow | startAnnounce | stopPark | stopJoin =>
    exact .releases trivial rfl id
  | stopLeave | stopYielded | stopChecked | stopFinish =>
    exact .releases trivial rfl (not_inMutex_resume t)
  | _ => exact .keeps rfl (by simp [Local.InMutex])

theorem Moves.wake :
    LockStep Shared.wakeMutex Local.InWake t s before s' after := by
  cases moves with
  | stopWake free | loopLock free => exact .acquires free rfl trivial
  | stopUnlock | loopNap | loopUnlock => exact .releases trivial rfl id
  | stopLeave | stopYielded | stopChecked | stopFinish =>
    exact .keeps rfl (iff_of_false (not_inWake_resume t) id)
  | _ => exact .keeps rfl (by simp [Local.InWake])

theorem Moves.join :
    LockStep Shared.stopJoinInProgress Local.Joins t s before s' after := by
  cases moves with
  | stopJoin alone => exact .acquires alone rfl trivial
  | stopFinish => exact .releases trivial rfl (not_joins_resume t)
  | stopLeave | stopYielded | stopChecked =>
    exact .keeps rfl (iff_of_false (not_joins_resume t) id)
  | _ => exact .keeps rfl (by simp [Local.Joins])

/-- A move outside `thread_mutex_` leaves what it protects. -/
theorem Moves.guarded_eq (out : ¬ before.InMutex)
    (still : ¬ after.InMutex) : s'.guarded = s.guarded := by
  cases moves with
  | startLock | stopLock | stopRelock | stopReacquire => exact absurd trivial still
  | startRefuse | startAdmit | startCreate | startFail | startThrow | startAnnounce
  | stopWake | stopClear | stopUnlock | stopNone | stopLeave | stopYield | stopYielded | stopSelf
  | stopAwait | stopPark | stopChecked | stopJoin | stopRetire | stopFinish =>
    exact absurd trivial out
  | _ => rfl

theorem Moves.unreaped (now : s'.Unreaped ids n) :
    s.Unreaped ids n ∨
      before = .start .creating ∧ n = s.spawned ∧ s'.thread = some n ∧
        s'.workerThreadId = some (ids (.worker n)) ∧ s'.spawned = n + 1 := by
  have old (id) (v) (other : v ≠ some (.worker n))
      (now : Function.update s.owner id v (ids (.worker n)) = some (.worker n)) :
      s.Unreaped ids n := by
    by_cases same : ids (.worker n) = id
    · rw [same, Function.update_self] at now
      exact absurd now other
    · rwa [Function.update_of_ne same] at now
  cases moves with
  | @create _ c free => exact .inl (old (ids (.caller c)) (some (.caller c)) nofun now)
  | @terminate _ c => exact .inl (old (ids (.caller c)) none nofun now)
  | startCreate free =>
    by_cases new : n = s.spawned
    · subst new
      exact .inr ⟨rfl, rfl, rfl, rfl, rfl⟩
    · refine .inl (old _ _ (fun same => new ?_) now)
      exact (Agent.worker.inj (Option.some.inj same)).symm
  | @stopReap _ _ m done => exact .inl (old (ids (.worker m)) none nofun now)
  | _ => exact .inl now

end

theorem StartPc.Holds.of_guarded {pc : StartPc} (holds : pc.Holds s)
    (same : s'.guarded = s.guarded) : pc.Holds s' := by
  simp only [Shared.guarded, Prod.mk.injEq] at same
  obtain ⟨running, callers, joins, _, thread, _⟩ := same
  cases pc with
  | acquiring | admitting => trivial
  | creating | failing => simpa [StartPc.Holds, running, callers, joins, thread] using holds
  | announcing => simpa [StartPc.Holds, running, callers] using holds

theorem Shared.not_busy (quiet : ¬ s.Busy) :
    s.running = false ∧ s.stopCallers = 0 ∧ s.stopJoinInProgress = none ∧ s.thread = none := by
  simpa [Shared.Busy, not_or] using quiet

end

section

variable {ids : Agent Caller → ℕ} {pool : System Caller} (inv : Invariant ids pool)
include inv

theorem Invariant.reaped_of_unjoinable (unjoinable : pool.shared.thread = none)
    (alone : pool.shared.stopJoinInProgress = none) (n) : ¬ pool.shared.Unreaped ids n := by
  intro unreaped
  rcases inv.held n unreaped with joinable | ⟨t, joins⟩
  · cases unjoinable.symm.trans joinable
  · have owner := (inv.join t).mp (by rw [joins]; trivial)
    cases alone.symm.trans owner

theorem Invariant.reaped_of_joined {t} (joins : (pool.locals t).Joins)
    (past : ∀ n, pool.locals t ≠ .stop (.joining n)) (n) : ¬ pool.shared.Unreaped ids n := by
  intro unreaped
  have owner := (inv.join t).mp joins
  rcases inv.held n unreaped with joinable | ⟨other, joining⟩
  · cases (inv.handle n joinable).2.symm.trans owner
  · have same : other = t := inv.join.exclusive (by rw [joining]; trivial) joins
    rw [same] at joining
    exact past n joining

theorem Invariant.unreaped_of_moving (entered : pool.locals (.worker n) ≠ .loop .top)
    (remains : pool.locals (.worker n) ≠ .loop .exited) : pool.shared.Unreaped ids n := by
  apply inv.alive n
  · by_contra unborn
    exact entered (inv.unborn n (not_lt.mp unborn))
  · rw [← Bool.not_eq_true, inv.finished n]
    exact remains

theorem Invariant.unreaped_of_publishing {running}
    (publishes : pool.locals (.worker n) = .loop (.publishing running)) :
    pool.shared.Unreaped ids n :=
  inv.unreaped_of_moving (by simp [publishes]) (by simp [publishes])

theorem Invariant.ids_ne {c} (present : pool.locals (.caller c) ≠ .absent)
    (unreaped : pool.shared.Unreaped ids n) : ids (.caller c) ≠ ids (.worker n) := by
  intro same
  have owned := inv.existing c present
  rw [same] at owned
  cases unreaped.symm.trans owned

theorem Invariant.isWorker (unreaped : pool.shared.Unreaped ids n) {c}
    (present : pool.locals (.caller c) ≠ .absent) :
    pool.shared.workerThreadId ≠ some (ids (.caller c)) := by
  rw [inv.named n unreaped]
  exact fun same => inv.ids_ne present unreaped (Option.some.inj same).symm

theorem Invariant.unreaped_unique {n m} (first : pool.shared.Unreaped ids n)
    (second : pool.shared.Unreaped ids m) : n = m := by
  have last := inv.last n first
  have other := inv.last m second
  omega

variable {t : Agent Caller} {s : Shared Caller} {before after : Local}

theorem Invariant.reaped_of_creating (here : pool.locals t = .start .creating) (n) :
    ¬ pool.shared.Unreaped ids n := by
  obtain ⟨_, alone, _, unjoinable⟩ := inv.started t _ here
  exact inv.reaped_of_unjoinable unjoinable alone n

theorem Invariant.unsettled_of_deciding (here : pool.locals t = .stop .deciding)
    (joins : pool.shared.stopJoinInProgress.isSome = true) :
    ∃ other, other ≠ t ∧ (pool.locals other).Unsettled := by
  obtain ⟨other, owner⟩ := Option.isSome_iff_exists.mp joins
  have joining : (pool.locals other).Joins := (inv.join other).mpr owner
  have ne : other ≠ t := by
    rintro rfl
    rw [here] at joining
    exact joining
  refine ⟨other, ne, joining.unsettled.resolve_right fun inside => ?_⟩
  exact ne (inv.mutex.exclusive inside (by rw [here]; trivial))

/-- Beside a stop that is counted, nothing sets `running_`. -/
theorem Invariant.running_move (moves : Moves ids t pool.shared before s after) {other}
    (counted : (pool.locals other).Counted) (stopped : pool.shared.running = false) :
    s.running = false := by
  cases moves with
  | startAdmit quiet =>
    have pos := inv.counted.pos counted
    have noCallers := (Shared.not_busy quiet).2.1
    omega
  | startFail | stopClear => rfl
  | _ => exact stopped

variable (here : pool.locals t = before) (moves : Moves ids t pool.shared before s after)
include here moves

theorem Invariant.unreaped_kept (old : pool.shared.Unreaped ids n) :
    s.Unreaped ids n ∨ before = .stop (.joining n) ∧ pool.shared.finished n = true := by
  have kept (id) (v) (ne : ids (.worker n) ≠ id) :
      Function.update pool.shared.owner id v (ids (.worker n)) = some (.worker n) := by
    rwa [Function.update_of_ne ne]
  cases moves with
  | create free | startCreate free =>
    refine .inl (kept _ _ fun same => ?_)
    rw [Shared.Unreaped, same, free] at old
    cases old
  | @terminate _ c =>
    exact .inl (kept _ _ (inv.ids_ne (by rw [here]; exact nofun) old).symm)
  | @stopReap _ _ m done =>
    have joined := inv.joining t m here
    by_cases same : n = m
    · subst same
      exact .inr ⟨rfl, done⟩
    · exact absurd (inv.unreaped_unique old joined) same
  | _ => exact .inl old

theorem Invariant.last_move (now : s.Unreaped ids n) : n + 1 = s.spawned := by
  rcases moves.unreaped now with old | ⟨_, _, _, _, grown⟩
  · cases moves with
    | startCreate => exact absurd old (inv.reaped_of_creating here n)
    | _ => exact inv.last n old
  · exact grown.symm

theorem Invariant.handle_move (now : s.thread = some n) :
    s.Unreaped ids n ∧ s.stopJoinInProgress = none := by
  have kept (old : pool.shared.thread = some n) : s.Unreaped ids n := by
    obtain ⟨unreaped, alone⟩ := inv.handle n old
    rcases inv.unreaped_kept here moves unreaped with still | ⟨joining, _⟩
    · exact still
    · have owner := (inv.join t).mp (by rw [here, joining]; trivial)
      cases alone.symm.trans owner
  cases moves with
  | startCreate =>
    obtain rfl := Option.some.inj now
    exact ⟨Function.update_self _ _ _, (inv.started t _ here).2.1⟩
  | stopJoin => cases now
  | stopFinish => exact ⟨kept now, rfl⟩
  | _ => exact ⟨kept now, (inv.handle n now).2⟩

theorem Invariant.named_move (now : s.Unreaped ids n) :
    s.workerThreadId = some (ids (.worker n)) := by
  rcases moves.unreaped now with old | ⟨_, _, _, named, _⟩
  · cases moves with
    | startCreate | startFail => exact absurd old (inv.reaped_of_creating here n)
    | stopNone alone unjoinable => exact absurd old (inv.reaped_of_unjoinable unjoinable alone n)
    | stopRetire =>
      exact absurd old (inv.reaped_of_joined (by rw [here]; trivial) (by simp [here]) n)
    | _ => exact inv.named n old
  · exact named

theorem Invariant.alive_move (born : n < s.spawned) (remains : s.finished n = false) :
    s.Unreaped ids n := by
  have kept (born : n < pool.shared.spawned) (remains : pool.shared.finished n = false) :
      s.Unreaped ids n := by
    rcases inv.unreaped_kept here moves (inv.alive n born remains) with still | ⟨_, done⟩
    · exact still
    · cases remains.symm.trans done
  cases moves with
  | startCreate =>
    rcases Nat.lt_succ_iff_lt_or_eq.mp born with earlier | rfl
    · exact kept earlier remains
    · exact Function.update_self _ _ _
  | @loopExit _ m _ _ =>
    change Function.update pool.shared.finished m true n = false at remains
    by_cases same : n = m
    · rw [same, Function.update_self] at remains
      cases remains
    · rw [Function.update_of_ne same] at remains
      exact kept born remains
  | _ => exact kept born remains

theorem Invariant.quiet_move {other} (counted : (pool.locals other).Counted)
    (quiet : pool.shared.Quiet ids) : s.Quiet ids where
  running := inv.running_move moves counted quiet.running
  published := by
    have pos := inv.counted.pos counted
    cases moves with
    | startThrow | stopNone | stopSelf | stopRetire => rfl
    | startAnnounce =>
      have noCallers := (inv.started _ _ here).1
      omega
    | @loopPublish _ n running =>
      exact absurd (inv.unreaped_of_publishing here) (quiet.reaped n)
    | _ => exact quiet.published
  reaped n now := by
    rcases moves.unreaped now with old | ⟨rfl, _⟩
    · exact quiet.reaped n old
    · have pos := inv.counted.pos counted
      have noCallers := (inv.started t _ here).1
      omega

end

section

variable [DecidableEq Caller] {ids : Agent Caller → ℕ} {pool : System Caller} {t : Agent Caller}
  {s : Shared Caller} {before after : Local} (inv : Invariant ids pool)
include inv

theorem Invariant.settled_of_reaped (stopped : s.running = false) (pub : s.published = false)
    (idle : ∀ r, after ≠ .loop (.publishing r)) (reaped : ∀ n, ¬ pool.shared.Unreaped ids n) :
    s.published = s.running ∧
      ∀ n running, (pool.set t s after).locals (.worker n) = .loop (.publishing running) →
        running = s.running := by
  refine ⟨pub.trans stopped.symm, fun n running publishes => ?_⟩
  have was := Pool.locals_of_set (idle running) publishes
  exact absurd (inv.unreaped_of_publishing was) (reaped n)

variable (here : pool.locals t = before) (moves : Moves ids t pool.shared before s after)
include here moves

/-- While another thread holds `thread_mutex_`, a move leaves what it protects. -/
theorem Invariant.frame {holder} (ne : holder ≠ t)
    (holds : (pool.locals holder).InMutex) : s.guarded = pool.shared.guarded := by
  have guards := inv.mutex.set here moves.mutex
  refine moves.guarded_eq (fun inside => ?_) fun inside => ?_
  · exact ne (inv.mutex.exclusive holds (by rw [here]; exact inside))
  · have other : ((pool.set t s after).locals holder).InMutex := by
      rw [Pool.set_other _ ne]
      exact holds
    exact ne (guards.exclusive other (by rw [Pool.set_self]; exact inside))

theorem Invariant.counted_move :
    Counts Local.Counted (pool.set t s after).locals s.stopCallers := by
  have counted := inv.counted
  have leaves (inside : before.Counted) :
      Counts Local.Counted (pool.set t s t.resume).locals (pool.shared.stopCallers - 1) := by
    have pos : 0 < pool.shared.stopCallers := counted.pos (by rw [here]; exact inside)
    exact counted.update_leave (Nat.succ_pred_eq_of_pos pos).symm (by rw [here]; exact inside)
      (not_counted_resume t)
  cases moves with
  | stopLock => exact counted.update_enter (by simp [here, Local.Counted]) trivial
  | stopLeave | stopYielded | stopChecked | stopFinish => exact leaves trivial
  | _ => exact counted.update_same (by simp [here, Local.Counted])

theorem Invariant.fits_move : ∀ other, ((pool.set t s after).locals other).Fits other := by
  refine Pool.forall_set (fun another (l : Local) => l.Fits another) ?_ fun other _ =>
    inv.fits other
  have old := here ▸ inv.fits t
  -- A worker that decides knows itself, and has itself to be joined.
  have itself (n) (worker : t = .worker n) (deciding : before = .stop .deciding) :
      pool.shared.Unreaped ids n := by
    subst worker deciding
    exact inv.unreaped_of_moving (by simp [here]) (by simp [here])
  cases moves with
  | stopLeave | stopYielded | stopChecked | stopFinish => exact fits_resume t
  | stopNone alone unjoinable =>
    cases t with
    | caller c => trivial
    | worker n => exact absurd (itself n rfl rfl) (inv.reaped_of_unjoinable unjoinable alone n)
  | stopAwait joins other | stopJoin alone joinable other =>
    cases t with
    | caller c => trivial
    | worker n => exact absurd (inv.named n (itself n rfl rfl)) other
  | _ => first | trivial | (cases t <;> exact old)

theorem Invariant.existing_move :
    ∀ c, (pool.set t s after).locals (.caller c) ≠ .absent →
      s.owner (ids (.caller c)) = some (.caller c) := by
  intro c present
  have was (moved : before ≠ .absent) : pool.locals (.caller c) ≠ .absent := by
    by_cases same : Agent.caller c = t
    · rw [same, here]
      exact moved
    · rwa [Pool.set_other _ same] at present
  -- Whoever has the identifier keeps it, unless the thread itself goes.
  have kept (id) (v) (ne : ids (.caller c) ≠ id)
      (was : pool.locals (.caller c) ≠ .absent) :
      Function.update pool.shared.owner id v (ids (.caller c)) = some (.caller c) := by
    rw [Function.update_of_ne ne]
    exact inv.existing c was
  have taken (id) (free : pool.shared.owner id = none)
      (was : pool.locals (.caller c) ≠ .absent) : ids (.caller c) ≠ id := by
    rintro rfl
    cases free.symm.trans (inv.existing c was)
  cases moves with
  | @create _ mover free =>
    by_cases same : Agent.caller c = .caller mover
    · cases same
      exact Function.update_self _ _ _
    · rw [Pool.set_other _ same] at present
      exact kept _ _ (taken _ free present) present
  | @terminate _ mover =>
    by_cases same : Agent.caller c = .caller mover
    · rw [same, Pool.set_self] at present
      exact absurd rfl present
    · refine kept _ _ (fun eq => ?_) (was nofun)
      have owned := inv.existing c (was nofun)
      rw [eq, inv.existing mover (by rw [here]; exact nofun)] at owned
      exact same (Option.some.inj owned).symm
  | startCreate free => exact kept _ _ (taken _ free (was nofun)) (was nofun)
  | @stopReap _ _ n done =>
    exact kept _ _ (inv.ids_ne (was nofun) (inv.joining t n here)) (was nofun)
  | _ => exact inv.existing c (was nofun)

theorem Invariant.held_move (now : s.Unreaped ids n) :
    s.thread = some n ∨ ∃ another, (pool.set t s after).locals another = .stop (.joining n) := by
  rcases moves.unreaped now with old | ⟨_, _, handle, _, _⟩
  · rcases inv.held n old with joinable | ⟨another, joins⟩
    · cases moves with
      | startCreate => exact absurd old (inv.reaped_of_creating here n)
      | stopJoin _ other =>
        obtain rfl := Option.some.inj (joinable.symm.trans other)
        exact .inr ⟨t, Pool.set_self _ _ _ _⟩
      | _ => exact .inl joinable
    · refine .inr ⟨another, ?_⟩
      by_cases same : another = t
      · subst same
        obtain rfl := here.symm.trans joins
        cases moves with
        | stopReap =>
          have gone : (pool.shared.disown (ids (.worker n))).owner (ids (.worker n)) = none :=
            Function.update_self _ _ _
          cases gone.symm.trans now
      · rw [Pool.set_other _ same]
        exact joins
  · exact .inl handle

theorem Invariant.joining_move :
    ∀ another n, (pool.set t s after).locals another = .stop (.joining n) → s.Unreaped ids n := by
  refine Pool.forall_set (fun _ (l : Local) => ∀ n, l = .stop (.joining n) → s.Unreaped ids n) ?_ ?_
  · intro n joins
    cases moves with
    | stopJoin _ joinable =>
      cases joins
      exact (inv.handle n joinable).1
    | stopLeave | stopYielded | stopChecked | stopFinish => cases t <;> cases joins
    | _ => cases joins
  · intro another ne n joins
    rcases inv.unreaped_kept here moves (inv.joining another n joins) with still | ⟨joining, _⟩
    · exact still
    · have other : (pool.locals another).Joins := by rw [joins]; trivial
      have mover : (pool.locals t).Joins := by rw [here, joining]; trivial
      exact absurd (inv.join.exclusive other mover) ne

theorem Invariant.unborn_move (unborn : s.spawned ≤ n) :
    (pool.set t s after).locals (.worker n) = .loop .top := by
  have earlier : pool.shared.spawned ≤ n := by
    cases moves with
    | startCreate => exact Nat.le_of_succ_le unborn
    | _ => exact unborn
  have top := inv.unborn n earlier
  by_cases same : Agent.worker n = t
  · subst same
    obtain rfl := here.symm.trans top
    cases moves with
    | loopEnter born | loopExit born => exact absurd born (not_lt.mpr earlier)
  · rwa [Pool.set_other _ same]

theorem Invariant.finished_move (n) :
    s.finished n = true ↔ (pool.set t s after).locals (.worker n) = .loop .exited := by
  have old := inv.finished n
  by_cases same : Agent.worker n = t
  · subst same
    rw [here] at old
    cases moves with
    | loopExit => simp
    | _ => simpa [Agent.resume, Shared.own, Shared.disown, Shared.leave] using old
  · rw [Pool.set_other _ same]
    cases moves with
    | @loopExit _ m _ _ =>
      have ne : n ≠ m := fun eq => same (congrArg Agent.worker eq)
      have kept : Function.update pool.shared.finished m true n = pool.shared.finished n :=
        Function.update_of_ne ne _ _
      exact (iff_of_eq (congrArg (· = true) kept)).trans old
    | _ => exact old

theorem Invariant.started_move :
    ∀ other pc, (pool.set t s after).locals other = .start pc → pc.Holds s := by
  intro other pc starts
  by_cases same : other = t
  · subst same
    rw [Pool.set_self] at starts
    cases moves with
    | callStart | startLock => cases starts; trivial
    | startAdmit quiet =>
      cases starts
      obtain ⟨_, callers, joins, thread⟩ := Shared.not_busy quiet
      exact ⟨callers, joins, rfl, thread⟩
    | startCreate =>
      cases starts
      obtain ⟨callers, _, running, _⟩ := inv.started other _ here
      exact ⟨callers, running⟩
    | startFail =>
      cases starts
      obtain ⟨callers, joins, _, thread⟩ := inv.started other _ here
      exact ⟨callers, joins, rfl, thread⟩
    | stopLeave | stopYielded | stopChecked | stopFinish => cases other <;> cases starts
    | _ => cases starts
  · rw [Pool.set_other _ same] at starts
    cases pc with
    | acquiring | admitting => trivial
    | _ =>
      apply (inv.started other _ starts).of_guarded
      exact inv.frame here moves same (by rw [starts]; trivial)

theorem Invariant.cleared_move :
    ∀ other, ((pool.set t s after).locals other).Cleared → s.running = false := by
  refine Pool.forall_set (fun _ (l : Local) => l.Cleared → s.running = false) ?_ ?_
  · intro cleared
    have old := inv.cleared t
    rw [here] at old
    cases moves with
    | stopClear => rfl
    | stopLeave | stopYielded | stopChecked | stopFinish => exact old trivial
    | _ => first | exact old trivial | exact cleared.elim
  · intro other _ cleared
    exact inv.running_move moves cleared.counted (inv.cleared other cleared)

theorem Invariant.sleeping_move :
    ∀ other seen, (pool.set t s after).locals other = .stop (.sleeping seen) → seen ≤ s.threadCv ∧
      (seen = s.threadCv → s.stopJoinInProgress.isSome = true) := by
  refine Pool.forall_set (fun _ (l : Local) => ∀ seen, l = .stop (.sleeping seen) →
    seen ≤ s.threadCv ∧ (seen = s.threadCv → s.stopJoinInProgress.isSome = true)) ?_ ?_
  · intro seen sleeps
    cases moves with
    | stopPark joins =>
      cases sleeps
      exact ⟨le_rfl, fun _ => joins⟩
    | stopLeave | stopYielded | stopChecked | stopFinish => cases t <;> cases sleeps
    | _ => cases sleeps
  · intro other _ seen sleeps
    obtain ⟨past, joins⟩ := inv.sleeping other seen sleeps
    cases moves with
    | stopLeave | stopYielded | stopChecked | stopFinish =>
      refine ⟨Nat.le_succ_of_le past, fun same => ?_⟩
      have beyond : seen = pool.shared.threadCv + 1 := same
      omega
    | stopJoin => exact ⟨past, fun _ => rfl⟩
    | _ => exact ⟨past, joins⟩

theorem Invariant.loads_move {running}
    (publishes : (pool.set t s after).locals (.worker n) = .loop (.publishing running))
    (now : s.running = true) : running = true := by
  by_cases same : Agent.worker n = t
  · subst same
    rw [Pool.set_self] at publishes
    cases moves with
    | loopLoad =>
      cases publishes
      exact now
    | _ => cases publishes
  · rw [Pool.set_other _ same] at publishes
    cases moves with
    | startAdmit quiet =>
      obtain ⟨_, _, alone, unjoinable⟩ := Shared.not_busy quiet
      have unreaped := inv.unreaped_of_moving (n := n) (by simp [publishes]) (by simp [publishes])
      exact absurd unreaped (inv.reaped_of_unjoinable unjoinable alone n)
    | startFail | stopClear => cases now
    | _ => exact inv.loads n running publishes now

theorem Invariant.answered_move :
    ∀ c, ((pool.set t s after).locals (.caller c)).Answered → s.Quiet ids := by
  intro c answered
  by_cases same : Agent.caller c = t
  · subst same
    rw [Pool.set_self] at answered
    have stopped := inv.cleared (.caller c)
    rw [here] at stopped
    cases moves with
    | stopNone alone unjoinable =>
      exact ⟨stopped trivial, rfl, inv.reaped_of_unjoinable unjoinable alone⟩
    | stopSelf alone joinable itself =>
      have unreaped := (inv.handle _ joinable).1
      exact absurd itself (inv.isWorker unreaped (by rw [here]; exact nofun))
    | stopRetire =>
      exact ⟨stopped trivial, rfl,
        inv.reaped_of_joined (by rw [here]; trivial) (by simp [here])⟩
    | _ => exact answered.elim
  · rw [Pool.set_other _ same] at answered
    exact inv.quiet_move here moves answered.counted (inv.answered c answered)

theorem Invariant.waiting_move :
    ∀ c, ((pool.set t s after).locals (.caller c)).Waiting →
      s.stopJoinInProgress.isSome = true ∨ s.Quiet ids := by
  intro c waiting
  by_cases same : Agent.caller c = t
  · subst same
    rw [Pool.set_self] at waiting
    have old := inv.waiting c
    rw [here] at old
    have quiet (counted) (quiet) : s.Quiet ids :=
      inv.quiet_move here moves (by rw [here]; exact counted) quiet
    cases moves with
    | stopAwait joins | stopPark joins => exact .inl joins
    | stopNotified | stopSpurious => exact old trivial
    | stopRelock => exact (old trivial).imp_right (quiet trivial)
    | _ => exact waiting.elim
  · rw [Pool.set_other _ same] at waiting
    have quiet := inv.quiet_move here moves waiting.counted
    cases moves with
    | stopJoin => exact .inl rfl
    | stopFinish =>
      cases t with
      | caller other => exact .inr (quiet (inv.answered other (by rw [here]; trivial)))
      | worker n =>
        have fits := inv.fits (.worker n)
        rw [here] at fits
        exact fits.elim
    | _ => exact (inv.waiting c waiting).imp_right quiet

theorem Invariant.yielding_move :
    ∀ c, (pool.set t s after).locals (.caller c) = .stop .yielding →
      s.stopJoinInProgress.isSome = true ∧ s.workerThreadId = some (ids (.caller c)) ∧
        ∀ n, ¬ s.Unreaped ids n := by
  intro c yields
  by_cases same : Agent.caller c = t
  · subst same
    rw [Pool.set_self] at yields
    cases moves with
    | stopYield joins itself =>
      refine ⟨joins, itself, fun n unreaped => ?_⟩
      exact inv.isWorker unreaped (by rw [here]; exact nofun) itself
    | _ => cases yields
  · rw [Pool.set_other _ same] at yields
    obtain ⟨joins, itself, reaped⟩ := inv.yielding c yields
    have inside : (pool.locals (.caller c)).InMutex := by rw [yields]; trivial
    have guarded := inv.frame here moves same inside
    simp only [Shared.guarded, Prod.mk.injEq] at guarded
    refine ⟨guarded.2.2.1 ▸ joins, guarded.2.2.2.1 ▸ itself, fun n now => ?_⟩
    rcases moves.unreaped now with old | ⟨rfl, _⟩
    · exact reaped n old
    · exact same (inv.mutex.exclusive inside (by rw [here]; trivial))

theorem Invariant.settled_move (calm : ∀ other, ¬ ((pool.set t s after).locals other).Unsettled) :
    s.published = s.running ∧
      ∀ n running, (pool.set t s after).locals (.worker n) = .loop (.publishing running) →
        running = s.running := by
  have mover : ¬ after.Unsettled := by
    have calm := calm t
    rwa [Pool.set_self] at calm
  have others (other) (ne : other ≠ t) : ¬ (pool.locals other).Unsettled := by
    have calm := calm other
    rwa [Pool.set_other _ ne] at calm
  have old (calmBefore) := inv.settled fun other => by
    by_cases same : other = t
    · rw [same, here]
      exact calmBefore
    · exact others other same
  -- A publication by another thread than the worker.
  have was {n} {running} (idle : ∀ r, after ≠ .loop (.publishing r))
      (publishes : (pool.set t s after).locals (.worker n) = .loop (.publishing running)) :
      pool.locals (.worker n) = .loop (.publishing running) :=
    Pool.locals_of_set (idle running) publishes
  have stopped := inv.cleared t
  rw [here] at stopped
  cases moves with
  | startAdmit | startCreate | startFail
  | stopClear | stopUnlock | stopJoin | stopReap | stopReacquire => exact absurd trivial mover
  | startThrow =>
    obtain ⟨_, alone, running, unjoinable⟩ := inv.started _ _ here
    exact inv.settled_of_reaped running rfl nofun (inv.reaped_of_unjoinable unjoinable alone)
  | startAnnounce =>
    have running := (inv.started _ _ here).2
    refine ⟨running.symm, fun n r publishes => ?_⟩
    exact (inv.loads n r (was nofun publishes) running).trans running.symm
  | stopNone alone unjoinable =>
    exact inv.settled_of_reaped (stopped trivial) rfl nofun
      (inv.reaped_of_unjoinable unjoinable alone)
  | stopRetire =>
    exact inv.settled_of_reaped (stopped trivial) rfl nofun
      (inv.reaped_of_joined (by rw [here]; trivial) (by simp [here]))
  | @stopSelf _ _ m alone joinable itself =>
    refine ⟨(stopped trivial).symm, fun n r publishes => ?_⟩
    have unreaped := (inv.handle m joinable).1
    cases t with
    | caller c => exact absurd itself (inv.isWorker unreaped (by rw [here]; exact nofun))
    | worker k =>
      have publishing := was nofun publishes
      have self := inv.unreaped_of_moving (n := k) (by simp [here]) (by simp [here])
      rw [inv.unreaped_unique (inv.unreaped_of_publishing publishing) self, here] at publishing
      cases publishing
  | stopYield joins | stopAwait joins =>
    obtain ⟨other, ne, unsettled⟩ := inv.unsettled_of_deciding here joins
    exact absurd unsettled (others other ne)
  | @loopLoad _ m =>
    refine ⟨(old id).1, fun n r publishes => ?_⟩
    by_cases same : (Agent.worker n : Agent Caller) = .worker m
    · rw [same, Pool.set_self] at publishes
      cases publishes
      rfl
    · rw [Pool.set_other _ same] at publishes
      exact (old id).2 n r publishes
  | @loopPublish _ m running =>
    exact ⟨(old id).2 m running here, fun n r publishes => (old id).2 n r (was nofun publishes)⟩
  | stopLeave | stopYielded | stopChecked | stopFinish =>
    exact ⟨(old id).1, fun n r publishes => (old id).2 n r (was (by cases t <;> nofun) publishes)⟩
  | _ => exact ⟨(old id).1, fun n r publishes => (old id).2 n r (was nofun publishes)⟩

theorem Invariant.move : Invariant ids (pool.set t s after) where
  mutex := inv.mutex.set here moves.mutex
  wake := inv.wake.set here moves.wake
  join := inv.join.set here moves.join
  counted := inv.counted_move here moves
  fits := inv.fits_move here moves
  existing := inv.existing_move here moves
  last _ := inv.last_move here moves
  held _ := inv.held_move here moves
  handle _ := inv.handle_move here moves
  joining := inv.joining_move here moves
  named _ := inv.named_move here moves
  alive _ := inv.alive_move here moves
  unborn _ := inv.unborn_move here moves
  finished := inv.finished_move here moves
  started := inv.started_move here moves
  cleared := inv.cleared_move here moves
  sleeping := inv.sleeping_move here moves
  loads _ _ := inv.loads_move here moves
  settled := inv.settled_move here moves
  waiting := inv.waiting_move here moves
  answered := inv.answered_move here moves
  yielding := inv.yielding_move here moves

end

theorem initial_not {region : Local → Prop} (absent : ¬ region .absent)
    (top : ¬ region (.loop .top)) (t) : ¬ region ((initial Caller).locals t) := by
  cases t with
  | caller c => exact absent
  | worker n => exact top

theorem initial_invariant (ids) : Invariant ids (initial Caller) where
  mutex t := iff_of_false (initial_not id id t) nofun
  wake t := iff_of_false (initial_not id id t) nofun
  join t := iff_of_false (initial_not id id t) nofun
  counted := Counts.of_empty (initial_not id id)
  fits t := by cases t <;> trivial
  existing _ present := absurd rfl present
  last _ := nofun
  held _ := nofun
  handle _ := nofun
  joining t n joins := by cases t <;> cases joins
  named _ := nofun
  alive _ := nofun
  unborn _ _ := rfl
  finished _ := iff_of_false nofun nofun
  started t pc starts := by cases t <;> cases starts
  cleared t cleared := absurd cleared (initial_not id id t)
  sleeping t seen sleeps := by cases t <;> cases sleeps
  loads _ _ := nofun
  settled _ := ⟨rfl, nofun⟩
  waiting c waiting := absurd waiting (initial_not id id (.caller c))
  answered c answered := absurd answered (initial_not id id (.caller c))
  yielding _ := nofun

theorem Execution.invariant [DecidableEq Caller] {ids : Agent Caller → ℕ} {trace length}
    (execution : Execution ids trace length) : ∀ i ≤ length, Invariant ids (trace i) := by
  refine execution.run.invariant ?_ ?_
  · rw [execution.start]
    exact initial_invariant ids
  · rintro _ _ inv ⟨t, here, moves⟩
    exact inv.move here moves

end ThermalSimd.Fusion
