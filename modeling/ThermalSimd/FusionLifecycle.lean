import Mathlib.Tactic.IntervalCases
import ThermalSimd.FusionThread

/-!
# The lifecycle of the fusion worker

At most one worker lives, a start beside a registered stop changes nothing, a stop returns after the
join and the publication, nobody waits in a circle, and the published running flag is right whenever
no call is in flight.
-/

namespace ThermalSimd.Fusion

open Interleaving
open Relation (ReflTransGen)

variable {Caller : Type} {ids : Agent Caller → ℕ} {pool : System Caller}

variable {t : Agent Caller} {s : Shared Caller}

/-- A call of `start` or `stop` is in flight. -/
def Local.Calls : Local → Prop
  | .start _ | .stop _ => True
  | _ => False

/-- The worker has been created and has not returned from `run`. -/
def Alive (pool : System Caller) (n : ℕ) : Prop :=
  n < pool.shared.spawned ∧ pool.locals (.worker n) ≠ .loop .exited

def Active (pool : System Caller) : Agent Caller → Prop
  | .caller c => (pool.locals (.caller c)).Calls
  | .worker n => Alive pool n

theorem Invariant.unreaped_of_alive (inv : Invariant ids pool) {n} (alive : Alive pool n) :
    pool.shared.Unreaped ids n := by
  apply inv.alive n alive.1
  rw [← Bool.not_eq_true, inv.finished n]
  exact alive.2

/-- About to take `thread_mutex_`. -/
def Local.NeedsMutex : Local → Prop
  | .start .acquiring | .stop .entering | .stop .relocking | .stop .reaped => True
  | _ => False

/-- About to take `wake_mutex_`. -/
def Local.NeedsWake : Local → Prop
  | .stop .locked | .loop .waking => True
  | _ => False

theorem Local.awake {region : Local → Prop} (outside : ∀ seen, ¬ region (.stop (.sleeping seen)))
    {l} (inside : region l) (seen) : l ≠ .stop (.sleeping seen) := by
  rintro rfl
  exact outside seen inside

/-- Who waits for whom. -/
inductive WaitsFor (pool : System Caller) : Agent Caller → Agent Caller → Prop
  | mutex {t holder} (needs : (pool.locals t).NeedsMutex)
      (held : pool.shared.threadMutex = some holder) :
      WaitsFor pool t holder
  | wake {t holder} (needs : (pool.locals t).NeedsWake)
      (held : pool.shared.wakeMutex = some holder) :
      WaitsFor pool t holder
  | notification {t owner seen} (sleeps : pool.locals t = .stop (.sleeping seen))
      (joins : pool.shared.stopJoinInProgress = some owner) :
      WaitsFor pool t owner
  | join {t n} (joins : pool.locals t = .stop (.joining n)) : WaitsFor pool t (.worker n)

/-- The thread can go on; one that sleeps on `thread_cv_` has to be notified first. -/
def CanMove (ids : Agent Caller → ℕ) (pool : System Caller) (t : Agent Caller) : Prop :=
  (∀ seen, pool.locals t = .stop (.sleeping seen) → seen ≠ pool.shared.threadCv) ∧
    ∃ s after, Moves ids t pool.shared (pool.locals t) s after

def Progresses (ids : Agent Caller → ℕ) (pool : System Caller) (t : Agent Caller) : Prop :=
  ∃ other, ReflTransGen (WaitsFor pool) t other ∧ CanMove ids pool other

theorem CanMove.progresses (moves : CanMove ids pool t) : Progresses ids pool t :=
  ⟨t, .refl, moves⟩

theorem WaitsFor.progresses {t other} (waits : WaitsFor pool t other)
    (progresses : Progresses ids pool other) : Progresses ids pool t := by
  obtain ⟨v, path, moves⟩ := progresses
  exact ⟨v, .head waits path, moves⟩

theorem canMove_of {before after} (here : pool.locals t = before)
    (awake : ∀ seen, before ≠ .stop (.sleeping seen))
    (moves : Moves ids t pool.shared before s after) : CanMove ids pool t := by
  subst here
  exact ⟨fun seen sleeps => absurd sleeps (awake seen), s, after, moves⟩

theorem Invariant.canMove_of_inWake (inv : Invariant ids pool) (inside : (pool.locals t).InWake) :
    CanMove ids pool t := by
  have fits := inv.fits t
  cases here : pool.locals t with
  | stop pc =>
    rw [here] at inside
    cases pc with
    | clearing => exact canMove_of here nofun .stopClear
    | unlocking => exact canMove_of here nofun .stopUnlock
    | _ => exact inside.elim
  | loop pc =>
    rw [here] at inside fits
    cases pc with
    | wakeChecking =>
      cases t with
      | caller c => exact fits.elim
      | worker n => exact canMove_of here nofun .loopUnlock
    | _ => exact inside.elim
  | _ =>
    rw [here] at inside
    exact inside.elim

/-- A thread about to take `wake_mutex_` takes it, or its holder can go on. -/
theorem Invariant.progresses_of_needsWake (inv : Invariant ids pool) {before after}
    (here : pool.locals t = before) (needs : before.NeedsWake)
    (locks : pool.shared.wakeMutex = none → Moves ids t pool.shared before s after) :
    Progresses ids pool t := by
  cases held : pool.shared.wakeMutex with
  | none => exact (canMove_of here (Local.awake (fun _ => id) needs) (locks held)).progresses
  | some holder =>
    subst here
    have inside : (pool.locals holder).InWake := (inv.wake holder).mpr held
    exact (WaitsFor.wake needs held).progresses (inv.canMove_of_inWake inside).progresses

theorem canMove_of_deciding (here : pool.locals t = .stop .deciding) : CanMove ids pool t := by
  cases joins : pool.shared.stopJoinInProgress with
  | some =>
    have busy : pool.shared.stopJoinInProgress.isSome = true := by rw [joins]; rfl
    by_cases itself : pool.shared.workerThreadId = some (ids t)
    · exact canMove_of here nofun (.stopYield busy itself)
    · exact canMove_of here nofun (.stopAwait busy itself)
  | none =>
    cases joinable : pool.shared.thread with
    | none => exact canMove_of here nofun (.stopNone joins joinable)
    | some n =>
      by_cases itself : pool.shared.workerThreadId = some (ids t)
      · exact canMove_of here nofun (.stopSelf joins joinable itself)
      · exact canMove_of here nofun (.stopJoin joins joinable itself)

section

variable (inv : Invariant ids pool)
include inv

/-- Whoever holds `thread_mutex_` can go on, or waits for `wake_mutex_`. -/
theorem Invariant.progresses_of_inMutex
    (inside : (pool.locals t).InMutex) : Progresses ids pool t := by
  have fits := inv.fits t
  cases here : pool.locals t with
  | start pc =>
    rw [here] at inside fits
    cases t with
    | worker n => cases pc <;> exact fits.elim
    | caller c =>
      apply CanMove.progresses
      cases pc with
      | acquiring => exact inside.elim
      | admitting =>
        by_cases busy : pool.shared.Busy
        · exact canMove_of here nofun (.startRefuse busy)
        · exact canMove_of here nofun (.startAdmit busy)
      | creating => exact canMove_of here nofun .startFail
      | announcing => exact canMove_of here nofun .startAnnounce
      | failing => exact canMove_of here nofun .startThrow
  | stop pc =>
    rw [here] at inside
    cases pc with
    | locked =>
      exact inv.progresses_of_needsWake here trivial .stopWake
    | clearing => exact (canMove_of here nofun .stopClear).progresses
    | unlocking => exact (canMove_of here nofun .stopUnlock).progresses
    | deciding => exact (canMove_of_deciding here).progresses
    | leaving => exact (canMove_of here nofun .stopLeave).progresses
    | yielding => exact (canMove_of here nofun .stopYielded).progresses
    | checking =>
      apply CanMove.progresses
      cases joins : pool.shared.stopJoinInProgress with
      | none => exact canMove_of here nofun (.stopChecked joins)
      | some => exact canMove_of here nofun (.stopPark (by rw [joins]; rfl))
    | retiring => exact (canMove_of here nofun .stopRetire).progresses
    | finishing => exact (canMove_of here nofun .stopFinish).progresses
    | _ => exact inside.elim
  | _ =>
    rw [here] at inside
    exact inside.elim

/-- A thread about to take `thread_mutex_` takes it, or its holder makes progress. -/
theorem Invariant.progresses_of_needsMutex {before after}
    (here : pool.locals t = before) (needs : before.NeedsMutex)
    (locks : pool.shared.threadMutex = none → Moves ids t pool.shared before s after) :
    Progresses ids pool t := by
  cases held : pool.shared.threadMutex with
  | none => exact (canMove_of here (Local.awake (fun _ => id) needs) (locks held)).progresses
  | some holder =>
    subst here
    have inside : (pool.locals holder).InMutex := (inv.mutex holder).mpr held
    exact (WaitsFor.mutex needs held).progresses (inv.progresses_of_inMutex inside)

theorem Invariant.progresses_of_alive {n} (alive : Alive pool n) :
    Progresses ids pool (.worker n) := by
  have fits := inv.fits (.worker n)
  cases here : pool.locals (.worker n) with
  | loop pc =>
    cases pc with
    | top =>
      apply CanMove.progresses
      cases running : pool.shared.running with
      | true => exact canMove_of here nofun (.loopEnter alive.1 running)
      | false => exact canMove_of here nofun (.loopExit alive.1 running)
    | body => exact (canMove_of here nofun .loopReturn).progresses
    | publishing r => exact (canMove_of here nofun .loopPublish).progresses
    | pausing => exact (canMove_of here nofun .loopOverrun).progresses
    | waking =>
      exact inv.progresses_of_needsWake here trivial .loopLock
    | wakeChecking => exact (canMove_of here nofun .loopUnlock).progresses
    | napping => exact (canMove_of here nofun .loopRouse).progresses
    | exited => exact absurd here alive.2
  | stop pc =>
    rw [here] at fits
    cases pc with
    | entering =>
      exact inv.progresses_of_needsMutex here trivial .stopLock
    | locked | clearing | unlocking | deciding | leaving | yielding =>
      exact inv.progresses_of_inMutex (by rw [here]; trivial)
    | _ => exact fits.elim
  | _ =>
    rw [here] at fits
    exact fits.elim

theorem Invariant.progresses_of_joins (joins : (pool.locals t).Joins) :
    Progresses ids pool t := by
  cases here : pool.locals t with
  | stop pc =>
    rw [here] at joins
    cases pc with
    | joining n =>
      by_cases done : pool.shared.finished n = true
      · exact (canMove_of here nofun (.stopReap done)).progresses
      · have unreaped := inv.joining t n here
        have born : n < pool.shared.spawned := by
          have last := inv.last n unreaped
          omega
        exact (WaitsFor.join here).progresses
          (inv.progresses_of_alive ⟨born, mt (inv.finished n).mpr done⟩)
    | reaped =>
      exact inv.progresses_of_needsMutex here trivial .stopReacquire
    | retiring | finishing => exact inv.progresses_of_inMutex (by rw [here]; trivial)
    | _ => exact joins.elim
  | _ =>
    rw [here] at joins
    exact joins.elim

theorem Invariant.progresses_of_calls (calls : (pool.locals t).Calls) :
    Progresses ids pool t := by
  cases here : pool.locals t with
  | start pc =>
    cases pc with
    | acquiring =>
      exact inv.progresses_of_needsMutex here trivial .startLock
    | _ => exact inv.progresses_of_inMutex (by rw [here]; trivial)
  | stop pc =>
    cases pc with
    | entering =>
      exact inv.progresses_of_needsMutex here trivial .stopLock
    | relocking =>
      exact inv.progresses_of_needsMutex here trivial .stopRelock
    | sleeping seen =>
      by_cases notified : seen = pool.shared.threadCv
      · have joins := (inv.sleeping t seen here).2 notified
        obtain ⟨owner, held⟩ := Option.isSome_iff_exists.mp joins
        have joining : (pool.locals owner).Joins := (inv.join owner).mpr held
        exact (WaitsFor.notification here held).progresses (inv.progresses_of_joins joining)
      · have moves :
            Moves ids t pool.shared (pool.locals t) pool.shared (.stop .relocking) := by
          rw [here]
          exact .stopNotified notified
        refine CanMove.progresses ⟨fun other sleeps => ?_, _, _, moves⟩
        cases here.symm.trans sleeps
        exact notified
    | joining n | reaped => exact inv.progresses_of_joins (by rw [here]; trivial)
    | _ => exact inv.progresses_of_inMutex (by rw [here]; trivial)
  | _ =>
    rw [here] at calls
    exact calls.elim

theorem Invariant.progresses (active : Active pool t) :
    Progresses ids pool t := by
  cases t with
  | caller c => exact inv.progresses_of_calls active
  | worker n => exact inv.progresses_of_alive active

end

/-- The thread has the identifier of the worker that the stop in progress joins. -/
def Mistaken (ids : Agent Caller → ℕ) (s : Shared Caller) (c : Caller) : Prop :=
  s.stopJoinInProgress.isSome = true ∧ s.workerThreadId = some (ids (.caller c))

/-- What the start and stop protocol guarantees. -/
structure Orderly (ids : Agent Caller → ℕ) (pool : System Caller) : Prop where
  single : ∀ n m, Alive pool n → Alive pool m → n = m
  refused : ∀ c s after, pool.locals (.caller c) = .start .admitting →
    (∃ t, (pool.locals t).Counted) ∨ (∃ n, pool.shared.Unreaped ids n) →
    Moves ids (.caller c) pool.shared (.start .admitting) s after →
    s = { pool.shared with threadMutex := none } ∧ after = .idle
  apart : ∀ c pc, pool.locals (.caller c) = .start pc → pc ≠ .acquiring → pc ≠ .admitting →
    ∀ t, ¬ (pool.locals t).Counted
  returned : ∀ c pc s, pool.locals (.caller c) = .stop pc →
    Moves ids (.caller c) pool.shared (.stop pc) s .idle →
    (∀ n < s.spawned, s.finished n = true ∧ ¬ s.Unreaped ids n) ∧
      (s.published = false ∨ Mistaken ids s c)
  progress : ∀ t, Active pool t → Progresses ids pool t
  published : (∀ t, ¬ (pool.locals t).Calls) → pool.shared.published = pool.shared.running

theorem Local.Unsettled.calls {l : Local} (unsettled : l.Unsettled) : l.Calls := by
  cases l with
  | start pc | stop pc => trivial
  | _ => exact unsettled.elim

section

variable (inv : Invariant ids pool)
include inv

theorem Invariant.busy
    (overlaps : (∃ t, (pool.locals t).Counted) ∨ ∃ n, pool.shared.Unreaped ids n) :
    pool.shared.Busy := by
  by_contra quiet
  obtain ⟨-, _, alone, unjoinable⟩ := Shared.not_busy quiet
  rcases overlaps with ⟨t, counted⟩ | ⟨n, unreaped⟩
  · have pos := inv.counted.pos counted
    omega
  · exact inv.reaped_of_unjoinable unjoinable alone n unreaped

theorem Invariant.joined (reaped : ∀ n, ¬ pool.shared.Unreaped ids n) :
    ∀ n < pool.shared.spawned, pool.shared.finished n = true ∧ ¬ pool.shared.Unreaped ids n := by
  intro n born
  refine ⟨?_, reaped n⟩
  by_contra unfinished
  exact reaped n (inv.unreaped_of_alive ⟨born, mt (inv.finished n).mpr unfinished⟩)

theorem Invariant.started_apart {pc} (starts : pool.locals t = .start pc)
    (locked : pc ≠ .acquiring) (admitted : pc ≠ .admitting) :
      ∀ other, ¬ (pool.locals other).Counted := by
  have holds := inv.started t pc starts
  have noCallers : pool.shared.stopCallers = 0 := by
    cases pc with
    | acquiring => exact absurd rfl locked
    | admitting => exact absurd rfl admitted
    | creating | announcing | failing => exact holds.1
  have counted := inv.counted
  rw [noCallers] at counted
  exact counted.empty

theorem Invariant.returned {c pc}
    (here : pool.locals (.caller c) = .stop pc)
    (moves : Moves ids (.caller c) pool.shared (.stop pc) s .idle) :
    (∀ n < s.spawned, s.finished n = true ∧ ¬ s.Unreaped ids n) ∧
      (s.published = false ∨ Mistaken ids s c) := by
  cases moves with
  | stopLeave | stopFinish =>
    have quiet := inv.answered c (by rw [here]; trivial)
    exact ⟨inv.joined quiet.reaped, .inl quiet.published⟩
  | stopChecked done =>
    rcases inv.waiting c (by rw [here]; trivial) with joins | quiet
    · rw [done] at joins
      exact absurd joins nofun
    · exact ⟨inv.joined quiet.reaped, .inl quiet.published⟩
  | stopYielded =>
    obtain ⟨joins, itself, reaped⟩ := inv.yielding c here
    exact ⟨inv.joined reaped, .inr ⟨joins, itself⟩⟩

theorem Invariant.orderly : Orderly ids pool where
  single _ _ first second :=
    inv.unreaped_unique (inv.unreaped_of_alive first) (inv.unreaped_of_alive second)
  refused c s after _ overlaps moves := by
    cases moves with
    | startRefuse => exact ⟨rfl, rfl⟩
    | startAdmit quiet => exact absurd (inv.busy overlaps) quiet
  apart c pc starts locked admitted := inv.started_apart starts locked admitted
  returned c pc s here moves := inv.returned here moves
  progress t active := inv.progresses active
  published idle := (inv.settled fun t unsettled => idle t unsettled.calls).1

end

/-- Every state of every run is orderly, whatever the threads and their identifiers. -/
theorem fusion_lifecycle [DecidableEq Caller] {trace : ℕ → System Caller} {length : ℕ}
    (execution : Execution ids trace length) : ∀ index ≤ length, Orderly ids (trace index) :=
  fun index le => (execution.invariant index le).orderly

def apartIds : Agent (Fin 2) → ℕ
  | .caller c => c.val
  | .worker n => n + 2

def reusedIds : Agent (Fin 2) → ℕ
  | .caller c => c.val
  | .worker n => n + 1

local instance callers : NeZero 2 := ⟨two_ne_zero⟩

/-- A call of `start` that creates a worker. -/
def startUp {ids} {pool : System (Fin 2)} (c) (idle : pool.locals (.caller c) = .idle)
    (free : pool.shared.threadMutex = none) (quiet : ¬ pool.shared.Busy)
    (unused : pool.shared.owner (ids (.worker pool.shared.spawned)) = none) :
    Path (Step (Moves ids)) pool :=
  .act (.caller c) idle .callStart <| .act (.caller c) (Pool.set_self ..) (.startLock free) <|
  .act (.caller c) (Pool.set_self ..) (.startAdmit quiet) <|
  .act (.caller c) (Pool.set_self ..) (.startCreate unused) <|
  .act (.caller c) (Pool.set_self ..) .startAnnounce .done

/-- A call of `stop` as far as every caller goes. -/
def clearing {ids} {pool : System (Fin 2)} (c) (idle : pool.locals (.caller c) = .idle)
    (free : pool.shared.threadMutex = none) (asleep : pool.shared.wakeMutex = none) :
    Path (Step (Moves ids)) pool :=
  .act (.caller c) idle .callStop <| .act (.caller c) (Pool.set_self ..) (.stopLock free) <|
  .act (.caller c) (Pool.set_self ..) (.stopWake asleep) <|
  .act (.caller c) (Pool.set_self ..) .stopClear <|
  .act (.caller c) (Pool.set_self ..) .stopUnlock .done

theorem not_busy {s : Shared (Fin 2)} (running : s.running = false) (stops : s.stopCallers = 0)
    (joins : s.stopJoinInProgress = none) (thread : s.thread = none) : ¬ s.Busy := by
  simp [Shared.Busy, running, stops, joins, thread]

def arrivals : Path (Step (Moves apartIds)) (initial (Fin 2)) :=
  .act (.caller 0) rfl (.create rfl) <| .act (.caller 1) rfl (.create rfl) .done

/-- The first caller starts a worker and stops it; it is about to join. -/
def firstStop : Path (Step (Moves apartIds)) arrivals.final :=
  .append (startUp 0 rfl rfl (not_busy rfl rfl rfl rfl) rfl) (clearing 0 rfl rfl rfl)

/-- The second stop waits while the first joins the worker. -/
def twoStops : Path (Step (Moves apartIds)) (initial (Fin 2)) :=
  (arrivals.append firstStop).append <| .act (.caller 0) rfl (.stopJoin rfl rfl (by decide)) <|
  .append (clearing 1 rfl rfl rfl) <| .act (.caller 1) rfl (.stopAwait rfl (by decide)) <|
  .act (.caller 1) rfl (.stopPark rfl) <| .act (.worker 0) rfl (.loopExit (by decide) rfl) <|
  .act (.caller 0) rfl (.stopReap rfl) <| .act (.caller 0) rfl (.stopReacquire rfl) <|
  .act (.caller 0) rfl .stopRetire <| .act (.caller 0) rfl .stopFinish <|
  .act (.caller 1) rfl (.stopNotified (by decide)) <| .act (.caller 1) rfl (.stopRelock rfl) <|
  .act (.caller 1) rfl (.stopChecked rfl) .done

theorem fusion_lifecycle_two_stops :
    Execution apartIds twoStops.trace 28 ∧
      (twoStops.trace 20).locals (.caller 1) = .stop (.sleeping 0) ∧
      Progresses apartIds (twoStops.trace 20) (.caller 1) ∧
      ¬ (twoStops.trace 28).shared.Unreaped apartIds 0 := by
  have execution : Execution apartIds twoStops.trace 28 := ⟨rfl, twoStops.isRun⟩
  have waits := (fusion_lifecycle execution 20 (by decide)).progress (.caller 1) trivial
  have returns := (fusion_lifecycle execution 27 (by decide)).returned 1 .checking _ rfl
    (.stopChecked rfl)
  exact ⟨execution, rfl, waits, (returns.1 0 (by decide)).2⟩

/-- The second caller is about to lock in `stop` while the first starts the worker. -/
def lateStop : Path (Step (Moves apartIds)) (initial (Fin 2)) :=
  arrivals.append <| .act (.caller 1) rfl .callStop <|
  startUp 0 rfl rfl (not_busy rfl rfl rfl rfl) rfl

def reapedStop : Path (Step (Moves reusedIds)) (initial (Fin 2)) :=
  .act (.caller 0) rfl (.create rfl) <|
  .append (startUp 0 rfl rfl (not_busy rfl rfl rfl rfl) rfl) (clearing 0 rfl rfl rfl)

/-- A thread with the joined worker's identifier calls `stop` before the joiner locks again. -/
def mistakenStop : Path (Step (Moves reusedIds)) (initial (Fin 2)) :=
  reapedStop.append <| .act (.caller 0) rfl (.stopJoin rfl rfl (by decide)) <|
  .act (.worker 0) rfl (.loopExit (by decide) rfl) <| .act (.caller 0) rfl (.stopReap rfl) <|
  .act (.caller 1) rfl (.create rfl) <| .append (clearing 1 rfl rfl rfl) <|
  .act (.caller 1) rfl (.stopYield rfl rfl) <| .act (.caller 1) rfl .stopYielded .done

/-- A start succeeds beside an unregistered stop; a stop returns before the state is published. -/
theorem start_beside_stop_and_early_return :
    (Execution apartIds lateStop.trace 8 ∧
      (∀ index, 3 ≤ index → index ≤ 8 →
        (lateStop.trace index).locals (.caller 1) = .stop .entering) ∧
      (lateStop.trace 3).locals (.caller 0) = .idle ∧
      (lateStop.trace 8).locals (.caller 0) = .idle ∧
      (lateStop.trace 3).shared.spawned = 0 ∧ (lateStop.trace 8).shared.spawned = 1) ∧
    Execution reusedIds mistakenStop.trace 22 ∧
      (mistakenStop.trace 16).locals (.caller 1) = .stop .entering ∧
      (mistakenStop.trace 22).locals (.caller 1) = .idle ∧
      (mistakenStop.trace 22).shared.running = false ∧
      (mistakenStop.trace 22).shared.published = true := by
  refine ⟨⟨⟨rfl, lateStop.isRun⟩, ?_, rfl, rfl, rfl, rfl⟩, ⟨rfl, mistakenStop.isRun⟩, rfl, rfl,
    rfl, rfl⟩
  intro index _ _
  interval_cases index <;> rfl

end ThermalSimd.Fusion
