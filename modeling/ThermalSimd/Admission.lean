import Mathlib.Tactic.IntervalCases
import ThermalSimd.Guard
import ThermalSimd.Interleaving

/-!
# The wide-admission protocol

Guard writers, bare revocations, wide executions and quiescence waiters of `runtime_guard.c`, one
atomic access at a time. An execution counts itself in before it rechecks admission, so a revoker
that closes admission and then sees the counter at zero knows that no wide kernel runs or will start
before a reopen.
-/

namespace ThermalSimd
namespace Admission

open Interleaving

/-- What the tasks share. -/
structure Shared (Task : Type*) where
  guard : GuardState
  admissionOpen : Bool
  /-- `g_tsd_active_wide_executions`; memory holds fewer than `2 ^ 64`, so it never wraps. -/
  activeWideExecutions : ℕ
  /-- `g_tsd_wide_execution_depth` of each kernel thread. -/
  wideExecutionDepth : ℤ → ℕ
  guardUpdateLock : Option Task
  wideDrainLock : Option Task
  /-- Broadcasts of `g_tsd_wide_drain_cv` so far. -/
  wideDrainBroadcasts : ℕ

/-- Inside `tsd_runtime_safety_write_enter` … `tsd_runtime_safety_write_leave`. -/
inductive WriterPc
  | locked
  | inside
  | reopen (decision : Bool)
  | unlocking
  deriving DecidableEq

/-- Inside `tsd_runtime_execution_enter` … `tsd_runtime_execution_leave` for a wide width. -/
inductive ExecutorPc
  | firstOwner | firstAdmission | firstAuthorized
  | increment
  | recheckAdmission | recheckOwner | recheckAuthorized
  | kernel
  | releasing
  | underflow
  | notifyLock | notifyBroadcast | notifyUnlock
  deriving DecidableEq

/-- In `tsd_runtime_wait_for_wide_quiescence`; `sleeping` knows the broadcasts before it. -/
inductive WaiterPc
  | entered
  | locking
  | testing
  | parking
  | sleeping (seen : ℕ)
  | waking
  | draining
  | returned
  deriving DecidableEq

/-- Where a task is. -/
inductive Local
  | idle
  | writer (pc : WriterPc)
  | entering (width : ℤ)
  | sseKernel
  | executor (width : SimdWidth) (pc : ExecutorPc)
  | waiter (pc : WaiterPc)
  deriving DecidableEq

variable {Task : Type*}

/-- `++g_tsd_wide_execution_depth` on one kernel thread. -/
def Shared.deepen (s : Shared Task) (tid : ℤ) : Shared Task :=
  { s with wideExecutionDepth :=
      Function.update s.wideExecutionDepth tid (s.wideExecutionDepth tid + 1) }

/-- `if (g_tsd_wide_execution_depth > 0) --g_tsd_wide_execution_depth`. -/
def Shared.surface (s : Shared Task) (tid : ℤ) : Shared Task :=
  { s with wideExecutionDepth :=
      Function.update s.wideExecutionDepth tid (s.wideExecutionDepth tid - 1) }

section

variable (tid : Task → ℤ) (t : Task)

/-- The atomic moves of one task, whose kernel thread is `tid`. -/
inductive Moves : Shared Task → Local → Shared Task → Local → Prop
  | drift {s l} (guard : GuardState) (keeps : guard.stopping = s.guard.stopping) :
      Moves s l { s with guard } l
  /-- A bare `tsd_runtime_wide_admission_close`. -/
  | close {s l} : Moves s l { s with admissionOpen := false } l
  -- tsd_runtime_safety_write_enter
  | writeLock {s} (free : s.guardUpdateLock = none) :
      Moves s .idle { s with guardUpdateLock := some t } (.writer .locked)
  | writeClose {s} : Moves s (.writer .locked) { s with admissionOpen := false } (.writer .inside)
  -- Any publication made while the update lock is held, the stopping flag included.
  | writeMutate {s} (guard : GuardState) :
      Moves s (.writer .inside) { s with guard } (.writer .inside)
  -- tsd_runtime_safety_write_leave
  | writeDecide {s} :
      Moves s (.writer .inside) { s with guard := s.guard.afterQuery SimdWidth.avx2.toInt }
        (.writer (.reopen (decide s.guard.ReopenDecision)))
  | writeStore {s decision} :
      Moves s (.writer (.reopen decision)) { s with admissionOpen := decision } (.writer .unlocking)
  | writeUnlock {s} : Moves s (.writer .unlocking) { s with guardUpdateLock := none } .idle
  -- tsd_runtime_execution_enter: the width decides whether admission is needed at all.
  | executionEnter {s} (width : ℤ) : Moves s .idle s (.entering width)
  | enterInvalid {s width} (invalid : SimdWidth.ofInt? width = none) :
      Moves s (.entering width) s .idle
  | enterNarrow {s width} (narrow : SimdWidth.ofInt? width = some .sse41) :
      Moves s (.entering width) s .sseKernel
  | leaveNarrow {s} : Moves s .sseKernel s .idle
  | enterWide {s width wide} (named : SimdWidth.ofInt? width = some wide) (isWide : wide.IsWide) :
      Moves s (.entering width) s (.executor wide .firstOwner)
  -- The first check; each failure returns EAGAIN.
  | firstOwner {s w} (owner : s.guard.CurrentThreadIsOwner (tid t)) :
      Moves s (.executor w .firstOwner) s (.executor w .firstAdmission)
  | firstOwnerFails {s w} (stranger : ¬ s.guard.CurrentThreadIsOwner (tid t)) :
      Moves s (.executor w .firstOwner) s .idle
  | firstAdmission {s w} (isOpen : s.admissionOpen = true) :
      Moves s (.executor w .firstAdmission) s (.executor w .firstAuthorized)
  | firstAdmissionFails {s w} (isClosed : s.admissionOpen = false) :
      Moves s (.executor w .firstAdmission) s .idle
  | firstAuthorized {s w} (authorized : s.guard.WidthAuthorized w.toInt) :
      Moves s (.executor w .firstAuthorized) { s with guard := s.guard.afterQuery w.toInt }
        (.executor w .increment)
  | firstAuthorizedFails {s w} (refused : ¬ s.guard.WidthAuthorized w.toInt) :
      Moves s (.executor w .firstAuthorized) { s with guard := s.guard.afterQuery w.toInt } .idle
  | increment {s w} :
      Moves s (.executor w .increment)
        ({ s with activeWideExecutions := s.activeWideExecutions + 1 }.deepen (tid t))
        (.executor w .recheckAdmission)
  -- The recheck; each failure backs out through wide_execution_release.
  | recheckAdmission {s w} (isOpen : s.admissionOpen = true) :
      Moves s (.executor w .recheckAdmission) s (.executor w .recheckOwner)
  | recheckAdmissionFails {s w} (isClosed : s.admissionOpen = false) :
      Moves s (.executor w .recheckAdmission) s (.executor w .releasing)
  | recheckOwner {s w} (owner : s.guard.CurrentThreadIsOwner (tid t)) :
      Moves s (.executor w .recheckOwner) s (.executor w .recheckAuthorized)
  | recheckOwnerFails {s w} (stranger : ¬ s.guard.CurrentThreadIsOwner (tid t)) :
      Moves s (.executor w .recheckOwner) s (.executor w .releasing)
  | recheckAuthorized {s w} (authorized : s.guard.WidthAuthorized w.toInt) :
      Moves s (.executor w .recheckAuthorized) { s with guard := s.guard.afterQuery w.toInt }
        (.executor w .kernel)
  | recheckAuthorizedFails {s w} (refused : ¬ s.guard.WidthAuthorized w.toInt) :
      Moves s (.executor w .recheckAuthorized) { s with guard := s.guard.afterQuery w.toInt }
        (.executor w .releasing)
  -- tsd_runtime_execution_leave
  | leave {s w} : Moves s (.executor w .kernel) s (.executor w .releasing)
  -- wide_execution_release, by the value the decrement found.
  | releaseNone {s w} (previous : s.activeWideExecutions = 0) :
      Moves s (.executor w .releasing)
        ({ s with activeWideExecutions := 2 ^ 64 - 1 }.surface (tid t)) (.executor w .underflow)
  | releaseLast {s w} (previous : s.activeWideExecutions = 1) :
      Moves s (.executor w .releasing) ({ s with activeWideExecutions := 0 }.surface (tid t))
        (.executor w .notifyLock)
  | releaseMany {s w} (previous : 1 < s.activeWideExecutions) :
      Moves s (.executor w .releasing)
        ({ s with activeWideExecutions := s.activeWideExecutions - 1 }.surface (tid t)) .idle
  | repairUnderflow {s w} :
      Moves s (.executor w .underflow) { s with activeWideExecutions := 0 } .idle
  | notifyLock {s w} (free : s.wideDrainLock = none) :
      Moves s (.executor w .notifyLock) { s with wideDrainLock := some t }
        (.executor w .notifyBroadcast)
  | notifyBroadcast {s w} :
      Moves s (.executor w .notifyBroadcast)
        { s with wideDrainBroadcasts := s.wideDrainBroadcasts + 1 } (.executor w .notifyUnlock)
  | notifyUnlock {s w} : Moves s (.executor w .notifyUnlock) { s with wideDrainLock := none } .idle
  -- tsd_runtime_wait_for_wide_quiescence
  | waitEnter {s} : Moves s .idle s (.waiter .entered)
  | waitDeadlock {s} (nested : s.wideExecutionDepth (tid t) ≠ 0) :
      Moves s (.waiter .entered) s .idle
  | waitAllowed {s} (outside : s.wideExecutionDepth (tid t) = 0) :
      Moves s (.waiter .entered) s (.waiter .locking)
  | waitLock {s} (free : s.wideDrainLock = none) :
      Moves s (.waiter .locking) { s with wideDrainLock := some t } (.waiter .testing)
  | waitZero {s} (zero : s.activeWideExecutions = 0) :
      Moves s (.waiter .testing) s (.waiter .draining)
  | waitNonzero {s} (nonzero : s.activeWideExecutions ≠ 0) :
      Moves s (.waiter .testing) s (.waiter .parking)
  -- pthread_cond_wait releases the drain lock and sleeps in one step; it may wake spuriously.
  | waitSleep {s} :
      Moves s (.waiter .parking) { s with wideDrainLock := none }
        (.waiter (.sleeping s.wideDrainBroadcasts))
  | waitWake {s seen} : Moves s (.waiter (.sleeping seen)) s (.waiter .waking)
  | waitRelock {s} (free : s.wideDrainLock = none) :
      Moves s (.waiter .waking) { s with wideDrainLock := some t } (.waiter .testing)
  | waitUnlock {s} :
      Moves s (.waiter .draining) { s with wideDrainLock := none } (.waiter .returned)
  | waitDone {s} : Moves s (.waiter .returned) s .idle

end

abbrev System (Task : Type*) := Pool Task (Shared Task) Local

/-- Any guard state, with admission closed, nothing in flight and every task idle. -/
structure Initial (pool : System Task) : Prop where
  closed : pool.shared.admissionOpen = false
  none : pool.shared.activeWideExecutions = 0
  guardFree : pool.shared.guardUpdateLock = Option.none
  drainFree : pool.shared.wideDrainLock = Option.none
  idle : ∀ t, pool.locals t = .idle

variable [DecidableEq Task]

abbrev Step (tid : Task → ℤ) : System Task → System Task → Prop :=
  Interleaving.Step (Moves tid)

/-- The first `length` moves of `trace` are moves of the protocol. -/
structure Execution (tid : Task → ℤ) (trace : ℕ → System Task) (length : ℕ) : Prop where
  initial : Initial (trace 0)
  run : IsRun (Step tid) trace length

def Local.InFlight : Local → Prop
  | .executor _ .recheckAdmission | .executor _ .recheckOwner | .executor _ .recheckAuthorized
  | .executor _ .kernel | .executor _ .releasing => True
  | _ => False

/-- Holding `g_tsd_guard_update_lock`. -/
def Local.InGuard : Local → Prop
  | .writer _ => True
  | _ => False

private def Local.KeepsClosed : Local → Prop
  | .writer .inside | .writer (.reopen _) => True
  | _ => False

/-- Holding `g_tsd_wide_drain_lock`. -/
def Local.InDrain : Local → Prop
  | .executor _ .notifyBroadcast | .executor _ .notifyUnlock => True
  | .waiter .testing | .waiter .parking | .waiter .draining => True
  | _ => False

def Local.Unsignalled (broadcasts : ℕ) : Local → Prop
  | .waiter .parking => True
  | .waiter (.sleeping seen) => seen = broadcasts
  | _ => False

def Local.WillBroadcast : Local → Prop
  | .executor _ .notifyLock | .executor _ .notifyBroadcast => True
  | _ => False

theorem Local.KeepsClosed.inGuard {l : Local} (closed : l.KeepsClosed) : l.InGuard := by
  unfold KeepsClosed at closed
  split at closed
  all_goals trivial

/-- What every interleaving keeps. -/
structure Invariant (pool : System Task) : Prop where
  counted : Counts Local.InFlight pool.locals pool.shared.activeWideExecutions
  noUnderflow : ∀ t w, pool.locals t ≠ .executor w .underflow
  guardLock : Guards Shared.guardUpdateLock Local.InGuard pool
  drainLock : Guards Shared.wideDrainLock Local.InDrain pool
  closedInside : ∀ t, (pool.locals t).KeepsClosed → pool.shared.admissionOpen = false
  reopenRunning : ∀ t, pool.locals t = .writer (.reopen true) → pool.shared.guard.stopping = false
  closedStopping : pool.shared.guard.stopping = true → pool.shared.admissionOpen = false
  wide : ∀ t w pc, pool.locals t = .executor w pc → w.IsWide
  seen : ∀ t broadcasts, pool.locals t = .waiter (.sleeping broadcasts) →
    broadcasts ≤ pool.shared.wideDrainBroadcasts
  notified : pool.shared.activeWideExecutions = 0 →
    (∃ t, (pool.locals t).Unsignalled pool.shared.wideDrainBroadcasts) →
      ∃ t, (pool.locals t).WillBroadcast

omit [DecidableEq Task] in
theorem Initial.invariant {pool : System Task} (initial : Initial pool) : Invariant pool where
  counted := by
    rw [initial.none]
    exact Counts.of_empty fun t => by simp [initial.idle t, Local.InFlight]
  noUnderflow t w := by simp [initial.idle t]
  guardLock t := by simp [initial.idle t, initial.guardFree, Local.InGuard]
  drainLock t := by simp [initial.idle t, initial.drainFree, Local.InDrain]
  closedInside _ _ := initial.closed
  reopenRunning t := by simp [initial.idle t]
  closedStopping _ := initial.closed
  wide t w pc := by simp [initial.idle t]
  seen t broadcasts := by simp [initial.idle t]
  notified _ unsignalled := by
    obtain ⟨t, unsignalled⟩ := unsignalled
    simp [initial.idle t, Local.Unsignalled] at unsignalled

section

variable {tid : Task → ℤ} {pool : System Task} {t : Task} {s s' : Shared Task}
  {before after : Local}

omit [DecidableEq Task] in
theorem Moves.guardLock (moves : Moves tid t s before s' after) :
    LockStep Shared.guardUpdateLock Local.InGuard t s before s' after := by
  cases moves with
  | writeLock free => exact .acquires free rfl trivial
  | writeUnlock => exact .releases trivial rfl id
  | _ => exact .keeps rfl (by simp [Local.InGuard])

omit [DecidableEq Task] in
theorem Moves.drainLock (moves : Moves tid t s before s' after) :
    LockStep Shared.wideDrainLock Local.InDrain t s before s' after := by
  cases moves with
  | notifyLock free | waitLock free | waitRelock free => exact .acquires free rfl trivial
  | notifyUnlock | waitSleep | waitUnlock => exact .releases trivial rfl id
  | _ => exact .keeps rfl (by simp [Local.InDrain])

omit [DecidableEq Task] in
theorem Moves.wideDrainBroadcasts_le (moves : Moves tid t pool.shared before s after) :
    pool.shared.wideDrainBroadcasts ≤ s.wideDrainBroadcasts := by
  cases moves with
  | notifyBroadcast => exact Nat.le_succ _
  | _ => exact le_rfl

variable (inv : Invariant pool)
include inv

private theorem Invariant.notified_broadcast {w}
    (here : pool.locals t = .executor w .notifyBroadcast)
    (broadcasts_eq : s.wideDrainBroadcasts = pool.shared.wideDrainBroadcasts + 1) :
    ∀ other, ¬ ((pool.set t s (.executor w .notifyUnlock)).locals other).Unsignalled
      s.wideDrainBroadcasts := by
  refine Pool.forall_set (fun _ (l : Local) => ¬ l.Unsignalled s.wideDrainBroadcasts) id ?_
  intro other ne unsignalled
  generalize at_pc : pool.locals other = l at unsignalled
  unfold Local.Unsignalled at unsignalled
  split at unsignalled
  · have draining : Local.InDrain (pool.locals t) := by simp [here, Local.InDrain]
    have parked : Local.InDrain (pool.locals other) := by simp [at_pc, Local.InDrain]
    exact ne (inv.drainLock.exclusive parked draining)
  · have earlier := inv.seen other _ at_pc
    omega
  · exact unsignalled

variable (here : pool.locals t = before)
include here

private theorem Invariant.notified_frame
    (count_eq : s.activeWideExecutions = pool.shared.activeWideExecutions)
    (broadcasts_eq : s.wideDrainBroadcasts = pool.shared.wideDrainBroadcasts)
    (unsignalled : after.Unsignalled pool.shared.wideDrainBroadcasts →
      before.Unsignalled pool.shared.wideDrainBroadcasts)
    (stays : before.WillBroadcast → after.WillBroadcast) (zero : s.activeWideExecutions = 0)
    (sleeper : ∃ other, ((pool.set t s after).locals other).Unsignalled s.wideDrainBroadcasts) :
    ∃ other, ((pool.set t s after).locals other).WillBroadcast := by
  subst before
  rw [count_eq] at zero
  rw [broadcasts_eq] at sleeper
  have slept : ∃ other, (pool.locals other).Unsignalled pool.shared.wideDrainBroadcasts := by
    obtain ⟨other, sleeps⟩ := sleeper
    refine ⟨other, ?_⟩
    rcases eq_or_ne other t with rfl | ne
    · exact unsignalled (by simpa using sleeps)
    · simpa [Pool.set_other _ ne] using sleeps
  obtain ⟨other, will⟩ := inv.notified zero slept
  refine ⟨other, ?_⟩
  rcases eq_or_ne other t with rfl | ne
  · simpa using stays will
  · simpa [Pool.set_other _ ne] using will

variable (moves : Moves tid t pool.shared before s after)
include moves

theorem Invariant.counted_move :
    Counts Local.InFlight (pool.set t s after).locals s.activeWideExecutions := by
  have counted := inv.counted
  cases moves with
  | increment => exact counted.update_enter (by simp [here, Local.InFlight]) trivial
  | releaseNone previous =>
    have inFlight : Local.InFlight (pool.locals t) := by simp [here, Local.InFlight]
    have pos := counted.pos inFlight
    omega
  | releaseLast previous =>
    exact counted.update_leave previous (by simp [here, Local.InFlight]) id
  | releaseMany previous =>
    refine counted.update_leave ?_ (by simp [here, Local.InFlight]) id
    exact (Nat.succ_pred_eq_of_pos (Nat.zero_lt_of_lt previous)).symm
  | repairUnderflow => exact absurd here (inv.noUnderflow t _)
  | _ => exact counted.update_same (by simp [here, Local.InFlight])

theorem Invariant.noUnderflow_move :
    ∀ other w, (pool.set t s after).locals other ≠ .executor w .underflow := by
  refine Pool.forall_set (fun _ (l : Local) => ∀ w, l ≠ .executor w .underflow) ?_
    fun other _ => inv.noUnderflow other
  have old := here ▸ inv.noUnderflow t
  cases moves with
  | releaseNone =>
    have inFlight : Local.InFlight (pool.locals t) := by simp [here, Local.InFlight]
    have pos := inv.counted.pos inFlight
    omega
  | drift | close => exact old
  | _ => simp

theorem Invariant.closedInside_move :
    ∀ other, ((pool.set t s after).locals other).KeepsClosed → s.admissionOpen = false := by
  have old := inv.closedInside t
  rw [here] at old
  refine Pool.forall_set (fun _ (l : Local) => l.KeepsClosed → s.admissionOpen = false) ?_ ?_
  · cases moves with
    | close | writeClose => exact fun _ => rfl
    | writeMutate | writeDecide => exact fun _ => old trivial
    | drift => exact old
    | _ => exact fun keeps => keeps.elim
  · intro other ne keeps
    have closed := inv.closedInside other keeps
    cases moves with
    | close | writeClose => rfl
    -- The storing writer holds the update lock, so nobody else keeps admission closed.
    | writeStore =>
      have inside : Local.InGuard (pool.locals t) := by simp [here, Local.InGuard]
      exact absurd (inv.guardLock.exclusive keeps.inGuard inside) ne
    | _ => exact closed

theorem Invariant.reopenRunning_move :
    ∀ other, (pool.set t s after).locals other = .writer (.reopen true) →
      s.guard.stopping = false := by
  have old := inv.reopenRunning t
  rw [here] at old
  refine Pool.forall_set (fun _ (l : Local) => l = .writer (.reopen true) →
    s.guard.stopping = false) ?_ ?_
  · cases moves with
    | drift guard keeps => exact fun pending => keeps.trans (old pending)
    | close => exact old
    | writeDecide =>
      intro pending
      have decision : pool.shared.guard.ReopenDecision := by simpa using pending
      simpa using decision.1
    | _ => simp
  · intro other ne pending
    have running := inv.reopenRunning other pending
    cases moves with
    | drift guard keeps => exact keeps.trans running
    -- The mutating writer holds the update lock, so nobody else has a decision pending.
    | writeMutate =>
      have inside : Local.InGuard (pool.locals t) := by simp [here, Local.InGuard]
      have otherInside : Local.InGuard (pool.locals other) := by simp [pending, Local.InGuard]
      exact absurd (inv.guardLock.exclusive otherInside inside) ne
    | _ => simpa [Shared.deepen, Shared.surface] using running

omit [DecidableEq Task] in
theorem Invariant.closedStopping_move (stopping : s.guard.stopping = true) :
    s.admissionOpen = false := by
  cases moves with
  | drift guard keeps => exact inv.closedStopping (keeps ▸ stopping)
  | close | writeClose => rfl
  | writeMutate => exact inv.closedInside t (by simp [here, Local.KeepsClosed])
  | @writeStore decision =>
    cases decision with
    | false => rfl
    | true =>
      have running := inv.reopenRunning t here
      exact absurd (running.symm.trans stopping) Bool.false_ne_true
  | _ => exact inv.closedStopping (by simpa [Shared.deepen, Shared.surface] using stopping)

theorem Invariant.wide_move :
    ∀ other w pc, (pool.set t s after).locals other = .executor w pc → w.IsWide := by
  have old := inv.wide t
  rw [here] at old
  refine Pool.forall_set (fun _ (l : Local) => ∀ w pc, l = .executor w pc → w.IsWide) ?_
    fun other _ => inv.wide other
  intro w pc at_pc
  cases moves with
  | enterWide _ isWide =>
    cases at_pc
    exact isWide
  | drift | close => exact old w pc at_pc
  | _ => cases at_pc <;> exact old _ _ rfl

theorem Invariant.seen_move :
    ∀ other broadcasts, (pool.set t s after).locals other = .waiter (.sleeping broadcasts) →
      broadcasts ≤ s.wideDrainBroadcasts := by
  have old := inv.seen t
  rw [here] at old
  refine Pool.forall_set (fun _ (l : Local) =>
    ∀ broadcasts, l = .waiter (.sleeping broadcasts) → broadcasts ≤ s.wideDrainBroadcasts) ?_ ?_
  · intro broadcasts sleeping
    cases moves with
    | drift | close => exact old broadcasts sleeping
    | waitSleep =>
      cases sleeping
      exact le_rfl
    | _ => cases sleeping
  · intro other _ broadcasts sleeping
    exact (inv.seen other broadcasts sleeping).trans moves.wideDrainBroadcasts_le

theorem Invariant.notified_move (zero : s.activeWideExecutions = 0)
    (sleeper : ∃ other, ((pool.set t s after).locals other).Unsignalled s.wideDrainBroadcasts) :
    ∃ other, ((pool.set t s after).locals other).WillBroadcast := by
  cases moves with
  | increment => exact absurd zero (Nat.succ_ne_zero _)
  | releaseNone previous =>
    have inFlight : Local.InFlight (pool.locals t) := by simp [here, Local.InFlight]
    exact absurd previous (inv.counted.pos inFlight).ne'
  | releaseMany previous =>
    have rest : pool.shared.activeWideExecutions - 1 = 0 := zero
    omega
  | releaseLast | notifyLock => exact ⟨t, by simp [Local.WillBroadcast]⟩
  | repairUnderflow => exact absurd here (inv.noUnderflow t _)
  | notifyBroadcast =>
    obtain ⟨other, unsignalled⟩ := sleeper
    exact absurd unsignalled (inv.notified_broadcast here rfl other)
  | waitNonzero nonzero => exact absurd zero nonzero
  | drift | close => exact inv.notified_frame here rfl rfl id id zero sleeper
  | waitSleep =>
    exact inv.notified_frame here rfl rfl (fun _ => trivial) False.elim zero sleeper
  | _ =>
    exact inv.notified_frame here rfl rfl (by simp [Local.Unsignalled])
      (by simp [Local.WillBroadcast]) zero sleeper

end

theorem Invariant.step {tid : Task → ℤ} {pool next} (inv : Invariant pool)
    (step : Step tid pool next) : Invariant next := by
  obtain ⟨t, here, moves⟩ := step
  exact
    { counted := inv.counted_move here moves
      noUnderflow := inv.noUnderflow_move here moves
      guardLock := inv.guardLock.set here moves.guardLock
      drainLock := inv.drainLock.set here moves.drainLock
      closedInside := inv.closedInside_move here moves
      reopenRunning := inv.reopenRunning_move here moves
      closedStopping := inv.closedStopping_move here moves
      wide := inv.wide_move here moves
      seen := inv.seen_move here moves
      notified := inv.notified_move here moves }

theorem Execution.invariant {tid : Task → ℤ} {trace length}
    (execution : Execution tid trace length) :
    ∀ i ≤ length, Invariant (trace i) :=
  execution.run.invariant execution.initial.invariant fun _ _ => Invariant.step

section

variable {tid : Task → ℤ} {t : Task} {s s' : Shared Task} {before : Local} {w : SimdWidth}

omit [DecidableEq Task] in
theorem Moves.of_kernel (moves : Moves tid t s before s' (.executor w .kernel))
    (enters : before ≠ .executor w .kernel) :
    before = .executor w .recheckAuthorized ∧ s.guard.WidthAuthorized w.toInt := by
  cases moves with
  | drift | close => exact absurd rfl enters
  | recheckAuthorized authorized => exact ⟨rfl, authorized⟩

omit [DecidableEq Task] in
theorem Moves.of_recheckAuthorized
    (moves : Moves tid t s before s' (.executor w .recheckAuthorized))
    (enters : before ≠ .executor w .recheckAuthorized) : before = .executor w .recheckOwner := by
  cases moves with
  | drift | close => exact absurd rfl enters
  | recheckOwner => rfl

omit [DecidableEq Task] in
theorem Moves.of_recheckOwner (moves : Moves tid t s before s' (.executor w .recheckOwner))
    (enters : before ≠ .executor w .recheckOwner) :
    before = .executor w .recheckAdmission ∧ s.admissionOpen = true := by
  cases moves with
  | drift | close => exact absurd rfl enters
  | recheckAdmission isOpen => exact ⟨rfl, isOpen⟩

omit [DecidableEq Task] in
theorem Moves.of_recheckAdmission (moves : Moves tid t s before s' (.executor w .recheckAdmission))
    (enters : before ≠ .executor w .recheckAdmission) : before = .executor w .increment := by
  cases moves with
  | drift | close => exact absurd rfl enters
  | increment => rfl

end

/-- The task has, since its own increment, seen admission open and then its width authorized. -/
structure Admitted (trace : ℕ → System Task) (t : Task) (w : SimdWidth)
    (incremented rechecked authorized index : ℕ) : Prop where
  order : incremented < rechecked ∧ rechecked < authorized ∧ authorized < index
  increments : (trace incremented).locals t = .executor w .increment
  inFlight : ∀ later, incremented < later → later ≤ index → ((trace later).locals t).InFlight
  rechecks : (trace rechecked).locals t = .executor w .recheckAdmission
  isOpen : (trace rechecked).shared.admissionOpen = true
  authorizes : (trace authorized).locals t = .executor w .recheckAuthorized
  isAuthorized : (trace authorized).shared.guard.WidthAuthorized w.toInt

section

variable {tid : Task → ℤ} {trace : ℕ → System Task} {length : ℕ}

theorem Execution.admitted (execution : Execution tid trace length) {i} (within : i ≤ length) {t w}
    (inKernel : (trace i).locals t = .executor w .kernel) :
    ∃ incremented rechecked authorized,
      Admitted trace t w incremented rechecked authorized i := by
  have start : ∀ pc, (trace 0).locals t ≠ .executor w pc := by
    simp [execution.initial.idle t]
  -- Walk back from the kernel through the recheck to the increment.
  obtain ⟨authorized, -, below₁, out₁, moves₁, since₁⟩ :=
    execution.run.arrival (Nat.zero_le _) within (start _) inKernel
  obtain ⟨authorizes, isAuthorized⟩ := moves₁.of_kernel out₁
  have within₁ := below₁.le.trans within
  obtain ⟨owner, -, below₂, out₂, moves₂, since₂⟩ :=
    execution.run.arrival (Nat.zero_le _) within₁ (start _) authorizes
  have within₂ := below₂.le.trans within₁
  obtain ⟨rechecked, -, below₃, out₃, moves₃, since₃⟩ :=
    execution.run.arrival (Nat.zero_le _) within₂ (start _) (moves₂.of_recheckAuthorized out₂)
  obtain ⟨rechecks, isOpen⟩ := moves₃.of_recheckOwner out₃
  have within₃ := below₃.le.trans within₂
  obtain ⟨incremented, -, below₄, out₄, moves₄, since₄⟩ :=
    execution.run.arrival (Nat.zero_le _) within₃ (start _) rechecks
  refine ⟨incremented, rechecked, authorized, ?_⟩
  refine
    { order := ⟨below₄, below₃.trans below₂, below₁⟩
      increments := moves₄.of_recheckAdmission out₄
      inFlight := fun later after upto => ?_
      rechecks, isOpen, authorizes, isAuthorized }
  by_cases toRecheck : later ≤ rechecked
  · rw [since₄ later after toRecheck]
    trivial
  by_cases toOwner : later ≤ owner
  · rw [since₃ later (not_le.mp toRecheck) toOwner]
    trivial
  by_cases toAuthorized : later ≤ authorized
  · rw [since₂ later (not_le.mp toOwner) toAuthorized]
    trivial
  · rw [since₁ later (not_le.mp toAuthorized) upto]
    trivial

theorem Step.reopens {pool next} (step : Step tid pool next)
    (shut : ¬ pool.shared.admissionOpen = true) (opened : next.shared.admissionOpen = true) :
    ∃ writer, pool.locals writer = .writer (.reopen true) ∧
      next.locals writer = .writer .unlocking := by
  obtain ⟨t, here, moves⟩ := step
  cases moves with
  | close | writeClose => exact absurd opened Bool.false_ne_true
  | @writeStore decision =>
    have decided : decision = true := opened
    exact ⟨t, by rw [here, decided], Pool.set_self _ _ _ _⟩
  | _ => exact absurd opened shut

theorem Execution.reopened (execution : Execution tid trace length) {closed i} (le : closed ≤ i)
    (within : i ≤ length) (isClosed : (trace closed).shared.admissionOpen = false)
    (isOpen : (trace i).shared.admissionOpen = true) :
    ∃ reopen, closed ≤ reopen ∧ reopen < i ∧
      ∃ writer, (trace reopen).locals writer = .writer (.reopen true) ∧
        (trace (reopen + 1)).locals writer = .writer .unlocking := by
  obtain ⟨reopen, after, below, shut, since⟩ :=
    exists_last_entry (fun n => (trace n).shared.admissionOpen = true) le (by simp [isClosed])
      isOpen
  have opened := since (reopen + 1) (Nat.lt_succ_self reopen) below
  exact ⟨reopen, after, below, (execution.run reopen (below.trans_le within)).reopens shut opened⟩

theorem Execution.reopened_of_kernel (execution : Execution tid trace length)
    {closed incremented i} (after : closed ≤ incremented) (before : incremented < i)
    (within : i ≤ length) (isClosed : (trace closed).shared.admissionOpen = false)
    {t w} (increments : (trace incremented).locals t = .executor w .increment)
    (inKernel : (trace i).locals t = .executor w .kernel) :
    ∃ reopen, closed ≤ reopen ∧ reopen < i ∧
      ∃ writer, (trace reopen).locals writer = .writer (.reopen true) ∧
        (trace (reopen + 1)).locals writer = .writer .unlocking := by
  obtain ⟨own, rechecked, _, admitted⟩ := execution.admitted within inKernel
  obtain ⟨below, below', below''⟩ := admitted.order
  -- The task was not in flight at `incremented`, so the increment it was admitted by is this one.
  have not_later : incremented ≤ own := by
    by_contra later
    have still := admitted.inFlight incremented (not_le.mp later) before.le
    simp [increments, Local.InFlight] at still
  have upto : rechecked ≤ i := (below'.trans below'').le
  obtain ⟨reopen, since, strictly, writer⟩ :=
    execution.reopened (after.trans (not_later.trans below.le)) (upto.trans within) isClosed
      admitted.isOpen
  exact ⟨reopen, since, strictly.trans_le upto, writer⟩

end

private def Local.PastRecheck : Local → Prop
  | .executor _ .recheckOwner | .executor _ .recheckAuthorized | .executor _ .kernel => True
  | _ => False

def Local.HasDrained : Local → Prop
  | .waiter .draining | .waiter .returned => True
  | _ => False

theorem Local.PastRecheck.inFlight {l : Local} (past : l.PastRecheck) : l.InFlight := by
  unfold PastRecheck at past
  split at past
  all_goals trivial

section

variable {tid : Task → ℤ} {pool next : System Task}

theorem Step.no_pastRecheck (step : Step tid pool next)
    (isClosed : pool.shared.admissionOpen = false) (nobody : ∀ t, ¬ (pool.locals t).PastRecheck) :
    ∀ t, ¬ (next.locals t).PastRecheck := by
  obtain ⟨t, here, moves⟩ := step
  have old := here ▸ nobody t
  refine Pool.forall_set (fun _ (l : Local) => ¬ l.PastRecheck) ?_ fun other _ => nobody other
  cases moves with
  | drift | close => exact old
  | recheckAdmission isOpen => exact absurd (isClosed.symm.trans isOpen) Bool.false_ne_true
  | recheckOwner | recheckAuthorized => exact absurd trivial old
  | _ => exact id

theorem Step.zero_of_hasDrained (step : Step tid pool next) {waiter}
    (waiting : ¬ (pool.locals waiter).HasDrained) (drained : (next.locals waiter).HasDrained) :
    pool.shared.activeWideExecutions = 0 := by
  have changed : pool.locals waiter ≠ next.locals waiter := fun same =>
    waiting (same ▸ drained)
  have moves := step.moved changed
  generalize pool.locals waiter = before at waiting changed moves
  generalize next.locals waiter = after at drained changed moves
  generalize next.shared = s at moves
  cases moves with
  | waitZero zero => exact zero
  | drift | close => exact absurd rfl changed
  | waitUnlock | waitDone => exact absurd trivial waiting
  | _ => exact drained.elim

end

variable {tid : Task → ℤ} {trace : ℕ → System Task} {length : ℕ}

theorem Execution.quiescent (execution : Execution tid trace length) {stopped last}
    (within : last ≤ length)
    (stopping : ∀ i, stopped ≤ i → i ≤ last → (trace i).shared.guard.stopping = true) {waiter}
    (waiting : ¬ ((trace stopped).locals waiter).HasDrained) {drained} (after : stopped ≤ drained)
    (upto : drained ≤ last) (hasDrained : ((trace drained).locals waiter).HasDrained) :
    ∀ i, drained ≤ i → i ≤ last → ∀ t, ¬ ((trace i).locals t).PastRecheck := by
  obtain ⟨test, since, below, before, became⟩ :=
    exists_last_entry (fun n => ((trace n).locals waiter).HasDrained) after waiting hasDrained
  have test_within : test < length := below.trans_le (upto.trans within)
  have zero := (execution.run test test_within).zero_of_hasDrained before
    (became _ (Nat.lt_succ_self test) below)
  have counted := (execution.invariant test test_within.le).counted
  rw [zero] at counted
  have quiet : ∀ t, ¬ ((trace test).locals t).PastRecheck := fun t past =>
    counted.empty t past.inFlight
  intro i from_drained
  refine (execution.run.take within).invariant_from
    (fun pool => ∀ t, ¬ (pool.locals t).PastRecheck) quiet ?_ i (below.le.trans from_drained)
  intro i from_test below_last step nobody
  have isStopping := stopping i (since.trans from_test) below_last.le
  have inv := execution.invariant i (below_last.le.trans within)
  exact Step.no_pastRecheck step (inv.closedStopping isStopping) nobody

/-- The counter is exact, wide kernels were admitted after their increment, and none runs or starts
once a waiter returns while stopping; no waiter misses the last release. -/
theorem wideAdmission_safe (execution : Execution tid trace length) :
    (∀ index ≤ length,
      Counts Local.InFlight (trace index).locals (trace index).shared.activeWideExecutions ∧
        ∀ t w, (trace index).locals t ≠ .executor w .underflow) ∧
    (∀ index ≤ length, ∀ t w, (trace index).locals t = .executor w .kernel →
      w.IsWide ∧ ∃ incremented rechecked authorized,
        Admitted trace t w incremented rechecked authorized index) ∧
    (∀ closed incremented index t w, closed ≤ incremented → incremented < index →
      index ≤ length → (trace closed).shared.admissionOpen = false →
      (trace incremented).locals t = .executor w .increment →
      (trace index).locals t = .executor w .kernel →
        ∃ reopen, closed ≤ reopen ∧ reopen < index ∧
          ∃ writer, (trace reopen).locals writer = .writer (.reopen true) ∧
            (trace (reopen + 1)).locals writer = .writer .unlocking) ∧
    (∀ stopped last waiter returned, last ≤ length →
      (∀ index, stopped ≤ index → index ≤ last → (trace index).shared.guard.stopping = true) →
      ¬ ((trace stopped).locals waiter).HasDrained → stopped ≤ returned → returned ≤ last →
      (trace returned).locals waiter = .waiter .returned →
        ∀ index, returned ≤ index → index ≤ last →
          ∀ t w, (trace index).locals t ≠ .executor w .kernel) ∧
    (∀ index ≤ length, (trace index).shared.activeWideExecutions = 0 →
      (∃ t, ((trace index).locals t).Unsignalled (trace index).shared.wideDrainBroadcasts) →
        ∃ t, ((trace index).locals t).WillBroadcast) := by
  refine ⟨?_, ?_, ?_, ?_, ?_⟩
  · intro index within
    have inv := execution.invariant index within
    exact ⟨inv.counted, inv.noUnderflow⟩
  · intro index within t w inKernel
    exact ⟨(execution.invariant index within).wide t w _ inKernel,
      execution.admitted within inKernel⟩
  · intro closed incremented index t w after before within isClosed increments inKernel
    exact execution.reopened_of_kernel after before within isClosed increments inKernel
  · intro stopped last waiter returned within stopping waiting after upto hasReturned index from_
      to_ t w inKernel
    have drained : ((trace returned).locals waiter).HasDrained := by
      rw [hasReturned]
      trivial
    refine execution.quiescent within stopping waiting after upto drained index from_ to_ t ?_
    rw [inKernel]
    trivial
  · intro index within
    exact (execution.invariant index within).notified

def quietShared : Shared (Fin 3) where
  guard := .permissive
  admissionOpen := false
  activeWideExecutions := 0
  wideExecutionDepth := fun _ => 0
  guardUpdateLock := none
  wideDrainLock := none
  wideDrainBroadcasts := 0

def quietPool : System (Fin 3) := ⟨quietShared, fun _ => .idle⟩

def stopTid (task : Fin 3) : ℤ := task.val

private theorem quietPool_initial : Initial quietPool :=
  ⟨rfl, rfl, rfl, rfl, fun _ => rfl⟩

/-- Task `0` opens admission and task `1` starts an AVX2 kernel. -/
def kernelRuns : Path (Step stopTid) quietPool :=
  .act 0 rfl (.writeLock rfl) <| .act 0 rfl .writeClose <| .act 0 rfl .writeDecide <|
  .act 0 rfl .writeStore <| .act 0 rfl .writeUnlock <| .act 1 rfl (.executionEnter 1) <|
  .act 1 rfl (.enterWide rfl (by decide)) <| .act 1 rfl (.firstOwner (by decide)) <|
  .act 1 rfl (.firstAdmission rfl) <| .act 1 rfl (.firstAuthorized (by decide)) <|
  .act 1 rfl .increment <| .act 1 rfl (.recheckAdmission rfl) <|
  .act 1 rfl (.recheckOwner (by decide)) <| .act 1 rfl (.recheckAuthorized (by decide)) .done

/-- Task `0` stops, task `2` waits, and the kernel returns. -/
def stopWaits : Path (Step stopTid) quietPool :=
  kernelRuns.append <| .act 0 rfl (.writeLock rfl) <| .act 0 rfl .writeClose <|
  .act 0 rfl (.writeMutate { GuardState.permissive with stopping := true }) <|
  .act 2 rfl .waitEnter <| .act 2 rfl (.waitAllowed rfl) <| .act 2 rfl (.waitLock rfl) <|
  .act 2 rfl (.waitNonzero (by decide)) <| .act 2 rfl .waitSleep <| .act 1 rfl .leave <|
  .act 1 rfl (.releaseLast rfl) <| .act 1 rfl (.notifyLock rfl) <| .act 1 rfl .notifyBroadcast <|
  .act 1 rfl .notifyUnlock <| .act 2 rfl .waitWake <| .act 2 rfl (.waitRelock rfl) <|
  .act 2 rfl (.waitZero rfl) <| .act 2 rfl .waitUnlock .done

theorem wideAdmission_safe_stop :
    Execution stopTid stopWaits.trace 31 ∧
    (stopWaits.trace 14).locals 1 = .executor .avx2 .kernel ∧
    (∃ incremented rechecked authorized,
      Admitted stopWaits.trace 1 .avx2 incremented rechecked authorized 14) ∧
    ∀ t w, (stopWaits.trace 31).locals t ≠ .executor w .kernel := by
  have execution : Execution stopTid stopWaits.trace 31 := ⟨quietPool_initial, stopWaits.isRun⟩
  have stopping : ∀ index, 17 ≤ index → index ≤ 31 →
      (stopWaits.trace index).shared.guard.stopping = true := by
    intro index _ _
    interval_cases index <;> rfl
  obtain ⟨-, admitted, -, quiescent, -⟩ := wideAdmission_safe execution
  refine ⟨execution, rfl, (admitted 14 (by decide) 1 .avx2 rfl).2, ?_⟩
  exact quiescent 17 31 2 31 le_rfl stopping id (by decide) le_rfl rfl 31 le_rfl le_rfl

end Admission
end ThermalSimd
