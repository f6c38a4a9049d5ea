import Mathlib.Tactic.IntervalCases
import ThermalSimd.Dispatch
import ThermalSimd.Interleaving

/-!
# Cancellation inside a dispatch

The execute functions of `adaptive_dispatch.c`, one step at a time, on a thread that may be
cancelled wherever cancellation is enabled. A cancelled thread runs its cleanup handlers and ends.
Every call of `pthread_setcancelstate` may fail.
-/

namespace ThermalSimd
namespace Dispatch

open Interleaving

/-- The generations of the execute function. -/
inductive Generation
  | v1 | v2
  deriving DecidableEq

/-- Before the thread's depth, the shared counter, the broadcast, or at the end. -/
inductive Release
  | surfacing | subtracting | notifying | released
  deriving DecidableEq

/-- Behind a release: the fallback of a refused admission, the rest of the function, or the end of a
cancelled thread. -/
inductive After
  | fallBack
  | finish (completed : Option ℤ)
  | terminate
  deriving DecidableEq

/-- Where the thread is. -/
inductive Point
  /-- Before the first `cancel_disable`. -/
  | start
  | resolving
  /-- Inside `tsd_runtime_execution_enter` for a wide width. -/
  | checking (width : SimdWidth)
  | counting (width : SimdWidth)
  | deepening (width : SimdWidth)
  | rechecking (width : SimdWidth)
  /-- Inside `wide_execution_release`. -/
  | releasing (after : After) (stage : Release)
  /-- Before `pthread_cleanup_push`. -/
  | installing (width : SimdWidth)
  | restoring (width : SimdWidth)
  | kernel (width : SimdWidth)
  | redisabling (width : SimdWidth) (status : ℤ)
  | accounting (width : SimdWidth) (status : ℤ)
  /-- Before `pthread_cleanup_pop(1)` removes the handler and runs it. -/
  | popping (width : SimdWidth) (completed : Option ℤ)
  | finishing (completed : Option ℤ)
  | returned (rc : ℤ)
  | terminated
  deriving DecidableEq

/-- A thread with its share of the process. -/
structure Thread where
  point : Point
  /-- The cancellation state is `PTHREAD_CANCEL_ENABLE`. -/
  enabled : Bool
  /-- `previous_cancel_state`. -/
  previous : Bool
  handler : Option SimdWidth
  depth : ℕ
  /-- `g_tsd_active_wide_executions`. -/
  active : ℕ
  others : ℕ
  admissions : ℕ
  /-- Wide admissions `tsd_runtime_execution_leave` gave back (auxiliary). -/
  leaves : ℕ
  accounted : ℕ
  status : Option ℤ
  deriving DecidableEq

/-- `tsd_runtime_execution_leave` at its first step. -/
def Release.begin (width : SimdWidth) : Release :=
  if width.IsWide then .surfacing else .released

@[simp]
def After.point : After → Point
  | .fallBack => .installing .sse41
  | .finish completed => .finishing completed
  | .terminate => .terminated

/-- Whether a release is one of `tsd_runtime_execution_leave`. -/
@[simp]
def After.leaves : After → ℕ
  | .fallBack => 0
  | _ => 1

/-- The steps that change nothing else. -/
inductive Goes : Point → Point → Prop
  | disableFails : Goes .start (.returned (-1))
  -- resolve_internal
  | resolveNarrow : Goes .resolving (.installing .sse41)
  | resolveWide {width} (wide : width.IsWide) : Goes .resolving (.checking width)
  -- tsd_runtime_execution_enter, with the local fallback when it answers EAGAIN
  | checkFails {width} : Goes (.checking width) (.installing .sse41)
  | checkPasses {width} : Goes (.checking width) (.counting width)
  | recheckFails {width} : Goes (.rechecking width) (.releasing .fallBack .surfacing)
  -- The broadcast of wide_execution_release
  | releaseNotify {after} : Goes (.releasing after .notifying) (.releasing after .released)
  | releaseEnds {after} : Goes (.releasing after .released) after.point
  | restoreFails {width} : Goes (.restoring width) (.popping width none)
  | redisableFails {width status} : Goes (.redisabling width status) (.popping width none)
  | skipAccount {width status} : Goes (.accounting width status) (.popping width (some status))
  | finishFails {status} : Goes (.finishing (some status)) (.returned (-1))

section

variable (generation : Generation)

/-- The steps of the thread and of those around it. -/
inductive Moves : Thread → Thread → Prop
  | otherEnters {t} : Moves t { t with active := t.active + 1, others := t.others + 1 }
  | otherLeaves {t} (present : 0 < t.others) :
      Moves t { t with active := t.active - 1, others := t.others - 1 }
  | goes {t point} (step : Goes t.point point) : Moves t { t with point }
  -- cancel_disable
  | disable {t} (here : t.point = .start) :
      Moves t { t with point := .resolving, previous := t.enabled, enabled := false }
  -- Where a call gives up, the result of restoring the cancellation state is ignored.
  | resolveFails {t} (enabled : Bool) (here : t.point = .resolving) :
      Moves t { t with point := .returned (-1), enabled }
  -- No width that resolution delivers is refused for good, but the code provides for it.
  | enterFails {t width} (enabled : Bool) (here : t.point = .checking width) :
      Moves t { t with point := .returned (-1), enabled }
  | count {t width} (here : t.point = .counting width) :
      Moves t { t with point := .deepening width, active := t.active + 1 }
  | deepen {t width} (here : t.point = .deepening width) :
      Moves t { t with point := .rechecking width, depth := t.depth + 1 }
  | recheckPasses {t width} (wide : width.IsWide) (here : t.point = .rechecking width) :
      Moves t { t with point := .installing width, admissions := t.admissions + 1 }
  -- wide_execution_release; subtracting from zero is repaired to zero.
  | releaseDepth {t after} (here : t.point = .releasing after .surfacing) :
      Moves t { t with point := .releasing after .subtracting, depth := t.depth - 1 }
  | releaseCount {t after} (here : t.point = .releasing after .subtracting) :
      Moves t
        { t with
          point := .releasing after .notifying
          active := t.active - 1
          leaves := t.leaves + after.leaves }
  -- pthread_cleanup_push
  | install {t width} (here : t.point = .installing width) :
      Moves t { t with point := .restoring width, handler := some width }
  | restore {t width} (here : t.point = .restoring width) :
      Moves t { t with point := .kernel width, enabled := t.previous }
  -- The kernel may leave any cancellation state behind.
  | kernelReturns {t width} (status : ℤ) (enabled : Bool) (plain : generation = .v1 → status = 0)
      (here : t.point = .kernel width) :
      Moves t { t with point := .redisabling width status, enabled, status := some status }
  | redisable {t width status} (here : t.point = .redisabling width status) :
      Moves t { t with point := .accounting width status, enabled := false }
  -- account_completed_work
  | account {t width} (here : t.point = .accounting width 0) :
      Moves t { t with point := .popping width (some 0), accounted := t.accounted + 1 }
  -- pthread_cleanup_pop(1)
  | pop {t width completed} (here : t.point = .popping width completed) :
      Moves t { t with point := .releasing (.finish completed) (.begin width), handler := none }
  | finishIncomplete {t} (enabled : Bool) (here : t.point = .finishing none) :
      Moves t { t with point := .returned (-1), enabled }
  | finish {t status} (here : t.point = .finishing (some status)) :
      Moves t { t with point := .returned status, enabled := t.previous }
  -- Cancellation, or pthread_exit in the kernel: the installed handler runs, then the thread ends.
  | cancel {t} (enabled : t.enabled = true) (inside : ∀ rc, t.point ≠ .returned rc)
      (bare : t.handler = none) :
      Moves t { t with point := .terminated, enabled := false }
  | cancelHandled {t width} (enabled : t.enabled = true) (installed : t.handler = some width) :
      Moves t
        { t with
          point := .releasing .terminate (.begin width), enabled := false, handler := none }
  | exitKernel {t width} (here : t.point = .kernel width) :
      Moves t
        { t with
          point := .releasing .terminate (.begin width), enabled := false, handler := none }

end

variable {width : SimdWidth}

/-- A thread calls an execute function at any depth. -/
structure Enters (t : Thread) (depth : ℕ) : Prop where
  point : t.point = .start
  handler : t.handler = none
  depth : t.depth = depth
  active : t.active = t.others
  admissions : t.admissions = 0
  leaves : t.leaves = 0
  accounted : t.accounted = 0
  status : t.status = none

private def Release.deep : Release → ℕ
  | .surfacing => 1
  | _ => 0

def Release.held : Release → ℕ
  | .surfacing | .subtracting => 1
  | _ => 0

private def wideCount (width : SimdWidth) : ℕ := if width.IsWide then 1 else 0

@[simp]
theorem wideCount_sse41 : wideCount .sse41 = 0 := rfl

theorem wideCount_of_isWide (wide : width.IsWide) : wideCount width = 1 :=
  if_pos wide

@[simp]
theorem Release.held_begin (width) : (Release.begin width).held = wideCount width := by
  unfold Release.begin wideCount
  split <;> rfl

@[simp]
theorem Release.deep_begin (width) : (Release.begin width).deep = wideCount width := by
  unfold Release.begin wideCount
  split <;> rfl

/-- The width of the admission a thread stands in, between its grant and its release. -/
@[simp]
def Point.admission : Point → Option SimdWidth
  | .installing width | .restoring width | .kernel width | .redisabling width _
  | .accounting width _ | .popping width _ => some width
  | _ => none

@[simp]
private def Point.counted : Point → ℕ
  | .deepening _ | .rechecking _ => 1
  | .releasing _ stage => stage.held
  | point => (point.admission.map wideCount).getD 0

@[simp]
private def Point.deep : Point → ℕ
  | .rechecking _ => 1
  | .releasing _ stage => stage.deep
  | point => (point.admission.map wideCount).getD 0

@[simp]
private def Point.owed : Point → ℕ
  | .releasing after stage => after.leaves * stage.held
  | point => (point.admission.map wideCount).getD 0

@[simp]
private def Point.installed : Point → Option SimdWidth
  | .installing _ => none
  | point => point.admission

@[simp]
private def Point.Shielded : Point → Prop
  | .start | .kernel _ | .redisabling _ _ | .popping _ _ | .releasing (.finish _) _ | .finishing _
  | .returned _ => False
  | _ => True

@[simp]
private def Point.Early : Point → Prop
  | .start | .resolving | .checking _ | .counting _ | .deepening _ | .rechecking _
  | .releasing .fallBack _ => True
  | _ => False

@[simp]
private def Point.Unaccounted : Point → Prop
  | .installing _ | .restoring _ | .kernel _ | .redisabling _ _ | .accounting _ _ => True
  | point => point.Early

@[simp]
private def Point.status : Point → Option ℤ
  | .redisabling _ status | .accounting _ status => some status
  | _ => none

/-- The handler has been removed, and what it gives back is still held. -/
@[simp]
def Point.Unprotected : Point → Prop
  | .releasing (.finish _) stage => stage.held = 1
  | _ => False

/-- The handler is the point's, and shields are up. -/
structure Guarded (t : Thread) : Prop where
  handler : t.handler = t.point.installed
  shielded : t.point.Shielded → t.enabled = false

/-- What the thread holds is what its point owes. -/
structure Held (depth : ℕ) (t : Thread) : Prop where
  active : t.active = t.others + t.point.counted
  depth : t.depth = depth + t.point.deep
  owed : t.admissions = t.leaves + t.point.owed

/-- Admission is granted and work accounted for at most once, the work after the kernel. -/
structure Accounted (t : Thread) : Prop where
  early : t.point.Early → t.admissions = 0
  once : t.admissions ≤ 1
  unaccounted : t.point.Unaccounted → t.accounted = 0
  accountedOnce : t.accounted ≤ 1
  afterKernel : 0 < t.accounted → t.status = some 0
  status : ∀ status ∈ t.point.status, t.status = some status

section

variable {generation : Generation} {depth : ℕ} {t t' : Thread} {point : Point}

/-- A step between points that owe the same. -/
structure Keeps (before after : Point) : Prop where
  counted : after.counted = before.counted
  deep : after.deep = before.deep
  owed : after.owed = before.owed
  installed : after.installed = before.installed
  shielded : after.Shielded → before.Shielded
  early : after.Early → before.Early
  unaccounted : after.Unaccounted → before.Unaccounted
  status : after.status = none

theorem Goes.keeps {before after} (step : Goes before after) : Keeps before after := by
  cases step with
  | @releaseNotify after | @releaseEnds after =>
    cases after <;> constructor <;> simp [Release.held, Release.deep]
  | recheckFails => constructor <;> simp [Release.held, Release.deep]
  | _ => constructor <;> simp

theorem Guarded.move (guarded : Guarded t) (moves : Moves generation t t') : Guarded t' := by
  obtain ⟨handler, shielded⟩ := guarded
  cases moves with
  | otherEnters | otherLeaves => exact ⟨handler, shielded⟩
  | goes step =>
    exact ⟨handler.trans step.keeps.installed.symm,
      fun closed => shielded (step.keeps.shielded closed)⟩
  | disable here | resolveFails enabled here | enterFails enabled here | restore here
  | kernelReturns status enabled plain here | redisable here | account here
  | finishIncomplete enabled here | finish here => exact ⟨by simp_all, by simp⟩
  | count here | deepen here | recheckPasses wide here | install here =>
    exact ⟨by simp_all, by simp_all⟩
  | @releaseDepth after here | @releaseCount after here =>
    cases after
    all_goals exact ⟨by simp_all, by simp_all⟩
  | pop here => exact ⟨by simp, by simp⟩
  | cancel enabled _ bare => exact ⟨bare, fun _ => rfl⟩
  | cancelHandled enabled installed | exitKernel here => exact ⟨rfl, fun _ => rfl⟩

theorem Point.nothing_held (bare : point.installed = none) (exposed : ¬ point.Shielded)
    (protected_ : ¬ point.Unprotected) : point.counted = 0 ∧ point.deep = 0 ∧ point.owed = 0 := by
  cases point with
  | releasing after stage =>
    cases after with
    | fallBack | terminate => exact absurd trivial exposed
    | finish => cases stage <;> simp_all [Release.held, Release.deep]
  | resolving | checking | counting | deepening | rechecking | installing =>
    exact absurd trivial exposed
  | restoring | kernel | redisabling | accounting | popping => cases bare
  | start | finishing | returned | terminated => exact ⟨rfl, rfl, rfl⟩

theorem Point.holds_of_installed (installed : point.installed = some width) :
    point.counted = wideCount width ∧ point.deep = wideCount width ∧
      point.owed = wideCount width := by
  cases point <;> first | cases installed; exact ⟨rfl, rfl, rfl⟩ | cases installed

theorem Held.move (held : Held depth t) (guarded : Guarded t) (moves : Moves generation t t')
    (undisturbed : t.point.Unprotected → t'.point ≠ .terminated) : Held depth t' := by
  obtain ⟨active, deep, owed⟩ := held
  cases moves with
  | otherEnters | otherLeaves present => exact ⟨by dsimp only; omega, deep, owed⟩
  | goes step =>
    obtain ⟨_, _, _, -⟩ := step.keeps
    exact ⟨by dsimp only; omega, by dsimp only; omega, by dsimp only; omega⟩
  | cancel enabled _ bare =>
    have nothing := Point.nothing_held (guarded.handler.symm.trans bare)
      (fun closed => by simp [guarded.shielded closed] at enabled)
      (fun held => undisturbed held rfl)
    exact ⟨by dsimp only; simp; omega, by dsimp only; simp; omega, by dsimp only; simp; omega⟩
  | cancelHandled enabled installed =>
    have holds := Point.holds_of_installed (guarded.handler.symm.trans installed)
    exact ⟨by simp; omega, by simp; omega, by simp; omega⟩
  | disable here
  | resolveFails enabled here
  | enterFails enabled here
  | count here
  | deepen here
  | install here
  | restore here
  | kernelReturns status enabled plain here
  | redisable here
  | account here
  | finishIncomplete enabled here
  | finish here
  | pop here
  | exitKernel here =>
    rw [here] at active deep owed
    exact ⟨by simp [active], by simp [deep], by simp [owed]⟩
  | recheckPasses wide here =>
    rw [here] at active deep owed
    exact ⟨by simp [active, wideCount_of_isWide wide], by simp [deep, wideCount_of_isWide wide],
      by simp [owed, wideCount_of_isWide wide]⟩
  | releaseDepth here
  | releaseCount here =>
    rw [here] at active deep owed
    simp [Release.held, Release.deep] at active deep owed
    refine ⟨?_, ?_, ?_⟩ <;> simp [Release.held, Release.deep] <;> omega

theorem Accounted.move (accounted : Accounted t) (moves : Moves generation t t') :
    Accounted t' := by
  obtain ⟨early, once, unaccounted, accountedOnce, afterKernel, status⟩ := accounted
  cases moves with
  | otherEnters | otherLeaves =>
    exact ⟨early, once, unaccounted, accountedOnce, afterKernel, status⟩
  | goes step =>
    exact ⟨fun here => early (step.keeps.early here), once,
      fun here => unaccounted (step.keeps.unaccounted here), accountedOnce, afterKernel,
      fun status named => nomatch step.keeps.status.symm.trans named⟩
  | recheckPasses _ here =>
    rw [here] at early unaccounted
    have uncalled := early trivial
    exact ⟨False.elim, by simp [uncalled], fun _ => unaccounted trivial, accountedOnce, afterKernel,
      by simp⟩
  | kernelReturns status enabled _ here =>
    rw [here] at unaccounted
    have unworked := unaccounted trivial
    exact ⟨False.elim, once, fun _ => unworked, accountedOnce, by simp [unworked], by simp⟩
  | redisable here =>
    rw [here] at unaccounted status
    exact ⟨False.elim, once, fun _ => unaccounted trivial, accountedOnce, afterKernel,
      by simpa using status⟩
  | account here =>
    rw [here] at unaccounted status
    have unworked := unaccounted trivial
    exact ⟨False.elim, once, False.elim, by simp [unworked], fun _ => status 0 rfl, by simp⟩
  | disable here
  | count here
  | deepen here =>
    rw [here] at early unaccounted
    exact ⟨fun _ => early trivial, once, fun _ => unaccounted trivial, accountedOnce, afterKernel,
      by simp⟩
  | install here
  | restore here =>
    rw [here] at unaccounted
    exact ⟨False.elim, once, fun _ => unaccounted trivial, accountedOnce, afterKernel, by simp⟩
  | resolveFails enabled here
  | enterFails enabled here
  | pop here
  | finishIncomplete enabled here
  | finish here
  | cancel enabled inside bare
  | cancelHandled enabled installed
  | exitKernel here => exact ⟨False.elim, once, False.elim, accountedOnce, afterKernel, by simp⟩
  | @releaseDepth after here
  | @releaseCount after here =>
    rw [here] at early unaccounted
    cases after with
    | fallBack =>
      exact ⟨fun _ => early trivial, once, fun _ => unaccounted trivial, accountedOnce,
        afterKernel, by simp⟩
    | finish | terminate =>
      exact ⟨False.elim, once, False.elim, accountedOnce, afterKernel, by simp⟩

/-- What an undisturbed run keeps. -/
structure Consistent (depth : ℕ) (t : Thread) : Prop where
  guarded : Guarded t
  held : Held depth t
  accounted : Accounted t

theorem Enters.consistent (enters : Enters t depth) : Consistent depth t := by
  obtain ⟨point, handler, deep, active, admissions, leaves, accounted, _⟩ := enters
  refine ⟨⟨?_, ?_⟩, ⟨?_, ?_, ?_⟩, ⟨?_, ?_, ?_, ?_, ?_, ?_⟩⟩
  all_goals simp [point, handler, deep, active, admissions, leaves, accounted]

/-- The thread is not cancelled between the removal of its handler and the release. -/
def Undisturbed (t t' : Thread) : Prop := t.point.Unprotected → t'.point ≠ .terminated

theorem Consistent.move (consistent : Consistent depth t) (moves : Moves generation t t')
    (undisturbed : Undisturbed t t') : Consistent depth t' :=
  ⟨consistent.guarded.move moves, consistent.held.move consistent.guarded moves undisturbed,
    consistent.accounted.move moves⟩

def Thread.Ended (t : Thread) : Prop := (∃ rc, t.point = .returned rc) ∨ t.point = .terminated

/-- Admission is balanced at the end and never released too often, and work is accounted for once,
for a kernel that returned zero. -/
structure Balanced (depth : ℕ) (t : Thread) : Prop where
  active : t.Ended → t.active = t.others
  depth : t.Ended → t.depth = depth
  released : t.Ended → t.leaves = t.admissions
  entered : t.leaves ≤ t.admissions
  once : t.admissions ≤ 1
  accountedOnce : t.accounted ≤ 1
  afterKernel : 0 < t.accounted → t.status = some 0

theorem Thread.Ended.nothing_held (ended : t.Ended) :
    t.point.counted = 0 ∧ t.point.deep = 0 ∧ t.point.owed = 0 := by
  rcases ended with ⟨rc, here⟩ | here <;> rw [here] <;> exact ⟨rfl, rfl, rfl⟩

theorem Consistent.balanced (consistent : Consistent depth t) : Balanced depth t := by
  obtain ⟨-, ⟨active, deep, owed⟩, accounted⟩ := consistent
  refine ⟨fun ended => ?_, fun ended => ?_, fun ended => ?_, ?_, accounted.once,
    accounted.accountedOnce, accounted.afterKernel⟩
  · rw [active, ended.nothing_held.1, add_zero]
  · rw [deep, ended.nothing_held.2.1, add_zero]
  · rw [owed, ended.nothing_held.2.2, add_zero]
  · omega

theorem Goes.ne_terminated {before after} (step : Goes before after)
    (unprotected : before.Unprotected) : after ≠ .terminated := by
  cases step with
  | @releaseNotify after => cases after <;> simp
  | @releaseEnds after => cases after <;> simp_all [Release.held]
  | _ => simp_all

theorem Moves.cancelled (moves : Moves generation t t') (unprotected : t.point.Unprotected)
    (ended : t'.point = .terminated) :
    t.enabled = true ∧ t' = { t with point := .terminated, enabled := false } := by
  cases moves with
  | cancel enabled => exact ⟨enabled, rfl⟩
  | goes step => exact absurd ended (step.ne_terminated unprotected)
  | otherEnters | otherLeaves => rw [ended] at unprotected; cases unprotected
  | _ => cases ended

theorem Point.Unprotected.counted (unprotected : point.Unprotected) : point.counted = 1 := by
  unfold Point.Unprotected at unprotected
  split at unprotected
  · exact unprotected
  · exact unprotected.elim

end

/-- Admission is balanced exactly if the thread is not cancelled between `pthread_cleanup_pop(1)`
removing the handler and the release inside it. -/
theorem admission_balanced_iff {generation : Generation} {trace : ℕ → Thread} {length depth : ℕ}
    (enters : Enters (trace 0) depth) (run : IsRun (Moves generation) trace length) :
    (∀ index ≤ length, Balanced depth (trace index)) ↔
      ∀ index < length, Undisturbed (trace index) (trace (index + 1)) := by
  have kept : ∀ index ≤ length,
      (∀ earlier < index, Undisturbed (trace earlier) (trace (earlier + 1))) →
        Consistent depth (trace index) := by
    intro index le undisturbed
    exact (run.take le).invariant_from (Consistent depth) enters.consistent
      (fun earlier _ below moves consistent => consistent.move moves (undisturbed earlier below))
      index (Nat.zero_le _) le_rfl
  constructor
  · intro balanced index
    induction index using Nat.strong_induction_on with
    | _ index ih =>
      intro below unprotected ended
      have consistent := kept index below.le fun earlier before =>
        ih earlier before (before.trans below)
      have back := (balanced (index + 1) below).active (.inr ended)
      have active := consistent.held.active
      rw [((run index below).cancelled unprotected ended).2] at back
      rw [unprotected.counted] at active
      dsimp only at back
      omega
  · intro undisturbed index le
    exact (kept index le fun earlier before => undisturbed earlier (before.trans_le le)).balanced

/-- Past the last `cancel_disable`, with the handler still to run. -/
@[simp]
def Point.Late : Point → Prop
  | .popping _ _ | .releasing (.finish _) _ => True
  | _ => False

/-- No `cancel_disable` after the kernel fails with cancellation enabled. -/
def Redisables (t t' : Thread) : Prop :=
  ∀ width status, t.point = .redisabling width status → t'.point = .popping width none →
    t.enabled = false

theorem late_disabled_step {generation : Generation} {t t' : Thread} (guarded : Guarded t)
    (late : t.point.Late → t.enabled = false) (moves : Moves generation t t')
    (redisables : Redisables t t') : t'.point.Late → t'.enabled = false := by
  intro late'
  cases moves with
  | otherEnters | otherLeaves => exact late late'
  | goes step =>
    generalize here : t.point = before at step
    cases step with
    | redisableFails => exact redisables _ _ here rfl
    | restoreFails | skipAccount => exact guarded.shielded (here ▸ trivial)
    | @releaseNotify after | @releaseEnds after =>
      cases after with
      | finish => exact late (here ▸ trivial)
      | fallBack | terminate => exact guarded.shielded (here ▸ trivial)
    | _ => exact late'.elim
  | account here => exact guarded.shielded (here ▸ trivial)
  | pop here => exact late (here ▸ trivial)
  | @releaseDepth after here | @releaseCount after here =>
    cases after with
    | finish => exact late (here ▸ trivial)
    | fallBack | terminate => exact late'.elim
  | _ => first | rfl | exact late'.elim

/-- The condition holds if `cancel_disable` works after the kernel, or was not needed. -/
theorem undisturbed_of_redisables {generation : Generation} {trace : ℕ → Thread}
    {length depth : ℕ} (enters : Enters (trace 0) depth)
    (run : IsRun (Moves generation) trace length)
    (redisables : ∀ index < length, Redisables (trace index) (trace (index + 1))) :
    ∀ index < length, Undisturbed (trace index) (trace (index + 1)) := by
  have kept : ∀ index ≤ length, Guarded (trace index) ∧
      ((trace index).point.Late → (trace index).enabled = false) := by
    intro index le
    refine run.invariant_from
      (fun t => Guarded t ∧ (t.point.Late → t.enabled = false)) ?_ ?_ index (Nat.zero_le _) le
    · exact ⟨enters.consistent.guarded, by simp [enters.point]⟩
    · intro earlier _ below moves ⟨guarded, late⟩
      exact ⟨guarded.move moves,
        late_disabled_step guarded late moves (redisables earlier below)⟩
  intro index below unprotected ended
  have late : (trace index).point.Late := by
    unfold Point.Unprotected at unprotected
    split at unprotected
    · next here => rw [here]; trivial
    · exact unprotected.elim
  have enabled := ((run index below).cancelled unprotected ended).1
  rw [(kept index below.le).2 late] at enabled
  cases enabled

def outset : Thread where
  point := .start
  enabled := true
  previous := true
  handler := none
  depth := 0
  active := 0
  others := 0
  admissions := 0
  leaves := 0
  accounted := 0
  status := none

theorem outset_enters : Enters outset 0 := by
  constructor <;> rfl

/-- A call that is admitted with AVX2 and has called its kernel. -/
def intoKernel : Path (Moves .v2) outset :=
  .move (.disable rfl) <| .move (@Moves.goes _ _ (.checking .avx2) (.resolveWide (by decide))) <|
  .move (.goes .checkPasses) <| .move (.count rfl) <| .move (.deepen rfl) <|
  .move (.recheckPasses (by decide) rfl) <| .move (.install rfl) <| .move (.restore rfl) .done

def cancelledInKernel : Path (Moves .v2) outset :=
  intoKernel.append <| .move (.cancelHandled rfl rfl) <| .move (.releaseDepth rfl) <|
  .move (.releaseCount rfl) <| .move (.goes .releaseNotify) <| .move (.goes .releaseEnds) .done

/-- Cancellation cannot be disabled, and the thread is cancelled in the handler. -/
def cancelledInHandler : Path (Moves .v2) outset :=
  intoKernel.append <| .move (.kernelReturns 0 true (by decide) rfl) <|
  .move (.goes .redisableFails) <| .move (.pop rfl) <|
  .move (.cancel rfl (by intro rc; exact Point.noConfusion) rfl) .done

theorem admission_balanced_cancelled_in_kernel : Balanced 0 (cancelledInKernel.trace 13) := by
  refine (admission_balanced_iff outset_enters cancelledInKernel.isRun).mpr (fun index below => ?_)
    13 le_rfl
  have safe : ¬ (cancelledInKernel.trace index).point.Unprotected := by
    change index < 13 at below
    interval_cases index <;> exact id
  exact fun unprotected => absurd unprotected safe

/-- A failing `pthread_setcancelstate` after the kernel lets a cancellation lose the release. -/
theorem cancelled_in_handler_unbalanced :
    ∃ trace : ℕ → Thread, ∃ length : ℕ,
      Enters (trace 0) 0 ∧ IsRun (Moves .v2) trace length ∧ (trace length).Ended ∧
        (trace length).active = (trace length).others + 1 ∧ (trace length).depth = 1 ∧
          (trace length).admissions = 1 ∧ (trace length).leaves = 0 :=
  ⟨_, _, outset_enters, cancelledInHandler.isRun, .inr rfl, rfl, rfl, rfl, rfl⟩

end Dispatch
end ThermalSimd
