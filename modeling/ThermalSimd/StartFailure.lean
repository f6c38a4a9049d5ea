import Mathlib.Tactic.IntervalCases
import ThermalSimd.StopSafety

/-!
# Failed starts

After its prerequisites `tsd_runtime_start` sets the stopping flag and clears the owner, and then
has five ways to fail. None puts the two back, so a failed start leaves the process refusing every
wide width although no runtime is active.
-/

namespace ThermalSimd
namespace Runtime

open Interleaving Selector

variable {Task : Type*}

/-- A start that has failed, from its last unlock to the end of the public rollback. -/
def StartPc.RollsBack : StartPc → Prop
  | .unlockFailed _ _ | .deactivate _ | .deactivateConfig _ | .release _ => True
  | _ => False

theorem StartPc.RollsBack.reserved {pc : StartPc} (rollsBack : pc.RollsBack) : pc.Reserved := by
  cases pc <;> trivial

/-- The private start of `f` begins at `first` and leaves through `point` at `exit`; the public call
returns at `last`. -/
structure FailedStart (trace : ℕ → System Task) (t : Task) (f : StartFrame) (point : StartFailure)
    (e : Errno) (first exit last : ℕ) : Prop where
  begins : (trace first).locals t = .starting f .lockRuntime
  exits : (trace exit).locals t = .starting f (.unlockFailed point e)
  order : first < exit ∧ exit < last
  slot : ∀ k, first ≤ k → k ≤ last → ∃ pc, (trace k).locals t = .starting f pc ∧ pc.Reserved
  returns : (trace (last + 1)).locals t = .starting f (.returned (.error e))

section

variable {platform : Platform} {t : Task}

theorem Moves.flags {tid s s' l l'} (moves : Moves platform tid t s l s' l') :
    s'.guard.stopping = s.guard.stopping ∧ s'.guard.ownerTid = s.guard.ownerTid ∨
      l.Reserved ∨ l.InStop ∨ l.InPublic := by
  have agrees {guard} (agree : s.guard.AgreeOffSafetyCell guard) :
      guard.stopping = s.guard.stopping ∧ guard.ownerTid = s.guard.ownerTid :=
    ⟨(KeepsLifecycle.of_agree agree).stopping, (KeepsLifecycle.of_agree agree).ownerTid⟩
  cases moves with
  | drift guard keeps => exact .inl ⟨keeps.stopping, keeps.ownerTid⟩
  | writeLeave => exact .inl (agrees (s.guard.afterQuery_agree _))
  | patch moves => exact .inl (agrees moves.guard_agree)
  | init moves => exact .inl ⟨congrArg _ moves.guard_eq, congrArg _ moves.guard_eq⟩
  | @start _ f pc _ moves =>
    cases moves with
    | reserveBusy | reserve => exact .inl ⟨rfl, rfl⟩
    | _ => exact .inr (.inl trivial)
  | stop moves => exact .inr (.inr (.inl (by cases moves <;> trivial)))
  | request moves => exact .inr (.inr (.inr (by cases moves <;> trivial)))
  | call _ _ moves => cases moves <;> exact .inl ⟨rfl, rfl⟩
  | _ => exact .inl ⟨rfl, rfl⟩

theorem StartMoves.rollsBack {tid f s s' pc pc'}
    (moves : StartMoves platform tid t f s pc s' pc') (rollsBack : pc.RollsBack) :
    (s'.guard.stopping = s.guard.stopping ∧ s'.guard.ownerTid = s.guard.ownerTid) ∧
      (pc'.RollsBack ∨ ¬ pc'.Reserved) := by
  cases moves with
  | unlockFailed | deactivate | deactivateConfig => exact ⟨⟨rfl, rfl⟩, .inl trivial⟩
  | release => exact ⟨⟨rfl, rfl⟩, .inr id⟩
  | _ => exact rollsBack.elim

variable [DecidableEq Task]

theorem LifecycleInvariant.flags_rollback {tid pool next}
    (life : LifecycleInvariant pool) (step : Step platform tid pool next) {f pc}
    (here : pool.locals t = .starting f pc) (rollsBack : pc.RollsBack) :
    (next.shared.guard.stopping = pool.shared.guard.stopping ∧
      next.shared.guard.ownerTid = pool.shared.guard.ownerTid) ∧
    ∃ pc', next.locals t = .starting f pc' ∧ (pc'.RollsBack ∨ ¬ pc'.Reserved) := by
  have slot : (pool.locals t).Reserved := by rw [here]; exact rollsBack.reserved
  obtain ⟨mover, source, moves⟩ := step
  rcases eq_or_ne mover t with rfl | ne
  · rw [here] at source
    subst source
    rw [Pool.set_shared, Pool.set_self]
    cases moves with
    | drift guard keeps =>
      exact ⟨⟨keeps.stopping, keeps.ownerTid⟩, pc, rfl, .inl rollsBack⟩
    | monitorExit => exact ⟨⟨rfl, rfl⟩, pc, rfl, .inl rollsBack⟩
    | start moves =>
      obtain ⟨same, stays⟩ := moves.rollsBack rollsBack
      exact ⟨same, _, rfl, stays⟩
    | startReturn => exact rollsBack.elim
  · rw [Pool.set_shared, Pool.set_other _ ne.symm, here]
    refine ⟨?_, pc, rfl, .inl rollsBack⟩
    rcases moves.flags with same | starts | stops | requests
    · exact same
    · rw [← source] at starts
      exact absurd (life.starting.exclusive starts slot) ne
    · rw [← source] at stops
      exact absurd stops (life.start_alone slot).1
    · rw [← source] at requests
      exact absurd requests (life.start_alone slot).2

end

section

variable [DecidableEq Task] {platform : Platform} {tid : Task → ℤ} {trace : ℕ → System Task}
  {length : ℕ} {t : Task} {f : StartFrame} {point : StartFailure} {e : Errno}
  {first exit last : ℕ}

theorem FailedStart.flags (failed : FailedStart trace t f point e first exit last)
    (execution : Execution platform tid trace length) (within : last < length) {k}
    (after : exit ≤ k) (upto : k ≤ last + 1) :
    (trace k).shared.guard.stopping = true ∧ (trace k).shared.guard.ownerTid = 0 := by
  have life := execution.lifecycleInvariant
  have begins : exit ≤ length := failed.order.2.le.trans within.le
  have facts := (execution.selectorInvariant exit begins).started t f _ failed.exits
  have rollback : ∀ k, exit ≤ k → k ≤ last → (∃ pc, (trace k).locals t = .starting f pc ∧
      pc.RollsBack) ∧ (trace k).shared.guard.stopping = true ∧
      (trace k).shared.guard.ownerTid = 0 := by
    refine (execution.run.take within.le).invariant_from
      (fun pool => (∃ pc, pool.locals t = .starting f pc ∧ pc.RollsBack) ∧
        pool.shared.guard.stopping = true ∧ pool.shared.guard.ownerTid = 0)
      ⟨⟨_, failed.exits, trivial⟩, facts.stopped trivial, facts.ownerless trivial⟩ ?_
    rintro i above lt step ⟨⟨pc, here, rollsBack⟩, stopping, ownerTid⟩
    obtain ⟨⟨same, same'⟩, pc', there, stays⟩ :=
      (life i (lt.le.trans within.le)).flags_rollback step here rollsBack
    -- The call still has the slot, so it has not returned yet.
    obtain ⟨_, at_next, reserved⟩ := failed.slot (i + 1)
      (failed.order.1.le.trans (above.trans (Nat.le_succ i))) lt
    rw [there] at at_next
    cases at_next
    exact ⟨⟨pc', there, stays.resolve_right fun left => left reserved⟩, same.trans stopping,
      same'.trans ownerTid⟩
  rcases Nat.le_succ_iff.mp upto with upto | rfl
  · exact (rollback k after upto).2
  · obtain ⟨⟨pc, here, rollsBack⟩, stopping, ownerTid⟩ :=
      rollback last failed.order.2.le le_rfl
    obtain ⟨⟨same, same'⟩, -⟩ :=
      (life last within.le).flags_rollback (execution.run last within) here rollsBack
    exact ⟨same.trans stopping, same'.trans ownerTid⟩

/-- A failed start keeps the stopping flag and the owner exactly when it found the flag set and no
owner. In every case no wide width is authorized afterwards. -/
theorem failedStart_keeps_flags_iff (execution : Execution platform tid trace length)
    (within : last < length) (failed : FailedStart trace t f point e first exit last) :
    ∀ k, exit < k → k ≤ last + 1 →
      (((trace k).shared.guard.stopping = (trace first).shared.guard.stopping ∧
        (trace k).shared.guard.ownerTid = (trace first).shared.guard.ownerTid) ↔
          (trace first).shared.guard.stopping = true ∧
            (trace first).shared.guard.ownerTid = 0) ∧
      ∀ w : SimdWidth, w.IsWide → ¬ (trace k).shared.guard.WidthAuthorized w.toInt := by
  intro k after upto
  obtain ⟨stopping, ownerTid⟩ := failed.flags execution within after.le upto
  refine ⟨?_, fun w wide => GuardState.not_widthAuthorized_of_stopping _ stopping wide⟩
  rw [stopping, ownerTid]
  constructor
  · rintro ⟨flag, owner⟩
    exact ⟨flag.symm, owner.symm⟩
  · rintro ⟨flag, owner⟩
    exact ⟨flag.symm, owner.symm⟩

end

def firstStart : StartFrame := ⟨validConfig, 0, 0⟩

/-- The first start's allocation fails, and the public call returns `ENOMEM`. -/
def failingStart : Path (Step avx2Platform fun _ => 1) (loadedPool Bool) :=
  opening.append <| .act false opening_allocates (.start .callocFails) <|
  .act false rfl (.start .unlockFailed) <| .act false rfl (.start .deactivate) <|
  .act false rfl (.start .deactivateConfig) <| .act false rfl (.start (.release rfl)) .done

def failingTrace : ℕ → System Bool := failingStart.trace

theorem failingTrace_execution : Execution avx2Platform (fun _ => 1) failingTrace 39 where
  initial := loadedPool_initial Bool
  run := failingStart.isRun

theorem failingTrace_fails :
    FailedStart failingTrace false firstStart .allocation .enomem 6 35 38 where
  begins := rfl
  exits := rfl
  order := by decide
  slot k after upto := by
    interval_cases k <;> exact ⟨_, rfl, trivial⟩
  returns := rfl

theorem failedStart_keeps_flags_iff_allocation :
    FailedStart failingTrace false firstStart .allocation .enomem 6 35 38 ∧
      ((failingTrace 39).shared.guard.stopping = (failingTrace 6).shared.guard.stopping ∧
        (failingTrace 39).shared.guard.ownerTid = (failingTrace 6).shared.guard.ownerTid ↔
          (failingTrace 6).shared.guard.stopping = true ∧
            (failingTrace 6).shared.guard.ownerTid = 0) :=
  ⟨failingTrace_fails,
    (failedStart_keeps_flags_iff failingTrace_execution (by decide) failingTrace_fails 39
      (by decide) (by decide)).1⟩

/-- The failed start turns the stopping flag on, and AVX2, authorized before, is refused after it.
-/
theorem failedStart_leaves_stopping :
    Execution avx2Platform (fun _ => 1) failingTrace 39 ∧
    FailedStart failingTrace false firstStart .allocation .enomem 6 35 38 ∧
    (failingTrace 6).shared.activeRuntime = none ∧
    (failingTrace 6).shared.guard.stopping = false ∧
    (failingTrace 6).shared.guard.WidthAuthorized SimdWidth.avx2.toInt ∧
    (failingTrace 39).shared.activeRuntime = none ∧
    (failingTrace 39).shared.guard.stopping = true ∧
    ¬ (failingTrace 39).shared.guard.telemetry.RuntimeGuardActive ∧
    (failingTrace 39).shared.guard.FlagsAllowTransitions ∧
    ¬ (failingTrace 39).shared.guard.WidthAuthorized SimdWidth.avx2.toInt :=
  ⟨failingTrace_execution, failingTrace_fails, rfl, rfl, by decide, rfl, rfl, by decide, by decide,
    by decide⟩

end Runtime
end ThermalSimd
