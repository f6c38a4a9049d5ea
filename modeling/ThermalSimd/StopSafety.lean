import ThermalSimd.Lifecycle

/-!
# Retryable stop

A stop attempt may fail at the monitor join, the quiescence wait, the SSE4.1 patch or the final
guard section, and every failure leaves a runtime that the next attempt can stop.
-/

namespace ThermalSimd
namespace Runtime

open Interleaving Selector

variable {Task : Type*}

variable {id : RuntimeId} {runtime : PrivateRuntime}

/-- Joined and cleaned up at most once. -/
structure PrivateRuntime.Sound (runtime : PrivateRuntime) : Prop where
  joins : runtime.joins ≤ 1
  started : runtime.monitorStarted = true → runtime.joins = 0
  alive : runtime.monitorAlive = true → runtime.monitorStarted = true
  cleanups : runtime.cleanups ≤ 1
  perf : runtime.perf = true → runtime.cleanups = 0

/-- No stop attempt has reached it. -/
structure PrivateRuntime.Untouched (runtime : PrivateRuntime) : Prop where
  stopInProgress : runtime.stopInProgress = false
  stopEntered : runtime.stopEntered = false
  joins : runtime.joins = 0
  cleanups : runtime.cleanups = 0

theorem setRuntime_self (s : Shared Task) (id runtime) :
    (s.setRuntime id runtime).runtimes id = runtime := by
  simp [Shared.setRuntime]

theorem configOf_eq_some {s : Shared Task} (here : s.runtimes id = some runtime) :
    s.configOf id = some runtime.config := by
  simp [Shared.configOf, here]

theorem eq_of_others {s : Shared Task} {mine id} (others : ∀ id, id ≠ mine → s.configOf id = none)
    (here : s.runtimes id = some runtime) : id = mine := by
  by_contra ne
  exact absurd ((others id ne).symm.trans (configOf_eq_some here)) (by simp)

theorem forall_setRuntime {good : RuntimeId → PrivateRuntime → Prop} {s : Shared Task} {after}
    (before : ∀ other runtime, s.runtimes other = some runtime → good other runtime)
    (changed : ∀ runtime, after = some runtime → good id runtime) :
    ∀ other runtime, (s.setRuntime id after).runtimes other = some runtime →
      good other runtime := by
  intro other runtime here
  rcases eq_or_ne other id with rfl | ne
  · rw [setRuntime_self] at here
    exact changed runtime here
  · have same : s.runtimes other = some runtime := by
      simpa [Shared.setRuntime, ne] using here
    exact before other runtime same

namespace StopPc

/-- The attempt has marked the private runtime and not unmarked or freed it. -/
def Began : StopPc → Prop
  | .firstEnter | .setStopping | .stopRunning | .firstLeave | .unlockRuntime | .join | .quiesce
  | .readWidth | .patching _ | .relock | .recheck | .cleanup | .finalEnter | .clearOwner
  | .resetDynamic | .uninstall | .failLock _ | .failReset _ => True
  | _ => False

private def Closed : StopPc → Prop
  | .stopRunning | .firstLeave | .unlockRuntime | .join | .quiesce | .readWidth | .patching _
  | .relock | .recheck | .cleanup | .finalEnter | .clearOwner | .resetDynamic | .uninstall
  | .clearStopping | .failLock _ | .failReset _ => True
  | _ => False

private def Joined : StopPc → Prop
  | .quiesce | .readWidth | .patching _ | .relock | .recheck | .cleanup | .finalEnter
  | .clearOwner | .resetDynamic | .uninstall => True
  | _ => False

/-- SSE4.1 was selected, and nobody can have selected another width since. -/
def Selected : StopPc → Prop
  | .patching pc => pc.Committed
  | .relock | .recheck | .cleanup | .finalEnter | .clearOwner | .resetDynamic | .uninstall
  | .clearStopping | .finalLeave => True
  | _ => False

private def Ownerless : StopPc → Prop
  | .resetDynamic | .uninstall | .clearStopping | .finalLeave | .unlockDone
  | .publicFinish (.ok _) => True
  | _ => False

private def OverlayOff : StopPc → Prop
  | .uninstall | .clearStopping | .finalLeave | .unlockDone | .publicFinish (.ok _) => True
  | _ => False

private def Reopened : StopPc → Prop
  | .finalLeave | .unlockDone | .publicFinish (.ok _) => True
  | _ => False

theorem Selected.closed_or_inGuard {pc : StopPc} (selected : pc.Selected) :
    pc.Closed ∨ pc.InGuard := by
  cases pc with
  | finalLeave => exact .inr trivial
  | patching | relock | recheck | cleanup | finalEnter | clearOwner | resetDynamic | uninstall
  | clearStopping => exact .inl trivial
  | _ => exact selected.elim

end StopPc

/-- What a stop attempt in flight has established about the shared state. -/
structure StopFacts (s : Shared Task) (f : StopFrame) (pc : StopPc) : Prop where
  progress : ∀ runtime, s.runtimes f.runtime = some runtime →
    (runtime.stopInProgress = true ↔ pc.Began)
  joined : pc.Joined → ∀ runtime, s.runtimes f.runtime = some runtime →
    runtime.monitorStarted = false
  closed : pc.Closed → s.guard.stopping = true
  selected : pc.Selected → s.trampoline.Selects .sse41
  ownerless : pc.Ownerless → s.guard.ownerTid = 0
  overlayOff : pc.OverlayOff → s.guard.degradedActive = false
  reopened : pc.Reopened → s.guard.stopping = false

section

variable {platform : Platform} {t : Task} {f : StopFrame} {s s' : Shared Task} {pc pc' : StopPc}

theorem StopMoves.begins (moves : StopMoves platform t f s .check s' pc')
    (st : StopState s f .check) (facts : StopFacts s f .check) : pc' = .firstEnter := by
  cases moves with
  | notActive other => exact absurd (st.present id).1 other
  | inProgress _ here busy => exact ((facts.progress _ here).mp busy).elim
  | begin => rfl

theorem StopFacts.not_lost (facts : StopFacts s f .recheck) (st : StopState s f .recheck) :
    ¬ (s.activeRuntime ≠ some f.runtime ∨
      ∃ runtime, s.runtimes f.runtime = some runtime ∧ runtime.stopInProgress = false) := by
  rintro (other | ⟨runtime, here, idle⟩)
  · exact other (st.present id).1
  · have busy := (facts.progress runtime here).mpr trivial
    exact Bool.false_ne_true (idle.symm.trans busy)

theorem StopMoves.confirms (moves : StopMoves platform t f s .recheck s' pc')
    (st : StopState s f .recheck) (facts : StopFacts s f .recheck) : pc' = .cleanup := by
  cases moves with
  | recheckFails lost => exact absurd lost (facts.not_lost st)
  | recheck => rfl

theorem StopMoves.progress (moves : StopMoves platform t f s pc s' pc') (st : StopState s f pc)
    (facts : StopFacts s f pc) (inFlight : pc'.InFlight) :
    ∀ runtime, s'.runtimes f.runtime = some runtime →
      (runtime.stopInProgress = true ↔ pc'.Began) := by
  have changed {s : Shared Task} {pc' : StopPc} {after}
      (flag : after.stopInProgress = true ↔ pc'.Began) :
      ∀ runtime, (s.setRuntime f.runtime (some after)).runtimes f.runtime = some runtime →
        (runtime.stopInProgress = true ↔ pc'.Began) := by
    intro runtime here
    rw [setRuntime_self] at here
    rwa [← Option.some.inj here]
  cases moves with
  | notActive other | failGone other => exact absurd (st.present id).1 other
  | begin => exact changed (iff_of_true rfl trivial)
  | firstEnterFails | failReset | finalEnterFails => exact changed (iff_of_false (by simp) id)
  | @setStopping runtime here | @joined runtime here | @cleanup runtime here =>
    have flag := facts.progress runtime here
    exact changed flag
  | recheckFails lost => exact absurd lost (facts.not_lost st)
  | uninstall =>
    intro runtime here
    rw [setRuntime_self] at here
    cases here
  | finished | failed => exact inFlight.elim
  | _ => exact facts.progress

section

variable (moves : StopMoves platform t f s pc s' pc') (facts : StopFacts s f pc)
include moves facts

theorem StopMoves.joined_stays (joined : pc'.Joined) :
    ∀ runtime, s'.runtimes f.runtime = some runtime → runtime.monitorStarted = false := by
  cases moves with
  | joined =>
    intro runtime here
    rw [setRuntime_self] at here
    rw [← Option.some.inj here]
  | notStarted present notStarted =>
    intro runtime here
    rwa [← Option.some.inj (present.symm.trans here)]
  | @cleanup before present =>
    intro runtime here
    rw [setRuntime_self] at here
    rw [← Option.some.inj here]
    exact facts.joined trivial before present
  | _ => first | exact joined.elim | exact facts.joined trivial

theorem StopMoves.closed (closed : pc'.Closed) : s'.guard.stopping = true := by
  cases moves with
  | setStopping => rfl
  | firstLeave => exact (s.guard.afterQuery_stopping _).trans (facts.closed trivial)
  | patching moves =>
    exact (KeepsLifecycle.of_agree moves.guard_agree).stopping.trans (facts.closed trivial)
  | _ => first | exact closed.elim | exact facts.closed trivial

theorem StopMoves.selected (initialized : ¬ pc.Gone → ∃ w, s.trampoline.Selects w)
    (hasPage : pc.HasPage → s.trampoline.page.isSome) (selected : pc'.Selected) :
    s'.trampoline.Selects .sse41 := by
  cases moves with
  | narrow narrow =>
    obtain ⟨w, selects⟩ := initialized id
    rwa [← selects.stateCurrentWidth, narrow] at selects
  | patching moves => exact moves.selects_of_committed hasPage facts.selected selected
  | _ => first | exact selected.elim | exact facts.selected trivial

theorem StopMoves.ownerless (ownerless : pc'.Ownerless) : s'.guard.ownerTid = 0 := by
  cases moves with
  | clearOwner => rfl
  | finalLeave =>
    exact (KeepsLifecycle.of_agree (s.guard.afterQuery_agree _)).ownerTid.trans
      (facts.ownerless trivial)
  | _ => first | exact ownerless.elim | exact facts.ownerless trivial

theorem StopMoves.overlayOff (off : pc'.OverlayOff) : s'.guard.degradedActive = false := by
  cases moves with
  | resetDynamic => rfl
  | finalLeave =>
    have same : (s.guard.afterQuery SimdWidth.avx2.toInt).degradedActive =
        s.guard.degradedActive := by
      rw [s.guard.afterQuery_agree]
    exact same.trans (facts.overlayOff trivial)
  | _ => first | exact off.elim | exact facts.overlayOff trivial

theorem StopMoves.reopened (reopened : pc'.Reopened) : s'.guard.stopping = false := by
  cases moves with
  | clearStopping => rfl
  | finalLeave => exact (s.guard.afterQuery_stopping _).trans (facts.reopened trivial)
  | _ => first | exact reopened.elim | exact facts.reopened trivial

end

theorem StopMoves.facts (moves : StopMoves platform t f s pc s' pc') (st : StopState s f pc)
    (facts : StopFacts s f pc) (initialized : ¬ pc.Gone → ∃ w, s.trampoline.Selects w)
    (hasPage : pc.HasPage → s.trampoline.page.isSome) (inFlight : pc'.InFlight) :
    StopFacts s' f pc' where
  progress := moves.progress st facts inFlight
  joined := moves.joined_stays facts
  closed := moves.closed facts
  selected := moves.selected facts initialized hasPage
  ownerless := moves.ownerless facts
  overlayOff := moves.overlayOff facts
  reopened := moves.reopened facts

end

/-- Other tasks change no flag, and no runtime but for a monitor that returns. -/
structure Beside (s s' : Shared Task) : Prop where
  stopping : s'.guard.stopping = s.guard.stopping
  ownerTid : s'.guard.ownerTid = s.guard.ownerTid
  degraded : s'.guard.degradedActive = s.guard.degradedActive ∨
    ∃ id runtime, s.runtimes id = some runtime ∧ runtime.monitorAlive = true
  runtimes : ∀ id runtime', s'.runtimes id = some runtime' →
    ∃ runtime, s.runtimes id = some runtime ∧
      (runtime' = runtime ∨ runtime' = { runtime with monitorAlive := false })

theorem Beside.of_eq {s s' : Shared Task} (guard : s'.guard = s.guard)
    (runtimes : s'.runtimes = s.runtimes) : Beside s s' where
  stopping := congrArg GuardState.stopping guard
  ownerTid := congrArg GuardState.ownerTid guard
  degraded := .inl (congrArg GuardState.degradedActive guard)
  runtimes _ runtime here := ⟨runtime, runtimes ▸ here, .inl rfl⟩

theorem Beside.of_agree {s s' : Shared Task} (agree : s.guard.AgreeOffSafetyCell s'.guard)
    (runtimes : s'.runtimes = s.runtimes) : Beside s s' where
  stopping := (KeepsLifecycle.of_agree agree).stopping
  ownerTid := (KeepsLifecycle.of_agree agree).ownerTid
  degraded := .inl (by rw [agree])
  runtimes _ runtime here := ⟨runtime, runtimes ▸ here, .inl rfl⟩

theorem Beside.monitorExit {s : Shared Task} {before} (here : s.runtimes id = some before) :
    Beside s (s.setRuntime id (some { before with monitorAlive := false })) := by
  refine ⟨rfl, rfl, .inl rfl, ?_⟩
  refine forall_setRuntime (fun _ runtime known => ⟨runtime, known, .inl rfl⟩) ?_
  rintro _ ⟨⟩
  exact ⟨before, here, .inr rfl⟩

theorem PrivateRuntime.Sound.monitorExit (sound : runtime.Sound) :
    { runtime with monitorAlive := false }.Sound :=
  { sound with alive := fun alive => absurd alive Bool.false_ne_true }

/-- What holds of every private runtime, with that stopping flag. -/
structure RuntimeFacts (stopping : Bool) (runtime : PrivateRuntime) : Prop where
  sound : runtime.Sound
  entered : runtime.stopEntered = true → stopping = true

/-- What stop attempts can rely on, in every reachable state. -/
structure StopInvariant (pool : System Task) : Prop where
  runtimes : ∀ id runtime, pool.shared.runtimes id = some runtime →
    RuntimeFacts pool.shared.guard.stopping runtime
  starting : ∀ t f pc, pool.locals t = .starting f pc → pc.Reserved →
    ∀ runtime, pool.shared.runtimes f.runtime = some runtime → runtime.Untouched
  unmarked : pool.shared.publicStopper = none →
    ∀ id runtime, pool.shared.runtimes id = some runtime → runtime.stopInProgress = false
  stopping : ∀ t f pc, pool.locals t = .stopping f pc → pc.InFlight → StopFacts pool.shared f pc
  initialized : ∀ id, (pool.shared.configOf id).isSome → ∃ w, pool.shared.trampoline.Selects w

theorem Initial.stopInvariant {pool : System Task} (initial : Initial pool) :
    StopInvariant pool where
  runtimes id runtime := by simp [initial.runtimes id]
  starting t f pc := by simp [initial.idle t]
  unmarked _ id runtime := by simp [initial.runtimes id]
  stopping t f pc := by simp [initial.idle t]
  initialized id := by simp [Shared.configOf, initial.runtimes id]

section

variable {pool : System Task} {s s' : Shared Task} {f : StopFrame} {pc : StopPc}

theorem Beside.forall_runtimes (beside : Beside s s') {good : PrivateRuntime → Prop}
    (exits : ∀ runtime, good runtime → good { runtime with monitorAlive := false })
    (before : ∀ runtime, s.runtimes id = some runtime → good runtime) :
    ∀ runtime, s'.runtimes id = some runtime → good runtime := by
  intro runtime' here
  obtain ⟨runtime, known, rfl | rfl⟩ := beside.runtimes id runtime' here
  · exact before _ known
  · exact exits runtime (before runtime known)

theorem RuntimeFacts.beside (beside : Beside s s')
    (before : ∀ id runtime, s.runtimes id = some runtime → RuntimeFacts s.guard.stopping runtime) :
    ∀ id runtime, s'.runtimes id = some runtime → RuntimeFacts s'.guard.stopping runtime := by
  intro id
  refine beside.forall_runtimes (fun _ facts => ⟨facts.sound.monitorExit, facts.entered⟩) ?_
  intro runtime here
  have facts := before id runtime here
  exact ⟨facts.sound, fun entered => beside.stopping.trans (facts.entered entered)⟩

theorem StopFacts.no_monitor (facts : StopFacts s f pc) (st : StopState s f pc)
    (sound : ∀ id runtime, s.runtimes id = some runtime → RuntimeFacts s.guard.stopping runtime)
    (off : pc.OverlayOff) (here : s.runtimes id = some runtime) : runtime.monitorAlive = false := by
  obtain rfl := eq_of_others st.others here
  by_cases gone : pc.Gone
  · exact absurd ((st.gone gone).2.symm.trans (configOf_eq_some here)) (by simp)
  · have joined : pc.Joined := by
      cases pc with
      | uninstall => trivial
      | clearStopping | finalLeave | unlockDone => exact absurd trivial gone
      | publicFinish res =>
        cases res with
        | ok => exact absurd trivial gone
        | error => exact off.elim
      | _ => exact off.elim
    have notStarted := facts.joined joined runtime here
    by_contra alive
    have started := (sound _ runtime here).sound.alive (by simpa using alive)
    exact absurd (notStarted.symm.trans started) Bool.false_ne_true

theorem StopFacts.beside (facts : StopFacts s f pc) (st : StopState s f pc)
    (beside : Beside s s')
    (sound : ∀ id runtime, s.runtimes id = some runtime → RuntimeFacts s.guard.stopping runtime)
    (selected : pc.Selected → s'.trampoline.Selects .sse41) : StopFacts s' f pc where
  progress := beside.forall_runtimes (fun _ flag => flag) facts.progress
  joined joined := beside.forall_runtimes (fun _ started => started) (facts.joined joined)
  closed closed := beside.stopping.trans (facts.closed closed)
  selected := selected
  ownerless ownerless := beside.ownerTid.trans (facts.ownerless ownerless)
  overlayOff off := by
    rcases beside.degraded with same | ⟨id, runtime, here, alive⟩
    · exact same.trans (facts.overlayOff off)
    · have dead := facts.no_monitor st sound off here
      exact absurd (dead.symm.trans alive) Bool.false_ne_true
  reopened reopened := beside.stopping.trans (facts.reopened reopened)

theorem StopFacts.selected_other {platform tid t other l l'} (facts : StopFacts pool.shared f pc)
    (selector : SelectorInvariant pool)
    (stops : pool.locals other = .stopping f pc) (here : pool.locals t = l)
    (moves : Moves platform tid t pool.shared l s' l') (selected : pc.Selected) :
    s'.trampoline.Selects .sse41 := by
  have hasPage := selector.hasPage t
  rw [here] at hasPage
  rcases moves.selection hasPage with keeps | narrow | ⟨width, w, rfl, -, named, commits⟩
  · exact keeps.selects (facts.selected selected)
  · exact narrow
  by_cases wide : w.IsWide
  · have authorized : (pool.locals t).WideAuthorized := by
      rw [here]
      exact ⟨trivial, w, named, wide⟩
    rcases selected.closed_or_inGuard with closed | inGuard
    · have running := selector.authorized t authorized
      exact absurd (running.symm.trans (facts.closed closed)) Bool.false_ne_true
    · have inside : (pool.locals other).InGuard := by rw [stops]; exact inGuard
      have same := selector.guardLock.exclusive inside authorized.inGuard
      rw [same, here] at stops
      cases stops
  · rwa [SimdWidth.not_isWide.mp wide] at commits

end

section

variable {pool : System Task} {t other : Task} (life : LifecycleInvariant pool)
include life

theorem LifecycleInvariant.start_alone (starts : (pool.locals other).Reserved) :
    ¬ (pool.locals t).InStop ∧ ¬ (pool.locals t).InPublic := by
  have st : pool.shared.publicStopper = none ∧ pool.shared.publicActive = none := by
    generalize local_eq : pool.locals other = l at starts
    cases l with
    | starting f =>
      have st := life.startState local_eq starts
      exact ⟨st.publicStopper, st.publicActive⟩
    | _ => exact starts.elim
  refine ⟨fun stops => ?_, fun requests => ?_⟩
  · exact absurd ((life.stopping t).mp stops) (by simp [st.1])
  · obtain ⟨_, _, running⟩ := life.requests t requests
    exact absurd (running.publicActive.symm.trans st.2) (by simp)

theorem LifecycleInvariant.stop_alone (stops : (pool.locals other).InStop) :
    ¬ (pool.locals t).Reserved ∧ ¬ (pool.locals t).InPublic := by
  refine ⟨fun starts => (life.start_alone starts).1 stops, fun requests => ?_⟩
  obtain ⟨_, _, running⟩ := life.requests t requests
  exact absurd ((life.stopping other).mp stops) (by simp [running.publicStopper])

end

section

variable {platform : Platform} {tid : Task → ℤ} {t : Task} {s s' : Shared Task}

theorem isSome_configOf_setRuntime {id changed runtime}
    (some' : ((s.setRuntime changed runtime).configOf id).isSome) :
    (s.configOf id).isSome ∨ id = changed ∧ runtime.isSome := by
  rcases eq_or_ne id changed with rfl | ne
  · rw [configOf_setRuntime_self, Option.isSome_map] at some'
    exact .inr ⟨rfl, some'⟩
  · rw [configOf_setRuntime_other s ne] at some'
    exact .inl some'

theorem Moves.configOf_isSome {l l'} (moves : Moves platform tid t s l s' l')
    (some' : (s'.configOf id).isSome) : (s.configOf id).isSome ∨ ∃ f, l = .starting f .calloc := by
  have kept {changed} {before after}
      (here : s.runtimes changed = some before)
      (some' : ((s.setRuntime changed (some after)).configOf id).isSome) :
      (s.configOf id).isSome := by
    rcases isSome_configOf_setRuntime some' with isSome | ⟨rfl, -⟩
    · exact isSome
    · simp [Shared.configOf, here]
  have freed {changed}
      (some' : ((s.setRuntime changed none).configOf id).isSome) : (s.configOf id).isSome :=
    (isSome_configOf_setRuntime some').resolve_right (by simp)
  cases moves with
  | monitorExit here => exact .inl (kept here some')
  | start moves =>
    cases moves with
    | calloc => exact .inr ⟨_, rfl⟩
    | perfInitFails | cleanup => exact .inl (freed some')
    | perfInit here | joinMonitor here | create here => exact .inl (kept here some')
    | _ => exact .inl some'
  | stop moves =>
    cases moves with
    | begin _ here | firstEnterFails _ here | joined here | failReset _ here | cleanup here
    | finalEnterFails _ here | setStopping here => exact .inl (kept here some')
    | uninstall => exact .inl (freed some')
    | _ => exact .inl some'
  | request moves | call _ _ moves => cases moves <;> exact .inl some'
  | _ => exact .inl some'

end

section

variable {platform : Platform} {tid : Task → ℤ} {t : Task} {s s' : Shared Task}

theorem StartMoves.untouched {tid f pc pc'} (moves : StartMoves platform tid t f s pc s' pc')
    (before : ∀ id runtime, s.runtimes id = some runtime → runtime.Sound ∧ runtime.Untouched) :
    ∀ id runtime, s'.runtimes id = some runtime → runtime.Sound ∧ runtime.Untouched := by
  cases moves with
  | calloc =>
    refine forall_setRuntime before ?_
    rintro _ ⟨⟩
    exact ⟨⟨Nat.zero_le 1, fun _ => rfl, id, Nat.zero_le 1, fun _ => rfl⟩, rfl, rfl, rfl, rfl⟩
  | perfInitFails | cleanup => exact forall_setRuntime before (by simp)
  | perfInit here =>
    obtain ⟨sound, untouched⟩ := before _ _ here
    refine forall_setRuntime before ?_
    rintro _ ⟨⟩
    exact ⟨{ sound with perf := fun _ => untouched.cleanups }, { untouched with }⟩
  | create here =>
    obtain ⟨sound, untouched⟩ := before _ _ here
    refine forall_setRuntime before ?_
    rintro _ ⟨⟩
    exact ⟨{ sound with started := fun _ => untouched.joins, alive := fun _ => rfl },
      { untouched with }⟩
  | joinMonitor here dead =>
    obtain ⟨sound, untouched⟩ := before _ _ here
    refine forall_setRuntime before ?_
    rintro _ ⟨⟩
    refine ⟨{ sound with started := fun _ => untouched.joins, alive := fun alive => ?_ },
      { untouched with }⟩
    exact absurd (dead.symm.trans alive) Bool.false_ne_true
  | _ => exact before

theorem StopMoves.runtimeFacts {f pc pc'} (moves : StopMoves platform t f s pc s' pc')
    (st : StopState s f pc)
    (before : ∀ id runtime, s.runtimes id = some runtime → RuntimeFacts s.guard.stopping runtime) :
    ∀ id runtime, s'.runtimes id = some runtime → RuntimeFacts s'.guard.stopping runtime := by
  have kept {guard : GuardState} (same : guard.stopping = s.guard.stopping) :
      ∀ id runtime, s.runtimes id = some runtime → RuntimeFacts guard.stopping runtime := by
    rw [same]
    exact before
  cases moves with
  | begin _ here | firstEnterFails _ here | failReset _ here | finalEnterFails _ here =>
    obtain ⟨sound, entered⟩ := before _ _ here
    refine forall_setRuntime before ?_
    rintro _ ⟨⟩
    exact ⟨{ sound with }, entered⟩
  | setStopping here =>
    have facts := before _ _ here
    refine forall_setRuntime (fun id runtime known => ⟨(before id runtime known).sound,
      fun _ => rfl⟩) ?_
    rintro _ ⟨⟩
    exact ⟨{ facts.sound with }, fun _ => rfl⟩
  | firstLeave | finalLeave => exact kept (s.guard.afterQuery_stopping _)
  | patching moves => exact kept (KeepsLifecycle.of_agree moves.guard_agree).stopping
  | joined here started dead =>
    obtain ⟨sound, entered⟩ := before _ _ here
    refine forall_setRuntime before ?_
    rintro _ ⟨⟩
    have first := sound.started started
    refine ⟨{ sound with joins := ?_, started := ?_, alive := ?_ }, entered⟩
    · simp [first]
    · exact fun again => absurd again Bool.false_ne_true
    · exact fun alive => absurd (dead.symm.trans alive) Bool.false_ne_true
  | cleanup here present =>
    obtain ⟨sound, entered⟩ := before _ _ here
    refine forall_setRuntime before ?_
    rintro _ ⟨⟩
    have first := sound.perf present
    refine ⟨{ sound with cleanups := ?_, perf := ?_ }, entered⟩
    · simp [first]
    · exact fun again => absurd again Bool.false_ne_true
  | uninstall => exact forall_setRuntime before (by simp)
  | clearStopping =>
    -- The private runtime was freed in the same guard section.
    intro id runtime here
    obtain rfl := eq_of_others st.others (show s.runtimes id = some runtime from here)
    exact absurd ((st.gone trivial).2.symm.trans (configOf_eq_some here)) (by simp)
  | _ => exact before

theorem RequestMoves.runtimeFacts {pc pc'} (moves : RequestMoves t s pc s' pc')
    (before : ∀ id runtime, s.runtimes id = some runtime → RuntimeFacts s.guard.stopping runtime) :
    ∀ id runtime, s'.runtimes id = some runtime → RuntimeFacts s'.guard.stopping runtime := by
  cases moves with
  | setStopping => exact fun id runtime here => ⟨(before id runtime here).sound, fun _ => rfl⟩
  | leave =>
    intro id runtime here
    have facts := before id runtime here
    exact ⟨facts.sound, fun entered =>
      (s.guard.afterQuery_stopping _).trans (facts.entered entered)⟩
  | _ => exact before

end

section

variable {platform : Platform} {tid : Task → ℤ} {pool : System Task} {t : Task}
  {s' : Shared Task} {l l' : Local}

variable (inv : StopInvariant pool)
include inv

theorem StopInvariant.stopCall_facts (free : pool.shared.publicStopper = none)
    (runtimes : s'.runtimes = pool.shared.runtimes) (f) :
    StopFacts s' f .deadlockCheck where
  progress runtime here := by
    have unmarked := inv.unmarked free f.runtime runtime (runtimes ▸ here)
    exact iff_of_false (by simp [unmarked]) id
  joined := False.elim
  closed := False.elim
  selected := False.elim
  ownerless := False.elim
  overlayOff := False.elim
  reopened := False.elim

theorem StopInvariant.initialized_move (selector : SelectorInvariant pool)
    (here : pool.locals t = l) (moves : Moves platform tid t pool.shared l s' l') :
    ∀ id, (s'.configOf id).isSome → ∃ w, s'.trampoline.Selects w := by
  intro id isSome
  have before : ∃ w, pool.shared.trampoline.Selects w := by
    rcases moves.configOf_isSome isSome with known | ⟨f, rfl⟩
    · exact inv.initialized id known
    · exact (selector.started t f _ here).initialized trivial
  have hasPage := selector.hasPage t
  rw [here] at hasPage
  rcases moves.selection hasPage with keeps | narrow | ⟨_, w, -, -, -, commits⟩
  · exact before.imp fun _ => keeps.selects
  · exact ⟨_, narrow⟩
  · exact ⟨w, commits⟩

variable [DecidableEq Task] (life : LifecycleInvariant pool)
include life

theorem StopInvariant.move_start {f pc pc'} (here : pool.locals t = .starting f pc)
    (reserved : pc.Reserved) (moves : StartMoves platform (tid t) t f pool.shared pc s' pc')
    (initialized : ∀ id, (s'.configOf id).isSome → ∃ w, s'.trampoline.Selects w) :
    StopInvariant (pool.set t s' (.starting f pc')) := by
  have st := life.startState here reserved
  have inside : (pool.locals t).Reserved := by rw [here]; exact reserved
  -- The only private runtime is the start's own.
  have before : ∀ id runtime, pool.shared.runtimes id = some runtime →
      runtime.Sound ∧ runtime.Untouched := by
    intro id runtime known
    obtain rfl := eq_of_others st.others known
    exact ⟨(inv.runtimes _ runtime known).sound, inv.starting t f pc here reserved runtime known⟩
  have after := moves.untouched before
  refine
    { runtimes := fun id runtime known => ⟨(after id runtime known).1, fun entered => ?_⟩
      starting := fun _ f _ _ _ runtime known => (after f.runtime runtime known).2
      unmarked := fun _ id runtime known => (after id runtime known).2.stopInProgress
      stopping := fun other f' pc'' stops inFlight => ?_
      initialized := initialized }
  · exact absurd ((after id runtime known).2.stopEntered.symm.trans entered) Bool.false_ne_true
  · have before := Pool.locals_of_set (by simp) stops
    have inStop : (pool.locals other).InStop := by rw [before]; exact inFlight
    exact absurd inStop (life.start_alone inside).1

theorem StopInvariant.move_stop (selector : SelectorInvariant pool) {f pc pc'}
    (here : pool.locals t = .stopping f pc)
    (moves : StopMoves platform t f pool.shared pc s' pc')
    (initialized : ∀ id, (s'.configOf id).isSome → ∃ w, s'.trampoline.Selects w) :
    StopInvariant (pool.set t s' (.stopping f pc')) := by
  have inFlight : pc.InFlight := by cases moves <;> trivial
  have inside : (pool.locals t).InStop := by rw [here]; exact inFlight
  have st := life.stopState here inFlight
  have facts := inv.stopping t f pc here inFlight
  have hasPage := selector.hasPage t
  rw [here] at hasPage
  have selectsSome : ¬ pc.Gone → ∃ w, pool.shared.trampoline.Selects w := by
    intro present
    obtain ⟨-, config, configOf, -⟩ := st.present present
    exact inv.initialized f.runtime (by simp [configOf])
  refine
    { runtimes := moves.runtimeFacts st inv.runtimes
      starting := fun other f' pc'' starts reserved => ?_
      unmarked := fun noStopper id runtime known => ?_
      stopping := fun other f' pc'' stops inFlight' => ?_
      initialized := initialized }
  · have before := Pool.locals_of_set (by simp) starts
    have holds : (pool.locals other).Reserved := by rw [before]; exact reserved
    exact absurd holds (life.stop_alone inside).1
  · have holder := (life.stopping t).mp inside
    have configured := configOf_eq_some known
    rcases st.move inFlight moves with ⟨-, same, -⟩ | ⟨-, idle⟩ | ⟨⟨e, rfl⟩, running⟩
    · exact absurd (noStopper.symm.trans (same.trans holder)) (by simp)
    · exact absurd ((idle.configOf id).symm.trans configured) (by simp)
    · cases moves with
      | failed =>
        obtain rfl := eq_of_others running.others known
        have flag := facts.progress runtime known
        exact Bool.eq_false_iff.mpr fun marked => flag.mp marked
  · rcases eq_or_ne other t with rfl | ne
    · rw [Pool.set_self] at stops
      cases stops
      exact moves.facts st facts selectsSome hasPage inFlight'
    · rw [Pool.set_other _ ne] at stops
      have also : (pool.locals other).InStop := by rw [stops]; exact inFlight'
      exact absurd (life.stopping.exclusive also inside) ne

theorem StopInvariant.move_request {pc pc'} (here : pool.locals t = .requesting pc)
    (moves : RequestMoves t pool.shared pc s' pc')
    (initialized : ∀ id, (s'.configOf id).isSome → ∃ w, s'.trampoline.Selects w) :
    StopInvariant (pool.set t s' (.requesting pc')) := by
  have inside : (pool.locals t).InPublic := by
    rw [here]
    cases moves <;> trivial
  have runtimes : s'.runtimes = pool.shared.runtimes := by cases moves <;> rfl
  have stopper : s'.publicStopper = pool.shared.publicStopper := by cases moves <;> rfl
  refine
    { runtimes := moves.runtimeFacts inv.runtimes
      starting := fun other f pc'' starts reserved => ?_
      unmarked := fun noStopper => ?_
      stopping := fun other f pc'' stops inFlight => ?_
      initialized := initialized }
  · have before := Pool.locals_of_set (by simp) starts
    have holds : (pool.locals other).Reserved := by rw [before]; exact reserved
    exact absurd inside (life.start_alone holds).2
  · rw [Pool.set_shared, runtimes]
    exact inv.unmarked (stopper.symm.trans noStopper)
  · have before := Pool.locals_of_set (by simp) stops
    have inStop : (pool.locals other).InStop := by rw [before]; exact inFlight
    exact absurd inside (life.stop_alone inStop).2

theorem StopInvariant.move_beside (selector : SelectorInvariant pool)
    (here : pool.locals t = l) (moves : Moves platform tid t pool.shared l s' l')
    (beside : Beside pool.shared s')
    (starts : ∀ f pc, l' = .starting f pc → pc.Reserved →
      l' = l ∨ ∀ runtime, s'.runtimes f.runtime = some runtime → runtime.Untouched)
    (stops : ∀ f pc, l' = .stopping f pc → pc.InFlight → l' = l ∨ StopFacts s' f pc)
    (stopper : s'.publicStopper = none → pool.shared.publicStopper = none) :
    StopInvariant (pool.set t s' l') := by
  -- A start or a stop attempt that does not move keeps what it knows.
  have started : ∀ other f pc, pool.locals other = .starting f pc → pc.Reserved →
      ∀ runtime, s'.runtimes f.runtime = some runtime → runtime.Untouched := by
    intro other f pc starting reserved
    exact beside.forall_runtimes (fun _ untouched => { untouched with })
      (inv.starting other f pc starting reserved)
  have stopped : ∀ other f pc, pool.locals other = .stopping f pc → pc.InFlight →
      StopFacts s' f pc := by
    intro other f pc stopping inFlight
    have facts := inv.stopping other f pc stopping inFlight
    exact facts.beside (life.stopState stopping inFlight) beside inv.runtimes
      (facts.selected_other selector stopping here moves)
  refine
    { runtimes := RuntimeFacts.beside beside inv.runtimes
      starting := ?_
      unmarked := fun noStopper id =>
        beside.forall_runtimes (fun _ flag => flag) (inv.unmarked (stopper noStopper) id)
      stopping := ?_
      initialized := inv.initialized_move selector here moves }
  · refine Pool.forall_set (fun _ (l : Local) => ∀ f pc, l = .starting f pc → pc.Reserved →
      ∀ runtime, s'.runtimes f.runtime = some runtime → runtime.Untouched) ?_
      fun other _ => started other
    intro f pc starting reserved
    rcases starts f pc starting reserved with rfl | untouched
    · exact started t f pc (here.trans starting) reserved
    · exact untouched
  · refine Pool.forall_set (fun _ (l : Local) => ∀ f pc, l = .stopping f pc → pc.InFlight →
      StopFacts s' f pc) ?_ fun other _ => stopped other
    intro f pc stopping inFlight
    rcases stops f pc stopping inFlight with rfl | facts
    · exact stopped t f pc (here.trans stopping) inFlight
    · exact facts

theorem StopInvariant.move (selector : SelectorInvariant pool) (here : pool.locals t = l)
    (moves : Moves platform tid t pool.shared l s' l') : StopInvariant (pool.set t s' l') := by
  have initialized := inv.initialized_move selector here moves
  have quiet (beside : Beside pool.shared s') (stopper : s'.publicStopper = none →
      pool.shared.publicStopper = none) (away : l' = l ∨ ¬ l'.Reserved ∧ ¬ l'.InStop) :
      StopInvariant (pool.set t s' l') := by
    refine inv.move_beside life selector here moves beside ?_ ?_ stopper
    · rintro f pc rfl reserved
      exact .inl (away.resolve_right fun out => out.1 reserved)
    · rintro f pc rfl inFlight
      exact .inl (away.resolve_right fun out => out.2 inFlight)
  have whole := moves
  cases moves with
  | drift guard keeps degraded =>
    refine quiet ⟨keeps.stopping, keeps.ownerTid, degraded, ?_⟩ id (.inl rfl)
    exact fun _ runtime known => ⟨runtime, known, .inl rfl⟩
  | monitorExit known => exact quiet (.monitorExit known) id (.inl rfl)
  | writeLeave =>
    exact quiet (.of_agree (pool.shared.guard.afterQuery_agree _) rfl) id (.inr ⟨id, id⟩)
  | patch moves => exact quiet (.of_agree moves.guard_agree rfl) id (.inr ⟨id, id⟩)
  | init moves => exact quiet (.of_eq moves.guard_eq rfl) id (.inr ⟨id, id⟩)
  | @start _ f pc pc' moves =>
    by_cases reserved : pc.Reserved
    · exact inv.move_start life here reserved moves initialized
    · cases moves with
      | reserveBusy => exact quiet (.of_eq rfl rfl) id (.inr ⟨id, id⟩)
      | reserve _ noHandle noStart =>
        -- The slot is taken in an idle process, which has no private runtime.
        have absent := (life.idleState noStart noHandle).configOf
        refine inv.move_beside life selector here whole (.of_eq rfl rfl) ?_
          (fun _ _ impossible => by cases impossible) id
        rintro f' pc' _ -
        refine .inr fun runtime known => ?_
        exact absurd ((absent f'.runtime).symm.trans (configOf_eq_some known)) (by simp)
      | _ => exact absurd trivial reserved
  | stop moves => exact inv.move_stop life selector here moves initialized
  | request moves => exact inv.move_request life here moves initialized
  | call _ allocated moves =>
    cases moves with
    | stopCall current idle =>
      obtain ⟨_, _, -, st⟩ := life.runState allocated current.1 idle
      refine inv.move_beside life selector here whole (.of_eq rfl rfl)
        (fun _ _ impossible => by cases impossible) ?_ (fun _ => st.publicStopper)
      rintro f pc stopping -
      cases stopping
      refine .inr (inv.stopCall_facts st.publicStopper ?_ _)
      rfl
    | _ => exact quiet (.of_eq rfl rfl) id (.inr ⟨id, id⟩)
  | _ => exact quiet (.of_eq rfl rfl) id (.inr ⟨id, id⟩)

end

theorem Execution.stopInvariant [DecidableEq Task] {platform} {tid : Task → ℤ} {trace length}
    (execution : Execution platform tid trace length) : ∀ i ≤ length, StopInvariant (trace i) := by
  intro i
  induction i with
  | zero => exact fun _ => execution.initial.stopInvariant
  | succ i ih =>
    intro reached
    have inv := ih (Nat.le_of_succ_le reached)
    have life := execution.lifecycleInvariant i (Nat.le_of_succ_le reached)
    have selector := execution.selectorInvariant i (Nat.le_of_succ_le reached)
    have step := execution.run i reached
    generalize trace (i + 1) = next at step ⊢
    obtain ⟨t, here, moves⟩ := step
    exact inv.move life selector here moves

end Runtime
end ThermalSimd
