import ThermalSimd.SelectorSafety

/-!
# Phases of the lifecycle

The process is always idle, starting, running or stopping. Each phase says who holds the public
slot, which private runtime is allocated and installed, and what the configuration snapshot holds;
every move keeps the phase or takes it to the next one.
-/

namespace ThermalSimd
namespace Runtime

open Interleaving Selector

variable {Task : Type*}

/-- The configuration an allocated private runtime was started with. -/
def Shared.configOf (s : Shared Task) (id : RuntimeId) : Option RuntimeConfig :=
  (s.runtimes id).map PrivateRuntime.config

/-- The active snapshot is the validated copy of `config`. -/
def RunsConfig (guard : GuardState) (config : RuntimeConfig) : Prop :=
  guard.configSnapshotState = .active ∧
    config.validateGenerationConfig = .ok guard.configSnapshot

theorem configOf_setRuntime_self (s : Shared Task) (id runtime) :
    (s.setRuntime id runtime).configOf id = runtime.map PrivateRuntime.config := by
  simp [Shared.configOf, Shared.setRuntime]

theorem configOf_setRuntime_other (s : Shared Task) {id other} (ne : other ≠ id) (runtime) :
    (s.setRuntime id runtime).configOf other = s.configOf other := by
  simp [Shared.configOf, Shared.setRuntime, ne]

theorem configOf_setRuntime_keep {s : Shared Task} {id before after}
    (here : s.runtimes id = some before) (same : after.config = before.config) :
    (s.setRuntime id (some after)).configOf = s.configOf := by
  funext other
  rcases eq_or_ne other id with rfl | ne
  · rw [configOf_setRuntime_self]
    simp [Shared.configOf, here, same]
  · exact configOf_setRuntime_other s ne _

/-- Nothing a phase speaks of is changed. -/
structure SameLifecycle (s s' : Shared Task) : Prop where
  activeRuntime : s'.activeRuntime = s.activeRuntime
  configOf : s'.configOf = s.configOf
  publicActive : s'.publicActive = s.publicActive
  publicStarting : s'.publicStarting = s.publicStarting
  publicStopper : s'.publicStopper = s.publicStopper
  handle : ∀ id, s.publicActive = some id → s'.handles id = s.handles id
  configSnapshotState : s'.guard.configSnapshotState = s.guard.configSnapshotState
  configSnapshot : s'.guard.configSnapshot = s.guard.configSnapshot

theorem SameLifecycle.withGuard {s : Shared Task} {guard}
    (keeps : KeepsLifecycle s.guard guard) : SameLifecycle s (s.withGuard guard) :=
  ⟨rfl, rfl, rfl, rfl, rfl, fun _ _ => rfl, keeps.configSnapshotState, keeps.configSnapshot⟩

theorem SameLifecycle.withSelector {s : Shared Task} {selector}
    (agree : s.guard.AgreeOffSafetyCell selector.guard) :
    SameLifecycle s (s.withSelector selector) := by
  have keeps := KeepsLifecycle.of_agree agree
  exact ⟨rfl, rfl, rfl, rfl, rfl, fun _ _ => rfl, keeps.configSnapshotState, keeps.configSnapshot⟩

theorem SameLifecycle.setRuntime {s : Shared Task} {id before after}
    (here : s.runtimes id = some before) (same : after.config = before.config) :
    SameLifecycle s (s.setRuntime id (some after)) :=
  ⟨rfl, configOf_setRuntime_keep here same, rfl, rfl, rfl, fun _ _ => rfl, rfl, rfl⟩

theorem SameLifecycle.setHandle {s : Shared Task} {id} (notActive : s.publicActive ≠ some id)
    (handle) : SameLifecycle s (s.setHandle id handle) := by
  refine ⟨rfl, rfl, rfl, rfl, rfl, fun other active => ?_, rfl, rfl⟩
  have ne : other ≠ id := by
    rintro rfl
    exact notActive active
  simp [Shared.setHandle, ne]

namespace StartPc

def Pending : StartPc → Prop
  | .returned _ => False
  | _ => True

def Allocated : StartPc → Prop
  | .perfInit | .perfWork | .perfPatch _ | .readWidth | .patchLast _ | .create | .finalEnter
  | .setOwner | .clearStopping | .finalLeave | .install | .unlockDone | .publish
  | .joinMonitor _ | .cleanup _ _ => True
  | _ => False

def Installed : StartPc → Prop
  | .unlockDone | .publish => True
  | _ => False

/-- What the configuration snapshot holds while a start for `config` has the slot. -/
def ConfigState (config : RuntimeConfig) (state : ConfigSnapshotState) (snapshot : RuntimeConfig) :
    StartPc → Prop
  | .reserve | .returned _ => True
  | .activate | .release _ => state = .inactive
  | .writeConfig validated =>
    state = .publishing ∧ config.validateGenerationConfig = .ok validated
  | .publishConfig => state = .publishing ∧ config.validateGenerationConfig = .ok snapshot
  | _ => state = .active ∧ config.validateGenerationConfig = .ok snapshot

theorem Installed.reserved {pc : StartPc} (installed : pc.Installed) : pc.Reserved := by
  cases pc <;> trivial

end StartPc

def StopPc.Gone : StopPc → Prop
  | .clearStopping | .finalLeave | .unlockDone | .publicFinish (.ok _) => True
  | _ => False

/-- No runtime and no call in flight. -/
structure IdleState (s : Shared Task) : Prop where
  publicActive : s.publicActive = none
  publicStarting : s.publicStarting = none
  publicStopper : s.publicStopper = none
  activeRuntime : s.activeRuntime = none
  configOf : ∀ id, s.configOf id = none
  inactive : s.guard.configSnapshotState = .inactive

/-- A start at `pc` has the public slot. -/
structure StartState (s : Shared Task) (f : StartFrame) (pc : StartPc) : Prop where
  publicActive : s.publicActive = none
  publicStopper : s.publicStopper = none
  config : pc.ConfigState f.config s.guard.configSnapshotState s.guard.configSnapshot
  installed : pc.Installed → s.activeRuntime = some f.runtime
  notInstalled : ¬ pc.Installed → s.activeRuntime = none
  allocated : pc.Allocated → s.configOf f.runtime = some f.config
  notAllocated : ¬ pc.Allocated → s.configOf f.runtime = none
  others : ∀ id, id ≠ f.runtime → s.configOf id = none

/-- The private runtime `runtime` is installed and active under `handle`. -/
structure RunState (s : Shared Task) (handle : HandleId) (runtime : RuntimeId) : Prop where
  publicActive : s.publicActive = some handle
  publicStarting : s.publicStarting = none
  publicStopper : s.publicStopper = none
  handle : ∃ generation, s.handles handle = some ⟨some runtime, generation, false, false⟩
  activeRuntime : s.activeRuntime = some runtime
  config : ∃ config, s.configOf runtime = some config ∧ RunsConfig s.guard config
  others : ∀ id, id ≠ runtime → s.configOf id = none

/-- A stop at `pc` has the public slot. -/
structure StopState (s : Shared Task) (f : StopFrame) (pc : StopPc) : Prop where
  publicActive : s.publicActive = some f.handle
  publicStarting : s.publicStarting = none
  handle : ∃ generation, s.handles f.handle = some ⟨some f.runtime, generation, false, true⟩
  present : ¬ pc.Gone → s.activeRuntime = some f.runtime ∧
    ∃ config, s.configOf f.runtime = some config ∧ RunsConfig s.guard config
  gone : pc.Gone → s.activeRuntime = none ∧ s.configOf f.runtime = none
  others : ∀ id, id ≠ f.runtime → s.configOf id = none

/-- The phases of the process. -/
inductive Phase (s : Shared Task) (locals : Task → Local) : Prop
  | idle (state : IdleState s)
  | starting {t f pc} (here : locals t = .starting f pc) (reserved : pc.Reserved)
      (holder : s.publicStarting = some t) (state : StartState s f pc)
  | running {handle runtime} (state : RunState s handle runtime)
  | stopping {t f pc} (here : locals t = .stopping f pc) (inFlight : pc.InFlight)
      (holder : s.publicStopper = some t) (state : StopState s f pc)

section

variable {s s' : Shared Task} (same : SameLifecycle s s')
include same

theorem RunsConfig.frame {config} (runs : RunsConfig s.guard config) :
    RunsConfig s'.guard config := by
  unfold RunsConfig
  rwa [same.configSnapshotState, same.configSnapshot]

theorem IdleState.frame (st : IdleState s) : IdleState s' where
  publicActive := same.publicActive.trans st.publicActive
  publicStarting := same.publicStarting.trans st.publicStarting
  publicStopper := same.publicStopper.trans st.publicStopper
  activeRuntime := same.activeRuntime.trans st.activeRuntime
  configOf id := (congrFun same.configOf id).trans (st.configOf id)
  inactive := same.configSnapshotState.trans st.inactive

theorem StartState.frame {f pc pc'} (st : StartState s f pc)
    (config : ∀ st snapshot, pc.ConfigState f.config st snapshot →
      pc'.ConfigState f.config st snapshot)
    (installed : pc'.Installed ↔ pc.Installed) (allocated : pc'.Allocated ↔ pc.Allocated) :
    StartState s' f pc' where
  publicActive := same.publicActive.trans st.publicActive
  publicStopper := same.publicStopper.trans st.publicStopper
  config := by
    rw [same.configSnapshotState, same.configSnapshot]
    exact config _ _ st.config
  installed here := same.activeRuntime.trans (st.installed (installed.mp here))
  notInstalled here := same.activeRuntime.trans (st.notInstalled (mt installed.mpr here))
  allocated here := (congrFun same.configOf _).trans (st.allocated (allocated.mp here))
  notAllocated here :=
    (congrFun same.configOf _).trans (st.notAllocated (mt allocated.mpr here))
  others id ne := (congrFun same.configOf id).trans (st.others id ne)

theorem RunState.frame {handle runtime}
    (st : RunState s handle runtime) : RunState s' handle runtime where
  publicActive := same.publicActive.trans st.publicActive
  publicStarting := same.publicStarting.trans st.publicStarting
  publicStopper := same.publicStopper.trans st.publicStopper
  handle := st.handle.imp fun _ => (same.handle handle st.publicActive).trans
  activeRuntime := same.activeRuntime.trans st.activeRuntime
  config := st.config.imp fun _ running =>
    ⟨(congrFun same.configOf _).trans running.1, running.2.frame same⟩
  others id ne := (congrFun same.configOf id).trans (st.others id ne)

theorem StopState.frame {f pc pc'} (st : StopState s f pc)
    (gone : pc'.Gone ↔ pc.Gone) : StopState s' f pc' where
  publicActive := same.publicActive.trans st.publicActive
  publicStarting := same.publicStarting.trans st.publicStarting
  handle := st.handle.imp fun _ => (same.handle f.handle st.publicActive).trans
  present here := by
    obtain ⟨active, config, configOf, runs⟩ := st.present (mt gone.mpr here)
    exact ⟨same.activeRuntime.trans active, config, (congrFun same.configOf _).trans configOf,
      runs.frame same⟩
  gone here := by
    obtain ⟨active, configOf⟩ := st.gone (gone.mp here)
    exact ⟨same.activeRuntime.trans active, (congrFun same.configOf _).trans configOf⟩
  others id ne := (congrFun same.configOf id).trans (st.others id ne)

end

section

variable {platform : Platform} {tid : ℤ} {t : Task} {f : StartFrame} {s s' : Shared Task}
  {pc pc' : StartPc}

theorem StartState.free (st : StartState s f pc)
    (config : pc'.ConfigState f.config s.guard.configSnapshotState s.guard.configSnapshot)
    (before : ¬ pc.Installed) (installed : ¬ pc'.Installed) (allocated : ¬ pc'.Allocated) :
    StartState (s.setRuntime f.runtime none) f pc' where
  publicActive := st.publicActive
  publicStopper := st.publicStopper
  config := config
  installed here := absurd here installed
  notInstalled _ := st.notInstalled before
  allocated here := absurd here allocated
  notAllocated _ := configOf_setRuntime_self s f.runtime none
  others id ne := (configOf_setRuntime_other s ne none).trans (st.others id ne)

theorem StartState.release {e} (st : StartState s f (.release e)) :
    IdleState ({ s with publicStarting := none }.setHandle f.handle none) where
  publicActive := st.publicActive
  publicStarting := rfl
  publicStopper := st.publicStopper
  activeRuntime := st.notInstalled id
  configOf id := by
    rcases eq_or_ne id f.runtime with rfl | ne
    · exact st.notAllocated fun allocated => allocated
    · exact st.others id ne
  inactive := st.config

theorem StartState.publish (st : StartState s f .publish) :
    RunState
      ({ s with
          publicActive := some f.handle
          publicStarting := none
          nextGeneration := Shared.generationAfter s.nextGeneration }.setHandle f.handle
        (some ⟨some f.runtime, s.nextGeneration, false, false⟩)) f.handle f.runtime where
  publicActive := rfl
  publicStarting := rfl
  publicStopper := st.publicStopper
  handle := ⟨s.nextGeneration, Function.update_self ..⟩
  activeRuntime := st.installed trivial
  config := ⟨f.config, st.allocated trivial, st.config⟩
  others := st.others

theorem StartState.move (st : StartState s f pc) (reserved : pc.Reserved)
    (moves : StartMoves platform tid t f s pc s' pc') :
    (pc'.Reserved ∧ s'.publicStarting = s.publicStarting ∧ StartState s' f pc') ∨
      (∃ e, pc = .release e ∧ pc' = .returned (.error e)) ∧ IdleState s' ∨
        pc' = .returned (.ok ()) ∧ RunState s' f.handle f.runtime := by
  have quiet {s'} {pc'} (reserved')
      (same)
      (config)
      (installed) (allocated) :
      (pc'.Reserved ∧ s'.publicStarting = s.publicStarting ∧ StartState s' f pc') ∨
        (∃ e, pc = .release e ∧ pc' = .returned (.error e)) ∧ IdleState s' ∨
          pc' = .returned (.ok ()) ∧ RunState s' f.handle f.runtime :=
    .inl ⟨reserved', same.publicStarting, st.frame same config installed allocated⟩
  cases moves with
  | reserveBusy | reserve => exact reserved.elim
  | activate valid =>
    exact .inl ⟨trivial, rfl, { st with config := ⟨rfl, valid⟩ }⟩
  | writeConfig => exact .inl ⟨trivial, rfl, { st with config := st.config }⟩
  | publishConfig => exact .inl ⟨trivial, rfl, { st with config := ⟨rfl, st.config.2⟩ }⟩
  | sandbox guard keeps | perfPublish guard keeps =>
    exact quiet trivial (.withGuard keeps) (fun _ _ => id) Iff.rfl Iff.rfl
  | init moves =>
    refine quiet trivial (.withSelector ?_) (fun _ _ => id) Iff.rfl Iff.rfl
    rw [moves.guard_eq]
    exact .refl _
  | patchFirst moves | perfPatch moves | patchLast moves =>
    exact quiet trivial (.withSelector moves.guard_agree) (fun _ _ => id) Iff.rfl Iff.rfl
  | firstLeave | finalLeave =>
    exact quiet trivial (.withSelector (s.guard.afterQuery_agree _)) (fun _ _ => id) Iff.rfl
      Iff.rfl
  | calloc =>
    refine .inl ⟨trivial, rfl, { st with
      allocated := fun _ => configOf_setRuntime_self ..
      notAllocated := fun absent => absurd trivial absent
      others := fun id ne => (configOf_setRuntime_other s ne _).trans (st.others id ne) }⟩
  | perfInitFails e | cleanup => exact .inl ⟨trivial, rfl, st.free st.config id id id⟩
  | perfInit here | joinMonitor here _ =>
    exact quiet trivial (.setRuntime here rfl) (fun _ _ => id) Iff.rfl Iff.rfl
  | create here =>
    refine quiet trivial ?_ (fun _ _ => id) Iff.rfl Iff.rfl
    exact ⟨rfl, configOf_setRuntime_keep here rfl, rfl, rfl, rfl, fun _ _ => rfl, rfl, rfl⟩
  | install =>
    refine .inl ⟨trivial, rfl, { st with
      installed := fun _ => rfl
      notInstalled := fun absent => absurd trivial absent }⟩
  | deactivateConfig => exact .inl ⟨trivial, rfl, { st with config := rfl }⟩
  | @release e _ => exact .inr (.inl ⟨⟨e, rfl, rfl⟩, st.release⟩)
  | publish => exact .inr (.inr ⟨rfl, st.publish⟩)
  | _ =>
    exact quiet trivial ⟨rfl, rfl, rfl, rfl, rfl, fun _ _ => rfl, rfl, rfl⟩ (fun _ _ => id)
      Iff.rfl Iff.rfl

end

section

variable {platform : Platform} {t : Task} {f : StopFrame} {s s' : Shared Task} {pc pc' : StopPc}

theorem StopState.uninstall (st : StopState s f .uninstall) (stops) :
    StopState ({ s with activeRuntime := none, stops }.setRuntime f.runtime none) f
      .clearStopping where
  publicActive := st.publicActive
  publicStarting := st.publicStarting
  handle := st.handle
  present here := absurd trivial here
  gone _ := ⟨rfl, configOf_setRuntime_self _ f.runtime none⟩
  others id ne := (configOf_setRuntime_other _ ne none).trans (st.others id ne)

theorem StopState.finished (st : StopState s f (.publicFinish (.ok ()))) (handle) :
    IdleState (({ s with publicActive := none, publicStopper := none }.setHandle f.handle
        (some handle)).withGuard
      { s.guard with safetySnapshotState := .uncaptured, configSnapshotState := .inactive }) where
  publicActive := rfl
  publicStarting := st.publicStarting
  publicStopper := rfl
  activeRuntime := (st.gone trivial).1
  configOf id := by
    rcases eq_or_ne id f.runtime with rfl | ne
    · exact (st.gone trivial).2
    · exact st.others id ne
  inactive := rfl

theorem StopState.failed {e} (st : StopState s f (.publicFinish (.error e)))
    {handle} (here : s.handles f.handle = some handle) :
    RunState ({ s with publicStopper := none }.setHandle f.handle
      (some { handle with stopInProgress := false })) f.handle f.runtime where
  publicActive := st.publicActive
  publicStarting := st.publicStarting
  publicStopper := rfl
  handle := by
    obtain ⟨generation, known⟩ := st.handle
    obtain rfl := Option.some.inj (here.symm.trans known)
    exact ⟨generation, Function.update_self ..⟩
  activeRuntime := (st.present id).1
  config := (st.present id).2
  others := st.others

theorem StopState.move (st : StopState s f pc) (inFlight : pc.InFlight)
    (moves : StopMoves platform t f s pc s' pc') :
    (pc'.InFlight ∧ s'.publicStopper = s.publicStopper ∧ StopState s' f pc') ∨
      (pc = .publicFinish (.ok ()) ∧ pc' = .returned (.ok ())) ∧ IdleState s' ∨
        (∃ e, pc' = .returned (.error e)) ∧ RunState s' f.handle f.runtime := by
  have quiet {s'} {pc'} (inFlight')
      (same) (gone) :
      (pc'.InFlight ∧ s'.publicStopper = s.publicStopper ∧ StopState s' f pc') ∨
        (pc = .publicFinish (.ok ()) ∧ pc' = .returned (.ok ())) ∧ IdleState s' ∨
          (∃ e, pc' = .returned (.error e)) ∧ RunState s' f.handle f.runtime :=
    .inl ⟨inFlight', same.publicStopper, st.frame same gone⟩
  cases moves with
  | begin _ here _ | firstEnterFails e here | finalEnterFails e here | joined here _ _
  | failReset _ here | cleanup here _ => exact quiet trivial (.setRuntime here rfl) Iff.rfl
  | setStopping here =>
    refine quiet trivial ?_ Iff.rfl
    exact ⟨rfl, configOf_setRuntime_keep here rfl, rfl, rfl, rfl, fun _ _ => rfl, rfl, rfl⟩
  | firstLeave | finalLeave =>
    exact quiet trivial (.withSelector (s.guard.afterQuery_agree _)) Iff.rfl
  | patching moves => exact quiet trivial (.withSelector moves.guard_agree) Iff.rfl
  | uninstall => exact .inl ⟨trivial, rfl, st.uninstall _⟩
  | finished => exact .inr (.inl ⟨⟨rfl, rfl⟩, st.finished _⟩)
  | failed _ here => exact .inr (.inr ⟨⟨_, rfl⟩, st.failed here⟩)
  | _ => exact quiet trivial ⟨rfl, rfl, rfl, rfl, rfl, fun _ _ => rfl, rfl, rfl⟩ Iff.rfl

theorem RunState.stopCall {handle runtime} (st : RunState s handle runtime) (generation) :
    StopState ({ s with publicStopper := some t }.setHandle handle
      (some ⟨some runtime, generation, false, true⟩)) ⟨handle, runtime⟩ .deadlockCheck where
  publicActive := st.publicActive
  publicStarting := st.publicStarting
  handle := ⟨generation, Function.update_self ..⟩
  present _ := ⟨st.activeRuntime, st.config⟩
  gone here := here.elim
  others := st.others

end

end Runtime
end ThermalSimd
