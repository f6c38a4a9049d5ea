import ThermalSimd.Selector

/-!
# The runtime lifecycle

The public lifecycle of `runtime_api.c` over the private one of `thermal_simd.c`, with the selector
traffic and the guard writers beside it. Each lock is taken and dropped by a move of its own, except
that a public section that calls nothing is one move. Every external operation may fail.
-/

namespace ThermalSimd
namespace Runtime

open Interleaving Selector

/-- A private runtime, `struct tsd_runtime` of `thermal_simd.c`. -/
structure PrivateRuntime where
  config : RuntimeConfig
  /-- `perf` is not null. -/
  perf : Bool
  monitorStarted : Bool
  monitorAlive : Bool
  stopInProgress : Bool
  stopEntered : Bool
  joins : ℕ
  /-- Calls of `tsd_perf_cleanup` by a stop attempt (auxiliary). -/
  cleanups : ℕ
  deriving DecidableEq

/-- `calloc` of a private runtime. -/
def PrivateRuntime.fresh (config : RuntimeConfig) : PrivateRuntime where
  config := config
  perf := false
  monitorStarted := false
  monitorAlive := false
  stopInProgress := false
  stopEntered := false
  joins := 0
  cleanups := 0

abbrev RuntimeId := ℕ

abbrev HandleId := ℕ

/-- A public handle, `struct tsd_runtime` of `runtime_api.c`. -/
structure Handle where
  impl : Option RuntimeId
  generation : ℕ
  stopped : Bool
  stopInProgress : Bool
  deriving DecidableEq

/-- `calloc` of a public handle. -/
def Handle.fresh : Handle := ⟨none, 0, false, false⟩

/-- The variables of both lifecycles, with those of the selector. -/
structure Shared (Task : Type*) extends Selector.Shared Task where
  runtimeLock : Option Task
  activeRuntime : Option RuntimeId
  runtimes : RuntimeId → Option PrivateRuntime
  stops : RuntimeId → ℕ
  nextRuntime : RuntimeId
  running : Bool
  /-- Holder of `g_public_runtime_lock` across calls. -/
  publicLock : Option Task
  publicActive : Option HandleId
  /-- `g_public_runtime_starting`, with the task that reserved the slot. -/
  publicStarting : Option Task
  publicStopper : Option Task
  handles : HandleId → Option Handle
  nextHandle : HandleId
  nextGeneration : ℕ

variable {Task : Type*}

namespace Shared

variable (s : Shared Task)

def withSelector (selector : Selector.Shared Task) : Shared Task :=
  { s with toShared := selector }

def withGuard (guard : GuardState) : Shared Task := { s with guard }

/-- `tsd_runtime_set_stopping_locked(1)`. -/
def setStopping : Shared Task :=
  { s with
    guard := { s.guard with stopping := true, safetySnapshotState := .uncaptured }
    admissionOpen := false }

/-- `tsd_runtime_set_stopping_locked(0)`. -/
def clearStopping : Shared Task :=
  { s with guard := { s.guard with stopping := false } }

/-- `tsd_runtime_set_owner_tid_locked`. -/
def setOwnerTid (tid : ℤ) : Shared Task :=
  { s with guard := { s.guard with ownerTid := if 0 < tid then tid else 0 } }

/-- `tsd_runtime_config_reset_dynamic_state`. -/
def resetDynamicState : Shared Task :=
  { s with guard := { s.guard with degradedActive := false } }

def setRuntime (id : RuntimeId) (runtime : Option PrivateRuntime) : Shared Task :=
  { s with runtimes := Function.update s.runtimes id runtime }

def setHandle (id : HandleId) (handle : Option Handle) : Shared Task :=
  { s with handles := Function.update s.handles id handle }

/-- `g_next_runtime_generation++`, skipping zero when the counter wraps. -/
def generationAfter (generation : ℕ) : ℕ :=
  let next := (generation + 1) % 2 ^ 64
  if next = 0 then 1 else next

end Shared

/-- What guard writers and the telemetry, perf and flag updates leave alone. -/
structure KeepsLifecycle (before after : GuardState) : Prop where
  stopping : after.stopping = before.stopping
  ownerTid : after.ownerTid = before.ownerTid
  configSnapshotState : after.configSnapshotState = before.configSnapshotState
  configSnapshot : after.configSnapshot = before.configSnapshot

theorem KeepsLifecycle.refl (guard) : KeepsLifecycle guard guard :=
  ⟨rfl, rfl, rfl, rfl⟩

theorem KeepsLifecycle.of_agree {before after}
    (agree : before.AgreeOffSafetyCell after) : KeepsLifecycle before after := by
  constructor <;> rw [agree]

/-- The configuration of a start and the names of what it creates. -/
structure StartFrame where
  config : RuntimeConfig
  handle : HandleId
  runtime : RuntimeId
  deriving DecidableEq

/-- The five exits of the private start after its prerequisites. -/
inductive StartFailure
  | allocation | perfInit | selectorPatch | monitorCreate | finalGuard
  deriving DecidableEq

/-- Where a start is. -/
inductive StartPc
  -- tsd_runtime_start_with_config and tsd_runtime_config_activate_snapshot
  | reserve | activate | writeConfig (snapshot : RuntimeConfig) | publishConfig | resetSafety
  -- the private start
  | lockRuntime | checkActive | prerequisites
  | initializing (pc : InitPc)
  | patchFirst (pc : PatchPc)
  | sandbox
  | firstEnter | setStopping | clearOwner | resetDynamic | firstLeave
  | calloc | perfInit | perfWork
  | perfPatch (pc : PatchPc)
  | readWidth
  | patchLast (pc : PatchPc)
  | create
  | finalEnter | setOwner | clearStopping | finalLeave | install | unlockDone
  -- its failures
  | joinMonitor (e : Errno)
  | cleanup (point : StartFailure) (e : Errno)
  | unlockFailed (point : StartFailure) (e : Errno)
  | unlockEarly (e : Errno)
  -- back in tsd_runtime_start_with_config
  | deactivate (e : Errno) | deactivateConfig (e : Errno) | release (e : Errno)
  | publish
  | returned (result : Result)

section

variable (platform : Platform) (tid : ℤ) (t : Task) (f : StartFrame)

/-- The moves of `tsd_runtime_start_with_config`. -/
inductive StartMoves : Shared Task → StartPc → Shared Task → StartPc → Prop
  | reserveBusy {s} (free : s.publicLock = none)
      (busy : s.publicActive.isSome ∨ s.publicStarting.isSome ∨
        s.guard.configSnapshotState = .active) :
      StartMoves s .reserve (s.setHandle f.handle none)
        (.returned (.error .ebusy))
  | reserve {s} (free : s.publicLock = none) (noHandle : s.publicActive = none)
      (noStart : s.publicStarting = none) (inactive : s.guard.configSnapshotState ≠ .active) :
      StartMoves s .reserve { s with publicStarting := some t } .activate
  | activateInvalid {s e} (invalid : f.config.validateGenerationConfig = .error e) :
      StartMoves s .activate s (.release e)
  | activateBusy {s snapshot} (valid : f.config.validateGenerationConfig = .ok snapshot)
      (taken : s.guard.configSnapshotState ≠ .inactive) :
      StartMoves s .activate s (.release .ebusy)
  | activate {s snapshot} (valid : f.config.validateGenerationConfig = .ok snapshot)
      (inactive : s.guard.configSnapshotState = .inactive) :
      StartMoves s .activate (s.withGuard { s.guard with configSnapshotState := .publishing })
        (.writeConfig snapshot)
  | writeConfig {s snapshot} :
      StartMoves s (.writeConfig snapshot) (s.withGuard { s.guard with configSnapshot := snapshot })
        .publishConfig
  | publishConfig {s} :
      StartMoves s .publishConfig (s.withGuard { s.guard with configSnapshotState := .active })
        .resetSafety
  | resetSafety {s} :
      StartMoves s .resetSafety (s.withGuard { s.guard with safetySnapshotState := .uncaptured })
        .lockRuntime
  | lockRuntime {s} (free : s.runtimeLock = none) :
      StartMoves s .lockRuntime { s with runtimeLock := some t } .checkActive
  | active {s} (active : s.activeRuntime.isSome) : StartMoves s .checkActive s (.unlockEarly .ebusy)
  | inactive {s} (inactive : s.activeRuntime = none) : StartMoves s .checkActive s .prerequisites
  -- ensure_runtime_prerequisites: ticks and SSE4.1, then the trampoline, then the sandbox.
  | prerequisitesFail {s} (e : Errno) : StartMoves s .prerequisites s (.unlockEarly e)
  | prerequisites {s} (supported : platform.host.sse41 = true) (legacy : RuntimeConfig) :
      StartMoves s .prerequisites (s.withGuard { s.guard with legacyConfig := legacy })
        (.initializing .lock)
  | init {s selector pc pc'} (moves : InitMoves t s.toShared pc selector pc') :
      StartMoves s (.initializing pc) (s.withSelector selector) (.initializing pc')
  | initFailed {s e} : StartMoves s (.initializing (.done (.error e))) s (.unlockEarly e)
  | initDone {s} : StartMoves s (.initializing (.done (.ok ()))) s (.patchFirst .enter)
  | patchFirst {s selector pc pc'}
      (moves : PatchMoves platform t SimdWidth.sse41.toInt s.toShared pc selector pc') :
      StartMoves s (.patchFirst pc) (s.withSelector selector) (.patchFirst pc')
  | patchFirstFailed {s e} : StartMoves s (.patchFirst (.done (.error e))) s (.unlockEarly e)
  | patchFirstDone {s} : StartMoves s (.patchFirst (.done (.ok ()))) s .sandbox
  | sandbox {s} (guard : GuardState) (keeps : KeepsLifecycle s.guard guard)
      (degraded : guard.degradedActive = s.guard.degradedActive) :
      StartMoves s .sandbox (s.withGuard guard) .firstEnter
  | firstEnterFails {s} (e : Errno) : StartMoves s .firstEnter s (.unlockEarly e)
  | firstEnter {s} (free : s.guardUpdateLock = none) :
      StartMoves s .firstEnter (s.withSelector (s.writeEnter t)) .setStopping
  | setStopping {s} : StartMoves s .setStopping s.setStopping .clearOwner
  | clearOwner {s} : StartMoves s .clearOwner (s.setOwnerTid 0) .resetDynamic
  | resetDynamic {s} : StartMoves s .resetDynamic s.resetDynamicState .firstLeave
  | firstLeave {s} : StartMoves s .firstLeave (s.withSelector s.writeLeave) .calloc
  | callocFails {s} : StartMoves s .calloc s (.unlockFailed .allocation .enomem)
  | calloc {s} : StartMoves s .calloc (s.setRuntime f.runtime (some (.fresh f.config))) .perfInit
  | perfInitFails {s} (e : Errno) :
      StartMoves s .perfInit (s.setRuntime f.runtime none) (.unlockFailed .perfInit e)
  | perfInit {s runtime} (here : s.runtimes f.runtime = some runtime) :
      StartMoves s .perfInit (s.setRuntime f.runtime (some { runtime with perf := true })) .perfWork
  -- tsd_perf_init, tsd_perf_enable and tsd_perf_measure_baseline publish telemetry, may switch the
  -- degraded overlay and may select SSE4.1.
  | perfPublish {s} (guard : GuardState) (keeps : KeepsLifecycle s.guard guard) :
      StartMoves s .perfWork (s.withGuard guard) .perfWork
  | perfPatchCall {s} : StartMoves s .perfWork s (.perfPatch .enter)
  | perfPatch {s selector pc pc'}
      (moves : PatchMoves platform t SimdWidth.sse41.toInt s.toShared pc selector pc') :
      StartMoves s (.perfPatch pc) (s.withSelector selector) (.perfPatch pc')
  | perfPatchDone {s result} : StartMoves s (.perfPatch (.done result)) s .perfWork
  | perfDone {s} : StartMoves s .perfWork s .readWidth
  | narrow {s} (narrow : s.trampoline.stateCurrentWidth = .sse41) :
      StartMoves s .readWidth s .create
  | wide {s} (wide : s.trampoline.stateCurrentWidth ≠ .sse41) :
      StartMoves s .readWidth s (.patchLast .enter)
  | patchLast {s selector pc pc'}
      (moves : PatchMoves platform t SimdWidth.sse41.toInt s.toShared pc selector pc') :
      StartMoves s (.patchLast pc) (s.withSelector selector) (.patchLast pc')
  | patchLastFailed {s e} :
      StartMoves s (.patchLast (.done (.error e))) s (.cleanup .selectorPatch e)
  | patchLastDone {s} : StartMoves s (.patchLast (.done (.ok ()))) s .create
  | createFails {s} (e : Errno) :
      StartMoves s .create { s with running := false } (.cleanup .monitorCreate e)
  | create {s runtime} (here : s.runtimes f.runtime = some runtime) :
      StartMoves s .create
        ({ s with running := true }.setRuntime f.runtime
          (some { runtime with monitorStarted := true, monitorAlive := true })) .finalEnter
  | finalEnterFails {s} (e : Errno) :
      StartMoves s .finalEnter { s with running := false } (.joinMonitor e)
  | joinMonitor {s e runtime} (here : s.runtimes f.runtime = some runtime)
      (dead : runtime.monitorAlive = false) :
      StartMoves s (.joinMonitor e)
        (s.setRuntime f.runtime (some { runtime with monitorStarted := false }))
        (.cleanup .finalGuard e)
  | finalEnter {s} (free : s.guardUpdateLock = none) :
      StartMoves s .finalEnter (s.withSelector (s.writeEnter t)) .setOwner
  | setOwner {s} : StartMoves s .setOwner (s.setOwnerTid tid) .clearStopping
  | clearStopping {s} : StartMoves s .clearStopping s.clearStopping .finalLeave
  | finalLeave {s} : StartMoves s .finalLeave (s.withSelector s.writeLeave) .install
  | install {s} : StartMoves s .install { s with activeRuntime := some f.runtime } .unlockDone
  | unlockDone {s} : StartMoves s .unlockDone { s with runtimeLock := none } .publish
  | cleanup {s point e} :
      StartMoves s (.cleanup point e) (s.setRuntime f.runtime none) (.unlockFailed point e)
  | unlockFailed {s point e} :
      StartMoves s (.unlockFailed point e) { s with runtimeLock := none } (.deactivate e)
  | unlockEarly {s e} : StartMoves s (.unlockEarly e) { s with runtimeLock := none } (.deactivate e)
  -- tsd_runtime_config_deactivate_snapshot and the public rollback
  | deactivate {s e} :
      StartMoves s (.deactivate e) (s.withGuard { s.guard with safetySnapshotState := .uncaptured })
        (.deactivateConfig e)
  | deactivateConfig {s e} :
      StartMoves s (.deactivateConfig e)
        (s.withGuard { s.guard with configSnapshotState := .inactive }) (.release e)
  | release {s e} (free : s.publicLock = none) :
      StartMoves s (.release e) ({ s with publicStarting := none }.setHandle f.handle none)
        (.returned (.error e))
  | publish {s} (free : s.publicLock = none) :
      StartMoves s .publish
        ({ s with
            publicActive := some f.handle
            publicStarting := none
            nextGeneration := Shared.generationAfter s.nextGeneration }.setHandle f.handle
          (some ⟨some f.runtime, s.nextGeneration, false, false⟩)) (.returned (.ok ()))

end

/-- What a stop attempt stops. -/
structure StopFrame where
  handle : HandleId
  runtime : RuntimeId
  deriving DecidableEq

/-- Where a stop attempt is. -/
inductive StopPc
  | deadlockCheck
  | lockRuntime | check
  | firstEnter | setStopping | stopRunning | firstLeave | unlockRuntime
  | join | quiesce | readWidth
  | patching (pc : PatchPc)
  | relock | recheck | cleanup
  | finalEnter | clearOwner | resetDynamic | uninstall | clearStopping | finalLeave | unlockDone
  | failLock (e : Errno) | failReset (e : Errno)
  | unlockEarly (e : Errno)
  | publicFinish (result : Result)
  | returned (result : Result)

section

variable (platform : Platform) (t : Task) (f : StopFrame)

/-- The moves of `tsd_runtime_stop`. -/
inductive StopMoves : Shared Task → StopPc → Shared Task → StopPc → Prop
  -- The calling thread may be inside a wide execution of its own.
  | deadlock {s} : StopMoves s .deadlockCheck s (.publicFinish (.error .edeadlk))
  | outside {s} : StopMoves s .deadlockCheck s .lockRuntime
  | lockRuntime {s} (free : s.runtimeLock = none) :
      StopMoves s .lockRuntime { s with runtimeLock := some t } .check
  | notActive {s} (other : s.activeRuntime ≠ some f.runtime) :
      StopMoves s .check s (.unlockEarly .einval)
  | inProgress {s runtime} (active : s.activeRuntime = some f.runtime)
      (here : s.runtimes f.runtime = some runtime) (busy : runtime.stopInProgress = true) :
      StopMoves s .check s (.unlockEarly .ebusy)
  | begin {s runtime} (active : s.activeRuntime = some f.runtime)
      (here : s.runtimes f.runtime = some runtime) (idle : runtime.stopInProgress = false) :
      StopMoves s .check (s.setRuntime f.runtime (some { runtime with stopInProgress := true }))
        .firstEnter
  | firstEnterFails {s runtime} (e : Errno) (here : s.runtimes f.runtime = some runtime) :
      StopMoves s .firstEnter
        (s.setRuntime f.runtime (some { runtime with stopInProgress := false })) (.unlockEarly e)
  | firstEnter {s} (free : s.guardUpdateLock = none) :
      StopMoves s .firstEnter (s.withSelector (s.writeEnter t)) .setStopping
  | setStopping {s runtime} (here : s.runtimes f.runtime = some runtime) :
      StopMoves s .setStopping
        (s.setStopping.setRuntime f.runtime (some { runtime with stopEntered := true }))
        .stopRunning
  | stopRunning {s} : StopMoves s .stopRunning { s with running := false } .firstLeave
  | firstLeave {s} : StopMoves s .firstLeave (s.withSelector s.writeLeave) .unlockRuntime
  | unlockRuntime {s} : StopMoves s .unlockRuntime { s with runtimeLock := none } .join
  | joined {s runtime} (here : s.runtimes f.runtime = some runtime)
      (started : runtime.monitorStarted = true) (dead : runtime.monitorAlive = false) :
      StopMoves s .join
        (s.setRuntime f.runtime
          (some { runtime with monitorStarted := false, joins := runtime.joins + 1 })) .quiesce
  | joinFails {s runtime} (here : s.runtimes f.runtime = some runtime)
      (started : runtime.monitorStarted = true) (e : Errno) :
      StopMoves s .join s (.failLock e)
  | notStarted {s runtime} (here : s.runtimes f.runtime = some runtime)
      (joined : runtime.monitorStarted = false) :
      StopMoves s .join s .quiesce
  | quiesceFails {s} (e : Errno) : StopMoves s .quiesce s (.failLock e)
  | quiesce {s} : StopMoves s .quiesce s .readWidth
  | narrow {s} (narrow : s.trampoline.stateCurrentWidth = .sse41) : StopMoves s .readWidth s .relock
  | wide {s} (wide : s.trampoline.stateCurrentWidth ≠ .sse41) :
      StopMoves s .readWidth s (.patching .enter)
  | patching {s selector pc pc'}
      (moves : PatchMoves platform t SimdWidth.sse41.toInt s.toShared pc selector pc') :
      StopMoves s (.patching pc) (s.withSelector selector) (.patching pc')
  | patchFailed {s e} : StopMoves s (.patching (.done (.error e))) s (.failLock e)
  | patchDone {s} : StopMoves s (.patching (.done (.ok ()))) s .relock
  | failLock {s e} (free : s.runtimeLock = none) :
      StopMoves s (.failLock e) { s with runtimeLock := some t } (.failReset e)
  | failReset {s e runtime} (active : s.activeRuntime = some f.runtime)
      (here : s.runtimes f.runtime = some runtime) :
      StopMoves s (.failReset e)
        (s.setRuntime f.runtime (some { runtime with stopInProgress := false })) (.unlockEarly e)
  | failGone {s e} (other : s.activeRuntime ≠ some f.runtime) :
      StopMoves s (.failReset e) s (.unlockEarly e)
  | relock {s} (free : s.runtimeLock = none) :
      StopMoves s .relock { s with runtimeLock := some t } .recheck
  | recheckFails {s} (lost : s.activeRuntime ≠ some f.runtime ∨
        ∃ runtime, s.runtimes f.runtime = some runtime ∧ runtime.stopInProgress = false) :
      StopMoves s .recheck s (.unlockEarly .ebusy)
  | recheck {s runtime} (active : s.activeRuntime = some f.runtime)
      (here : s.runtimes f.runtime = some runtime) (mine : runtime.stopInProgress = true) :
      StopMoves s .recheck s .cleanup
  | cleanup {s runtime} (here : s.runtimes f.runtime = some runtime) (present : runtime.perf = true)
      :
      StopMoves s .cleanup
        (s.setRuntime f.runtime
          (some { runtime with perf := false, cleanups := runtime.cleanups + 1 })) .finalEnter
  | cleanupDone {s runtime} (here : s.runtimes f.runtime = some runtime)
      (absent : runtime.perf = false) :
      StopMoves s .cleanup s .finalEnter
  | finalEnterFails {s runtime} (e : Errno) (here : s.runtimes f.runtime = some runtime) :
      StopMoves s .finalEnter
        (s.setRuntime f.runtime (some { runtime with stopInProgress := false })) (.unlockEarly e)
  | finalEnter {s} (free : s.guardUpdateLock = none) :
      StopMoves s .finalEnter (s.withSelector (s.writeEnter t)) .clearOwner
  | clearOwner {s} : StopMoves s .clearOwner (s.setOwnerTid 0) .resetDynamic
  | resetDynamic {s} : StopMoves s .resetDynamic s.resetDynamicState .uninstall
  | uninstall {s} :
      StopMoves s .uninstall
        ({ s with
            activeRuntime := none
            stops := Function.update s.stops f.runtime (s.stops f.runtime + 1) }.setRuntime
          f.runtime none) .clearStopping
  | clearStopping {s} : StopMoves s .clearStopping s.clearStopping .finalLeave
  | finalLeave {s} : StopMoves s .finalLeave (s.withSelector s.writeLeave) .unlockDone
  | unlockDone {s} : StopMoves s .unlockDone { s with runtimeLock := none } (.publicFinish (.ok ()))
  | unlockEarly {s e} :
      StopMoves s (.unlockEarly e) { s with runtimeLock := none } (.publicFinish (.error e))
  -- back in the public tsd_runtime_stop
  | finished {s handle} (free : s.publicLock = none) (here : s.handles f.handle = some handle) :
      StopMoves s (.publicFinish (.ok ()))
        (({ s with publicActive := none, publicStopper := none }.setHandle f.handle
            (some { handle with impl := none, stopped := true, stopInProgress := false })).withGuard
          { s.guard with safetySnapshotState := .uncaptured, configSnapshotState := .inactive })
        (.returned (.ok ()))
  | failed {s e handle} (free : s.publicLock = none) (here : s.handles f.handle = some handle) :
      StopMoves s (.publicFinish (.error e))
        ({ s with publicStopper := none }.setHandle f.handle
          (some { handle with stopInProgress := false })) (.returned (.error e))

end

/-- Where a stop request is. -/
inductive RequestPc
  | enter | setStopping | stopRunning | leave | publicUnlock | returned

/-- The moves of a stop request. -/
inductive RequestMoves (t : Task) : Shared Task → RequestPc → Shared Task → RequestPc → Prop
  | enterFails {s} : RequestMoves t s .enter { s with running := false } .publicUnlock
  | enter {s} (free : s.guardUpdateLock = none) :
      RequestMoves t s .enter (s.withSelector (s.writeEnter t)) .setStopping
  | setStopping {s} : RequestMoves t s .setStopping s.setStopping .stopRunning
  | stopRunning {s} : RequestMoves t s .stopRunning { s with running := false } .leave
  | leave {s} : RequestMoves t s .leave (s.withSelector s.writeLeave) .publicUnlock
  | publicUnlock {s} : RequestMoves t s .publicUnlock { s with publicLock := none } .returned

/-- What a task is doing. -/
inductive Local
  | idle
  | writer
  | patching (width : ℤ) (pc : PatchPc)
  | initializing (pc : InitPc)
  | starting (frame : StartFrame) (pc : StartPc)
  | stopping (frame : StopFrame) (pc : StopPc)
  | stopRejected (handle : HandleId) (e : Errno)
  | requesting (pc : RequestPc)
  | destroyed (handle : HandleId) (result : Result)

/-- `runtime == g_public_active_runtime && !runtime->stopped && runtime->impl`. -/
def Shared.Current (s : Shared Task) (id : HandleId) (handle : Handle) : Prop :=
  s.publicActive = some id ∧ handle.stopped = false ∧ handle.impl.isSome

section

variable (t : Task) (id : HandleId) (handle : Handle)

/-- The first public section of the stop, the stop request or the destroy call. -/
inductive CallMoves : Shared Task → Shared Task → Local → Prop
  | stopInvalid {s} (stale : ¬ s.Current id handle) : CallMoves s s (.stopRejected id .einval)
  | stopBusy {s} (current : s.Current id handle) (busy : handle.stopInProgress = true) :
      CallMoves s s (.stopRejected id .ebusy)
  | stopCall {s runtime} (current : s.Current id handle) (idle : handle.stopInProgress = false)
      (impl : handle.impl = some runtime) :
      CallMoves s
        ({ s with publicStopper := some t }.setHandle id
          (some { handle with stopInProgress := true }))
        (.stopping ⟨id, runtime⟩ .deadlockCheck)
  | requestIgnored {s} (stale : ¬ (s.Current id handle ∧ handle.stopInProgress = false)) :
      CallMoves s s .idle
  | requestCall {s} (current : s.Current id handle) (idle : handle.stopInProgress = false) :
      CallMoves s { s with publicLock := some t } (.requesting .enter)
  | destroyBusy {s} (busy : s.publicActive = some id ∨ handle.stopInProgress = true) :
      CallMoves s s (.destroyed id (.error .ebusy))
  | destroyInvalid {s} (notActive : s.publicActive ≠ some id) (idle : handle.stopInProgress = false)
      (live : handle.stopped = false ∨ handle.impl.isSome) :
      CallMoves s s (.destroyed id (.error .einval))
  | destroy {s} (notActive : s.publicActive ≠ some id) (idle : handle.stopInProgress = false)
      (stopped : handle.stopped = true) (noImpl : handle.impl = none) :
      CallMoves s (s.setHandle id none) (.destroyed id (.ok ()))

end

section

variable (platform : Platform) (tid : Task → ℤ) (t : Task)

/-- The moves of one task, whose kernel thread is `tid`. -/
inductive Moves : Shared Task → Local → Shared Task → Local → Prop
  | drift {s l} (guard : GuardState) (keeps : KeepsLifecycle s.guard guard)
      (degraded : guard.degradedActive = s.guard.degradedActive ∨
        ∃ id runtime, s.runtimes id = some runtime ∧ runtime.monitorAlive = true) :
      Moves s l (s.withGuard guard) l
  | monitorExit {s l id runtime} (here : s.runtimes id = some runtime) :
      Moves s l (s.setRuntime id (some { runtime with monitorAlive := false })) l
  | writeEnter {s} (free : s.guardUpdateLock = none) :
      Moves s .idle (s.withSelector (s.writeEnter t)) .writer
  | writeLeave {s} : Moves s .writer (s.withSelector s.writeLeave) .idle
  | patchCall {s} (width : ℤ) : Moves s .idle s (.patching width .enter)
  | patch {s selector width pc pc'} (moves : PatchMoves platform t width s.toShared pc selector pc')
      :
      Moves s (.patching width pc) (s.withSelector selector) (.patching width pc')
  | patchReturn {s width result} : Moves s (.patching width (.done result)) s .idle
  | initCall {s} : Moves s .idle s (.initializing .lock)
  | init {s selector pc pc'} (moves : InitMoves t s.toShared pc selector pc') :
      Moves s (.initializing pc) (s.withSelector selector) (.initializing pc')
  | initReturn {s result} : Moves s (.initializing (.done result)) s .idle
  | startCall {s} (config : RuntimeConfig) :
      Moves s .idle
        ({ s with nextHandle := s.nextHandle + 1, nextRuntime := s.nextRuntime + 1 }.setHandle
          s.nextHandle (some .fresh))
        (.starting ⟨config, s.nextHandle, s.nextRuntime⟩ .reserve)
  | start {s s' frame pc pc'} (moves : StartMoves platform (tid t) t frame s pc s' pc') :
      Moves s (.starting frame pc) s' (.starting frame pc')
  | startReturn {s frame result} : Moves s (.starting frame (.returned result)) s .idle
  -- Calls are made on allocated handles only.
  | call {s s' l id handle} (free : s.publicLock = none) (here : s.handles id = some handle)
      (moves : CallMoves t id handle s s' l) :
      Moves s .idle s' l
  | stop {s s' frame pc pc'} (moves : StopMoves platform t frame s pc s' pc') :
      Moves s (.stopping frame pc) s' (.stopping frame pc')
  | stopReturn {s frame result} : Moves s (.stopping frame (.returned result)) s .idle
  | stopRejectedReturn {s id e} : Moves s (.stopRejected id e) s .idle
  | request {s s' pc pc'} (moves : RequestMoves t s pc s' pc') :
      Moves s (.requesting pc) s' (.requesting pc')
  | requestReturn {s} : Moves s (.requesting .returned) s .idle
  | destroyReturn {s id result} : Moves s (.destroyed id result) s .idle

end

/-- The process with its tasks. -/
abbrev System (Task : Type*) := Pool Task (Shared Task) Local

/-- The process before its first call. -/
structure Initial (pool : System Task) : Prop where
  idle : ∀ t, pool.locals t = .idle
  guardUpdateLock : pool.shared.guardUpdateLock = none
  patchLock : pool.shared.patchLock = none
  runtimeLock : pool.shared.runtimeLock = none
  publicLock : pool.shared.publicLock = none
  activeRuntime : pool.shared.activeRuntime = none
  runtimes : ∀ id, pool.shared.runtimes id = none
  stops : ∀ id, pool.shared.stops id = 0
  publicActive : pool.shared.publicActive = none
  publicStarting : pool.shared.publicStarting = none
  publicStopper : pool.shared.publicStopper = none
  handles : ∀ id, pool.shared.handles id = none
  configSnapshotState : pool.shared.guard.configSnapshotState = .inactive

variable [DecidableEq Task]

/-- One task moves. -/
abbrev Step (platform : Platform) (tid : Task → ℤ) : System Task → System Task → Prop :=
  Interleaving.Step (Moves platform tid)

/-- The first `length` moves of `trace` are moves of the process. -/
structure Execution (platform : Platform) (tid : Task → ℤ) (trace : ℕ → System Task)
    (length : ℕ) : Prop where
  initial : Initial (trace 0)
  run : IsRun (Step platform tid) trace length

end Runtime
end ThermalSimd
