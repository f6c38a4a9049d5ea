import ThermalSimd.Runtime

/-!
# Lock discipline of the runtime lifecycle

Which locks and reservations a task holds follows from where it is; each is held by at most one
task.
-/

namespace ThermalSimd
namespace Runtime

open Interleaving Selector

variable {Task : Type*}

namespace StartPc

def InGuard : StartPc → Prop
  | .patchFirst pc | .perfPatch pc | .patchLast pc => pc.InGuard
  | .setStopping | .clearOwner | .resetDynamic | .firstLeave => True
  | .setOwner | .clearStopping | .finalLeave => True
  | _ => False

def InPatch : StartPc → Prop
  | .initializing pc => pc.InPatch
  | .patchFirst pc | .perfPatch pc | .patchLast pc => pc.InPatch
  | _ => False

def InRuntime : StartPc → Prop
  | .reserve | .activate | .writeConfig _ | .publishConfig | .resetSafety | .lockRuntime => False
  | .deactivate _ | .deactivateConfig _ | .release _ | .publish | .returned _ => False
  | _ => True

def Reserved : StartPc → Prop
  | .reserve | .returned _ => False
  | _ => True

end StartPc

namespace StopPc

def InGuard : StopPc → Prop
  | .patching pc => pc.InGuard
  | .setStopping | .stopRunning | .firstLeave => True
  | .clearOwner | .resetDynamic | .uninstall | .clearStopping | .finalLeave => True
  | _ => False

def InPatch : StopPc → Prop
  | .patching pc => pc.InPatch
  | _ => False

def InRuntime : StopPc → Prop
  | .check | .firstEnter | .setStopping | .stopRunning | .firstLeave | .unlockRuntime => True
  | .recheck | .cleanup | .finalEnter | .clearOwner | .resetDynamic | .uninstall => True
  | .clearStopping | .finalLeave | .unlockDone | .failReset _ | .unlockEarly _ => True
  | _ => False

def InFlight : StopPc → Prop
  | .returned _ => False
  | _ => True

end StopPc

def RequestPc.InGuard : RequestPc → Prop
  | .setStopping | .stopRunning | .leave => True
  | _ => False

def RequestPc.InPublic : RequestPc → Prop
  | .returned => False
  | _ => True

namespace Local

def InGuard : Local → Prop
  | .writer => True
  | .patching _ pc => pc.InGuard
  | .starting _ pc => pc.InGuard
  | .stopping _ pc => pc.InGuard
  | .requesting pc => pc.InGuard
  | _ => False

def InPatch : Local → Prop
  | .patching _ pc => pc.InPatch
  | .initializing pc => pc.InPatch
  | .starting _ pc => pc.InPatch
  | .stopping _ pc => pc.InPatch
  | _ => False

def InRuntime : Local → Prop
  | .starting _ pc => pc.InRuntime
  | .stopping _ pc => pc.InRuntime
  | _ => False

def InPublic : Local → Prop
  | .requesting pc => pc.InPublic
  | _ => False

def Reserved : Local → Prop
  | .starting _ pc => pc.Reserved
  | _ => False

def InStop : Local → Prop
  | .stopping _ pc => pc.InFlight
  | _ => False

end Local

section

variable {platform : Platform} {tid : ℤ} {t : Task} {f : StartFrame} {s s' : Shared Task}
  {pc pc' : StartPc}

variable (moves : StartMoves platform tid t f s pc s' pc')
include moves

theorem StartMoves.guardLock :
    LockStep (fun s : Shared Task => s.guardUpdateLock) StartPc.InGuard t s pc s' pc' := by
  cases moves with
  | firstEnter free | finalEnter free => exact .acquires free rfl trivial
  | firstLeave | finalLeave => exact .releases trivial rfl id
  | init moves => exact .keeps moves.guardLock_eq Iff.rfl
  | patchFirst moves | perfPatch moves | patchLast moves =>
    exact moves.guardLock.lift rfl rfl Iff.rfl Iff.rfl
  | _ => exact .keeps rfl Iff.rfl

theorem StartMoves.patchLock :
    LockStep (fun s : Shared Task => s.patchLock) StartPc.InPatch t s pc s' pc' := by
  cases moves with
  | init moves | patchFirst moves | perfPatch moves | patchLast moves =>
    exact moves.patchLock.lift rfl rfl Iff.rfl Iff.rfl
  | _ => exact .keeps rfl Iff.rfl

theorem StartMoves.runtimeLock : LockStep Shared.runtimeLock StartPc.InRuntime t s pc s' pc' := by
  cases moves with
  | lockRuntime free => exact .acquires free rfl trivial
  | unlockDone | unlockFailed | unlockEarly => exact .releases trivial rfl id
  | _ => exact .keeps rfl Iff.rfl

theorem StartMoves.publicStarting :
    LockStep Shared.publicStarting StartPc.Reserved t s pc s' pc' := by
  cases moves with
  | reserve _ _ noStart => exact .acquires noStart rfl trivial
  | release | publish => exact .releases trivial rfl id
  | _ => exact .keeps rfl Iff.rfl

theorem StartMoves.publicLock_eq :
    s'.publicLock = s.publicLock ∧ s'.publicStopper = s.publicStopper := by
  cases moves <;> exact ⟨rfl, rfl⟩

end

section

variable {platform : Platform} {t : Task} {f : StopFrame} {s s' : Shared Task} {pc pc' : StopPc}

variable (moves : StopMoves platform t f s pc s' pc')
include moves

theorem StopMoves.guardLock :
    LockStep (fun s : Shared Task => s.guardUpdateLock) StopPc.InGuard t s pc s' pc' := by
  cases moves with
  | firstEnter free | finalEnter free => exact .acquires free rfl trivial
  | firstLeave | finalLeave => exact .releases trivial rfl id
  | patching moves => exact moves.guardLock.lift rfl rfl Iff.rfl Iff.rfl
  | _ => exact .keeps rfl Iff.rfl

theorem StopMoves.patchLock :
    LockStep (fun s : Shared Task => s.patchLock) StopPc.InPatch t s pc s' pc' := by
  cases moves with
  | patching moves => exact moves.patchLock.lift rfl rfl Iff.rfl Iff.rfl
  | _ => exact .keeps rfl Iff.rfl

theorem StopMoves.runtimeLock : LockStep Shared.runtimeLock StopPc.InRuntime t s pc s' pc' := by
  cases moves with
  | lockRuntime free | relock free | failLock free => exact .acquires free rfl trivial
  | unlockRuntime | unlockDone | unlockEarly => exact .releases trivial rfl id
  | _ => exact .keeps rfl Iff.rfl

theorem StopMoves.publicStopper : LockStep Shared.publicStopper StopPc.InFlight t s pc s' pc' := by
  cases moves with
  | finished | failed => exact .releases trivial rfl id
  | _ => exact .keeps rfl Iff.rfl

theorem StopMoves.publicLock_eq :
    s'.publicLock = s.publicLock ∧ s'.publicStarting = s.publicStarting := by
  cases moves <;> exact ⟨rfl, rfl⟩

end

section

variable {t : Task} {s s' : Shared Task} {pc pc' : RequestPc}

theorem RequestMoves.guardLock (moves : RequestMoves t s pc s' pc') :
    LockStep (fun s : Shared Task => s.guardUpdateLock) RequestPc.InGuard t s pc s' pc' := by
  cases moves with
  | enter free => exact .acquires free rfl trivial
  | leave => exact .releases trivial rfl id
  | _ => exact .keeps rfl Iff.rfl

theorem RequestMoves.publicLock (moves : RequestMoves t s pc s' pc') :
    LockStep Shared.publicLock RequestPc.InPublic t s pc s' pc' := by
  cases moves with
  | publicUnlock => exact .releases trivial rfl id
  | _ => exact .keeps rfl Iff.rfl

end

section

variable {platform : Platform} {tid : Task → ℤ} {t : Task} {s s' : Shared Task} {l l' : Local}

variable (moves : Moves platform tid t s l s' l')
include moves

theorem Moves.guardLock :
    LockStep (fun s : Shared Task => s.guardUpdateLock) Local.InGuard t s l s' l' := by
  cases moves with
  | writeEnter free => exact .acquires free rfl trivial
  | writeLeave => exact .releases trivial rfl id
  | patch moves | start moves | stop moves | request moves =>
    exact moves.guardLock.lift rfl rfl Iff.rfl Iff.rfl
  | init moves => exact .keeps moves.guardLock_eq Iff.rfl
  | call _ _ moves => cases moves <;> exact .keeps rfl Iff.rfl
  | _ => exact .keeps rfl Iff.rfl

theorem Moves.patchLock :
    LockStep (fun s : Shared Task => s.patchLock) Local.InPatch t s l s' l' := by
  cases moves with
  | patch moves | init moves | start moves | stop moves =>
    exact moves.patchLock.lift rfl rfl Iff.rfl Iff.rfl
  | request moves | call _ _ moves => cases moves <;> exact .keeps rfl Iff.rfl
  | _ => exact .keeps rfl Iff.rfl

theorem Moves.runtimeLock : LockStep Shared.runtimeLock Local.InRuntime t s l s' l' := by
  cases moves with
  | start moves | stop moves => exact moves.runtimeLock.lift rfl rfl Iff.rfl Iff.rfl
  | request moves | call _ _ moves => cases moves <;> exact .keeps rfl Iff.rfl
  | _ => exact .keeps rfl Iff.rfl

theorem Moves.publicLock : LockStep Shared.publicLock Local.InPublic t s l s' l' := by
  cases moves with
  | call free _ moves =>
    cases moves with
    | requestCall => exact .acquires free rfl trivial
    | _ => exact .keeps rfl Iff.rfl
  | request moves => exact moves.publicLock.lift rfl rfl Iff.rfl Iff.rfl
  | start moves | stop moves => exact .keeps moves.publicLock_eq.1 Iff.rfl
  | _ => exact .keeps rfl Iff.rfl

theorem Moves.publicStarting : LockStep Shared.publicStarting Local.Reserved t s l s' l' := by
  cases moves with
  | start moves => exact moves.publicStarting.lift rfl rfl Iff.rfl Iff.rfl
  | stop moves => exact .keeps moves.publicLock_eq.2 Iff.rfl
  | request moves | call _ _ moves => cases moves <;> exact .keeps rfl Iff.rfl
  | _ => exact .keeps rfl Iff.rfl

theorem Moves.publicStopper
    (single : ∀ id handle, s.handles id = some handle → s.Current id handle →
      handle.stopInProgress = false → s.publicStopper = none) :
    LockStep Shared.publicStopper Local.InStop t s l s' l' := by
  cases moves with
  | start moves => exact .keeps moves.publicLock_eq.2 Iff.rfl
  | stop moves => exact moves.publicStopper.lift rfl rfl Iff.rfl Iff.rfl
  | request moves => cases moves <;> exact .keeps rfl Iff.rfl
  | call _ here moves =>
    cases moves with
    | stopCall current idle => exact .acquires (single _ _ here current idle) rfl trivial
    | _ => exact .keeps rfl Iff.rfl
  | _ => exact .keeps rfl Iff.rfl

end

end Runtime
end ThermalSimd
