import ThermalSimd.Guard
import ThermalSimd.Interleaving
import ThermalSimd.Trampoline

/-!
# The guarded selector

`tsd_trampoline_patch` of `patcher/trampoline_guard.c` around the private selector of
`patcher/trampoline.cpp`, and `tsd_trampoline_init`, as moves of one task over the shared guard and
trampoline state. Every external outcome may be a failure.
-/

namespace ThermalSimd
namespace Selector

open Interleaving

/-- The host and its hash function. -/
structure Platform where
  host : HostCpu
  /-- `SHA256` of a slot's code. -/
  sha256 : List Byte → List Byte

/-- `tsd_detect_max_simd`. -/
def Platform.detectMaxSimd (platform : Platform) (cfg : RuntimeConfig) : SimdWidth :=
  detectImpl platform.host (cfg.allowAvx512 ≠ 0)

/-- What the calls of the selector share. -/
structure Shared (Task : Type*) where
  guard : GuardState
  admissionOpen : Bool
  guardUpdateLock : Option Task
  patchLock : Option Task
  trampoline : TrampolineState

variable {Task : Type*}

/-- `tsd_runtime_safety_write_enter`. -/
def Shared.writeEnter (s : Shared Task) (t : Task) : Shared Task :=
  { s with guardUpdateLock := some t, admissionOpen := false }

/-- `tsd_runtime_safety_write_leave`. -/
def Shared.writeLeave (s : Shared Task) : Shared Task :=
  { s with
    guard := s.guard.afterQuery SimdWidth.avx2.toInt
    admissionOpen := decide s.guard.ReopenDecision
    guardUpdateLock := none }

/-- What a call returns: nothing, or the `errno` it fails with. -/
abbrev Result := Except Errno Unit

/-- Where a call of `tsd_trampoline_patch` is. -/
inductive PatchPc
  | enter | authorize
  | lock | attempt | detect | build | target | commit | mirror
  | unlock (result : Result)
  | leave (result : Result)
  | done (result : Result)

section

variable (platform : Platform) (t : Task) (width : ℤ)

/-- The moves of one call of `tsd_trampoline_patch(width)`. -/
inductive PatchMoves : Shared Task → PatchPc → Shared Task → PatchPc → Prop
  | enterFails {s} (e : Errno) : PatchMoves s .enter s (.done (.error e))
  | enter {s} (free : s.guardUpdateLock = none) : PatchMoves s .enter (s.writeEnter t) .authorize
  | authorize {s} (authorized : s.guard.WidthAuthorized width) :
      PatchMoves s .authorize { s with guard := s.guard.afterQuery width } .lock
  | refuse {s} (refused : ¬ s.guard.WidthAuthorized width) :
      PatchMoves s .authorize { s with guard := s.guard.afterQuery width } (.leave (.error .eagain))
  -- tsd_trampoline_patch_impl
  | lockFails {s} (e : Errno) : PatchMoves s .lock s (.leave (.error e))
  | lock {s} (free : s.patchLock = none) :
      PatchMoves s .lock { s with patchLock := some t } .attempt
  | attempt {s} :
      PatchMoves s .attempt
        { s with trampoline := { s.trampoline with lastPatchAttempt := BitVec.ofInt 8 width } }
        .detect
  | invalid {s} (invalid : SimdWidth.ofInt? width = none) :
      PatchMoves s .detect s (.unlock (.error .einval))
  | unsupported {s} (unsupported : platform.host.sse41 = false) :
      PatchMoves s .detect s (.unlock (.error .enotsup))
  | exceeds {s w} (named : SimdWidth.ofInt? width = some w)
      (above : platform.detectMaxSimd s.guard.configActiveSnapshot < w) :
      PatchMoves s .detect s (.unlock (.error .enotsup))
  | detect {s w} (named : SimdWidth.ofInt? width = some w) (supported : platform.host.sse41 = true)
      (below : w ≤ platform.detectMaxSimd s.guard.configActiveSnapshot) :
      PatchMoves s .detect s .build
  | buildFails {s} (missing : s.trampoline.page = none) (e : Errno) :
      PatchMoves s .build { s with trampoline := s.trampoline.discardCodePage } (.unlock (.error e))
  | build {s} (missing : s.trampoline.page = none) (page : CodePage) :
      PatchMoves s .build { s with trampoline := s.trampoline.built page } .target
  | keepPage {s} (present : s.trampoline.page.isSome) : PatchMoves s .build s .target
  -- The mapping check, the digest or the attestation lock fails.
  | targetFails {s} (e : Errno) : PatchMoves s .target s (.unlock (.error e))
  | target {s} : PatchMoves s .target s .commit
  | commit {s w} (named : SimdWidth.ofInt? width = some w) :
      PatchMoves s .commit { s with trampoline := s.trampoline.commitWord w } .mirror
  | mirror {s w} (named : SimdWidth.ofInt? width = some w) :
      PatchMoves s .mirror
        { s with
          trampoline := s.trampoline.commitMirrors w (platform.sha256 (canonicalPatch w)) }
        (.unlock (.ok ()))
  | unlock {s result} : PatchMoves s (.unlock result) { s with patchLock := none } (.leave result)
  | leave {s result} : PatchMoves s (.leave result) s.writeLeave (.done result)

end

namespace PatchPc

def InGuard : PatchPc → Prop
  | .enter | .done _ => False
  | _ => True

def InPatch : PatchPc → Prop
  | .attempt | .detect | .build | .target | .commit | .mirror | .unlock _ => True
  | _ => False

def Authorized : PatchPc → Prop
  | .lock | .attempt | .detect | .build | .target | .commit => True
  | _ => False

def HasPage : PatchPc → Prop
  | .target | .commit | .mirror => True
  | _ => False

def Committed : PatchPc → Prop
  | .mirror | .unlock (.ok _) | .leave (.ok _) | .done (.ok _) => True
  | _ => False

def Detected : PatchPc → Prop
  | .build | .target | .commit => True
  | _ => False

theorem Authorized.inGuard {pc : PatchPc} (authorized : pc.Authorized) : pc.InGuard := by
  cases pc <;> trivial

end PatchPc

/-- Where a call of `tsd_trampoline_init` is. -/
inductive InitPc
  | lock | build | attest | reset | mirrors
  | unlock (result : Result)
  | done (result : Result)

/-- The moves of one call of `tsd_trampoline_init`. -/
inductive InitMoves (t : Task) : Shared Task → InitPc → Shared Task → InitPc → Prop
  | lockFails {s} (e : Errno) : InitMoves t s .lock s (.done (.error e))
  | lock {s} (free : s.patchLock = none) : InitMoves t s .lock { s with patchLock := some t } .build
  | buildFails {s} (missing : s.trampoline.page = none) (e : Errno) :
      InitMoves t s .build { s with trampoline := s.trampoline.discardCodePage }
        (.unlock (.error e))
  | build {s} (missing : s.trampoline.page = none) (page : CodePage) :
      InitMoves t s .build { s with trampoline := s.trampoline.built page } .attest
  | keepPage {s} (present : s.trampoline.page.isSome) : InitMoves t s .build s .attest
  | attestFails {s} (e : Errno) : InitMoves t s .attest s (.unlock (.error e))
  | attest {s} : InitMoves t s .attest s .reset
  | reset {s} : InitMoves t s .reset { s with trampoline := s.trampoline.resetWord } .mirrors
  | mirrors {s} :
      InitMoves t s .mirrors { s with trampoline := s.trampoline.resetMirrors } (.unlock (.ok ()))
  | unlock {s result} : InitMoves t s (.unlock result) { s with patchLock := none } (.done result)

namespace InitPc

def InPatch : InitPc → Prop
  | .lock | .done _ => False
  | _ => True

def HasPage : InitPc → Prop
  | .attest | .reset | .mirrors => True
  | _ => False

def Committed : InitPc → Prop
  | .mirrors | .unlock (.ok _) | .done (.ok _) => True
  | _ => False

end InitPc

section

variable {platform : Platform} {t : Task} {width : ℤ} {s s' : Shared Task} {pc pc' : PatchPc}
  {ic ic' : InitPc}

section

variable (moves : PatchMoves platform t width s pc s' pc')
include moves

theorem PatchMoves.guard_agree : s.guard.AgreeOffSafetyCell s'.guard := by
  cases moves with
  | authorize | refuse | leave => exact s.guard.afterQuery_agree _
  | _ => exact .refl _

theorem PatchMoves.guardLock : LockStep Shared.guardUpdateLock PatchPc.InGuard t s pc s' pc' := by
  cases moves with
  | enter free => exact .acquires free rfl trivial
  | leave => exact .releases trivial rfl id
  | _ => exact .keeps rfl Iff.rfl

theorem PatchMoves.patchLock : LockStep Shared.patchLock PatchPc.InPatch t s pc s' pc' := by
  cases moves with
  | lock free => exact .acquires free rfl trivial
  | unlock => exact .releases trivial rfl id
  | _ => exact .keeps rfl Iff.rfl

theorem PatchMoves.hasPage (before : pc.HasPage → s.trampoline.page.isSome) (has : pc'.HasPage) :
    s'.trampoline.page.isSome := by
  cases moves with
  | build => rfl
  | keepPage present => exact present
  | target | commit => exact before trivial
  | _ => exact has.elim

theorem PatchMoves.selection (hasPage : pc.HasPage → s.trampoline.page.isSome) :
    s.trampoline.KeepsSelection s'.trampoline ∨
      pc = .commit ∧ pc' = .mirror ∧
        ∃ w, SimdWidth.ofInt? width = some w ∧ s'.trampoline.Selects w := by
  cases moves with
  | commit named =>
    obtain ⟨page, built⟩ := Option.isSome_iff_exists.mp (hasPage trivial)
    exact .inr ⟨rfl, rfl, _, named, TrampolineState.selects_commitWord built _⟩
  | buildFails missing | build missing => exact .inl ⟨rfl, by simp [missing]⟩
  | _ => exact .inl ⟨rfl, fun _ => rfl⟩

theorem PatchMoves.committed (committed : pc'.Committed) :
    pc.Committed ∨ pc = .commit ∧ pc' = .mirror := by
  cases moves with
  | commit => exact .inr ⟨rfl, rfl⟩
  | @unlock res | @leave res =>
    cases res with
    | ok => exact .inl trivial
    | error => exact committed.elim
  | mirror => exact .inl trivial
  | _ => exact committed.elim

theorem PatchMoves.authorized (authorized : pc'.Authorized) :
    pc.Authorized ∨ pc = .authorize ∧ s.guard.WidthAuthorized width := by
  cases moves with
  | authorize yes => exact .inr ⟨rfl, yes⟩
  | lock | attempt | detect | build | keepPage | target => exact .inl trivial
  | _ => exact authorized.elim

theorem PatchMoves.detected (detected : pc'.Detected) :
    pc.Detected ∨ pc = .detect ∧ ∃ w, SimdWidth.ofInt? width = some w ∧
      w ≤ platform.detectMaxSimd s.guard.configActiveSnapshot := by
  cases moves with
  | detect named _ fits => exact .inr ⟨rfl, _, named, fits⟩
  | build | keepPage | target => exact .inl trivial
  | _ => exact detected.elim

theorem PatchMoves.committed_stays (committed : pc.Committed) : pc'.Committed := by
  cases moves with
  | mirror => trivial
  | @unlock res | @leave res => cases res <;> exact committed
  | _ => exact committed.elim

end

theorem PatchMoves.selection_sse41 (moves : PatchMoves platform t SimdWidth.sse41.toInt s pc s' pc')
    (hasPage : pc.HasPage → s.trampoline.page.isSome) :
    s.trampoline.KeepsSelection s'.trampoline ∨ s'.trampoline.Selects .sse41 := by
  rcases moves.selection hasPage with keeps | ⟨-, -, w, named, selects⟩
  · exact .inl keeps
  · rw [SimdWidth.ofInt?_toInt] at named
    cases named
    exact .inr selects

theorem PatchMoves.selects_of_committed
    (moves : PatchMoves platform t SimdWidth.sse41.toInt s pc s' pc')
    (hasPage : pc.HasPage → s.trampoline.page.isSome)
    (before : pc.Committed → s.trampoline.Selects .sse41) (committed : pc'.Committed) :
    s'.trampoline.Selects .sse41 := by
  rcases moves.selection_sse41 hasPage with keeps | selects
  · rcases moves.committed committed with earlier | ⟨rfl, rfl⟩
    · exact keeps.selects (before earlier)
    · cases moves with
      | commit named =>
        obtain ⟨page, built⟩ := Option.isSome_iff_exists.mp (hasPage trivial)
        cases named
        exact TrampolineState.selects_commitWord built _
  · exact selects

theorem PatchMoves.sse41_not_refused
    (moves : PatchMoves platform t SimdWidth.sse41.toInt s .authorize s' pc') : pc' = .lock := by
  cases moves with
  | authorize => rfl
  | refuse refused => exact (refused rfl).elim

variable (moves : InitMoves t s ic s' ic')
include moves

theorem InitMoves.guard_eq : s'.guard = s.guard := by
  cases moves <;> rfl

theorem InitMoves.guardLock_eq : s'.guardUpdateLock = s.guardUpdateLock := by
  cases moves <;> rfl

theorem InitMoves.patchLock : LockStep Shared.patchLock InitPc.InPatch t s ic s' ic' := by
  cases moves with
  | lock free => exact .acquires free rfl trivial
  | unlock => exact .releases trivial rfl id
  | _ => exact .keeps rfl Iff.rfl

theorem InitMoves.hasPage (before : ic.HasPage → s.trampoline.page.isSome) (has : ic'.HasPage) :
    s'.trampoline.page.isSome := by
  cases moves with
  | build => rfl
  | keepPage present => exact present
  | attest | reset => exact before trivial
  | _ => exact has.elim

theorem InitMoves.selection (hasPage : ic.HasPage → s.trampoline.page.isSome) :
    s.trampoline.KeepsSelection s'.trampoline ∨
      ic = .reset ∧ ic' = .mirrors ∧ s'.trampoline.Selects .sse41 := by
  cases moves with
  | reset =>
    obtain ⟨page, built⟩ := Option.isSome_iff_exists.mp (hasPage trivial)
    exact .inr ⟨rfl, rfl, TrampolineState.selects_resetWord built⟩
  | buildFails missing | build missing => exact .inl ⟨rfl, by simp [missing]⟩
  | _ => exact .inl ⟨rfl, fun _ => rfl⟩

theorem InitMoves.committed (committed : ic'.Committed) :
    ic.Committed ∨ ic = .reset ∧ ic' = .mirrors := by
  cases moves with
  | reset => exact .inr ⟨rfl, rfl⟩
  | @unlock res =>
    cases res with
    | ok => exact .inl trivial
    | error => exact committed.elim
  | mirrors => exact .inl trivial
  | _ => exact committed.elim

theorem InitMoves.selects_of_committed (hasPage : ic.HasPage → s.trampoline.page.isSome)
    (before : ic.Committed → ∃ w, s.trampoline.Selects w) (committed : ic'.Committed) :
    ∃ w, s'.trampoline.Selects w := by
  rcases moves.selection hasPage with keeps | ⟨-, -, selects⟩
  · rcases moves.committed committed with earlier | ⟨rfl, rfl⟩
    · exact (before earlier).imp fun _ => keeps.selects
    · cases moves with
      | reset =>
        obtain ⟨page, built⟩ := Option.isSome_iff_exists.mp (hasPage trivial)
        exact ⟨_, TrampolineState.selects_resetWord built⟩
  · exact ⟨_, selects⟩

end

end Selector
end ThermalSimd
