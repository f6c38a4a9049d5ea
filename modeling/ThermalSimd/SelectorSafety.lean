import ThermalSimd.RuntimeLocks

/-!
# Selector safety

In every interleaving a wide width is only published by a call that was authorized in the same guard
section, and a start that clears the stopping flag does so with SSE4.1 selected.
-/

namespace ThermalSimd
namespace Runtime

open Interleaving Selector

variable {Task : Type*}

namespace StartPc

private def HasPage : StartPc → Prop
  | .initializing pc => pc.HasPage
  | .patchFirst pc | .perfPatch pc | .patchLast pc => pc.HasPage
  | _ => False

private def Stopped : StartPc → Prop
  | .clearOwner | .resetDynamic | .firstLeave | .calloc | .perfInit | .perfWork | .perfPatch _
  | .readWidth | .patchLast _ | .create | .finalEnter | .setOwner | .clearStopping
  | .joinMonitor _ | .cleanup _ _ | .unlockFailed _ _ => True
  | _ => False

private def Ownerless : StartPc → Prop
  | .resetDynamic | .firstLeave | .calloc | .perfInit | .perfWork | .perfPatch _
  | .readWidth | .patchLast _ | .create | .finalEnter | .setOwner
  | .joinMonitor _ | .cleanup _ _ | .unlockFailed _ _ => True
  | _ => False

private def Initialized : StartPc → Prop
  | .initializing pc => pc.Committed
  | .patchFirst _ | .sandbox | .firstEnter | .setStopping => True
  | pc => pc.Stopped

private def Selected : StartPc → Prop
  | .patchLast pc => pc.Committed
  | .create | .finalEnter | .setOwner | .clearStopping => True
  | _ => False

theorem Stopped.inRuntime {pc : StartPc} (stopped : pc.Stopped) : pc.InRuntime := by
  cases pc <;> trivial

theorem Ownerless.inRuntime {pc : StartPc} (ownerless : pc.Ownerless) : pc.InRuntime := by
  cases pc <;> trivial

theorem Selected.stopped {pc : StartPc} (selected : pc.Selected) : pc.Stopped := by
  cases pc <;> trivial

end StartPc

def StopPc.HasPage : StopPc → Prop
  | .patching pc => pc.HasPage
  | _ => False

def Local.HasPage : Local → Prop
  | .patching _ pc => pc.HasPage
  | .initializing pc => pc.HasPage
  | .starting _ pc => pc.HasPage
  | .stopping _ pc => pc.HasPage
  | _ => False

/-- A patch call for a wide width that is authorized and has not published yet. -/
def Local.WideAuthorized : Local → Prop
  | .patching width pc => pc.Authorized ∧ ∃ w, SimdWidth.ofInt? width = some w ∧ w.IsWide
  | _ => False

theorem Local.WideAuthorized.inGuard {l : Local} (authorized : l.WideAuthorized) : l.InGuard := by
  cases l with
  | patching => exact authorized.1.inGuard
  | _ => exact authorized.elim

section

variable {platform : Platform} {t : Task} {s s' : Shared Task}

section

variable {tid : ℤ} {f : StartFrame} {pc pc' : StartPc}
  (moves : StartMoves platform tid t f s pc s' pc')
include moves

theorem StartMoves.selection (hasPage : pc.HasPage → s.trampoline.page.isSome) :
    s.trampoline.KeepsSelection s'.trampoline ∨ s'.trampoline.Selects .sse41 := by
  cases moves with
  | init moves => exact (moves.selection hasPage).imp_right fun reset => reset.2.2
  | patchFirst moves | perfPatch moves | patchLast moves => exact moves.selection_sse41 hasPage
  | _ => exact .inl (.refl _)

theorem StartMoves.hasPage (before : pc.HasPage → s.trampoline.page.isSome) (has : pc'.HasPage) :
    s'.trampoline.page.isSome := by
  cases moves with
  | init moves | patchFirst moves | perfPatch moves | patchLast moves =>
    exact moves.hasPage before has
  | _ => exact has.elim

theorem StartMoves.stopping : s'.guard.stopping = s.guard.stopping ∨ pc.InGuard ∧ pc.InRuntime := by
  cases moves with
  | setStopping | clearStopping => exact .inr ⟨trivial, trivial⟩
  | sandbox guard keeps | perfPublish guard keeps => exact .inl keeps.stopping
  | firstLeave | finalLeave => exact .inl (s.guard.afterQuery_stopping _)
  | init moves => exact .inl (congrArg GuardState.stopping moves.guard_eq)
  | patchFirst moves | perfPatch moves | patchLast moves =>
    exact .inl (KeepsLifecycle.of_agree moves.guard_agree).stopping
  | _ => exact .inl rfl

theorem StartMoves.ownerTid : s'.guard.ownerTid = s.guard.ownerTid ∨ pc.InRuntime := by
  cases moves with
  | clearOwner | setOwner => exact .inr trivial
  | sandbox guard keeps | perfPublish guard keeps => exact .inl keeps.ownerTid
  | firstLeave | finalLeave =>
    exact .inl (KeepsLifecycle.of_agree (s.guard.afterQuery_agree _)).ownerTid
  | init moves => exact .inl (congrArg GuardState.ownerTid moves.guard_eq)
  | patchFirst moves | perfPatch moves | patchLast moves =>
    exact .inl (KeepsLifecycle.of_agree moves.guard_agree).ownerTid
  | _ => exact .inl rfl

end

section

variable {f : StopFrame} {pc pc' : StopPc} (moves : StopMoves platform t f s pc s' pc')
include moves

theorem StopMoves.selection (hasPage : pc.HasPage → s.trampoline.page.isSome) :
    s.trampoline.KeepsSelection s'.trampoline ∨ s'.trampoline.Selects .sse41 := by
  cases moves with
  | patching moves => exact moves.selection_sse41 hasPage
  | _ => exact .inl (.refl _)

theorem StopMoves.stopping : s'.guard.stopping = s.guard.stopping ∨ pc.InGuard ∧ pc.InRuntime := by
  cases moves with
  | setStopping | clearStopping => exact .inr ⟨trivial, trivial⟩
  | firstLeave | finalLeave => exact .inl (s.guard.afterQuery_stopping _)
  | patching moves => exact .inl (KeepsLifecycle.of_agree moves.guard_agree).stopping
  | _ => exact .inl rfl

theorem StopMoves.ownerTid : s'.guard.ownerTid = s.guard.ownerTid ∨ pc.InRuntime := by
  cases moves with
  | clearOwner => exact .inr trivial
  | firstLeave | finalLeave =>
    exact .inl (KeepsLifecycle.of_agree (s.guard.afterQuery_agree _)).ownerTid
  | patching moves => exact .inl (KeepsLifecycle.of_agree moves.guard_agree).ownerTid
  | _ => exact .inl rfl

end

theorem RequestMoves.stopping {pc pc'} (moves : RequestMoves t s pc s' pc') :
    s'.guard.stopping = s.guard.stopping ∨ pc.InGuard ∧ s'.guard.stopping = true := by
  cases moves with
  | setStopping => exact .inr ⟨trivial, rfl⟩
  | leave => exact .inl (s.guard.afterQuery_stopping _)
  | _ => exact .inl rfl

variable {tid : Task → ℤ} {l l' : Local} (moves : Moves platform tid t s l s' l')
include moves

theorem Moves.selection (hasPage : l.HasPage → s.trampoline.page.isSome) :
    s.trampoline.KeepsSelection s'.trampoline ∨ s'.trampoline.Selects .sse41 ∨
      ∃ width w, l = .patching width .commit ∧ l' = .patching width .mirror ∧
        SimdWidth.ofInt? width = some w ∧ s'.trampoline.Selects w := by
  cases moves with
  | patch moves =>
    rcases moves.selection hasPage with keeps | ⟨rfl, rfl, w, named, selects⟩
    · exact .inl keeps
    · exact .inr (.inr ⟨_, w, rfl, rfl, named, selects⟩)
  | init moves => exact (moves.selection hasPage).imp_right fun reset => .inl reset.2.2
  | start moves | stop moves => exact (moves.selection hasPage).imp_right .inl
  | request moves | call _ _ moves => cases moves <;> exact .inl (.refl _)
  | _ => exact .inl (.refl _)

theorem Moves.hasPage (before : l.HasPage → s.trampoline.page.isSome) (has : l'.HasPage) :
    s'.trampoline.page.isSome := by
  cases moves with
  | drift | monitorExit => exact before has
  | patch moves | init moves | start moves => exact moves.hasPage before has
  | stop moves =>
    cases moves with
    | patching moves => exact moves.hasPage before has
    | _ => exact has.elim
  | call _ _ moves => cases moves <;> exact has.elim
  | _ => exact has.elim

theorem Moves.stopping :
    s'.guard.stopping = s.guard.stopping ∨
      l.InGuard ∧ (s'.guard.stopping = true ∨ l.InRuntime) := by
  cases moves with
  | drift guard keeps => exact .inl keeps.stopping
  | writeLeave => exact .inl (s.guard.afterQuery_stopping _)
  | patch moves => exact .inl (KeepsLifecycle.of_agree moves.guard_agree).stopping
  | init moves => exact .inl (congrArg GuardState.stopping moves.guard_eq)
  | start moves | stop moves => exact moves.stopping.imp_right fun held => ⟨held.1, .inr held.2⟩
  | request moves => exact moves.stopping.imp_right fun held => ⟨held.1, .inl held.2⟩
  | call _ _ moves => cases moves <;> exact .inl rfl
  | _ => exact .inl rfl

theorem Moves.ownerTid : s'.guard.ownerTid = s.guard.ownerTid ∨ l.InRuntime := by
  cases moves with
  | drift guard keeps => exact .inl keeps.ownerTid
  | writeLeave => exact .inl (KeepsLifecycle.of_agree (s.guard.afterQuery_agree _)).ownerTid
  | patch moves => exact .inl (KeepsLifecycle.of_agree moves.guard_agree).ownerTid
  | init moves => exact .inl (congrArg GuardState.ownerTid moves.guard_eq)
  | start moves | stop moves => exact moves.ownerTid
  | request moves =>
    cases moves with
    | leave => exact .inl (KeepsLifecycle.of_agree (s.guard.afterQuery_agree _)).ownerTid
    | _ => exact .inl rfl
  | call _ _ moves => cases moves <;> exact .inl rfl
  | _ => exact .inl rfl

theorem Moves.wideAuthorized (before : l.WideAuthorized → s.guard.stopping = false)
    (authorized : l'.WideAuthorized) : s'.guard.stopping = false := by
  cases moves with
  | drift guard keeps => exact keeps.stopping.trans (before authorized)
  | monitorExit => exact before authorized
  | patch moves =>
    refine (KeepsLifecycle.of_agree moves.guard_agree).stopping.trans ?_
    obtain ⟨authorized, w, named, wide⟩ := authorized
    rcases moves.authorized authorized with earlier | ⟨rfl, yes⟩
    · exact before ⟨earlier, w, named, wide⟩
    · have width_eq := SimdWidth.toInt_of_ofInt? named
      rw [← width_eq, GuardState.widthAuthorized_wide_iff _ wide] at yes
      exact yes.1
  | patchCall => exact authorized.1.elim
  | call _ _ moves => cases moves <;> exact authorized.elim
  | _ => exact authorized.elim

end

/-- What a start at `pc` relies on. -/
structure StartFacts (s : Shared Task) (pc : StartPc) : Prop where
  stopped : pc.Stopped → s.guard.stopping = true
  ownerless : pc.Ownerless → s.guard.ownerTid = 0
  initialized : pc.Initialized → ∃ w, s.trampoline.Selects w
  selected : pc.Selected → s.trampoline.Selects .sse41

theorem StartFacts.frame {s s' : Shared Task} {pc} (facts : StartFacts s pc)
    (keeps : KeepsLifecycle s.guard s'.guard) (same : s'.trampoline = s.trampoline) :
    StartFacts s' pc where
  stopped stopped := keeps.stopping.trans (facts.stopped stopped)
  ownerless ownerless := keeps.ownerTid.trans (facts.ownerless ownerless)
  initialized initialized := same ▸ facts.initialized initialized
  selected selected := same ▸ facts.selected selected

/-- What makes a selection safe, in every reachable state. -/
structure SelectorInvariant (pool : System Task) : Prop where
  guardLock : Guards (fun s : Shared Task => s.guardUpdateLock) Local.InGuard pool
  patchLock : Guards (fun s : Shared Task => s.patchLock) Local.InPatch pool
  runtimeLock : Guards Shared.runtimeLock Local.InRuntime pool
  hasPage : ∀ t, (pool.locals t).HasPage → pool.shared.trampoline.page.isSome
  authorized : ∀ t, (pool.locals t).WideAuthorized → pool.shared.guard.stopping = false
  started : ∀ t f pc, pool.locals t = .starting f pc → StartFacts pool.shared pc

theorem Initial.selectorInvariant {pool : System Task} (initial : Initial pool) :
    SelectorInvariant pool where
  guardLock t := by simp [initial.idle t, initial.guardUpdateLock, Local.InGuard]
  patchLock t := by simp [initial.idle t, initial.patchLock, Local.InPatch]
  runtimeLock t := by simp [initial.idle t, initial.runtimeLock, Local.InRuntime]
  hasPage t := by simp [initial.idle t, Local.HasPage]
  authorized t := by simp [initial.idle t, Local.WideAuthorized]
  started t f pc := by simp [initial.idle t]

section

variable {platform : Platform} {tid : ℤ} {t : Task} {f : StartFrame} {s s' : Shared Task}
  {pc pc' : StartPc}

section

variable (moves : StartMoves platform tid t f s pc s' pc')
  (facts : StartFacts s pc)
include moves facts

theorem StartMoves.stopped (stopped : pc'.Stopped) : s'.guard.stopping = true := by
  cases moves with
  | setStopping => rfl
  | firstLeave => exact (s.guard.afterQuery_stopping _).trans (facts.stopped trivial)
  | perfPublish guard keeps => exact keeps.stopping.trans (facts.stopped trivial)
  | perfPatch moves | patchLast moves =>
    exact (KeepsLifecycle.of_agree moves.guard_agree).stopping.trans (facts.stopped trivial)
  | _ => first | exact stopped.elim | exact facts.stopped trivial

theorem StartMoves.ownerless (ownerless : pc'.Ownerless) : s'.guard.ownerTid = 0 := by
  cases moves with
  | clearOwner => rfl
  | firstLeave =>
    exact (KeepsLifecycle.of_agree (s.guard.afterQuery_agree _)).ownerTid.trans
      (facts.ownerless trivial)
  | perfPublish guard keeps => exact keeps.ownerTid.trans (facts.ownerless trivial)
  | perfPatch moves | patchLast moves =>
    exact (KeepsLifecycle.of_agree moves.guard_agree).ownerTid.trans (facts.ownerless trivial)
  | _ => first | exact ownerless.elim | exact facts.ownerless trivial

theorem StartMoves.initialized (hasPage : pc.HasPage → s.trampoline.page.isSome)
    (initialized : pc'.Initialized) : ∃ w, s'.trampoline.Selects w := by
  cases moves with
  | init moves => exact moves.selects_of_committed hasPage facts.initialized initialized
  | patchFirst moves | perfPatch moves | patchLast moves =>
    rcases moves.selection_sse41 hasPage with keeps | selects
    · exact (facts.initialized trivial).imp fun _ => keeps.selects
    · exact ⟨_, selects⟩
  | _ => first | exact initialized.elim | exact facts.initialized trivial

theorem StartMoves.selected (hasPage : pc.HasPage → s.trampoline.page.isSome)
    (selected : pc'.Selected) : s'.trampoline.Selects .sse41 := by
  cases moves with
  | narrow narrow =>
    obtain ⟨w, selects⟩ := facts.initialized trivial
    rwa [← selects.stateCurrentWidth, narrow] at selects
  | patchLast moves => exact moves.selects_of_committed hasPage facts.selected selected
  | _ => first | exact selected.elim | exact facts.selected trivial

end

theorem StartMoves.facts (moves : StartMoves platform tid t f s pc s' pc')
    (facts : StartFacts s pc) (hasPage : pc.HasPage → s.trampoline.page.isSome) :
    StartFacts s' pc' where
  stopped := moves.stopped facts
  ownerless := moves.ownerless facts
  initialized := moves.initialized facts hasPage
  selected := moves.selected facts hasPage

end

section

variable {platform : Platform} {tid : Task → ℤ} {pool : System Task} {t : Task}
  {s : Shared Task} {before after : Local}

variable (inv : SelectorInvariant pool) (here : pool.locals t = before)
  (moves : Moves platform tid t pool.shared before s after)
include inv here moves

theorem SelectorInvariant.facts_other {other} (ne : other ≠ t) {f pc}
    (starting : pool.locals other = .starting f pc) : StartFacts s pc := by
  have facts := inv.started other f pc starting
  have hasPage := inv.hasPage t
  rw [here] at hasPage
  -- The start holds the private lifecycle lock wherever it relies on the flag or the owner.
  have outside : pc.InRuntime → ¬ before.InRuntime := by
    intro holds also
    have otherInside : (pool.locals other).InRuntime := by rw [starting]; exact holds
    have moverInside : (pool.locals t).InRuntime := by rw [here]; exact also
    exact ne (inv.runtimeLock.exclusive otherInside moverInside)
  have stopped : pc.Stopped → s.guard.stopping = true := by
    intro stopped
    rcases moves.stopping with same | ⟨-, set | holds⟩
    · exact same.trans (facts.stopped stopped)
    · exact set
    · exact absurd holds (outside stopped.inRuntime)
  have selection := moves.selection hasPage
  refine ⟨stopped, ?_, ?_, ?_⟩
  · intro ownerless
    rcases moves.ownerTid with same | holds
    · exact same.trans (facts.ownerless ownerless)
    · exact absurd holds (outside ownerless.inRuntime)
  · intro initialized
    obtain ⟨w, selects⟩ := facts.initialized initialized
    rcases selection with keeps | narrow | ⟨_, w', -, -, -, commits⟩
    · exact ⟨w, keeps.selects selects⟩
    · exact ⟨_, narrow⟩
    · exact ⟨w', commits⟩
  · intro selected
    rcases selection with keeps | narrow | ⟨width, w, rfl, -, named, commits⟩
    · exact keeps.selects (facts.selected selected)
    · exact narrow
    · -- A wide commit would have been authorized while the start keeps the stopping flag set.
      by_cases wide : w.IsWide
      · have authorized : (pool.locals t).WideAuthorized := by
          rw [here]
          exact ⟨trivial, w, named, wide⟩
        have running := inv.authorized t authorized
        have stopping := facts.stopped selected.stopped
        exact absurd (running.symm.trans stopping) Bool.false_ne_true
      · rwa [SimdWidth.not_isWide.mp wide] at commits

theorem SelectorInvariant.move [DecidableEq Task] : SelectorInvariant (pool.set t s after) := by
  have hasPage := inv.hasPage t
  have authorized := inv.authorized t
  rw [here] at hasPage authorized
  refine
    { guardLock := inv.guardLock.set here moves.guardLock
      patchLock := inv.patchLock.set here moves.patchLock
      runtimeLock := inv.runtimeLock.set here moves.runtimeLock
      hasPage := ?_
      authorized := ?_
      started := ?_ }
  · refine Pool.forall_set (fun _ (l : Local) => l.HasPage → s.trampoline.page.isSome)
      (moves.hasPage hasPage) fun other _ has => ?_
    have present := inv.hasPage other has
    rcases moves.selection hasPage with keeps | narrow | ⟨_, _, -, -, -, commits⟩
    · rwa [keeps.page present]
    · exact narrow.page_isSome
    · exact commits.page_isSome
  · refine Pool.forall_set (fun _ (l : Local) => l.WideAuthorized → s.guard.stopping = false)
      (moves.wideAuthorized authorized) fun other ne wide => ?_
    rcases moves.stopping with same | ⟨holds, -⟩
    · exact same.trans (inv.authorized other wide)
    · have moverInside : (pool.locals t).InGuard := by rw [here]; exact holds
      exact absurd (inv.guardLock.exclusive wide.inGuard moverInside) ne
  · refine Pool.forall_set (fun _ (l : Local) => ∀ f pc, l = .starting f pc → StartFacts s pc)
      ?_ fun other ne f pc => inv.facts_other here moves ne
    intro f pc starting
    have facts := inv.started t
    rw [here] at facts
    cases moves with
    | drift guard keeps => exact (facts f pc starting).frame keeps rfl
    | monitorExit => exact (facts f pc starting).frame (.refl _) rfl
    | startCall =>
      cases starting
      exact ⟨False.elim, False.elim, False.elim, False.elim⟩
    | start moves =>
      cases starting
      exact moves.facts (facts _ _ rfl) hasPage
    | call _ _ moves => cases moves <;> cases starting
    | _ => cases starting

end

theorem Execution.selectorInvariant [DecidableEq Task] {platform} {tid : Task → ℤ}
    {trace length} (execution : Execution platform tid trace length) :
    ∀ i ≤ length, SelectorInvariant (trace i) := by
  refine execution.run.invariant execution.initial.selectorInvariant fun _ _ inv step => ?_
  obtain ⟨t, here, moves⟩ := step
  exact inv.move here moves

/-- The patch call a task is in, and where: its own, a start's or a stop's. -/
def Local.patchFrame : Local → Option (ℤ × PatchPc)
  | .patching width pc => some (width, pc)
  | .starting _ (.patchFirst pc) | .starting _ (.perfPatch pc) | .starting _ (.patchLast pc) =>
    some (SimdWidth.sse41.toInt, pc)
  | .stopping _ (.patching pc) => some (SimdWidth.sse41.toInt, pc)
  | _ => none

theorem Local.hasPage_of_patchFrame {l : Local} {width pc}
    (frame : l.patchFrame = some (width, pc)) (has : pc.HasPage) : l.HasPage := by
  unfold patchFrame at frame
  split at frame <;> cases frame <;> exact has

section

variable {platform : Platform} {tid : Task → ℤ} {t : Task} {s s' : Shared Task} {l l' : Local}

theorem Moves.patchFrame (moves : Moves platform tid t s l s' l') (changed : l ≠ l') {width pc}
    (before : l.patchFrame = some (width, pc)) :
    (∃ pc', l'.patchFrame = some (width, pc') ∧
      PatchMoves platform t width s.toShared pc s'.toShared pc') ∨
    l'.patchFrame = none ∧ ∃ res, pc = .done res := by
  cases moves with
  | drift | monitorExit => exact absurd rfl changed
  | patch moves =>
    cases before
    exact .inl ⟨_, rfl, moves⟩
  | patchReturn =>
    cases before
    exact .inr ⟨rfl, _, rfl⟩
  | start moves =>
    cases moves with
    | patchFirst moves | perfPatch moves | patchLast moves =>
      cases before
      exact .inl ⟨_, rfl, moves⟩
    | patchFirstFailed | patchFirstDone | perfPatchDone | patchLastFailed | patchLastDone =>
      cases before
      exact .inr ⟨rfl, _, rfl⟩
    | _ => cases before
  | stop moves =>
    cases moves with
    | patching moves =>
      cases before
      exact .inl ⟨_, rfl, moves⟩
    | patchFailed | patchDone =>
      cases before
      exact .inr ⟨rfl, _, rfl⟩
    | _ => cases before
  | _ => cases before

theorem Moves.start_clearStopping {f}
    (moves : Moves platform tid t s (.starting f .clearStopping) s' (.starting f .finalLeave)) :
    s' = s.clearStopping := by
  cases moves with
  | start moves =>
    cases moves with
    | clearStopping => rfl

end

/-- A wide width published at `index`, authorized and detected in the same guard section. -/
structure AuthorizedCommit (platform : Platform) (trace : ℕ → System Task) (t : Task)
    (w : SimdWidth) (authorized detected index : ℕ) : Prop where
  order : authorized < detected ∧ detected < index
  guarded : ∀ k, authorized ≤ k → k ≤ index + 1 → (trace k).shared.guardUpdateLock = some t
  queries : (trace authorized).locals t = .patching w.toInt .authorize
  isAuthorized : (trace authorized).shared.guard.WidthAuthorized w.toInt
  detects : (trace detected).locals t = .patching w.toInt .detect
  supported : w ≤ platform.detectMaxSimd (trace detected).shared.guard.configActiveSnapshot
  commits : (trace index).locals t = .patching w.toInt .commit

section

variable [DecidableEq Task] {platform : Platform} {tid : Task → ℤ} {trace : ℕ → System Task}
  {length : ℕ}

theorem Execution.patchEntry (execution : Execution platform tid trace length) {t width}
    (region : PatchPc → Prop) (notEnter : ¬ region .enter) {i}
    (within : i ≤ length) {pc} (now : (trace i).locals t = .patching width pc)
    (inside : region pc) :
    ∃ entry < i, (∀ k, entry < k → k ≤ i →
        ∃ pc, (trace k).locals t = .patching width pc ∧ region pc) ∧
      ∃ from_ to_, (trace entry).locals t = .patching width from_ ∧ ¬ region from_ ∧
        region to_ ∧ PatchMoves platform t width (trace entry).shared.toShared from_
          (trace (entry + 1)).shared.toShared to_ := by
  obtain ⟨entry, -, lt, out, since⟩ :=
    exists_last_entry (fun k => ∃ pc, (trace k).locals t = .patching width pc ∧ region pc)
      (Nat.zero_le i) (by simp [execution.initial.idle t]) ⟨pc, now, inside⟩
  refine ⟨entry, lt, since, ?_⟩
  obtain ⟨to_, arrived, entered⟩ := since (entry + 1) (Nat.lt_succ_self entry) lt
  have changed : (trace entry).locals t ≠ (trace (entry + 1)).locals t := by
    rw [arrived]
    exact fun same => out ⟨to_, same, entered⟩
  have moves := (execution.run entry (lt.trans_le within)).moved changed
  rw [arrived] at moves changed
  generalize (trace (entry + 1)).shared = after at moves ⊢
  generalize (trace entry).locals t = before at moves out changed ⊢
  cases moves with
  | drift | monitorExit => exact absurd rfl changed
  | patchCall => exact absurd entered notEnter
  | @patch _ _ from_ _ moves =>
    exact ⟨from_, to_, rfl, fun earlier => out ⟨from_, rfl, earlier⟩, entered, moves⟩
  | call _ _ moves => cases moves

theorem Execution.authorizedCommit (execution : Execution platform tid trace length) {t w i}
    (within : i < length)
    (commits : (trace i).locals t = .patching w.toInt .commit)
    (pub : ((trace (i + 1)).locals t).InGuard) :
    ∃ authorized detected, AuthorizedCommit platform trace t w authorized detected i := by
  obtain ⟨authorized, lt, since, _, _, at_source, out, entered, moves⟩ :=
    execution.patchEntry PatchPc.Authorized id within.le commits trivial
  obtain ⟨detected, below', since', _, _, at_source', out', entered', moves'⟩ :=
    execution.patchEntry PatchPc.Detected id within.le commits trivial
  obtain ⟨rfl, isAuthorized⟩ := (moves.authorized entered).resolve_left out
  obtain ⟨rfl, _, named, supported⟩ := (moves'.detected entered').resolve_left out'
  rw [SimdWidth.ofInt?_toInt] at named
  cases named
  have order : authorized < detected := by
    -- The detecting call is authorized already, and detected calls stay authorized.
    by_contra later
    rcases Nat.lt_or_eq_of_le (not_lt.mp later) with before | rfl
    · obtain ⟨pc, at_pc, region⟩ := since' authorized before lt.le
      rw [at_source] at at_pc
      cases at_pc
      exact region
    · rw [at_source] at at_source'
      cases at_source'
  refine ⟨authorized, detected,
    { order := ⟨order, below'⟩
      guarded := fun k after upto => ?_
      queries := at_source
      isAuthorized, detects := at_source', supported, commits }⟩
  have inv := execution.selectorInvariant k (upto.trans within)
  refine (inv.guardLock t).mp ?_
  rcases Nat.lt_or_eq_of_le after with after | rfl
  · rcases Nat.lt_or_eq_of_le upto with upto | rfl
    · obtain ⟨pc, at_pc, region⟩ := since k after (Nat.le_of_lt_succ upto)
      rw [at_pc]
      exact region.inGuard
    · exact pub
  · rw [at_source]
    trivial

theorem SelectorInvariant.wideChange {pool next} (inv : SelectorInvariant pool)
    (step : Step platform tid pool next) {w active} (wide : w.IsWide)
    (changed : next.shared.trampoline.selectionWord ≠ pool.shared.trampoline.selectionWord)
    (selects : next.shared.trampoline.snapshot = .ok (w, active)) :
    ∃ t, pool.locals t = .patching w.toInt .commit ∧
      next.locals t = .patching w.toInt .mirror := by
  obtain ⟨t, here, moves⟩ := step
  have hasPage := inv.hasPage t
  rw [here] at hasPage
  rcases moves.selection hasPage with keeps | narrow | ⟨width, w', rfl, rfl, named, commits⟩
  · exact absurd keeps.word changed
  · have same := narrow.eq_of_snapshot selects
    exact absurd same (SimdWidth.isWide_iff.mp wide).symm
  · obtain rfl := commits.eq_of_snapshot selects
    rw [SimdWidth.toInt_of_ofInt? named]
    exact ⟨t, here, Pool.set_self _ _ _ _⟩

theorem Execution.failedPatch_keeps (execution : Execution platform tid trace length)
    {t first last width e} (within : last ≤ length)
    (calls : ∀ k, first ≤ k → k ≤ last → ∃ pc, ((trace k).locals t).patchFrame = some (width, pc))
    (fails : ((trace last).locals t).patchFrame = some (width, .done (.error e))) {k}
    (after : first ≤ k) (before : k < last)
    (moved : (trace k).locals t ≠ (trace (k + 1)).locals t) :
    (trace (k + 1)).shared.trampoline.selectionWord =
      (trace k).shared.trampoline.selectionWord := by
  have frame_moves : ∀ k, first ≤ k → k < last →
      (trace k).locals t ≠ (trace (k + 1)).locals t →
      ∃ pc pc', ((trace k).locals t).patchFrame = some (width, pc) ∧
        ((trace (k + 1)).locals t).patchFrame = some (width, pc') ∧
        PatchMoves platform t width (trace k).shared.toShared pc
          (trace (k + 1)).shared.toShared pc' := by
    intro k after before moved
    obtain ⟨pc, at_pc⟩ := calls k after before.le
    obtain ⟨pc', at_pc'⟩ := calls (k + 1) (after.trans (Nat.le_succ k)) before
    have moves := (execution.run k (before.trans_le within)).moved moved
    rcases moves.patchFrame moved at_pc with ⟨_, at_next, moves⟩ | ⟨returned, -⟩
    · rw [at_pc'] at at_next
      cases at_next
      exact ⟨pc, pc', at_pc, at_pc', moves⟩
    · rw [at_pc'] at returned
      cases returned
  obtain ⟨pc, pc', at_pc, at_pc', moves⟩ := frame_moves k after before moved
  have inv := execution.selectorInvariant k (before.le.trans within)
  have hasPage := fun has => inv.hasPage t (Local.hasPage_of_patchFrame at_pc has)
  rcases moves.selection hasPage with keeps | ⟨-, rfl, -⟩
  · exact keeps.word
  -- A call that has committed can only report success.
  have committed : ∀ i, k + 1 ≤ i → i ≤ last →
      ∃ pc, ((trace i).locals t).patchFrame = some (width, pc) ∧ pc.Committed := by
    refine (execution.run.take within).invariant_from
      (fun pool => ∃ pc, (pool.locals t).patchFrame = some (width, pc) ∧ pc.Committed)
      ⟨_, at_pc', trivial⟩ ?_
    intro i above lt _ committed
    by_cases same : (trace i).locals t = (trace (i + 1)).locals t
    · rwa [← same]
    · obtain ⟨pc, pc', at_pc, at_pc', moves⟩ :=
        frame_moves i (after.trans ((Nat.le_succ k).trans above)) lt same
      obtain ⟨_, at_pc₀, committed⟩ := committed
      rw [at_pc] at at_pc₀
      cases at_pc₀
      exact ⟨pc', at_pc', moves.committed_stays committed⟩
  obtain ⟨_, at_pc₁, committed⟩ := committed last before le_rfl
  rw [fails] at at_pc₁
  cases at_pc₁
  exact committed.elim

/-- A wide width is only published inside a guard section that authorized it within the detected
maximum, SSE4.1 is never refused, a failed patch call leaves the word alone, and a start clears the
stopping flag with SSE4.1 selected. -/
theorem selector_authorization (execution : Execution platform tid trace length) :
    (∀ index < length, ∀ w active, w.IsWide →
      (trace (index + 1)).shared.trampoline.selectionWord ≠
        (trace index).shared.trampoline.selectionWord →
      (trace (index + 1)).shared.trampoline.snapshot = .ok (w, active) →
        ∃ t authorized detected,
          AuthorizedCommit platform trace t w authorized detected index ∧
          (trace authorized).shared.guard.stopping = false ∧
          (trace authorized).shared.guard.FlagsAllowTransitions ∧
          ((trace authorized).shared.guard.telemetry.RuntimeGuardActive →
            (trace authorized).shared.guard.LiveWidthAuthorized)) ∧
    (∀ index < length, ∀ t,
      ((trace index).locals t).patchFrame = some (SimdWidth.sse41.toInt, .authorize) →
        (trace index).locals t = (trace (index + 1)).locals t ∨
        ((trace (index + 1)).locals t).patchFrame = some (SimdWidth.sse41.toInt, .lock)) ∧
    (∀ first last t width e, last ≤ length →
      (∀ k, first ≤ k → k ≤ last → ∃ pc, ((trace k).locals t).patchFrame = some (width, pc)) →
      ((trace last).locals t).patchFrame = some (width, .done (.error e)) →
        ∀ k, first ≤ k → k < last → (trace k).locals t ≠ (trace (k + 1)).locals t →
          (trace (k + 1)).shared.trampoline.selectionWord =
            (trace k).shared.trampoline.selectionWord) ∧
    (∀ index < length, ∀ t f, (trace index).locals t = .starting f .clearStopping →
      (trace (index + 1)).locals t = .starting f .finalLeave →
        (trace index).shared.trampoline.Selects .sse41 ∧
        (trace (index + 1)).shared = (trace index).shared.clearStopping) := by
  refine ⟨?_, ?_, ?_, ?_⟩
  · intro index within w active wide changed selects
    have inv := execution.selectorInvariant index within.le
    obtain ⟨t, commits, mirrors⟩ :=
      inv.wideChange (execution.run index within) wide changed selects
    have published : ((trace (index + 1)).locals t).InGuard := by
      rw [mirrors]
      trivial
    obtain ⟨authorized, detected, commit⟩ :=
      execution.authorizedCommit within commits published
    have meaning := (GuardState.widthAuthorized_wide_iff _ wide).mp commit.isAuthorized
    exact ⟨t, authorized, detected, commit, meaning⟩
  · intro index within t asks
    by_cases same : (trace index).locals t = (trace (index + 1)).locals t
    · exact .inl same
    · have moves := (execution.run index within).moved same
      rcases moves.patchFrame same asks with ⟨pc, at_pc, moves⟩ | ⟨-, result, done⟩
      · rw [moves.sse41_not_refused] at at_pc
        exact .inr at_pc
      · cases done
  · intro first last t width e within calls fails k after before moved
    exact execution.failedPatch_keeps within calls fails after before moved
  · intro index within t f clears cleared
    have inv := execution.selectorInvariant index within.le
    have moved : (trace index).locals t ≠ (trace (index + 1)).locals t := by
      rw [clears, cleared]
      simp
    have moves := (execution.run index within).moved moved
    rw [clears, cleared] at moves
    exact ⟨(inv.started t f _ clears).selected trivial, moves.start_clearStopping⟩

end

def avx2Platform : Platform where
  host := ⟨true, true, true, true, true, false, false⟩
  sha256 := id

def loadedShared (Task : Type*) : Shared Task where
  guard := .permissive
  admissionOpen := false
  guardUpdateLock := none
  patchLock := none
  trampoline := .initial
  runtimeLock := none
  activeRuntime := none
  runtimes := fun _ => none
  stops := fun _ => 0
  nextRuntime := 0
  running := false
  publicLock := none
  publicActive := none
  publicStarting := none
  publicStopper := none
  handles := fun _ => none
  nextHandle := 0
  nextGeneration := 1

def lowPage : CodePage := ⟨.ofNat 64 4096, by decide, by decide, by decide⟩

def loadedPool (Task : Type*) : System Task := ⟨loadedShared Task, fun _ => .idle⟩

theorem loadedPool_initial (Task) : Initial (loadedPool Task) where
  idle _ := rfl
  guardUpdateLock := rfl
  patchLock := rfl
  runtimeLock := rfl
  publicLock := rfl
  activeRuntime := rfl
  runtimes _ := rfl
  stops _ := rfl
  publicActive := rfl
  publicStarting := rfl
  publicStopper := rfl
  handles _ := rfl
  configSnapshotState := rfl

/-- A call of `tsd_trampoline_patch` that builds the table and selects AVX2. -/
def avx2Patch : Path (Step avx2Platform fun _ => 1) (loadedPool Unit) :=
  .act () rfl (.patchCall 1) <| .act () rfl (.patch (.enter rfl)) <|
  .act () rfl (.patch (.authorize (by decide))) <| .act () rfl (.patch (.lock rfl)) <|
  .act () rfl (.patch .attempt) <| .act () rfl (.patch (.detect rfl rfl (by decide))) <|
  .act () rfl (.patch (.build rfl lowPage)) <| .act () rfl (.patch .target) <|
  .act () rfl (.patch (.commit rfl)) .done

theorem selector_authorization_avx2 :
    Execution avx2Platform (fun _ => 1) avx2Patch.trace 9 ∧
    (avx2Patch.trace 9).shared.trampoline.snapshot = .ok (.avx2, 4160) ∧
    ∃ t authorized detected,
      AuthorizedCommit avx2Platform avx2Patch.trace t .avx2 authorized detected 8 := by
  have execution : Execution avx2Platform (fun _ => 1) avx2Patch.trace 9 :=
    ⟨loadedPool_initial Unit, avx2Patch.isRun⟩
  have selects : (avx2Patch.trace 9).shared.trampoline.snapshot = .ok (.avx2, 4160) := rfl
  obtain ⟨changes, -⟩ := selector_authorization execution
  obtain ⟨t, authorized, detected, commit, -⟩ :=
    changes 8 (by decide) .avx2 4160 (by decide) (by decide) selects
  exact ⟨execution, selects, t, authorized, detected, commit⟩

end Runtime
end ThermalSimd
