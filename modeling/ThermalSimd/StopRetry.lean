import ThermalSimd.StartFailure

/-!
# Stop attempts over whole runs

Once the first stop attempt of a runtime has set the stopping flag, the runtime stays installed and
no wide width is authorized, whatever fails, until one attempt uninstalls it in its final guard
section; that attempt can only succeed.
-/

namespace ThermalSimd
namespace Runtime

open Interleaving Selector

variable {Task : Type*}

/-- Some stop attempt has set the stopping flag, and none has freed the runtime. -/
def Shared.StopEntered (s : Shared Task) (id : RuntimeId) : Prop :=
  ∃ runtime, s.runtimes id = some runtime ∧ runtime.stopEntered = true

/-- A stop attempt of the private runtime `id` uninstalls it at `index`. -/
def Uninstalls (trace : ℕ → System Task) (index : ℕ) (id : RuntimeId) : Prop :=
  ∃ t f, f.runtime = id ∧ (trace index).locals t = .stopping f .uninstall ∧
    (trace (index + 1)).locals t = .stopping f .clearStopping

/-- A call of `tsd_trampoline_patch` publishes a wide width at `index`. -/
def PublishesWide (trace : ℕ → System Task) (index : ℕ) : Prop :=
  ∃ (t : Task) (w : SimdWidth), w.IsWide ∧ (trace index).locals t = .patching w.toInt .commit ∧
    (trace (index + 1)).locals t = .patching w.toInt .mirror

/-- No owner, overlay, stopping flag or runtime is left. -/
structure Released (s : Shared Task) : Prop where
  ownerTid : s.guard.ownerTid = 0
  degradedActive : s.guard.degradedActive = false
  stopping : s.guard.stopping = false
  activeRuntime : s.activeRuntime = none

section

variable {platform : Platform} {tid : Task → ℤ} {pool : System Task} {t : Task}
  {s' : Shared Task} {l l' : Local} {id : RuntimeId}

theorem StopInvariant.entered_active (inv : StopInvariant pool) (life : LifecycleInvariant pool)
    (entered : pool.shared.StopEntered id) : pool.shared.activeRuntime = some id := by
  obtain ⟨runtime, known, flag⟩ := entered
  have configured := configOf_eq_some known
  cases life.phase with
  | idle st => exact absurd ((st.configOf id).symm.trans configured) (by simp)
  | starting here reserved _ st =>
    obtain rfl := eq_of_others st.others known
    have untouched := inv.starting _ _ _ here reserved runtime known
    exact absurd (untouched.stopEntered.symm.trans flag) Bool.false_ne_true
  | running st =>
    obtain rfl := eq_of_others st.others known
    exact st.activeRuntime
  | @stopping _ _ pc _ _ _ st =>
    obtain rfl := eq_of_others st.others known
    by_cases gone : pc.Gone
    · exact absurd ((st.gone gone).2.symm.trans configured) (by simp)
    · exact (st.present gone).1

theorem Shared.StopEntered.setRuntime {s : Shared Task} {changed before after}
    (entered : s.StopEntered id)
    (known : s.runtimes changed = some before)
    (keeps : before.stopEntered = true → after.stopEntered = true) :
    (s.setRuntime changed (some after)).StopEntered id := by
  obtain ⟨runtime, here, flag⟩ := entered
  rcases eq_or_ne id changed with rfl | ne
  · obtain rfl := Option.some.inj (known.symm.trans here)
    exact ⟨after, setRuntime_self s id _, keeps flag⟩
  · exact ⟨runtime, by simpa [Shared.setRuntime, ne] using here, flag⟩

theorem StopMoves.stopEntered {f s pc pc'} (moves : StopMoves platform t f s pc s' pc')
    (st : StopState s f pc) (entered : s.StopEntered id) :
    s'.StopEntered id ∨ f.runtime = id ∧ pc = .uninstall ∧ pc' = .clearStopping := by
  cases moves with
  | begin _ known | firstEnterFails _ known | joined known | failReset _ known | cleanup known
  | finalEnterFails _ known => exact .inl (entered.setRuntime known fun flag => flag)
  | setStopping known =>
    exact .inl (Shared.StopEntered.setRuntime (s := s.setStopping) entered known fun _ => rfl)
  | uninstall =>
    obtain ⟨runtime, known, -⟩ := entered
    exact .inr ⟨(eq_of_others st.others known).symm, rfl, rfl⟩
  | _ => exact .inl entered

theorem Moves.stopEntered (moves : Moves platform tid t pool.shared l s' l')
    (here : pool.locals t = l) (inv : StopInvariant pool) (life : LifecycleInvariant pool)
    (entered : pool.shared.StopEntered id) :
    s'.StopEntered id ∨
      ∃ f, f.runtime = id ∧ l = .stopping f .uninstall ∧ l' = .stopping f .clearStopping := by
  cases moves with
  | monitorExit known => exact .inl (entered.setRuntime known fun flag => flag)
  | @start _ f pc _ moves =>
    by_cases reserved : pc.Reserved
    · -- A start with the slot owns the only private runtime, which no stop has touched.
      have st := life.startState here reserved
      obtain ⟨runtime, known, flag⟩ := entered
      obtain rfl := eq_of_others st.others known
      have untouched := inv.starting t f pc here reserved runtime known
      exact absurd (untouched.stopEntered.symm.trans flag) Bool.false_ne_true
    · cases moves with
      | reserveBusy | reserve => exact .inl entered
      | _ => exact absurd trivial reserved
  | @stop _ f pc _ moves =>
    have inFlight : pc.InFlight := by cases moves <;> trivial
    rcases moves.stopEntered (life.stopState here inFlight) entered with
      entered | ⟨mine, rfl, rfl⟩
    · exact .inl entered
    · exact .inr ⟨f, mine, rfl, rfl⟩
  | request moves | call _ _ moves => cases moves <;> exact .inl entered
  | _ => exact .inl entered

theorem Moves.stop_source {f pc s} (moves : Moves platform tid t s l s' (.stopping f pc))
    (changed : l ≠ .stopping f pc) (later : pc ≠ .deadlockCheck) :
    ∃ before, l = .stopping f before ∧ StopMoves platform t f s before s' pc := by
  cases moves with
  | drift | monitorExit => exact absurd rfl changed
  | stop moves => exact ⟨_, rfl, moves⟩
  | call _ _ moves =>
    cases moves
    exact absurd rfl later

theorem Moves.stop_gone {f pc s}
    (moves : Moves platform tid t s (.stopping f pc) s' l') (gone : pc.Gone) :
    (∃ pc', l' = .stopping f pc' ∧ pc'.Gone) ∨ l' = .stopping f (.returned (.ok ())) := by
  cases moves with
  | drift | monitorExit => exact .inl ⟨pc, rfl, gone⟩
  | stop moves =>
    cases moves with
    | clearStopping | finalLeave | unlockDone => exact .inl ⟨_, rfl, trivial⟩
    | finished => exact .inr rfl
    | _ => exact gone.elim
  | stopReturn => exact gone.elim

end

section

variable [DecidableEq Task] {platform : Platform} {tid : Task → ℤ} {pool next : System Task}
  {t : Task} {f : StopFrame}

theorem stopMoves_of_step (step : Step platform tid pool next) {pc pc'}
    (here : pool.locals t = .stopping f pc) (there : next.locals t = .stopping f pc')
    (moved : pc ≠ pc') (later : pc' ≠ .deadlockCheck) :
    StopMoves platform t f pool.shared pc next.shared pc' := by
  have changed : pool.locals t ≠ next.locals t := by
    rw [here, there]
    simpa using moved
  have moves := step.moved changed
  rw [there] at moves changed
  obtain ⟨_, source, moves⟩ := moves.stop_source changed later
  rw [here] at source
  cases source
  exact moves

theorem stopEntered_of_step (step : Step platform tid pool next)
    (here : pool.locals t = .stopping f .setStopping)
    (there : next.locals t = .stopping f .stopRunning) : next.shared.StopEntered f.runtime := by
  have moves := stopMoves_of_step step here there (by simp) (by simp)
  generalize next.shared = s' at moves ⊢
  cases moves
  exact ⟨_, setRuntime_self _ _ _, rfl⟩

theorem StopInvariant.finalLeave (inv : StopInvariant pool) (life : LifecycleInvariant pool)
    (step : Step platform tid pool next) (here : pool.locals t = .stopping f .finalLeave)
    (there : next.locals t = .stopping f .unlockDone) :
    next.shared.trampoline.Selects .sse41 ∧ Released next.shared := by
  have facts := inv.stopping t f _ here trivial
  have gone := (life.stopState here trivial).gone trivial
  have moves := stopMoves_of_step step here there (by simp) (by simp)
  generalize next.shared = s' at moves ⊢
  refine ⟨?_, moves.ownerless facts trivial, moves.overlayOff facts trivial,
    moves.reopened facts trivial, ?_⟩
  · cases moves
    exact facts.selected trivial
  · cases moves
    exact gone.1

theorem StopInvariant.finished (inv : StopInvariant pool) (life : LifecycleInvariant pool)
    (step : Step platform tid pool next)
    (here : pool.locals t = .stopping f (.publicFinish (.ok ())))
    (there : next.locals t = .stopping f (.returned (.ok ()))) :
    Released next.shared ∧ next.shared.guard.configSnapshotState = .inactive := by
  have facts := inv.stopping t f _ here trivial
  have gone := (life.stopState here trivial).gone trivial
  have moves := stopMoves_of_step step here there (by simp) (by simp)
  generalize next.shared = s' at moves ⊢
  cases moves
  exact ⟨⟨facts.ownerless trivial, facts.overlayOff trivial, facts.reopened trivial, gone.1⟩, rfl⟩

omit [DecidableEq Task] in
theorem LifecycleInvariant.not_stopRejected (life : LifecycleInvariant pool)
    (quiet : ∀ t, ¬ (pool.locals t).InStop) {id : HandleId} {handle : Handle}
    (isActive : pool.shared.publicActive = some id)
    (known : pool.shared.handles id = some handle) {s' : Shared Task} {e : Errno} :
    ¬ CallMoves t id handle pool.shared s' (.stopRejected id e) := by
  have accepted : handle.stopped = false ∧ handle.impl.isSome ∧ handle.stopInProgress = false := by
    cases life.phase with
    | idle st | starting _ _ _ st =>
      exact absurd (isActive.symm.trans st.publicActive) (by simp)
    | running st =>
      obtain rfl := Option.some.inj (isActive.symm.trans st.publicActive)
      obtain ⟨_, here⟩ := st.handle
      obtain rfl := Option.some.inj (known.symm.trans here)
      exact ⟨rfl, rfl, rfl⟩
    | @stopping other _ _ here inFlight =>
      have inStop := quiet other
      rw [here] at inStop
      exact absurd inFlight inStop
  intro rejected
  cases rejected with
  | stopInvalid stale => exact stale ⟨isActive, accepted.1, accepted.2.1⟩
  | stopBusy _ busy => exact Bool.false_ne_true (accepted.2.2.symm.trans busy)

end

section

variable [DecidableEq Task] {platform : Platform} {tid : Task → ℤ} {trace : ℕ → System Task}
  {length : ℕ}

section

variable (execution : Execution platform tid trace length)
include execution

theorem Execution.stopEntered_until {first id} (entered : (trace first).shared.StopEntered id) :
    ∀ later, first ≤ later → later ≤ length → (trace later).shared.StopEntered id ∨
      ∃ i, first ≤ i ∧ i < later ∧ Uninstalls trace i id := by
  refine execution.run.kept_until (fun pool => pool.shared.StopEntered id) _ entered ?_
  intro i within step still
  have inv := execution.stopInvariant i within.le
  have life := execution.lifecycleInvariant i within.le
  unfold Uninstalls
  generalize trace (i + 1) = next at step ⊢
  obtain ⟨t, here, moves⟩ := step
  rcases moves.stopEntered here inv life still with still | ⟨f, mine, rfl, rfl⟩
  · exact .inl still
  · exact .inr ⟨t, f, mine, here, Pool.set_self _ _ _ _⟩

theorem Execution.selects_sse41_until {first}
    (selects : (trace first).shared.trampoline.Selects .sse41) :
    ∀ later, first ≤ later → later ≤ length → (trace later).shared.trampoline.Selects .sse41 ∨
      ∃ i, first ≤ i ∧ i < later ∧ PublishesWide trace i := by
  refine execution.run.kept_until (fun pool => pool.shared.trampoline.Selects .sse41) _ selects ?_
  intro i within step still
  have hasPage := (execution.selectorInvariant i within.le).hasPage
  unfold PublishesWide
  generalize trace (i + 1) = next at step ⊢
  obtain ⟨t, here, moves⟩ := step
  have hasPage := hasPage t
  rw [here] at hasPage
  rcases moves.selection hasPage with keeps | narrow | ⟨width, w, rfl, rfl, named, commits⟩
  · exact .inl (keeps.selects still)
  · exact .inl narrow
  by_cases wide : w.IsWide
  · obtain rfl := SimdWidth.toInt_of_ofInt? named
    exact .inr ⟨t, w, wide, here, Pool.set_self _ _ _ _⟩
  · rw [SimdWidth.not_isWide.mp wide] at commits
    exact .inl commits

theorem Execution.finalLeave_before {t f i} (within : i ≤ length)
    (finishes : (trace i).locals t = .stopping f (.publicFinish (.ok ()))) :
    ∃ ended < i, (trace ended).locals t = .stopping f .finalLeave ∧
      (trace (ended + 1)).locals t = .stopping f .unlockDone := by
  have idle := execution.initial.idle t
  obtain ⟨unlocks, -, below, out, moves, -⟩ :=
    execution.run.arrival (Nat.zero_le i) within (by simp [idle]) finishes
  have unlocking : (trace unlocks).locals t = .stopping f .unlockDone := by
    obtain ⟨pc, from_pc, moves⟩ := moves.stop_source out (by simp)
    rw [from_pc]
    generalize (trace (unlocks + 1)).shared = s' at moves
    cases moves
    rfl
  obtain ⟨ended, -, below', out', moves', since⟩ :=
    execution.run.arrival (Nat.zero_le unlocks) (below.le.trans within) (by simp [idle]) unlocking
  refine ⟨ended, below'.trans below, ?_, since _ (Nat.lt_succ_self ended) below'⟩
  obtain ⟨pc, from_pc, moves⟩ := moves'.stop_source out' (by simp)
  rw [from_pc]
  generalize (trace (ended + 1)).shared = s' at moves
  cases moves
  rfl

end

/-- From the first attempt's guard until the runtime is uninstalled, the stopping flag is set and no
wide width is authorized. The next attempt is accepted, the monitor is joined and perf cleaned up at
most once, and the runtime ends released with SSE4.1 selected. -/
theorem stop_retryable (execution : Execution platform tid trace length) :
    (∀ index < length, ∀ t f, (trace index).locals t = .stopping f .setStopping →
      (trace (index + 1)).locals t = .stopping f .stopRunning →
        (trace (index + 1)).shared.StopEntered f.runtime) ∧
    (∀ index ≤ length, ∀ id, (trace index).shared.StopEntered id →
      (trace index).shared.activeRuntime = some id ∧
      (trace index).shared.guard.stopping = true ∧
      (∀ w : SimdWidth, w.IsWide → ¬ (trace index).shared.guard.WidthAuthorized w.toInt) ∧
      ∀ later, index ≤ later → later ≤ length → (trace later).shared.StopEntered id ∨
        ∃ k, index ≤ k ∧ k < later ∧ Uninstalls trace k id) ∧
    (∀ index < length, ∀ t f pc, (trace index).locals t = .stopping f pc → pc.Gone →
      (∃ pc', (trace (index + 1)).locals t = .stopping f pc' ∧ pc'.Gone) ∨
        (trace (index + 1)).locals t = .stopping f (.returned (.ok ()))) ∧
    (∀ index ≤ length, (∀ t, ¬ ((trace index).locals t).InStop) →
      ∀ id handle, (trace index).shared.publicActive = some id →
        (trace index).shared.handles id = some handle →
          ∀ t s' e, ¬ CallMoves t id handle (trace index).shared s' (.stopRejected id e)) ∧
    (∀ index < length, ∀ t f pc e, (trace index).locals t = .stopping f pc →
      pc = .check ∨ pc = .recheck →
        (trace (index + 1)).locals t ≠ .stopping f (.unlockEarly e)) ∧
    (∀ index ≤ length, ∀ id runtime, (trace index).shared.runtimes id = some runtime →
      runtime.joins ≤ 1 ∧ runtime.cleanups ≤ 1) ∧
    (∀ index < length, ∀ t f, (trace index).locals t = .stopping f .finalLeave →
      (trace (index + 1)).locals t = .stopping f .unlockDone →
        (trace (index + 1)).shared.trampoline.Selects .sse41 ∧
        Released (trace (index + 1)).shared) ∧
    (∀ index < length, ∀ t f, (trace index).locals t = .stopping f (.publicFinish (.ok ())) →
      (trace (index + 1)).locals t = .stopping f (.returned (.ok ())) →
        Released (trace (index + 1)).shared ∧
        (trace (index + 1)).shared.guard.configSnapshotState = .inactive ∧
        ∃ ended < index, (trace ended).locals t = .stopping f .finalLeave ∧
          (trace (ended + 1)).locals t = .stopping f .unlockDone ∧
          ((trace (index + 1)).shared.trampoline.Selects .sse41 ∨
            ∃ k, ended < k ∧ k ≤ index ∧ PublishesWide trace k)) := by
  have inv := execution.stopInvariant
  have life := execution.lifecycleInvariant
  refine ⟨?_, ?_, ?_, ?_, ?_, ?_, ?_, ?_⟩
  · intro index within t f here there
    exact stopEntered_of_step (execution.run index within) here there
  · intro index within id entered
    have ⟨runtime, known, flag⟩ := entered
    have stopping := ((inv index within).runtimes id runtime known).entered flag
    refine ⟨(inv index within).entered_active (life index within) entered, stopping, ?_,
      execution.stopEntered_until entered⟩
    exact fun w wide => GuardState.not_widthAuthorized_of_stopping _ stopping wide
  · intro index within t f pc here gone
    by_cases same : (trace index).locals t = (trace (index + 1)).locals t
    · exact .inl ⟨pc, same.symm.trans here, gone⟩
    · have moves := (execution.run index within).moved same
      rw [here] at moves
      exact moves.stop_gone gone
  · intro index within quiet id handle isActive known t s' e
    exact (life index within).not_stopRejected quiet isActive known
  · intro index within t f pc e here checks there
    have moved : pc ≠ .unlockEarly e := by rcases checks with rfl | rfl <;> simp
    have moves := stopMoves_of_step (execution.run index within) here there moved (by simp)
    have inFlight : pc.InFlight := by rcases checks with rfl | rfl <;> trivial
    have state := (life index within.le).stopState here inFlight
    have facts := (inv index within.le).stopping t f pc here inFlight
    rcases checks with rfl | rfl
    · cases moves.begins state facts
    · cases moves.confirms state facts
  · intro index within id runtime known
    have sound := ((inv index within).runtimes id runtime known).sound
    exact ⟨sound.joins, sound.cleanups⟩
  · intro index within t f here there
    exact (inv index within.le).finalLeave (life index within.le) (execution.run index within)
      here there
  · intro index within t f here there
    obtain ⟨released, inactive⟩ := (inv index within.le).finished (life index within.le)
      (execution.run index within) here there
    obtain ⟨ended, below, leaves, left⟩ := execution.finalLeave_before within.le here
    have before : ended < length := below.trans within
    obtain ⟨selects, -⟩ := (inv ended before.le).finalLeave (life ended before.le)
      (execution.run ended before) leaves left
    refine ⟨released, inactive, ended, below, leaves, left, ?_⟩
    refine (execution.selects_sse41_until selects (index + 1) (by omega) within).imp_right ?_
    rintro ⟨k, after, upto, wide⟩
    exact ⟨k, after, Nat.le_of_lt_succ upto, wide⟩

end

def firstStop : StopFrame := ⟨0, 0⟩

/-- The task `true` selects AVX2 between the stop's final guard section and its return. -/
def overtakenStop : Path (Step avx2Platform fun _ => 1) (loadedPool Bool) :=
  wholeRun.append <| .act true rfl (.patchCall 1) <| .act true rfl (.patch (.enter rfl)) <|
  .act true rfl (.patch (.authorize rfl)) <| .act true rfl (.patch (.lock rfl)) <|
  .act true rfl (.patch .attempt) <| .act true rfl (.patch (.detect rfl rfl (by decide))) <|
  .act true rfl (.patch (.keepPage rfl)) <| .act true rfl (.patch .target) <|
  .act true rfl (.patch (.commit rfl)) <| .act true rfl (.patch (.mirror rfl)) <|
  .act true rfl (.patch .unlock) <| .act true rfl (.patch .leave) <|
  .act false rfl (.stop .unlockDone) <| .act false rfl (.stop (.finished rfl rfl)) .done

def overtakenTrace : ℕ → System Bool := overtakenStop.trace

theorem overtakenTrace_execution : Execution avx2Platform (fun _ => 1) overtakenTrace 83 where
  initial := loadedPool_initial Bool
  run := overtakenStop.isRun

theorem stop_retryable_overtaken :
    Execution avx2Platform (fun _ => 1) overtakenTrace 83 ∧ Released (overtakenTrace 83).shared ∧
      (overtakenTrace 83).shared.guard.configSnapshotState = .inactive := by
  obtain ⟨-, -, -, -, -, -, -, finishes⟩ := stop_retryable overtakenTrace_execution
  obtain ⟨released, inactive, -⟩ := finishes 82 (by decide) false firstStop rfl rfl
  exact ⟨overtakenTrace_execution, released, inactive⟩

/-- The stop returns `0` with AVX2 selected, after it has cleared the flag. -/
theorem stop_returns_with_avx2 :
    Execution avx2Platform (fun _ => 1) overtakenTrace 83 ∧
    (overtakenTrace 69).locals false = .stopping firstStop .unlockDone ∧
    (overtakenTrace 69).shared.guard.stopping = false ∧
    (overtakenTrace 69).shared.activeRuntime = none ∧
    (overtakenTrace 82).locals false = .stopping firstStop (.publicFinish (.ok ())) ∧
    (overtakenTrace 83).locals false = .stopping firstStop (.returned (.ok ())) ∧
    (overtakenTrace 83).shared.trampoline.stateCurrentWidth = .avx2 :=
  ⟨overtakenTrace_execution, rfl, rfl, rfl, rfl, rfl, rfl⟩

end Runtime
end ThermalSimd
