import ThermalSimd.Phases

/-!
# The public lifecycle

The invariant that carries the phases along every interleaving of starts, stops, stop requests and
destroys, and what it says about `runtime_api.c`.
-/

namespace ThermalSimd
namespace Runtime

open Interleaving Selector

variable {Task : Type*}

variable {f : StartFrame} {pc : StartPc} {handle : Handle}

/-- A start's names are new and its own. -/
structure OwnNames (s : Shared Task) (f : StartFrame) (pc : StartPc) : Prop where
  runtime : f.runtime < s.nextRuntime
  handle : f.handle < s.nextHandle
  unstopped : s.stops f.runtime = 0
  notActive : s.publicActive ≠ some f.handle
  notInstalled : s.activeRuntime = some f.runtime → pc.Installed

/-- No private runtime is stopped twice, and no name is given out twice. -/
structure Names (s : Shared Task) (locals : Task → Local) : Prop where
  stops : ∀ id, s.stops id ≤ 1
  fresh : ∀ id, s.nextRuntime ≤ id → s.stops id = 0
  active : ∀ id, s.activeRuntime = some id → id < s.nextRuntime ∧ s.stops id = 0
  handle : ∀ id, s.publicActive = some id → id < s.nextHandle
  own : ∀ t f pc, locals t = .starting f pc → pc.Pending → OwnNames s f pc
  distinct : ∀ t t' f f' pc pc', t ≠ t' → locals t = .starting f pc →
    locals t' = .starting f' pc' → pc.Pending → pc'.Pending →
      f.runtime ≠ f'.runtime ∧ f.handle ≠ f'.handle

/-- What a move of a start does to names. -/
structure StartNames (f : StartFrame) (s : Shared Task) (pc : StartPc) (s' : Shared Task)
    (pc' : StartPc) : Prop where
  stops : s'.stops = s.stops
  nextRuntime : s'.nextRuntime = s.nextRuntime
  nextHandle : s'.nextHandle = s.nextHandle
  pending : pc.Pending
  installed : pc.Installed → pc'.Pending → pc'.Installed
  active : s'.activeRuntime = s.activeRuntime ∨
    s'.activeRuntime = some f.runtime ∧ pc'.Installed
  publicActive : s'.publicActive = s.publicActive ∨
    s'.publicActive = some f.handle ∧ ¬ pc'.Pending

theorem StartMoves.names {platform tid} {t : Task} {s s' pc pc'}
    (moves : StartMoves platform tid t f s pc s' pc') :
    StartNames f s pc s' pc' := by
  cases moves with
  | install => exact ⟨rfl, rfl, rfl, trivial, fun _ _ => trivial, .inr ⟨rfl, trivial⟩, .inl rfl⟩
  | unlockDone => exact ⟨rfl, rfl, rfl, trivial, fun _ _ => trivial, .inl rfl, .inl rfl⟩
  | publish => exact ⟨rfl, rfl, rfl, trivial, fun _ => id, .inl rfl, .inr ⟨rfl, id⟩⟩
  | _ => exact ⟨rfl, rfl, rfl, trivial, fun here => here.elim, .inl rfl, .inl rfl⟩

section

variable [DecidableEq Task] {pool : System Task} {t : Task} {s' : Shared Task} {l l' : Local}
  (names : Names pool.shared pool.locals)
include names

theorem Names.set (here : pool.locals t = l)
    (stops : ∀ id, s'.stops id ≤ 1) (fresh : ∀ id, s'.nextRuntime ≤ id → s'.stops id = 0)
    (active : ∀ id, s'.activeRuntime = some id → id < s'.nextRuntime ∧ s'.stops id = 0)
    (handle : ∀ id, s'.publicActive = some id → id < s'.nextHandle)
    (frames : ∀ f pc', l' = .starting f pc' → pc'.Pending →
      (∃ pc, l = .starting f pc ∧ pc.Pending) ∧ OwnNames s' f pc')
    (others : ∀ other ≠ t, ∀ f pc, pool.locals other = .starting f pc → pc.Pending →
      OwnNames s' f pc) :
    Names s' (pool.set t s' l').locals := by
  -- Every frame in use after the move was in use before it, by the same task.
  have frame : ∀ task f pc', (pool.set t s' l').locals task = .starting f pc' → pc'.Pending →
      ∃ pc, pool.locals task = .starting f pc ∧ pc.Pending := by
    intro task f pc' starting pending
    rcases eq_or_ne task t with rfl | ne
    · rw [Pool.set_self] at starting
      rw [here]
      exact (frames f pc' starting pending).1
    · rw [Pool.set_other _ ne] at starting
      exact ⟨pc', starting, pending⟩
  refine ⟨stops, fresh, active, handle, ?_, ?_⟩
  · exact Pool.forall_set (fun _ (l : Local) => ∀ f pc, l = .starting f pc → pc.Pending →
      OwnNames s' f pc) (fun f pc starting pending => (frames f pc starting pending).2) others
  · intro task task' f f' pc pc' ne starting starting' pending pending'
    obtain ⟨_, before, pending⟩ := frame task f pc starting pending
    obtain ⟨_, before', pending'⟩ := frame task' f' pc' starting' pending'
    exact names.distinct _ _ _ _ _ _ ne before before' pending pending'

theorem Names.quiet (here : pool.locals t = l) (stops : s'.stops = pool.shared.stops)
    (nextRuntime : s'.nextRuntime = pool.shared.nextRuntime)
    (nextHandle : s'.nextHandle = pool.shared.nextHandle)
    (active : s'.activeRuntime = pool.shared.activeRuntime)
    (publicActive : s'.publicActive = pool.shared.publicActive ∨ s'.publicActive = none)
    (stays : l' = l ∨ ∀ f pc, l' ≠ .starting f pc) : Names s' (pool.set t s' l').locals := by
  have was : ∀ id, s'.publicActive = some id → pool.shared.publicActive = some id := by
    intro id isActive
    rcases publicActive with same | cleared
    · exact same ▸ isActive
    · rw [cleared] at isActive
      cases isActive
  have own : ∀ f pc, OwnNames pool.shared f pc → OwnNames s' f pc := fun f pc own =>
    { runtime := nextRuntime ▸ own.runtime
      handle := nextHandle ▸ own.handle
      unstopped := stops ▸ own.unstopped
      notActive := fun isActive => own.notActive (was _ isActive)
      notInstalled := fun isActive => own.notInstalled (active ▸ isActive) }
  refine names.set here ?_ ?_ ?_ ?_ ?_ ?_
  · rw [stops]
    exact names.stops
  · rw [stops, nextRuntime]
    exact names.fresh
  · rw [stops, nextRuntime, active]
    exact names.active
  · intro id isActive
    rw [nextHandle]
    exact names.handle id (was id isActive)
  · intro f pc starting pending
    rcases stays with rfl | never
    · exact ⟨⟨pc, starting, pending⟩, own f pc (names.own t f pc (here.trans starting) pending)⟩
    · exact absurd starting (never f pc)
  · exact fun other _ f pc starting pending => own f pc (names.own other f pc starting pending)

theorem Names.start {pc pc'} (here : pool.locals t = .starting f pc)
    (moved : StartNames f pool.shared pc s' pc') :
    Names s' (pool.set t s' (.starting f pc')).locals := by
  have mine := names.own t f pc here moved.pending
  refine names.set here ?_ ?_ ?_ ?_ ?_ ?_
  · rw [moved.stops]
    exact names.stops
  · rw [moved.stops, moved.nextRuntime]
    exact names.fresh
  · intro id isActive
    rw [moved.stops, moved.nextRuntime]
    rcases moved.active with same | ⟨installs, -⟩
    · exact names.active id (same ▸ isActive)
    · obtain rfl := Option.some.inj (installs.symm.trans isActive)
      exact ⟨mine.runtime, mine.unstopped⟩
  · intro id isActive
    rw [moved.nextHandle]
    rcases moved.publicActive with same | ⟨publishes, -⟩
    · exact names.handle id (same ▸ isActive)
    · obtain rfl := Option.some.inj (publishes.symm.trans isActive)
      exact mine.handle
  · rintro f' pc'' starting pending
    cases starting
    refine ⟨⟨pc, rfl, moved.pending⟩, ?_⟩
    refine ⟨moved.nextRuntime ▸ mine.runtime, moved.nextHandle ▸ mine.handle,
      moved.stops ▸ mine.unstopped, fun isActive => ?_, fun isActive => ?_⟩
    · rcases moved.publicActive with same | ⟨-, returned⟩
      · exact mine.notActive (same ▸ isActive)
      · exact returned pending
    · rcases moved.active with same | ⟨-, installed⟩
      · exact moved.installed (mine.notInstalled (same ▸ isActive)) pending
      · exact installed
  · intro other ne f' pc'' starting pending
    have theirs := names.own other f' pc'' starting pending
    have distinct := names.distinct t other f f' pc pc'' ne.symm here starting moved.pending pending
    refine ⟨moved.nextRuntime ▸ theirs.runtime, moved.nextHandle ▸ theirs.handle,
      moved.stops ▸ theirs.unstopped, fun isActive => ?_, fun isActive => ?_⟩
    · rcases moved.publicActive with same | ⟨publishes, -⟩
      · exact theirs.notActive (same ▸ isActive)
      · exact distinct.2 (Option.some.inj (publishes.symm.trans isActive))
    · rcases moved.active with same | ⟨installs, -⟩
      · exact theirs.notInstalled (same ▸ isActive)
      · exact absurd (Option.some.inj (installs.symm.trans isActive)) distinct.1

theorem Names.startCall (here : pool.locals t = .idle) (config) :
    Names
      ({ pool.shared with
          nextHandle := pool.shared.nextHandle + 1
          nextRuntime := pool.shared.nextRuntime + 1 }.setHandle pool.shared.nextHandle
        (some .fresh))
      (pool.set t s' (.starting ⟨config, pool.shared.nextHandle, pool.shared.nextRuntime⟩
        .reserve)).locals where
  stops := names.stops
  fresh id above := names.fresh id (Nat.le_of_succ_le above)
  active id isActive := (names.active id isActive).imp_left Nat.lt_succ_of_lt
  handle id isActive := Nat.lt_succ_of_lt (names.handle id isActive)
  own := by
    refine Pool.forall_set (fun _ (l : Local) => ∀ f pc, l = .starting f pc → pc.Pending →
      OwnNames _ f pc) ?_ fun other _ f pc starting pending => ?_
    · rintro f pc starting -
      cases starting
      refine ⟨Nat.lt_succ_self _, Nat.lt_succ_self _, names.fresh _ le_rfl, fun isActive => ?_,
        fun isActive => ?_⟩
      · exact absurd (names.handle _ isActive) (Nat.lt_irrefl _)
      · exact absurd (names.active _ isActive).1 (Nat.lt_irrefl _)
    · have own := names.own other f pc starting pending
      exact ⟨Nat.lt_succ_of_lt own.runtime, Nat.lt_succ_of_lt own.handle, own.unstopped,
        own.notActive, own.notInstalled⟩
  distinct := by
    have new : ∀ other f pc, pool.locals other = .starting f pc → pc.Pending →
        f.runtime ≠ pool.shared.nextRuntime ∧ f.handle ≠ pool.shared.nextHandle := by
      intro other f pc starting pending
      have own := names.own other f pc starting pending
      exact ⟨own.runtime.ne, own.handle.ne⟩
    intro task task' f f' pc pc' ne starting starting' pending pending'
    rcases eq_or_ne task t with rfl | old
    · rw [Pool.set_self] at starting
      rw [Pool.set_other _ ne.symm] at starting'
      cases starting
      have distinct := new task' f' pc' starting' pending'
      exact ⟨distinct.1.symm, distinct.2.symm⟩
    rw [Pool.set_other _ old] at starting
    rcases eq_or_ne task' t with rfl | old'
    · rw [Pool.set_self] at starting'
      cases starting'
      exact new task f pc starting pending
    · rw [Pool.set_other _ old'] at starting'
      exact names.distinct _ _ _ _ _ _ ne starting starting' pending pending'

theorem Names.uninstall {runtime} (isActive : pool.shared.activeRuntime = some runtime)
    (noStart : ∀ other f pc, pool.locals other = .starting f pc → pc.Pending → ¬ pc.Installed)
    (here : pool.locals t = l) (never : ∀ f pc, l' ≠ .starting f pc) :
    Names
      ({ pool.shared with
          activeRuntime := none
          stops := Function.update pool.shared.stops runtime
            (pool.shared.stops runtime + 1) }.setRuntime runtime none)
      (pool.set t s' l').locals := by
  obtain ⟨known, unstopped⟩ := names.active runtime isActive
  refine names.set here ?_ ?_ ?_ names.handle ?_ ?_
  · intro id
    rcases eq_or_ne id runtime with rfl | ne
    · simp [Shared.setRuntime, unstopped]
    · simpa [Shared.setRuntime, ne] using names.stops id
  · intro id above
    have ne : id ≠ runtime := (known.trans_le above).ne'
    simpa [Shared.setRuntime, ne] using names.fresh id above
  · intro id isActive
    cases isActive
  · exact fun f pc starting => absurd starting (never f pc)
  · intro other _ f pc starting pending
    have own := names.own other f pc starting pending
    have ne : f.runtime ≠ runtime := fun same =>
      noStart other f pc starting pending (own.notInstalled (same ▸ isActive))
    refine ⟨own.runtime, own.handle, ?_, own.notActive, fun isActive => by cases isActive⟩
    simpa [Shared.setRuntime, ne] using own.unstopped

end

/-- The phases, with who holds the public slots and which names are used. -/
structure LifecycleInvariant (pool : System Task) : Prop where
  starting : Guards Shared.publicStarting Local.Reserved pool
  stopping : Guards Shared.publicStopper Local.InStop pool
  publicLock : Guards Shared.publicLock Local.InPublic pool
  phase : Phase pool.shared pool.locals
  names : Names pool.shared pool.locals
  requests : ∀ t, (pool.locals t).InPublic → ∃ handle runtime, RunState pool.shared handle runtime

theorem Initial.lifecycleInvariant {pool : System Task} (initial : Initial pool) :
    LifecycleInvariant pool where
  starting t := by simp [initial.idle t, initial.publicStarting, Local.Reserved]
  stopping t := by simp [initial.idle t, initial.publicStopper, Local.InStop]
  publicLock t := by simp [initial.idle t, initial.publicLock, Local.InPublic]
  phase := .idle
    { publicActive := initial.publicActive
      publicStarting := initial.publicStarting
      publicStopper := initial.publicStopper
      activeRuntime := initial.activeRuntime
      configOf := fun id => by simp [Shared.configOf, initial.runtimes id]
      inactive := initial.configSnapshotState }
  names :=
    { stops := by simp [initial.stops]
      fresh := fun id _ => initial.stops id
      active := by simp [initial.activeRuntime]
      handle := by simp [initial.publicActive]
      own := by simp [initial.idle]
      distinct := by simp [initial.idle] }
  requests t inside := by
    rw [initial.idle t] at inside
    exact inside.elim

section

variable {pool : System Task} {t : Task} (inv : LifecycleInvariant pool)
include inv

theorem LifecycleInvariant.startState (here : pool.locals t = .starting f pc)
    (reserved : pc.Reserved) : StartState pool.shared f pc := by
  have inside : (pool.locals t).Reserved := by rw [here]; exact reserved
  have holds := (inv.starting t).mp inside
  cases inv.phase with
  | idle st | running st | stopping _ _ _ st =>
    exact absurd (holds.symm.trans st.publicStarting) (by simp)
  | starting here' _ holder st =>
    obtain rfl := Option.some.inj (holder.symm.trans holds)
    cases here.symm.trans here'
    exact st

theorem LifecycleInvariant.stopState {f pc} (here : pool.locals t = .stopping f pc)
    (inFlight : pc.InFlight) : StopState pool.shared f pc := by
  have inside : (pool.locals t).InStop := by rw [here]; exact inFlight
  have holds := (inv.stopping t).mp inside
  cases inv.phase with
  | idle st | starting _ _ _ st | running st =>
    exact absurd (holds.symm.trans st.publicStopper) (by simp)
  | stopping here' _ holder st =>
    obtain rfl := Option.some.inj (holder.symm.trans holds)
    cases here.symm.trans here'
    exact st

theorem LifecycleInvariant.idleState (noStart : pool.shared.publicStarting = none)
    (noHandle : pool.shared.publicActive = none) : IdleState pool.shared := by
  cases inv.phase with
  | idle st => exact st
  | starting _ _ holder => exact absurd (holder.symm.trans noStart) (by simp)
  | running st | stopping _ _ _ st =>
    exact absurd (st.publicActive.symm.trans noHandle) (by simp)

theorem LifecycleInvariant.runState {id} (here : pool.shared.handles id = some handle)
    (isActive : pool.shared.publicActive = some id) (idle : handle.stopInProgress = false) :
    ∃ runtime generation, handle = ⟨some runtime, generation, false, false⟩ ∧
      RunState pool.shared id runtime := by
  cases inv.phase with
  | idle st | starting _ _ _ st =>
    exact absurd (isActive.symm.trans st.publicActive) (by simp)
  | @running _ runtime st =>
    obtain rfl := Option.some.inj (isActive.symm.trans st.publicActive)
    obtain ⟨generation, known⟩ := st.handle
    exact ⟨runtime, generation, Option.some.inj (here.symm.trans known), st⟩
  | stopping _ _ _ st =>
    obtain rfl := Option.some.inj (isActive.symm.trans st.publicActive)
    obtain ⟨generation, known⟩ := st.handle
    obtain rfl := Option.some.inj (here.symm.trans known)
    cases idle

end

section

variable [DecidableEq Task] {platform : Platform} {tid : Task → ℤ} {pool : System Task} {t : Task}
  {s' : Shared Task} {l l' : Local}

theorem Phase.quiet (phase : Phase pool.shared pool.locals) (here : pool.locals t = l)
    (same : SameLifecycle pool.shared s') (stays : l' = l ∨ ¬ l.Reserved ∧ ¬ l.InStop) :
    Phase s' (pool.set t s' l').locals := by
  have kept : ∀ task, (pool.locals task).Reserved ∨ (pool.locals task).InStop →
      (pool.set t s' l').locals task = pool.locals task := by
    intro task inside
    rcases eq_or_ne task t with rfl | ne
    · rw [Pool.set_self]
      rcases stays with rfl | ⟨notReserved, notInStop⟩
      · exact here.symm
      · rw [here] at inside
        exact (inside.elim notReserved notInStop).elim
    · exact Pool.set_other _ ne _ _
  cases phase with
  | idle st => exact .idle (st.frame same)
  | starting here' reserved holder st =>
    refine .starting ((kept _ (.inl ?_)).trans here') reserved
      (same.publicStarting.trans holder)
      (st.frame same (fun _ _ => id) Iff.rfl Iff.rfl)
    rw [here']
    exact reserved
  | running st => exact .running (st.frame same)
  | stopping here' inFlight holder st =>
    refine .stopping ((kept _ (.inr ?_)).trans here') inFlight
      (same.publicStopper.trans holder) (st.frame same Iff.rfl)
    rw [here']
    exact inFlight

variable (inv : LifecycleInvariant pool)
include inv

theorem LifecycleInvariant.phase_start {pc pc'} (here : pool.locals t = .starting f pc)
    (moves : StartMoves platform (tid t) t f pool.shared pc s' pc') :
    Phase s' (pool.set t s' (.starting f pc')).locals := by
  by_cases reserved : pc.Reserved
  · have inside : (pool.locals t).Reserved := by rw [here]; exact reserved
    have holder := (inv.starting t).mp inside
    rcases (inv.startState here reserved).move reserved moves with
      ⟨reserved', same, st⟩ | ⟨-, st⟩ | ⟨-, st⟩
    · exact .starting (Pool.set_self _ _ _ _) reserved' (same.trans holder) st
    · exact .idle st
    · exact .running st
  · have own := inv.names.own t f pc here moves.names.pending
    cases moves with
    | reserveBusy =>
      exact inv.phase.quiet here (.setHandle own.notActive none) (.inr ⟨reserved, id⟩)
    | reserve _ noHandle noStart =>
      have st := inv.idleState noStart noHandle
      refine .starting (Pool.set_self _ _ _ _) trivial rfl ?_
      exact
        { publicActive := st.publicActive
          publicStopper := st.publicStopper
          config := st.inactive
          installed := False.elim
          notInstalled := fun _ => st.activeRuntime
          allocated := False.elim
          notAllocated := fun _ => st.configOf _
          others := fun id _ => st.configOf id }
    | _ => exact absurd trivial reserved

theorem LifecycleInvariant.phase_stop {f pc pc'}
    (here : pool.locals t = .stopping f pc) (moves : StopMoves platform t f pool.shared pc s' pc') :
    Phase s' (pool.set t s' (.stopping f pc')).locals := by
  have inFlight : pc.InFlight := by cases moves <;> trivial
  have inside : (pool.locals t).InStop := by rw [here]; exact inFlight
  have holder := (inv.stopping t).mp inside
  rcases (inv.stopState here inFlight).move inFlight moves with
    ⟨inFlight', same, st⟩ | ⟨-, st⟩ | ⟨-, st⟩
  · exact .stopping (Pool.set_self _ _ _ _) inFlight' (same.trans holder) st
  · exact .idle st
  · exact .running st

theorem LifecycleInvariant.phase_call (here : pool.locals t = .idle) {id}
    (allocated : pool.shared.handles id = some handle)
    (moves : CallMoves t id handle pool.shared s' l') : Phase s' (pool.set t s' l').locals := by
  cases moves with
  | stopCall current idle impl =>
    obtain ⟨_, generation, rfl, st⟩ := inv.runState allocated current.1 idle
    cases impl
    exact .stopping (Pool.set_self _ _ _ _) trivial rfl (st.stopCall generation)
  | destroy notActive =>
    exact inv.phase.quiet here (.setHandle notActive none) (.inr ⟨False.elim, False.elim⟩)
  | _ =>
    exact inv.phase.quiet here ⟨rfl, rfl, rfl, rfl, rfl, fun _ _ => rfl, rfl, rfl⟩
      (.inr ⟨False.elim, False.elim⟩)

omit [DecidableEq Task] in
theorem LifecycleInvariant.classify (moves : Moves platform tid t pool.shared l s' l') :
    SameLifecycle pool.shared s' ∧ (l' = l ∨ ¬ l.Reserved ∧ ¬ l.InStop) ∨
    (∃ f pc pc', l = .starting f pc ∧ l' = .starting f pc' ∧
      StartMoves platform (tid t) t f pool.shared pc s' pc') ∨
    (∃ f pc pc', l = .stopping f pc ∧ l' = .stopping f pc' ∧
      StopMoves platform t f pool.shared pc s' pc') ∨
    ∃ id handle, l = .idle ∧ pool.shared.publicLock = none ∧
      pool.shared.handles id = some handle ∧ CallMoves t id handle pool.shared s' l' := by
  cases moves with
  | drift guard keeps _ => exact .inl ⟨.withGuard keeps, .inl rfl⟩
  | monitorExit allocated => exact .inl ⟨.setRuntime allocated rfl, .inl rfl⟩
  | writeEnter _ => exact .inl ⟨.withSelector (.refl _), .inr ⟨id, id⟩⟩
  | writeLeave =>
    exact .inl ⟨.withSelector (pool.shared.guard.afterQuery_agree _), .inr ⟨id, id⟩⟩
  | patch moves => exact .inl ⟨.withSelector moves.guard_agree, .inr ⟨id, id⟩⟩
  | init moves =>
    refine .inl ⟨.withSelector ?_, .inr ⟨id, id⟩⟩
    rw [moves.guard_eq]
    exact .refl _
  | startCall config =>
    have notActive : pool.shared.publicActive ≠ some pool.shared.nextHandle := fun isActive =>
      Nat.lt_irrefl _ (inv.names.handle _ isActive)
    exact .inl ⟨{ SameLifecycle.setHandle notActive (some .fresh) with }, .inr ⟨id, id⟩⟩
  | start moves => exact .inr (.inl ⟨_, _, _, rfl, rfl, moves⟩)
  | stop moves => exact .inr (.inr (.inl ⟨_, _, _, rfl, rfl, moves⟩))
  | call free allocated moves => exact .inr (.inr (.inr ⟨_, _, rfl, free, allocated, moves⟩))
  | request moves =>
    refine .inl ⟨?_, .inr ⟨id, id⟩⟩
    cases moves with
    | leave => exact .withSelector (pool.shared.guard.afterQuery_agree _)
    | _ => exact ⟨rfl, rfl, rfl, rfl, rfl, fun _ _ => rfl, rfl, rfl⟩
  | _ => exact .inl ⟨⟨rfl, rfl, rfl, rfl, rfl, fun _ _ => rfl, rfl, rfl⟩, .inr ⟨id, id⟩⟩

variable (here : pool.locals t = l) (moves : Moves platform tid t pool.shared l s' l')
include here moves

theorem LifecycleInvariant.phase_move : Phase s' (pool.set t s' l').locals := by
  rcases inv.classify moves with ⟨same, stays⟩ | ⟨f, pc, pc', rfl, rfl, starts⟩ |
    ⟨f, pc, pc', rfl, rfl, stops⟩ | ⟨id, handle, rfl, -, allocated, calls⟩
  · exact inv.phase.quiet here same stays
  · exact inv.phase_start here starts
  · exact inv.phase_stop here stops
  · exact inv.phase_call here allocated calls

omit [DecidableEq Task] in
theorem LifecycleInvariant.running_locked (locked : pool.shared.publicLock ≠ none)
    {handle : HandleId} {runtime : RuntimeId} (st : RunState pool.shared handle runtime) :
    RunState s' handle runtime := by
  rcases inv.classify moves with ⟨same, -⟩ | ⟨f, pc, pc', rfl, rfl, starts⟩ |
    ⟨f, pc, pc', rfl, rfl, stops⟩ | ⟨id, handle, rfl, free, -, -⟩
  · exact st.frame same
  · by_cases reserved : pc.Reserved
    · have isActive := (inv.startState here reserved).publicActive
      exact absurd (isActive.symm.trans st.publicActive) (by simp)
    · cases starts with
      | reserveBusy free _ | reserve free _ _ _ => exact absurd free locked
      | _ => exact absurd trivial reserved
  · have inFlight : pc.InFlight := by cases stops <;> trivial
    have inside : (pool.locals t).InStop := by rw [here]; exact inFlight
    exact absurd ((inv.stopping t).mp inside) (by simp [st.publicStopper])
  · exact absurd free locked

theorem LifecycleInvariant.requests_move :
    ∀ other, ((pool.set t s' l').locals other).InPublic →
      ∃ handle runtime, RunState s' handle runtime := by
  have continues : ∀ other, (pool.locals other).InPublic →
      ∃ handle runtime, RunState s' handle runtime := by
    intro other inside
    have locked : pool.shared.publicLock ≠ none := by
      rw [(inv.publicLock other).mp inside]
      exact Option.some_ne_none other
    obtain ⟨handle, runtime, st⟩ := inv.requests other inside
    exact ⟨handle, runtime, inv.running_locked here moves locked st⟩
  refine Pool.forall_set (fun _ (l : Local) => l.InPublic →
    ∃ handle runtime, RunState s' handle runtime) ?_ fun other _ => continues other
  intro inside
  cases moves with
  | drift | monitorExit => exact continues t (by rw [here]; exact inside)
  | request moves =>
    refine continues t ?_
    rw [here]
    cases moves <;> trivial
  | call _ allocated moves =>
    cases moves with
    | requestCall current idle =>
      obtain ⟨runtime, _, -, st⟩ := inv.runState allocated current.1 idle
      exact ⟨_, runtime, { st with }⟩
    | _ => exact inside.elim
  | _ => exact inside.elim

theorem LifecycleInvariant.names_move : Names s' (pool.set t s' l').locals := by
  have names := inv.names
  cases moves with
  | drift | monitorExit => exact names.quiet here rfl rfl rfl rfl (.inl rfl) (.inl rfl)
  | startCall config => exact names.startCall here config
  | start moves => exact names.start here moves.names
  | stop moves =>
    cases moves with
    | uninstall =>
      have st := inv.stopState here trivial
      refine names.uninstall (st.present id).1 ?_ here (by simp)
      -- An installed start would still hold the slot.
      intro other f _ starting _ installed
      have inside : (pool.locals other).Reserved := by
        rw [starting]
        exact installed.reserved
      exact absurd ((inv.starting other).mp inside) (by simp [st.publicStarting])
    | finished => exact names.quiet here rfl rfl rfl rfl (.inr rfl) (.inr (by simp))
    | _ => exact names.quiet here rfl rfl rfl rfl (.inl rfl) (.inr (by simp))
  | call _ _ moves | request moves =>
    cases moves <;> exact names.quiet here rfl rfl rfl rfl (.inl rfl) (.inr (by simp))
  | _ => exact names.quiet here rfl rfl rfl rfl (.inl rfl) (.inr (by simp))

theorem LifecycleInvariant.move :
    LifecycleInvariant (pool.set t s' l') where
  starting := inv.starting.set here moves.publicStarting
  stopping := by
    refine inv.stopping.set here (moves.publicStopper fun id handle allocated current idle => ?_)
    obtain ⟨_, _, -, st⟩ := inv.runState allocated current.1 idle
    exact st.publicStopper
  publicLock := inv.publicLock.set here moves.publicLock
  phase := inv.phase_move here moves
  names := inv.names_move here moves
  requests := inv.requests_move here moves

end

theorem Execution.lifecycleInvariant [DecidableEq Task] {platform} {tid : Task → ℤ}
    {trace length} (execution : Execution platform tid trace length) :
    ∀ i ≤ length, LifecycleInvariant (trace i) := by
  refine execution.run.invariant execution.initial.lifecycleInvariant fun _ _ inv step => ?_
  obtain ⟨t, here, moves⟩ := step
  exact inv.move here moves

def LiveOrStarting (pool : System Task) (id : RuntimeId) : Prop :=
  pool.shared.activeRuntime = some id ∨ (pool.shared.configOf id).isSome ∨
    ∃ t f pc, pool.locals t = .starting f pc ∧ pc.Reserved ∧ f.runtime = id

def Startable (s : Shared Task) : Prop :=
  s.publicActive = none ∧ s.publicStarting = none ∧ s.guard.configSnapshotState = .inactive ∧
    s.activeRuntime = none

section

variable {pool : System Task}

theorem LifecycleInvariant.single (inv : LifecycleInvariant pool) :
    ∃ only, ∀ id, LiveOrStarting pool id → id = only := by
  have only_of {only}
      (active : ∀ id, pool.shared.activeRuntime = some id → id = only)
      (allocated : ∀ id, id ≠ only → pool.shared.configOf id = none)
      (starting : ∀ t f pc, pool.locals t = .starting f pc → pc.Reserved → f.runtime = only) :
      ∀ id, LiveOrStarting pool id → id = only := by
    rintro id (isActive | isAllocated | ⟨t, f, pc, here, reserved, rfl⟩)
    · exact active id isActive
    · by_contra ne
      rw [allocated id ne] at isAllocated
      cases isAllocated
    · exact starting t f pc here reserved
  have no_start (free : pool.shared.publicStarting = none) {only} :
      ∀ t f pc, pool.locals t = .starting f pc → pc.Reserved → f.runtime = only := by
    intro t f pc here reserved
    have inside : (pool.locals t).Reserved := by rw [here]; exact reserved
    exact absurd ((inv.starting t).mp inside) (by simp [free])
  cases inv.phase with
  | idle st =>
    refine ⟨0, only_of ?_ (fun id _ => st.configOf id) (no_start st.publicStarting)⟩
    simp [st.activeRuntime]
  | @starting t f pc here reserved holder st =>
    refine ⟨f.runtime, only_of ?_ st.others ?_⟩
    · intro id isActive
      by_cases installed : pc.Installed
      · exact Option.some.inj (isActive.symm.trans (st.installed installed))
      · rw [st.notInstalled installed] at isActive
        cases isActive
    · intro t' _ _ here' reserved'
      have inside : (pool.locals t').Reserved := by rw [here']; exact reserved'
      obtain rfl := Option.some.inj (holder.symm.trans ((inv.starting t').mp inside))
      cases here.symm.trans here'
      rfl
  | running st =>
    refine ⟨_, only_of ?_ st.others (no_start st.publicStarting)⟩
    exact fun id isActive => Option.some.inj (isActive.symm.trans st.activeRuntime)
  | @stopping t f pc _ _ _ st =>
    refine ⟨_, only_of ?_ st.others (no_start st.publicStarting)⟩
    intro id isActive
    by_cases gone : pc.Gone
    · rw [(st.gone gone).1] at isActive
      cases isActive
    · exact Option.some.inj (isActive.symm.trans (st.present gone).1)

theorem LifecycleInvariant.live_config (inv : LifecycleInvariant pool) {id}
    (isActive : pool.shared.activeRuntime = some id) :
    ∃ runtime, pool.shared.runtimes id = some runtime ∧
      RunsConfig pool.shared.guard runtime.config := by
  have config : ∃ config, pool.shared.configOf id = some config ∧
      RunsConfig pool.shared.guard config := by
    cases inv.phase with
    | idle st => exact absurd (isActive.symm.trans st.activeRuntime) (by simp)
    | @starting t f pc _ _ _ st =>
      by_cases installed : pc.Installed
      · obtain rfl := Option.some.inj (isActive.symm.trans (st.installed installed))
        cases pc with
        | unlockDone | publish => exact ⟨f.config, st.allocated trivial, st.config⟩
        | _ => exact installed.elim
      · exact absurd (isActive.symm.trans (st.notInstalled installed)) (by simp)
    | running st =>
      obtain rfl := Option.some.inj (isActive.symm.trans st.activeRuntime)
      exact st.config
    | @stopping t f pc _ _ _ st =>
      by_cases gone : pc.Gone
      · exact absurd (isActive.symm.trans (st.gone gone).1) (by simp)
      · obtain ⟨active, config⟩ := st.present gone
        obtain rfl := Option.some.inj (isActive.symm.trans active)
        exact config
  obtain ⟨config, configOf, runs⟩ := config
  obtain ⟨runtime, allocated, rfl⟩ := Option.map_eq_some_iff.mp configOf
  exact ⟨runtime, allocated, runs⟩

theorem LifecycleInvariant.failedStart [DecidableEq Task] {platform tid next}
    (inv : LifecycleInvariant pool) (step : Step platform tid pool next)
    {t e} (here : pool.locals t = .starting f pc) (pending : pc.Pending)
    (fails : next.locals t = .starting f (.returned (.error e))) :
    pc.Reserved ∧ Startable next.shared ∨
      ¬ pc.Reserved ∧ e = .ebusy ∧ SameLifecycle pool.shared next.shared := by
  have changed : pool.locals t ≠ next.locals t := by
    rw [here, fails]
    rintro same
    cases same
    exact pending
  have moves := step.moved changed
  rw [here, fails] at moves
  generalize next.shared = s' at moves ⊢
  cases moves with
  | drift | monitorExit => exact pending.elim
  | start moves =>
    by_cases reserved : pc.Reserved
    · rcases (inv.startState here reserved).move reserved moves with
        ⟨still, -⟩ | ⟨-, st⟩ | ⟨ok, -⟩
      · exact still.elim
      · exact .inl ⟨reserved, st.publicActive, st.publicStarting, st.inactive,
          st.activeRuntime⟩
      · cases ok
    · have own := inv.names.own t f pc here pending
      cases moves with
      | reserveBusy => exact .inr ⟨reserved, rfl, .setHandle own.notActive none⟩
      | release => exact absurd trivial reserved

theorem CallMoves.stopped {t : Task} {id s s' l'}
    (moves : CallMoves t id handle s s' l') (stopped : handle.stopped = true) :
    (s' = s ∨ s' = s.setHandle id none ∧ s.publicActive ≠ some id) ∧
      (l' = .idle ∨ (∃ e, l' = .stopRejected id e) ∨ ∃ res, l' = .destroyed id res) := by
  have stale : ¬ s.Current id handle := by
    rintro ⟨-, running, -⟩
    rw [stopped] at running
    cases running
  cases moves with
  | stopCall current | requestCall current => exact absurd current stale
  | requestIgnored => exact ⟨.inl rfl, .inl rfl⟩
  | stopInvalid | stopBusy => exact ⟨.inl rfl, .inr (.inl ⟨_, rfl⟩)⟩
  | destroyBusy | destroyInvalid => exact ⟨.inl rfl, .inr (.inr ⟨_, rfl⟩)⟩
  | destroy notActive => exact ⟨.inr ⟨rfl, notActive⟩, .inr (.inr ⟨_, rfl⟩)⟩

/-- The handle of a stop attempt or request in progress is active and not stopped. -/
def ActsOnActive (pool : System Task) : Prop :=
  (∀ t f pc, pool.locals t = .stopping f pc → pc.InFlight →
    ∃ handle, pool.shared.handles f.handle = some handle ∧ handle.stopped = false ∧
      pool.shared.publicActive = some f.handle) ∧
  ∀ t, (pool.locals t).InPublic →
    ∃ id handle, pool.shared.handles id = some handle ∧ handle.stopped = false ∧
      pool.shared.publicActive = some id

theorem LifecycleInvariant.actsOnActive (inv : LifecycleInvariant pool) : ActsOnActive pool := by
  constructor
  · intro t f _ here inFlight
    have st := inv.stopState here inFlight
    obtain ⟨generation, known⟩ := st.handle
    exact ⟨_, known, rfl, st.publicActive⟩
  · intro t inside
    obtain ⟨id, _, st⟩ := inv.requests t inside
    obtain ⟨generation, known⟩ := st.handle
    exact ⟨id, _, known, rfl, st.publicActive⟩

/-- At most one private runtime is live or starting and runs with its validated copy, none is
stopped twice, a failed start leaves the process ready for the next one, and a call on a stopped
handle changes only that handle. -/
theorem public_lifecycle [DecidableEq Task] {platform : Platform} {tid : Task → ℤ}
    {trace : ℕ → System Task} {length : ℕ} (execution : Execution platform tid trace length) :
    (∀ index ≤ length,
      (∀ id id', LiveOrStarting (trace index) id → LiveOrStarting (trace index) id' → id = id') ∧
      (∀ id, (trace index).shared.activeRuntime = some id →
        ∃ runtime, (trace index).shared.runtimes id = some runtime ∧
          RunsConfig (trace index).shared.guard runtime.config) ∧
      ((trace index).shared.publicStarting = none → (trace index).shared.publicActive = none →
        (trace index).shared.guard.configSnapshotState = .inactive) ∧
      (∀ id, (trace index).shared.stops id ≤ 1) ∧
      ActsOnActive (trace index)) ∧
    (∀ index < length, ∀ t f pc e, (trace index).locals t = .starting f pc → pc.Pending →
      (trace (index + 1)).locals t = .starting f (.returned (.error e)) →
        pc.Reserved ∧ Startable (trace (index + 1)).shared ∨
        ¬ pc.Reserved ∧ e = .ebusy ∧
          SameLifecycle (trace index).shared (trace (index + 1)).shared) ∧
    (∀ index ≤ length, ∀ t id handle s' l',
      CallMoves t id handle (trace index).shared s' l' →
        (handle.stopped = true →
          (s' = (trace index).shared ∨ s' = (trace index).shared.setHandle id none ∧
            (trace index).shared.publicActive ≠ some id) ∧
          (l' = .idle ∨ (∃ e, l' = .stopRejected id e) ∨
            ∃ result, l' = .destroyed id result)) ∧
        (l' = .destroyed id (.ok ()) →
          handle.stopped = true ∧ (trace index).shared.publicActive ≠ some id)) := by
  refine ⟨?_, ?_, ?_⟩
  · intro index reached
    have inv := execution.lifecycleInvariant index reached
    refine ⟨?_, fun id => inv.live_config, ?_, inv.names.stops, inv.actsOnActive⟩
    · intro id id' live live'
      obtain ⟨_, single⟩ := inv.single
      rw [single id live, single id' live']
    · exact fun noStart noHandle => (inv.idleState noStart noHandle).inactive
  · intro index within t f pc e here pending fails
    exact (execution.lifecycleInvariant index within.le).failedStart
      (execution.run index within) here pending fails
  · intro index reached t id handle s' l' moves
    refine ⟨moves.stopped, ?_⟩
    rintro rfl
    cases moves with
    | destroy notActive _ stopped => exact ⟨stopped, notActive⟩

end

def validConfig : RuntimeConfig :=
  { RuntimeConfig.setDefaults with
    cooldownDownTicks := 20, cooldownUpTicks := 40, minDwellTicks := 4 }

theorem validConfig_valid : validConfig.validateGenerationConfig = .ok validConfig := by
  decide +kernel

/-- The task `false` calls the first start and gets to the allocation. -/
def opening : Path (Step avx2Platform fun _ => 1) (loadedPool Bool) :=
  .act false rfl (.startCall validConfig) <|
  .act false rfl (.start (.reserve rfl rfl rfl (by decide))) <|
  .act false rfl (.start (.activate validConfig_valid rfl)) <|
  .act false rfl (.start .writeConfig) <| .act false rfl (.start .publishConfig) <|
  .act false rfl (.start .resetSafety) <| .act false rfl (.start (.lockRuntime rfl)) <|
  .act false rfl (.start (.inactive rfl)) <|
  .act false rfl (.start (.prerequisites rfl validConfig)) <|
  .act false rfl (.start (.init (.lock rfl))) <|
  .act false rfl (.start (.init (.build rfl lowPage))) <|
  .act false rfl (.start (.init .attest)) <| .act false rfl (.start (.init .reset)) <|
  .act false rfl (.start (.init .mirrors)) <| .act false rfl (.start (.init .unlock)) <|
  .act false rfl (.start .initDone) <| .act false rfl (.start (.patchFirst (.enter rfl))) <|
  .act false rfl (.start (.patchFirst (.authorize rfl))) <|
  .act false rfl (.start (.patchFirst (.lock rfl))) <|
  .act false rfl (.start (.patchFirst .attempt)) <|
  .act false rfl (.start (.patchFirst (.detect rfl rfl (by decide)))) <|
  .act false rfl (.start (.patchFirst (.keepPage rfl))) <|
  .act false rfl (.start (.patchFirst .target)) <|
  .act false rfl (.start (.patchFirst (.commit rfl))) <|
  .act false rfl (.start (.patchFirst (.mirror rfl))) <|
  .act false rfl (.start (.patchFirst .unlock)) <|
  .act false rfl (.start (.patchFirst .leave)) <| .act false rfl (.start .patchFirstDone) <|
  .act false rfl (.start (.sandbox _ (.refl _) rfl)) <|
  .act false rfl (.start (.firstEnter rfl)) <| .act false rfl (.start .setStopping) <|
  .act false rfl (.start .clearOwner) <| .act false rfl (.start .resetDynamic) <|
  .act false rfl (.start .firstLeave) .done

theorem opening_allocates :
    opening.final.locals false = .starting ⟨validConfig, 0, 0⟩ .calloc := rfl

/-- The rest of that start, which succeeds. -/
def completing : Path (Step avx2Platform fun _ => 1) opening.final :=
  .act false opening_allocates (.start .calloc) <| .act false rfl (.start (.perfInit rfl)) <|
  .act false rfl (.start .perfDone) <| .act false rfl (.start (.narrow rfl)) <|
  .act false rfl (.start (.create rfl)) <| .act false rfl (.start (.finalEnter rfl)) <|
  .act false rfl (.start .setOwner) <| .act false rfl (.start .clearStopping) <|
  .act false rfl (.start .finalLeave) <| .act false rfl (.start .install) <|
  .act false rfl (.start .unlockDone) <| .act false rfl (.start (.publish rfl)) <|
  .act false rfl .startReturn .done

/-- The task `false` stops the runtime, up to the end of its final guard section. -/
def stopping : Path (Step avx2Platform fun _ => 1) (opening.append completing).final :=
  .act false rfl (.call rfl rfl (@CallMoves.stopCall _ _ 0 ⟨some 0, 1, false, false⟩ _ 0
    ⟨rfl, rfl, rfl⟩ rfl rfl)) <|
  .act false rfl (.stop .outside) <| .act false rfl (.stop (.lockRuntime rfl)) <|
  .act false rfl (.stop (.begin rfl rfl rfl)) <| .act false rfl (.stop (.firstEnter rfl)) <|
  .act false rfl (.stop (.setStopping rfl)) <| .act false rfl (.stop .stopRunning) <|
  .act false rfl (.stop .firstLeave) <| .act false rfl (.stop .unlockRuntime) <|
  .act false rfl (@Moves.monitorExit _ _ _ _ _ _ 0 _ rfl) <|
  .act false rfl (.stop (.joined rfl rfl rfl)) <| .act false rfl (.stop .quiesce) <|
  .act false rfl (.stop (.narrow rfl)) <| .act false rfl (.stop (.relock rfl)) <|
  .act false rfl (.stop (.recheck rfl rfl rfl)) <| .act false rfl (.stop (.cleanup rfl rfl)) <|
  .act false rfl (.stop (.finalEnter rfl)) <| .act false rfl (.stop .clearOwner) <|
  .act false rfl (.stop .resetDynamic) <| .act false rfl (.stop .uninstall) <|
  .act false rfl (.stop .clearStopping) <| .act false rfl (.stop .finalLeave) .done

def wholeRun : Path (Step avx2Platform fun _ => 1) (loadedPool Bool) :=
  (opening.append completing).append stopping

/-- The stop returns, and the task `true` is refused a start with an invalid configuration. -/
def refusedRun : Path (Step avx2Platform fun _ => 1) (loadedPool Bool) :=
  wholeRun.append <|
  .act false rfl (.stop .unlockDone) <| .act false rfl (.stop (.finished rfl rfl)) <|
  .act true rfl (.startCall { RuntimeConfig.setDefaults with checkIntervalUs := 0 }) <|
  .act true rfl (.start (.reserve rfl rfl rfl (by decide))) <|
  .act true rfl (.start (.activateInvalid rfl)) <| .act true rfl (.start (.release rfl)) .done

theorem public_lifecycle_refused :
    Execution avx2Platform (fun _ => 1) refusedRun.trace 75 ∧
      (∃ runtime, (refusedRun.trace 47).shared.runtimes 0 = some runtime ∧
        RunsConfig (refusedRun.trace 47).shared.guard runtime.config) ∧
      (refusedRun.trace 71).shared.guard.configSnapshotState = .inactive ∧
      ¬ CallMoves true 0 ⟨none, 1, true, false⟩ (refusedRun.trace 71).shared
        ({ (refusedRun.trace 71).shared with publicLock := some true }) (.requesting .enter) ∧
      Startable (refusedRun.trace 75).shared := by
  have execution : Execution avx2Platform (fun _ => 1) refusedRun.trace 75 :=
    ⟨loadedPool_initial Bool, refusedRun.isRun⟩
  obtain ⟨states, failed, calls⟩ := public_lifecycle execution
  refine ⟨execution, (states 47 (by decide)).2.1 0 rfl, (states 71 (by decide)).2.2.1 rfl rfl,
    fun request => ?_, ?_⟩
  · rcases ((calls 71 (by decide) true 0 _ _ _ request).1 rfl).2 with same | ⟨_, same⟩ | ⟨_, same⟩
    all_goals cases same
  · rcases failed 74 (by decide) true _ _ .einval rfl trivial rfl with ⟨-, startable⟩ | ⟨-, busy, -⟩
    · exact startable
    · cases busy

end Runtime
end ThermalSimd
