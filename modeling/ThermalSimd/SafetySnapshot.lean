import Mathlib.Tactic.IntervalCases
import ThermalSimd.Guard
import ThermalSimd.Interleaving

/-!
# The safety-limit cell

`safety_config_snapshot` of `runtime_guard.c` step by step: a three-state publication cell that any
number of threads fill and read while the lifecycle resets it from one generation to the next.
-/

namespace ThermalSimd
namespace SafetySnapshot

open Interleaving

/-- Where one call of `safety_config_snapshot` is. -/
inductive CallPc
  | idle
  | loading
  | exchanging
  /-- The exchange succeeded; `tsd_runtime_config_active_snapshot` is next. -/
  | choosing
  | reading (snapshot : Bool)
  | writing (limits : SafetyConfigSnapshot)
  | storing
  | copying
  | returned (limits : Option SafetyConfigSnapshot)
  deriving DecidableEq

/-- Where the lifecycle is; each generation runs with one validated configuration. -/
inductive ControlPc
  | inactive
  | publishing (cfg : RuntimeConfig)
  | published (cfg : RuntimeConfig)
  | activated (cfg : RuntimeConfig)
  | ready (cfg : RuntimeConfig)
  /-- `tsd_runtime_set_stopping_locked(1)` between its two stores. -/
  | stopping (cfg : RuntimeConfig)
  | deactivating (cfg : RuntimeConfig)
  deriving DecidableEq

/-- The guard, and where its owner is. -/
structure Shared where
  guard : GuardState
  control : ControlPc
  deriving DecidableEq

/-- Write `g_tsd_safety_config_snapshot_state`. -/
def Shared.setCell (s : Shared) (state : SafetySnapshotState) : Shared :=
  { s with guard := { s.guard with safetySnapshotState := state } }

/-- The moves of `safety_config_snapshot`. -/
inductive CallMoves : Shared → CallPc → Shared → CallPc → Prop
  | call {s} : CallMoves s .idle s .loading
  | loadUncaptured {s} (state : s.guard.safetySnapshotState = .uncaptured) :
      CallMoves s .loading s .exchanging
  | loadPublishing {s} (state : s.guard.safetySnapshotState = .publishing) :
      CallMoves s .loading s (.returned none)
  | loadAvailable {s} (state : s.guard.safetySnapshotState = .available) :
      CallMoves s .loading s .copying
  | exchange {s} (state : s.guard.safetySnapshotState = .uncaptured) :
      CallMoves s .exchanging (s.setCell .publishing) .choosing
  | exchangePublishing {s} (state : s.guard.safetySnapshotState = .publishing) :
      CallMoves s .exchanging s (.returned none)
  | exchangeAvailable {s} (state : s.guard.safetySnapshotState = .available) :
      CallMoves s .exchanging s .copying
  | choose {s} : CallMoves s .choosing s (.reading (s.guard.configSnapshotState = .active))
  | read {s snapshot} :
      CallMoves s (.reading snapshot) s
        (.writing (if snapshot then s.guard.configSnapshot else s.guard.legacyConfig).safetyFields)
  | write {s limits} :
      CallMoves s (.writing limits) { s with guard := { s.guard with safetySnapshot := limits } }
        .storing
  | store {s} : CallMoves s .storing (s.setCell .available) .copying
  | copy {s} : CallMoves s .copying s (.returned (some s.guard.safetySnapshot))
  | leave {s limits} : CallMoves s (.returned limits) s .idle

/-- Activations, any sequence of `tsd_runtime_set_stopping_locked`, and deactivations. -/
inductive ControlMoves : Shared → Shared → Prop
  | activate {s} (config cfg : RuntimeConfig) (inactive : s.control = .inactive)
      (validated : config.validateGenerationConfig = .ok cfg)
      (state : s.guard.configSnapshotState = .inactive) :
      ControlMoves s
        { guard := { s.guard with configSnapshotState := .publishing }, control := .publishing cfg }
  | activateWrite {s cfg} (publishing : s.control = .publishing cfg) :
      ControlMoves s { guard := { s.guard with configSnapshot := cfg }, control := .published cfg }
  | activateStore {s cfg} (published : s.control = .published cfg) :
      ControlMoves s
        { guard := { s.guard with configSnapshotState := .active }, control := .activated cfg }
  | activateReset {s cfg} (activated : s.control = .activated cfg) :
      ControlMoves s { s.setCell .uncaptured with control := .ready cfg }
  | setStopping {s cfg} (ready : s.control = .ready cfg) :
      ControlMoves s { guard := { s.guard with stopping := true }, control := .stopping cfg }
  | setStoppingReset {s cfg} (stopping : s.control = .stopping cfg) :
      ControlMoves s { s.setCell .uncaptured with control := .ready cfg }
  | clearStopping {s cfg} (ready : s.control = .ready cfg) :
      ControlMoves s { s with guard := { s.guard with stopping := false } }
  | deactivateReset {s cfg} (ready : s.control = .ready cfg) :
      ControlMoves s { s.setCell .uncaptured with control := .deactivating cfg }
  | deactivateStore {s cfg} (deactivating : s.control = .deactivating cfg) :
      ControlMoves s
        { guard := { s.guard with configSnapshotState := .inactive }, control := .inactive }
  /-- A writer of the compatibility object `g_tsd_config`. -/
  | legacyWrite {s} (legacy : RuntimeConfig) :
      ControlMoves s { s with guard := { s.guard with legacyConfig := legacy } }

variable {Thread : Type*} [DecidableEq Thread]

abbrev System (Thread : Type*) := Pool Thread Shared CallPc

/-- A caller or the owner moves. -/
inductive Step : System Thread → System Thread → Prop
  | caller {pool next} (moves : Interleaving.Step (fun _ => CallMoves) pool next) : Step pool next
  | control {pool shared} (moves : ControlMoves pool.shared shared) : Step pool { pool with shared }

/-- Nothing is active. -/
structure Initial (pool : System Thread) : Prop where
  inactive : pool.shared.control = .inactive
  idle : ∀ t, pool.locals t = .idle

/-- A call with nobody in between. -/
inductive Uninterrupted : Shared → CallPc → Shared → CallPc → Prop
  | refl {s pc} : Uninterrupted s pc s pc
  | head {s pc s' pc' s'' pc''} (moves : CallMoves s pc s' pc')
      (rest : Uninterrupted s' pc' s'' pc'') : Uninterrupted s pc s'' pc''

theorem Uninterrupted.capture (s) (st : s.guard.safetySnapshotState = .uncaptured) :
    Uninterrupted s .loading
      { s with
        guard :=
          { s.guard with
            safetySnapshot := s.guard.configActiveSnapshot.safetyFields
            safetySnapshotState := .available } }
      (.returned (some s.guard.configActiveSnapshot.safetyFields)) := by
  have source :
      (if decide (s.guard.configSnapshotState = .active) = true then s.guard.configSnapshot
        else s.guard.legacyConfig) = s.guard.configActiveSnapshot := by
    unfold GuardState.configActiveSnapshot
    cases s.guard.configSnapshotState <;> rfl
  rw [← source]
  exact .head (.loadUncaptured st) <| .head (.exchange st) <| .head .choose <| .head .read <|
    .head .write <| .head .store <| .head .copy .refl

/-- A call that nothing interrupts does what `GuardState.safetyConfigSnapshot` does. -/
theorem uninterrupted_safetyConfigSnapshot (s) :
    Uninterrupted s .loading { s with guard := s.guard.safetyConfigSnapshot.2 }
      (.returned s.guard.safetyConfigSnapshot.1) := by
  unfold GuardState.safetyConfigSnapshot
  cases st : s.guard.safetySnapshotState with
  | publishing => exact .head (.loadPublishing st) .refl
  | available => exact .head (.loadAvailable st) (.head .copy .refl)
  | uncaptured => exact .capture s st

def CallPc.Capturing : CallPc → Prop
  | .choosing | .reading _ | .writing _ | .storing => True
  | _ => False

private def ControlPc.generation? : ControlPc → Option RuntimeConfig
  | .ready cfg | .stopping cfg | .deactivating cfg => some cfg
  | _ => none

private def ControlPc.active? : ControlPc → Option RuntimeConfig
  | .activated cfg | .ready cfg | .stopping cfg | .deactivating cfg => some cfg
  | _ => none

/-- The lifecycle runs the generation of `cfg`, and it is not stopping. -/
def Live (pool : System Thread) (cfg : RuntimeConfig) : Prop :=
  pool.shared.control = .ready cfg ∧ pool.shared.guard.stopping = false

variable (t : Bool) (cfg : RuntimeConfig) (guard : GuardState)

private def CallPc.Carries : CallPc → Prop
  | .reading snapshot => snapshot = true
  | .writing limits => limits = cfg.safetyFields
  | .storing => guard.safetySnapshot = cfg.safetyFields
  | _ => True

def Resets (s s' : Shared) : Prop :=
  ∃ cfg, s.control = .activated cfg ∧ s'.control = .ready cfg ∨
    s.control = .stopping cfg ∧ s'.control = .ready cfg ∨
      s.control = .ready cfg ∧ s'.control = .deactivating cfg

def ResetsQuietly (pool next : System Thread) : Prop :=
  Resets pool.shared next.shared → ∀ t, ¬ (pool.locals t).Capturing

/-- Everything captured since the activation is the generation's own configuration. -/
structure Owned (pool : System Thread) : Prop where
  written : ∀ cfg, pool.shared.control = .published cfg → pool.shared.guard.configSnapshot = cfg
  active : ∀ cfg, pool.shared.control.active? = some cfg →
    pool.shared.guard.configSnapshotState = .active ∧ pool.shared.guard.configSnapshot = cfg
  available : ∀ cfg, pool.shared.control.generation? = some cfg →
    pool.shared.guard.safetySnapshotState = .available →
      pool.shared.guard.safetySnapshot = cfg.safetyFields
  carries : ∀ cfg, pool.shared.control.generation? = some cfg →
    ∀ t, (pool.locals t).Carries cfg pool.shared.guard

theorem ControlPc.active?_of_generation? {control : ControlPc} {cfg}
    (generation : control.generation? = some cfg) : control.active? = some cfg := by
  cases control with
  | ready | stopping | deactivating => exact generation
  | _ => cases generation

theorem CallPc.carries_of_not_capturing {pc : CallPc} (outside : ¬ pc.Capturing)
    (cfg guard) : pc.Carries cfg guard := by
  cases pc with
  | reading | writing | storing => exact (outside trivial).elim
  | _ => trivial

theorem CallPc.Carries.of_safetySnapshot {pc : CallPc} {cfg guard guard'}
    (carries : pc.Carries cfg guard)
    (kept : guard.safetySnapshot = cfg.safetyFields → guard'.safetySnapshot = cfg.safetyFields) :
    pc.Carries cfg guard' := by
  cases pc with
  | storing => exact kept carries
  | _ => exact carries

section

variable {s s' : Shared} {pc pc' : CallPc} {cfg : RuntimeConfig}

variable (moves : CallMoves s pc s' pc')
include moves

theorem CallMoves.frame :
    s'.control = s.control ∧ s'.guard.configSnapshotState = s.guard.configSnapshotState ∧
      s'.guard.configSnapshot = s.guard.configSnapshot ∧ s'.guard.stopping = s.guard.stopping := by
  cases moves <;> exact ⟨rfl, rfl, rfl, rfl⟩

theorem CallMoves.safetySnapshot (carries : pc.Carries cfg s.guard)
    (holds : s.guard.safetySnapshot = cfg.safetyFields) :
    s'.guard.safetySnapshot = cfg.safetyFields := by
  cases moves with
  | write => exact carries
  | _ => exact holds

theorem CallMoves.available (carries : pc.Carries cfg s.guard)
    (before : s.guard.safetySnapshotState = .available → s.guard.safetySnapshot = cfg.safetyFields)
    (after : s'.guard.safetySnapshotState = .available) :
    s'.guard.safetySnapshot = cfg.safetyFields := by
  cases moves with
  | exchange => cases after
  | write | store => exact carries
  | _ => exact before after

theorem CallMoves.carries (carries : pc.Carries cfg s.guard)
    (active : s.guard.configSnapshotState = .active) (config : s.guard.configSnapshot = cfg) :
    pc'.Carries cfg s'.guard := by
  cases moves with
  | choose => exact decide_eq_true active
  | read =>
    rw [show _ = true from carries, if_pos rfl, config]
    rfl
  | write => exact carries
  | _ => trivial

end

omit [DecidableEq Thread] in
theorem Owned.of_inactive {pool : System Thread} (inactive : pool.shared.control.active? = none)
    (written : ∀ cfg, pool.shared.control = .published cfg →
      pool.shared.guard.configSnapshot = cfg) : Owned pool := by
  have none_active : ∀ cfg, pool.shared.control.active? ≠ some cfg := by
    simp [inactive]
  exact
    { written := written
      active := fun cfg active => absurd active (none_active cfg)
      available := fun cfg generation =>
        absurd (ControlPc.active?_of_generation? generation) (none_active cfg)
      carries := fun cfg generation =>
        absurd (ControlPc.active?_of_generation? generation) (none_active cfg) }

omit [DecidableEq Thread] in
theorem Initial.owned {pool : System Thread} (initial : Initial pool) : Owned pool := by
  refine .of_inactive (by rw [initial.inactive]; rfl) fun cfg pub => ?_
  rw [initial.inactive] at pub
  cases pub

section

variable {pool : System Thread} {s' : Shared} {cfg : RuntimeConfig}

theorem Owned.caller (owned : Owned pool) {t pc pc'} (here : pool.locals t = pc)
    (moves : CallMoves pool.shared pc s' pc') : Owned (pool.set t s' pc') := by
  obtain ⟨control, configState, config, -⟩ := moves.frame
  refine ⟨fun cfg => ?_, fun cfg => ?_, fun cfg generation => ?_, fun cfg generation => ?_⟩
  · rw [Pool.set_shared, control, config]
    exact owned.written cfg
  · rw [Pool.set_shared, control, configState, config]
    exact owned.active cfg
  all_goals
    rw [Pool.set_shared, control] at generation
    have carries := owned.carries cfg generation
    have mine := here ▸ carries t
  · exact moves.available mine (owned.available cfg generation)
  · obtain ⟨active, isCfg⟩ := owned.active cfg (ControlPc.active?_of_generation? generation)
    refine Pool.forall_set (fun _ (pc : CallPc) => pc.Carries cfg s'.guard)
      (moves.carries mine active isCfg) fun other _ => ?_
    exact (carries other).of_safetySnapshot (moves.safetySnapshot mine)

omit [DecidableEq Thread] in
theorem Owned.reset (owned : Owned pool) (before : pool.shared.control.active? = some cfg)
    {control : ControlPc} (after : control = .ready cfg ∨ control = .deactivating cfg)
    (quiet : ∀ t, ¬ (pool.locals t).Capturing) :
    Owned { pool with shared := { pool.shared.setCell .uncaptured with control } } where
  written _ pub := by
    rcases after with rfl | rfl <;> cases pub
  active cfg' active := by
    have same : cfg = cfg' := by
      rcases after with rfl | rfl <;> exact Option.some.inj active
    exact same ▸ owned.active cfg before
  available _ _ avail := by cases avail
  carries cfg' _ t := CallPc.carries_of_not_capturing (quiet t) cfg' _

omit [DecidableEq Thread] in
theorem Owned.control (owned : Owned pool) (moves : ControlMoves pool.shared s')
    (quiet : Resets pool.shared s' → ∀ t, ¬ (pool.locals t).Capturing) :
    Owned { pool with shared := s' } := by
  cases moves with
  | activate _ _ _ _ _ | deactivateStore _ => exact .of_inactive rfl (by simp)
  | activateWrite _ => exact .of_inactive rfl fun _ published => ControlPc.published.inj published
  | @activateStore cfg published =>
    have written := owned.written cfg published
    refine ⟨?_, fun cfg' active => ⟨rfl, written.trans (Option.some.inj active)⟩, ?_, ?_⟩
    · simp
    · simp [ControlPc.generation?]
    · simp [ControlPc.generation?]
  | @activateReset cfg activated =>
    refine owned.reset (by rw [activated]; rfl) (.inl rfl) (quiet ?_)
    exact ⟨cfg, .inl ⟨activated, rfl⟩⟩
  | @setStopping cfg ready =>
    have generation : pool.shared.control.generation? = some cfg := by rw [ready]; rfl
    have active := ControlPc.active?_of_generation? generation
    refine ⟨by simp, fun cfg' same => ?_, fun cfg' same => ?_, fun cfg' same => ?_⟩
    · exact owned.active cfg' (active.trans same)
    · exact owned.available cfg' (generation.trans same)
    · exact owned.carries cfg' (generation.trans same)
  | @setStoppingReset cfg stopping =>
    refine owned.reset (by rw [stopping]; rfl) (.inl rfl) (quiet ?_)
    exact ⟨cfg, .inr (.inl ⟨stopping, rfl⟩)⟩
  | clearStopping _ | legacyWrite _ =>
    exact ⟨owned.written, owned.active, owned.available, owned.carries⟩
  | @deactivateReset cfg ready =>
    refine owned.reset (by rw [ready]; rfl) (.inr rfl) (quiet ?_)
    exact ⟨cfg, .inr (.inr ⟨ready, rfl⟩)⟩

theorem Owned.step {next} (owned : Owned pool) (step : Step pool next)
    (quiet : ResetsQuietly pool next) : Owned next := by
  cases step with
  | caller moves =>
    obtain ⟨t, here, moves⟩ := moves
    exact owned.caller here moves
  | control moves => exact owned.control moves quiet

end

private def CallPc.Serves : CallPc → Prop
  | .copying => guard.safetySnapshot = cfg.safetyFields
  | .returned (some limits) => limits = cfg.safetyFields
  | _ => True

theorem CallPc.Serves.of_safetySnapshot {pc : CallPc} {cfg guard guard'}
    (serves : pc.Serves cfg guard)
    (kept : guard.safetySnapshot = cfg.safetyFields → guard'.safetySnapshot = cfg.safetyFields) :
    pc.Serves cfg guard' := by
  cases pc with
  | copying => exact kept serves
  | returned limits => cases limits <;> exact serves
  | _ => trivial

theorem CallMoves.serves {s s' pc pc' cfg}
    (moves : CallMoves s pc s' pc') (serves : pc.Serves cfg s.guard)
    (carries : pc.Carries cfg s.guard)
    (avail : s.guard.safetySnapshotState = .available →
      s.guard.safetySnapshot = cfg.safetyFields) : pc'.Serves cfg s'.guard := by
  cases moves with
  | loadAvailable st | exchangeAvailable st => exact avail st
  | store => exact carries
  | copy => exact serves
  | _ => trivial

theorem ControlMoves.safetySnapshot {s s'} (moves : ControlMoves s s') :
    s'.guard.safetySnapshot = s.guard.safetySnapshot := by
  cases moves <;> rfl

theorem Owned.serves {pool next : System Thread} {cfg} (owned : Owned pool) (live : Live pool cfg)
    (step : Step pool next) {t} (serves : (pool.locals t).Serves cfg pool.shared.guard) :
    (next.locals t).Serves cfg next.shared.guard := by
  have generation : pool.shared.control.generation? = some cfg := by rw [live.1]; rfl
  have carries := owned.carries cfg generation
  cases step with
  | caller moves =>
    obtain ⟨mover, rfl, moves⟩ := moves
    rcases eq_or_ne t mover with rfl | ne
    · rw [Pool.set_self, Pool.set_shared]
      exact moves.serves serves (carries t) (owned.available cfg generation)
    · rw [Pool.set_other _ ne, Pool.set_shared]
      exact serves.of_safetySnapshot (moves.safetySnapshot (carries mover))
  | control moves => exact serves.of_safetySnapshot (moves.safetySnapshot.trans ·)

/-- If the cell is reset only while nobody captures, a call inside one live generation returns that
generation's limits. -/
theorem limits_of_live_generation {trace : ℕ → System Thread} {length : ℕ}
    (initial : Initial (trace 0)) (run : IsRun Step trace length)
    (quiet : ∀ index < length, ResetsQuietly (trace index) (trace (index + 1))) {t : Thread}
    {cfg : RuntimeConfig} {first last : ℕ} (ordered : first ≤ last) (reached : last ≤ length)
    (live : ∀ index, first ≤ index → index ≤ last → Live (trace index) cfg)
    (starts : (trace first).locals t = .idle) {limits : SafetyConfigSnapshot}
    (returns : (trace last).locals t = .returned (some limits)) : limits = cfg.safetyFields := by
  have quietRun : IsRun (fun pool next => Step pool next ∧ ResetsQuietly pool next) trace length :=
    fun index below => ⟨run index below, quiet index below⟩
  have owned := quietRun.invariant initial.owned
    fun _ _ owned step => owned.step step.1 step.2
  -- The call enters the window without having read anything, and every move keeps it honest.
  have start : ((trace first).locals t).Serves cfg (trace first).shared.guard := by
    rw [starts]
    trivial
  have serves := (run.take reached).invariant_from
    (fun pool : System Thread => (pool.locals t).Serves cfg pool.shared.guard) start
    (fun index after below step =>
      (owned index (below.le.trans reached)).serves (live index after below.le) step)
    last ordered le_rfl
  rw [returns] at serves
  exact serves

def ceilingConfig (ceiling : ℤ) : RuntimeConfig :=
  { RuntimeConfig.setDefaults with
    cooldownDownTicks := 20, cooldownUpTicks := 40, minDwellTicks := 4
    predictiveTempCeilingC := ceiling }

def twoCallers : System Bool := ⟨⟨.permissive, .inactive⟩, fun _ => .idle⟩

private theorem ceilingConfig_high :
    (ceilingConfig 92).validateGenerationConfig = .ok (ceilingConfig 92) := by decide +kernel

private theorem ceilingConfig_low :
    (ceilingConfig 60).validateGenerationConfig = .ok (ceilingConfig 60) := by decide +kernel

private theorem twoCallers_initial : Initial twoCallers := ⟨rfl, fun _ => rfl⟩

/-- The caller `false` reads the limits of the first generation. -/
def reading : Path Step twoCallers :=
  .move (.control (.activate _ _ rfl ceilingConfig_high rfl)) <|
  .move (.control (.activateWrite rfl)) <| .move (.control (.activateStore rfl)) <|
  .move (.control (.activateReset rfl)) <| .move (.control (.setStopping rfl)) <|
  .move (.control (.setStoppingReset rfl)) <| .move (.control (.clearStopping rfl)) <|
  .move (.caller (.move false rfl .call)) <|
  .move (.caller (.move false rfl (.loadUncaptured rfl))) <|
  .move (.caller (.move false rfl (.exchange rfl))) <| .move (.caller (.move false rfl .choose)) <|
  .move (.caller (.move false rfl .read)) .done

/-- It stores them after the change of generation, and the caller `true` returns them. -/
def staleCapture : Path Step twoCallers :=
  reading.append <| .move (.control (.setStopping rfl)) <|
  .move (.control (.setStoppingReset rfl)) <| .move (.control (.clearStopping rfl)) <|
  .move (.control (.deactivateReset rfl)) <| .move (.control (.deactivateStore rfl)) <|
  .move (.control (.activate _ _ rfl ceilingConfig_low rfl)) <|
  .move (.control (.activateWrite rfl)) <| .move (.control (.activateStore rfl)) <|
  .move (.control (.activateReset rfl)) <| .move (.control (.setStopping rfl)) <|
  .move (.control (.setStoppingReset rfl)) <| .move (.control (.clearStopping rfl)) <|
  .move (.caller (.move false rfl .write)) <| .move (.caller (.move false rfl .store)) <|
  .move (.caller (.move true rfl .call)) <| .move (.caller (.move true rfl (.loadAvailable rfl))) <|
  .move (.caller (.move true rfl .copy)) .done

/-- A call inside the second generation returns the first one's ceiling. -/
theorem stale_limits_in_live_generation :
    ∃ (trace : ℕ → System Bool) (length first : ℕ) (cfg : RuntimeConfig)
      (limits : SafetyConfigSnapshot),
      Initial (trace 0) ∧ IsRun Step trace length ∧ first ≤ length ∧
        (∀ index, first ≤ index → index ≤ length → Live (trace index) cfg) ∧
        (trace first).locals true = .idle ∧
        (trace length).locals true = .returned (some limits) ∧ limits ≠ cfg.safetyFields := by
  refine ⟨staleCapture.trace, 29, 26, ceilingConfig 60, (ceilingConfig 92).safetyFields,
    twoCallers_initial, staleCapture.isRun, by decide, ?_, rfl, rfl, by decide⟩
  intro index _ _
  interval_cases index <;> exact ⟨rfl, rfl⟩

def freshCapture : Path Step twoCallers :=
  reading.append <| .move (.caller (.move false rfl .write)) <|
  .move (.caller (.move false rfl .store)) <| .move (.caller (.move false rfl .copy)) .done

private theorem not_resets {s s'} (same : s'.control = s.control) : ¬ Resets s s' := by
  rintro ⟨_, ⟨before, after⟩ | ⟨before, after⟩ | ⟨before, after⟩⟩ <;>
    exact absurd (after.symm.trans (same.trans before)) (by simp)

private theorem freshCapture_quiet :
    ∀ index < 15, ResetsQuietly (freshCapture.trace index) (freshCapture.trace (index + 1)) := by
  intro index _ resets
  rcases Nat.lt_or_ge index 7 with early | late
  · -- Nobody has called yet.
    interval_cases index <;> exact fun _ => id
  · refine absurd resets (not_resets ?_)
    interval_cases index <;> rfl

/-- The call returns the generation's limits, and the theorem applies to it. -/
theorem limits_of_live_generation_fresh :
    (freshCapture.trace 15).locals false = .returned (some ⟨150, 92, 4, 10⟩) ∧
      (⟨150, 92, 4, 10⟩ : SafetyConfigSnapshot) = (ceilingConfig 92).safetyFields := by
  have live : ∀ index, 7 ≤ index → index ≤ 15 →
      Live (freshCapture.trace index) (ceilingConfig 92) := by
    intro index _ _
    interval_cases index <;> exact ⟨rfl, rfl⟩
  have returns : (freshCapture.trace 15).locals false = .returned (some ⟨150, 92, 4, 10⟩) := rfl
  exact ⟨returns, limits_of_live_generation twoCallers_initial freshCapture.isRun
    freshCapture_quiet (by decide) le_rfl live rfl returns⟩

end SafetySnapshot
end ThermalSimd
