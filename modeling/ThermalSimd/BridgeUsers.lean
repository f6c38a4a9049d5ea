import Mathlib.Tactic.IntervalCases
import ThermalSimd.FusionBridge

/-!
# Reference counting in the fusion bridge

The fusion service exists exactly while some successful start has no stop of its own yet, as long as
fewer than `2 ^ 32` of them are open; the ledger of a run lists the processors those starts named.
-/

namespace ThermalSimd.Bridge

namespace Globals

/-- What starts and stops change. -/
structure Lifecycle where
  service : Option Bool
  users : UInt32
  cpu : ℤ
  running : Bool

private def lifecycle (bridge : Globals) : Lifecycle :=
  ⟨bridge.service.map Service.running, bridge.users, bridge.cpu, bridge.running⟩

variable (bridge : Globals) (cfg : RuntimeConfig) (sample : TelemetrySample)

@[simp]
theorem lifecycle_smoothTemp :
    (bridge.smoothTemp cfg sample).lifecycle = bridge.lifecycle := rfl

@[simp]
theorem lifecycle_smoothFreq :
    (bridge.smoothFreq cfg sample).lifecycle = bridge.lifecycle := rfl

@[simp]
theorem lifecycle_recordRawSample (now) :
    (bridge.recordRawSample sample now).lifecycle = bridge.lifecycle := rfl

@[simp]
theorem lifecycle_publishTemp (now) : (bridge.publishTemp now).lifecycle = bridge.lifecycle := by
  rw [lifecycle, publishTemp, Option.map_map]
  rfl

@[simp]
theorem lifecycle_publishFreq (now) : (bridge.publishFreq now).lifecycle = bridge.lifecycle := by
  rw [lifecycle, publishFreq, Option.map_map]
  rfl

@[simp]
theorem lifecycle_updateTemperatureGate (avail entered) :
    (bridge.updateTemperatureGate avail entered).lifecycle = bridge.lifecycle := rfl

theorem running_move (service : Service) (move) :
    (service.move move).running = service.running := by
  cases move with
  | begins now | proceeds =>
    simp only [Service.move]
    split <;> rfl
  | throws => rfl

theorem running_moves (service) (moves : List WorkerMove) :
    (moves.foldl Service.move service).running = service.running := by
  induction moves generalizing service with
  | nil => rfl
  | cons move moves hypothesis =>
    rw [List.foldl_cons, hypothesis, running_move]

@[simp]
theorem lifecycle_work (moves) : (bridge.work moves).lifecycle = bridge.lifecycle := by
  rw [lifecycle, work, Option.map_map]
  have same : Service.running ∘ (fun service => moves.foldl Service.move service) =
      Service.running := funext fun service => running_moves service moves
  rw [same]
  rfl

theorem lifecycle_publishSampleTemp (env) :
    (bridge.publishSampleTemp cfg sample env).1.lifecycle = bridge.lifecycle := by
  unfold publishSampleTemp
  split_ifs <;> simp

theorem lifecycle_publishSampleFreq (env) :
    (bridge.publishSampleFreq cfg sample env).1.lifecycle = bridge.lifecycle := by
  unfold publishSampleFreq
  split_ifs <;> simp

theorem lifecycle_publishSample (env) :
    (bridge.publishSample cfg sample env).1.lifecycle = bridge.lifecycle := by
  have temp := ((bridge.recordRawSample sample env.now).work env.beforeTemp)
    |>.lifecycle_publishSampleTemp cfg sample env
  unfold publishSample
  generalize ((bridge.recordRawSample sample env.now).work env.beforeTemp).publishSampleTemp
    cfg sample env = res at temp ⊢
  rw [lifecycle_work, lifecycle_recordRawSample] at temp
  obtain ⟨_, _ | _⟩ := res
  · exact (lifecycle_publishSampleFreq _ _ _ _).trans ((lifecycle_work _ _).trans temp)
  · exact temp

theorem lifecycle_publishDirect (input) :
    (bridge.publishDirect cfg input).1.lifecycle = bridge.lifecycle := by
  unfold publishDirect
  split
  · split_ifs
    · exact bridge.lifecycle_publishSample _ _ _
    · rfl
  · rfl

theorem lifecycle_publishCall (input) :
    (bridge.publishCall cfg sample input).1.lifecycle = bridge.lifecycle := by
  apply bridge.publishCall_rule cfg fun after => after.lifecycle = bridge.lifecycle
  · intro after _ _ same
    rw [lifecycle_updateTemperatureGate, same]
  · rfl
  · exact bridge.lifecycle_publishSample cfg sample input.env

theorem lifecycle_sampleCall (input) :
    (bridge.sampleCall cfg input).1.lifecycle = bridge.lifecycle := by
  apply bridge.sampleCall_rule cfg fun after => after.lifecycle = bridge.lifecycle
  · intro after _ _ same
    rw [lifecycle_updateTemperatureGate, same]
  · intro after _ same
    rw [lifecycle_work, same]
  · rfl
  · exact bridge.lifecycle_publishDirect cfg input

theorem lifecycle_publishInitial (input) :
    (bridge.publishInitial cfg input).1.lifecycle = bridge.lifecycle := by
  unfold publishInitial
  split
  · dsimp only
    split_ifs
    · exact bridge.lifecycle_publishSample _ _ _
    · rfl
  · rfl

theorem error_publishInitial (input) : (bridge.publishInitial cfg input).2.error = none := by
  unfold publishInitial
  split <;> rfl

/-- There is no service and no user, and the raw and the filtered caches are empty. -/
structure Idle (bridge : Globals) : Prop where
  service : bridge.service = none
  users : bridge.users = 0
  cpu : bridge.cpu = -1
  running : bridge.running = false
  fusion : bridge.signal.fusion = false
  helper : bridge.signal.directHelperReady = false
  smoothedTemp : bridge.signal.smoothedTempC = none
  smoothedFreq : bridge.signal.smoothedFreqRatio = none
  rawTempValid : bridge.signal.rawTempValid = false
  rawTemp : bridge.signal.rawTempMillic = 0
  rawTempAt : bridge.signal.rawTempAt = 0
  rawFreqValid : bridge.signal.rawFreqValid = false
  rawFreq : bridge.signal.rawFreqRatioMilli = 0
  rawFreqAt : bridge.signal.rawFreqAt = 0
  temps : bridge.temps = []

theorem idle_initial : initial.Idle := by constructor <;> rfl

theorem idle_tearDown (entered) : (bridge.tearDown entered).Idle := by constructor <;> rfl

variable {bridge} (idle : bridge.Idle)
include idle

theorem Idle.permissive : bridge.temperatureUpgradeAllowed = true := by
  rw [temperatureUpgradeAllowed, idle.running]
  rfl

theorem Idle.tearDown_eq (entered) :
    bridge.tearDown entered =
      { bridge with upgradeAllowed := entered || bridge.upgradeAllowed } := by
  obtain ⟨⟨⟩, _, _, _, _, _, _⟩ := bridge
  obtain ⟨rfl, rfl, rfl, rfl, rfl, rfl, rfl, rfl, rfl, rfl, rfl, rfl, rfl, rfl, rfl⟩ := idle
  rfl

end Globals

/-- The processors of the unmatched successful starts, after one more call. -/
def nextLedger (opened : List ℤ) (error : Option Errno) : Call → List ℤ
  | .start cpu _ => if error = none then cpu :: opened else opened
  | .stop _ => opened.tail
  | .publish _ _ | .sample _ | .worker _ | .workerStops => opened

def ledger (trace : ℕ → Globals) (configs : ℕ → RuntimeConfig) (calls : ℕ → Call) : ℕ → List ℤ
  | 0 => []
  | index + 1 => nextLedger (ledger trace configs calls index)
      (replyAt trace configs calls index).error (calls index)

theorem length_ledger_le (trace configs calls index) :
    (ledger trace configs calls index).length ≤ index := by
  induction index with
  | zero => exact le_rfl
  | succ index hypothesis =>
    rw [ledger]
    generalize ledger trace configs calls index = opened at hypothesis
    cases calls index with
    | start cpu =>
      rw [nextLedger]
      split
      · exact Nat.succ_le_succ hypothesis
      · exact hypothesis.trans index.le_succ
    | stop =>
      rw [nextLedger, List.length_tail]
      omega
    | publish | sample | worker | workerStops => exact hypothesis.trans index.le_succ

/-- The bridge counts the open starts, and is idle where there are none. -/
structure Tracks (bridge : Globals) (opened : List ℤ) : Prop where
  users : bridge.users.toNat = opened.length
  cpu : ∀ cpu ∈ opened, cpu = bridge.cpu
  service : opened ≠ [] → bridge.service.map Service.running = some true
  idle : opened = [] → bridge.Idle

namespace Tracks

open Globals

variable {bridge : Globals} {opened : List ℤ} (tracks : Tracks bridge opened)
include tracks

theorem of_lifecycle {next} (busy : opened ≠ [])
    (same : next.lifecycle = bridge.lifecycle) : Tracks next opened where
  users := (congrArg (·.users.toNat) same).trans tracks.users
  cpu := fun cpu mem => (tracks.cpu cpu mem).trans (congrArg Lifecycle.cpu same).symm
  service := fun _ => (congrArg Lifecycle.service same).trans (tracks.service busy)
  idle := fun empty => absurd empty busy

theorem isSome_iff : bridge.service.isSome = true ↔ opened ≠ [] := by
  by_cases empty : opened = []
  · rw [(tracks.idle empty).service]
    simp [empty]
  · have running := tracks.service empty
    cases service : bridge.service with
    | none => simp [service] at running
    | some => simp [empty]

theorem live_iff : bridge.Live ↔ opened ≠ [] := by
  unfold Live
  by_cases empty : opened = []
  · rw [(tracks.idle empty).service]
    simp [empty]
  · rw [tracks.service empty]
    simp [empty]

theorem of_kept {next} (same : next.lifecycle = bridge.lifecycle)
    (absent : bridge.service = none → next = bridge) : Tracks next opened := by
  by_cases empty : opened = []
  · rw [absent (tracks.idle empty).service]
    exact tracks
  · exact tracks.of_lifecycle empty same

theorem start (cfg cpu input)
    (few : (if (bridge.startUnlocked cfg cpu input).2.error = none then cpu :: opened
      else opened).length < 2 ^ 32) :
    Tracks (bridge.startUnlocked cfg cpu input).1
      (if (bridge.startUnlocked cfg cpu input).2.error = none then cpu :: opened else opened) := by
  have out := bridge.startUnlocked_outcome cfg cpu input
  generalize bridge.startUnlocked cfg cpu input = result at out few ⊢
  cases out with
  | refused error => exact tracks
  | shared live same =>
    refine ⟨?_, ?_, fun _ => tracks.service (tracks.live_iff.mp live), nofun⟩
    · have next : (bridge.users + 1).toNat = bridge.users.toNat + 1 := by
        rw [UInt32.toNat_add, tracks.users]
        exact Nat.mod_eq_of_lt few
      simp [Reply.bare, next, tracks.users]
    · simpa [Reply.bare, same] using tracks.cpu
  | failed stopped error =>
    have empty : opened = [] := not_not.mp (mt tracks.live_iff.mpr stopped)
    subst empty
    exact ⟨rfl, nofun, fun busy => absurd rfl busy, fun _ => bridge.idle_tearDown _⟩
  | opened stopped =>
    have empty : opened = [] := not_not.mp (mt tracks.live_iff.mpr stopped)
    subst empty
    have life := (bridge.started cfg cpu input.helper).lifecycle_publishInitial cfg input
    rw [if_pos (error_publishInitial _ cfg input)]
    refine ⟨congrArg (·.users.toNat) life, ?_, fun _ => congrArg Lifecycle.service life, nofun⟩
    intro _ mem
    rw [List.mem_singleton.mp mem]
    exact (congrArg Lifecycle.cpu life).symm

theorem stop (busy : opened ≠ []) (entered) : Tracks (bridge.stop entered).1 opened.tail := by
  unfold Globals.stop
  have users := tracks.users
  simp only [UInt32.lt_iff_toNat_lt, UInt32.toNat_one]
  split
  · next several =>
      refine ⟨?_, fun cpu member => tracks.cpu cpu (List.mem_of_mem_tail member),
        fun _ => tracks.service busy, fun empty => ?_⟩
      · have one : (1 : UInt32) ≤ bridge.users := UInt32.le_iff_toNat_le.mpr several.le
        rw [UInt32.toNat_sub_of_le _ _ one, users, List.length_tail]
        rfl
      · have short := congrArg List.length empty
        rw [List.length_tail, List.length_nil] at short
        omega
  · have last : opened.tail = [] := by
      apply List.eq_nil_of_length_eq_zero
      rw [List.length_tail]
      omega
    rw [last]
    exact ⟨rfl, by simp, by simp, fun _ => bridge.idle_tearDown _⟩

theorem perform (cfg call)
    (matched : ∀ entered, call = .stop entered → opened ≠ []) (loyal : call ≠ .workerStops)
    (few : (nextLedger opened (bridge.perform cfg call).2.error call).length < 2 ^ 32) :
    Tracks (bridge.perform cfg call).1
      (nextLedger opened (bridge.perform cfg call).2.error call) := by
  cases call with
  | start cpu input => exact tracks.start cfg cpu input few
  | stop entered => exact tracks.stop (matched entered rfl) entered
  | publish sample input =>
    refine tracks.of_kept (bridge.lifecycle_publishCall cfg sample input) fun absent => ?_
    rw [Globals.perform, publishCall, if_pos absent]
  | sample input =>
    refine tracks.of_kept (bridge.lifecycle_sampleCall cfg input) fun absent => ?_
    rw [Globals.perform, sampleCall, if_pos absent]
  | worker move =>
    refine tracks.of_kept (bridge.lifecycle_work [move]) fun absent => ?_
    rw [Globals.perform, work, absent]
    exact congrArg (fun service => { bridge with service }) absent.symm
  | workerStops => exact absurd rfl loyal

end Tracks

theorem CallRun.tracks {trace configs calls length} (run : CallRun trace configs calls length)
    (matched : ∀ i < length, ∀ entered, calls i = .stop entered → ledger trace configs calls i ≠ [])
    (loyal : ∀ i < length, calls i ≠ .workerStops)
    (few : ∀ i ≤ length, (ledger trace configs calls i).length < 2 ^ 32) :
    ∀ i ≤ length, Tracks (trace i) (ledger trace configs calls i) := by
  intro i within
  induction i with
  | zero =>
    rw [run.start]
    exact ⟨rfl, by simp [ledger], by simp [ledger], fun _ => Globals.idle_initial⟩
  | succ i hypothesis =>
    have tracks := hypothesis (Nat.le_of_succ_le within)
    have next := few (i + 1) within
    rw [run.steps i within]
    exact tracks.perform _ _ (matched i within) (loyal i within) next

theorem Tracks.start_other {bridge opened} (tracks : Tracks bridge opened) (cfg)
    {cpu other} (input) (mem : other ∈ opened) (different : other ≠ cpu) :
    (bridge.startUnlocked cfg cpu input).2.error ≠ none ∧
      (bridge.startUnlocked cfg cpu input).1 = bridge := by
  have busy := tracks.live_iff.mpr (List.ne_nil_of_mem mem)
  have out := bridge.startUnlocked_outcome cfg cpu input
  generalize bridge.startUnlocked cfg cpu input = res at out ⊢
  cases out with
  | refused error => exact ⟨nofun, rfl⟩
  | shared _ same => exact absurd ((tracks.cpu other mem).trans same.symm) different
  | failed stopped error | opened stopped => exact absurd busy stopped

theorem Globals.Idle.start_failed {bridge : Globals} (idle : bridge.Idle) (cfg cpu input)
    (failed : (bridge.startUnlocked cfg cpu input).2.error ≠ none) :
    (bridge.startUnlocked cfg cpu input).1 = bridge ∨
      (bridge.startUnlocked cfg cpu input).1 = bridge.tearDown input.entered := by
  have out := bridge.startUnlocked_outcome cfg cpu input
  generalize bridge.startUnlocked cfg cpu input = res at out failed ⊢
  cases out with
  | refused error => exact Or.inl rfl
  | shared live =>
    rw [Globals.Live, idle.service] at live
    cases live
  | failed stopped error => exact Or.inr rfl
  | opened stopped => exact absurd (Globals.error_publishInitial _ _ _) failed

/-- The service exists exactly while a successful start is unmatched, and these name one processor,
while fewer than `2 ^ 32` are. A failed start changes nothing, and the last stop clears up. -/
theorem service_exists_iff_unmatched {trace : ℕ → Globals} {configs : ℕ → RuntimeConfig}
    {calls : ℕ → Call} {length : ℕ} (run : CallRun trace configs calls length)
    (matched : ∀ index < length, ∀ entered, calls index = .stop entered →
      ledger trace configs calls index ≠ [])
    (loyal : ∀ index < length, calls index ≠ .workerStops)
    (few : ∀ index ≤ length, (ledger trace configs calls index).length < 2 ^ 32) :
    (∀ index ≤ length,
      ((trace index).service.isSome = true ↔ ledger trace configs calls index ≠ []) ∧
      (trace index).users.toNat = (ledger trace configs calls index).length ∧
      ∀ cpu ∈ ledger trace configs calls index, cpu = (trace index).cpu) ∧
    (∀ index < length, ∀ cpu input, calls index = .start cpu input →
      (∀ other ∈ ledger trace configs calls index, other ≠ cpu →
        (replyAt trace configs calls index).error ≠ none ∧ trace (index + 1) = trace index) ∧
      (ledger trace configs calls index = [] →
        (replyAt trace configs calls index).error ≠ none →
        (trace (index + 1)).Idle ∧ (trace (index + 1)).temperatureUpgradeAllowed = true ∧
        ∃ allowed, ((trace index).upgradeAllowed = true → allowed = true) ∧
          trace (index + 1) = { trace index with upgradeAllowed := allowed })) ∧
    (∀ index < length, ∀ entered, calls index = .stop entered →
      (ledger trace configs calls index).length = 1 →
      (trace (index + 1)).Idle ∧ (trace (index + 1)).temperatureUpgradeAllowed = true ∧
      (entered = true → (trace (index + 1)).upgradeAllowed = true)) := by
  have tracks := run.tracks matched loyal few
  refine ⟨fun index within => ?_, fun index within cpu input called => ⟨?_, ?_⟩, ?_⟩
  · have here := tracks index within
    exact ⟨here.isSome_iff, here.users, here.cpu⟩
  · intro other member different
    have here := (tracks index (Nat.le_of_lt within)).start_other (configs index) input member
      different
    rw [replyAt, run.steps index within, called]
    exact here
  · intro empty failed
    have idle := (tracks index (Nat.le_of_lt within)).idle empty
    rw [replyAt, called] at failed
    have outcome : trace (index + 1) = trace index ∨
        trace (index + 1) = (trace index).tearDown input.entered := by
      rw [run.steps index within, called]
      exact idle.start_failed (configs index) cpu input failed
    rcases outcome with same | torn
    · rw [same]
      exact ⟨idle, idle.permissive, _, id, rfl⟩
    · have rest := (trace index).idle_tearDown input.entered
      rw [torn]
      refine ⟨rest, rest.permissive, _, fun allowed => ?_, idle.tearDown_eq input.entered⟩
      simp [allowed]
  · intro index within entered called last
    have one : ¬ 1 < (trace index).users := by
      rw [UInt32.lt_iff_toNat_lt, (tracks index (Nat.le_of_lt within)).users, last]
      exact lt_irrefl _
    have torn : trace (index + 1) = (trace index).tearDown entered := by
      rw [run.steps index within, called, Globals.perform, Globals.stop, if_neg one]
    have rest := (trace index).idle_tearDown entered
    rw [torn]
    refine ⟨rest, rest.permissive, fun taken => ?_⟩
    simp [Globals.tearDown, taken]

/-- The worker does not move while the bridge publishes at time `now`. -/
def PublishEnv.quiet (now : ℕ) : PublishEnv := ⟨now, .none, [], []⟩

/-- A start at time `now` whose helper reads the given temperature. -/
def StartInput.reading (now : ℕ) (temp : Option ℤ) : StartInput :=
  ⟨none, true, ⟨temp, none⟩, .quiet now, true⟩

def sharedCalls : ℕ → Call
  | 0 => .start 2 { StartInput.reading 10 none with fault := some .enomem }
  | 1 => .start 2 (.reading 20 (some 50000))
  | 2 => .start 3 (.reading 30 (some 50000))
  | 3 => .start 2 (.reading 40 (some 50000))
  | _ => .stop true

def sharedTrace : ℕ → Globals := follow (fun _ => .setDefaults) sharedCalls

theorem service_exists_iff_unmatched_shared :
    ledger sharedTrace (fun _ => .setDefaults) sharedCalls 4 = [2, 2] ∧
      sharedTrace 3 = sharedTrace 2 ∧ (sharedTrace 6).Idle := by
  have opened : ledger sharedTrace (fun _ => .setDefaults) sharedCalls 4 = [2, 2] := by
    decide +kernel
  have left : ledger sharedTrace (fun _ => .setDefaults) sharedCalls 5 = [2] := by
    rw [ledger, opened]
    rfl
  have counted := service_exists_iff_unmatched (follow_run (fun _ => .setDefaults) sharedCalls 6)
    (by
      intro index within _ called
      interval_cases index
      any_goals cases called
      · exact opened ▸ List.cons_ne_nil _ _
      · exact left ▸ List.cons_ne_nil _ _)
    (by
      intro index within called
      interval_cases index <;> cases called)
    (fun index within =>
      (length_ledger_le _ _ _ index).trans_lt (within.trans_lt (by decide)))
  have other := (counted.2.1 2 (by decide) 3 _ rfl).1 2 (by decide +kernel) (by decide)
  have last := counted.2.2 5 (by decide) true rfl (congrArg List.length left)
  exact ⟨opened, other.2, last.1⟩

/-- `2 ^ 32` starts for one processor, and a stop. -/
def crowdedCalls (index : ℕ) : Call :=
  if index < 2 ^ 32 then .start 2 (.reading 20 none) else .stop true

def crowdedTrace : ℕ → Globals := follow (fun _ => .setDefaults) crowdedCalls

theorem start_shared {bridge : Globals} (live : bridge.Live) (same : bridge.cpu = 2) (input) :
    bridge.startUnlocked .setDefaults 2 input =
      ({ bridge with users := bridge.users + 1 }, .bare none none) := by
  have noProfile : ¬ Globals.HasProfile .setDefaults := by decide
  rw [Globals.startUnlocked, if_neg (by decide), if_neg noProfile, if_pos live,
    if_neg (not_not.mpr same.symm)]

theorem crowded (index : ℕ) (within : index < 2 ^ 32) :
    (crowdedTrace (index + 1)).Live ∧ (crowdedTrace (index + 1)).cpu = 2 ∧
      (crowdedTrace (index + 1)).users = .ofNat (index + 1) ∧
      ledger crowdedTrace (fun _ => .setDefaults) crowdedCalls (index + 1) =
        List.replicate (index + 1) 2 := by
  have call : crowdedCalls index = .start 2 (.reading 20 none) := if_pos within
  induction index with
  | zero => decide +kernel
  | succ index hypothesis =>
    have earlier := Nat.lt_of_succ_lt within
    obtain ⟨live, same, users, opened⟩ := hypothesis earlier (if_pos earlier)
    have starts := start_shared live same (.reading 20 none)
    have next : crowdedTrace (index + 2) =
        { crowdedTrace (index + 1) with users := (crowdedTrace (index + 1)).users + 1 } := by
      rw [crowdedTrace, follow, ← crowdedTrace, call, Globals.perform, starts]
    rw [next, ledger, opened, replyAt, call, Globals.perform, starts, List.replicate_succ]
    refine ⟨live, same, ?_, rfl⟩
    exact (congrArg (· + 1) users).trans (UInt32.ofNat_add (index + 1) 1).symm

/-- After `2 ^ 32` starts the count is zero, and one stop ends the service of all others. -/
theorem service_lost_after_wrap :
    CallRun crowdedTrace (fun _ => .setDefaults) crowdedCalls (2 ^ 32 + 1) ∧
      (∀ index < 2 ^ 32 + 1, ∀ entered, crowdedCalls index = .stop entered →
        ledger crowdedTrace (fun _ => .setDefaults) crowdedCalls index ≠ []) ∧
      (∀ index < 2 ^ 32 + 1, crowdedCalls index ≠ .workerStops) ∧
      ledger crowdedTrace (fun _ => .setDefaults) crowdedCalls (2 ^ 32 + 1) ≠ [] ∧
      (crowdedTrace (2 ^ 32 + 1)).service = none := by
  obtain ⟨last, whole⟩ : ∃ last, last + 2 = 2 ^ 32 := ⟨2 ^ 32 - 2, rfl⟩
  obtain ⟨-, -, users, opened⟩ := crowded (last + 1) (by omega)
  have call : crowdedCalls (last + 2) = .stop true := if_neg (by omega)
  have ends : ¬ 1 < (crowdedTrace (last + 2)).users := by
    rw [users, whole]
    decide
  rw [← whole]
  refine ⟨follow_run _ _ _, fun index within entered stops => ?_, fun index _ => ?_, ?_, ?_⟩
  · have atLast : index = last + 2 := by
      by_contra earlier
      rw [crowdedCalls, if_pos (by omega)] at stops
      cases stops
    rw [atLast, opened, List.replicate_succ]
    exact List.cons_ne_nil _ _
  · unfold crowdedCalls
    split <;> nofun
  · rw [ledger, call, opened]
    exact List.cons_ne_nil _ _
  · rw [crowdedTrace, follow, ← crowdedTrace, call, Globals.perform, Globals.stop, if_neg ends]
    rfl

end ThermalSimd.Bridge
