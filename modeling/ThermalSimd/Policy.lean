import ThermalSimd.MonitorSteps

/-!
# The dispatcher policy

`dispatcher_policy.cpp` over its predictive controller, and the monitor that consults it. The
controller's costs enter as the results of its comparisons, and exceptions as inputs.
-/

namespace ThermalSimd

/-- What one call of `MPCController::recommend` finds. -/
structure ControllerInput where
  usable : Bool
  /-- `candidate_cost + kStabilityMargin < best_cost` for the candidate. -/
  beats : SimdWidth → Bool
  /-- `current_cost - best_cost` reaches `kMinImprovement`. -/
  improves : Bool

namespace ControllerInput

variable (input : ControllerInput) (current maxWidth : SimdWidth)

/-- `evaluate_width`: the best width after one more candidate. -/
def evaluateWidth (maxWidth best candidate : SimdWidth) : SimdWidth :=
  if candidate ≤ maxWidth ∧ input.beats candidate = true then candidate else best

/-- The best width of `MPCController::recommend`; the current one is evaluated first. -/
def bestWidth : SimdWidth :=
  [.sse41, .avx2, .avx512].foldl (input.evaluateWidth maxWidth) current

/-- `MPCController::recommend`. -/
def recommend : Option SimdWidth :=
  if input.usable = false then none
  else if input.bestWidth current maxWidth = current then none
  else if input.improves = false then none
  else some (input.bestWidth current maxWidth)

theorem bestWidth_le :
    input.bestWidth current maxWidth = current ∨ input.bestWidth current maxWidth ≤ maxWidth := by
  suffices fold : ∀ (candidates : List SimdWidth) (best),
      best = current ∨ best ≤ maxWidth →
        candidates.foldl (input.evaluateWidth maxWidth) best = current ∨
          candidates.foldl (input.evaluateWidth maxWidth) best ≤ maxWidth from
    fold _ _ (.inl rfl)
  intro candidates
  induction candidates with
  | nil => exact fun best before => before
  | cons candidate candidates ih =>
    refine fun best before => ih _ ?_
    unfold evaluateWidth
    split
    · next within => exact .inr within.1
    · exact before

theorem le_of_recommend {input : ControllerInput} {current maxWidth target}
    (recommends : input.recommend current maxWidth = some target) : target ≤ maxWidth := by
  unfold recommend at recommends
  split_ifs at recommends with unusable same small
  cases recommends
  exact (input.bestWidth_le current maxWidth).resolve_left same

end ControllerInput

/-- What `snapshot_runtime_limits` copies. -/
structure PolicyLimits where
  tempCeilingC : ℤ
  safetyMarginC : ℤ
  emergencyMarginC : ℤ
  deriving DecidableEq

namespace PolicyLimits

/-- `runtime_temperature_limits_valid`. -/
def Valid (limits : PolicyLimits) : Prop :=
  (20 ≤ limits.tempCeilingC ∧ limits.tempCeilingC ≤ 125) ∧
    (0 ≤ limits.safetyMarginC ∧ limits.safetyMarginC ≤ 60) ∧
    0 ≤ limits.emergencyMarginC ∧ limits.emergencyMarginC ≤ 60
  deriving Decidable

/-- `upgrade_temperature_limit_millic`; `INT64_MIN` for limits out of range. -/
def upgradeTemperatureLimitMillic (limits : PolicyLimits) : ℤ :=
  if limits.Valid then (limits.tempCeilingC - limits.safetyMarginC) * 1000 else -2 ^ 63

/-- `emergency_temperature_limit_millic`; `INT64_MIN` for limits out of range. -/
def emergencyTemperatureLimitMillic (limits : PolicyLimits) : ℤ :=
  if limits.Valid then (limits.tempCeilingC + limits.emergencyMarginC) * 1000 else -2 ^ 63

end PolicyLimits

/-- `DispatcherPolicyState`, without its controller. -/
structure PolicyState where
  fallbackActive : Bool
  lastTempAvailable : Bool
  lastTempMillic : ℤ
  haveSample : Bool
  limits : PolicyLimits
  deriving DecidableEq

/-- What the policy's calls in one iteration read, and which of them throw. -/
structure PolicyInput where
  /-- The limits of `tsd_runtime_config_active_snapshot`. -/
  limits : PolicyLimits
  reloadThrows : Bool
  recordThrows : Bool
  recommendThrows : Bool
  controller : ControllerInput
  resetThrows : Bool

namespace PolicyState

variable (state : PolicyState)

/-- `tsd_dispatcher_policy_create`, where it succeeds. -/
def create (limits : PolicyLimits) : PolicyState := ⟨false, false, 0, false, limits⟩

/-- `enter_fail_closed`. -/
def enterFailClosed : PolicyState := { state with fallbackActive := true }

/-- `tsd_dispatcher_policy_reset`. -/
def reset (limits : PolicyLimits) (throws : Bool) : PolicyState :=
  if throws then { state with limits := limits }.enterFailClosed else create limits

/-- `tsd_dispatcher_policy_record`. -/
def record (eval : ThermalEval) (throws : Bool) : PolicyState :=
  let recorded :=
    { state with
      lastTempAvailable := eval.telemetry.tempAvailable
      lastTempMillic := eval.telemetry.packageTempMillic
      haveSample := true }
  if throws then recorded.enterFailClosed else recorded

/-- `tsd_dispatcher_policy_force_fallback`. -/
def forceFallback : PolicyState := { state with fallbackActive := true }

/-- `tsd_dispatcher_policy_reload`. -/
def reload (throws : Bool) : PolicyState := if throws then state.enterFailClosed else state

def failClosedTarget (current : SimdWidth) : Option SimdWidth :=
  if .sse41 < current then some .sse41 else none

def Emergency : Prop :=
  state.haveSample = true ∧ state.lastTempAvailable = true ∧
    state.limits.emergencyTemperatureLimitMillic ≤ state.lastTempMillic
  deriving Decidable

def UpgradeAllowed : Prop :=
  state.haveSample = true ∧ state.lastTempAvailable = true ∧
    state.lastTempMillic ≤ state.limits.upgradeTemperatureLimitMillic
  deriving Decidable

/-- `tsd_dispatcher_policy_recommend`: the state it leaves and the target, if any. -/
def recommend (current maxWidth : SimdWidth) (input : PolicyInput) :
    PolicyState × Option SimdWidth :=
  if state.fallbackActive then (state, failClosedTarget current)
  else if .sse41 < current ∧ state.Emergency then (state, some .sse41)
  else if input.recommendThrows then (state.enterFailClosed, failClosedTarget current)
  else
    match input.controller.recommend current maxWidth with
    | none => (state, none)
    | some target =>
      if current < target ∧ ¬ state.UpgradeAllowed then (state, none) else (state, some target)

theorem le_of_failClosedTarget {current target}
    (named : failClosedTarget current = some target) : target = .sse41 := by
  unfold failClosedTarget at named
  split at named <;> cases named
  rfl

theorem le_of_recommend {state : PolicyState} {current maxWidth target input}
    (recommends : (state.recommend current maxWidth input).2 = some target) :
    target ≤ maxWidth := by
  unfold recommend at recommends
  split at recommends
  · rw [le_of_failClosedTarget recommends]
    exact SimdWidth.sse41_le _
  split at recommends
  · cases recommends
    exact SimdWidth.sse41_le _
  split at recommends
  · rw [le_of_failClosedTarget recommends]
    exact SimdWidth.sse41_le _
  split at recommends
  · cases recommends
  · next _ decides =>
    split at recommends <;> cases recommends
    exact ControllerInput.le_of_recommend decides

theorem recommend_of_fallback {state : PolicyState} (fallback : state.fallbackActive = true)
    (current maxWidth input) :
    state.recommend current maxWidth input = (state, failClosedTarget current) := by
  rw [recommend, if_pos fallback]

def handle (input : PolicyInput) : MonitorEvent → PolicyState
  | .policyReload => state.reload input.reloadThrows
  | .policyRecord eval _ => state.record eval input.recordThrows
  | .policyReset => state.reset input.limits input.resetThrows
  | .policyFallback => state.forceFallback
  | .heartbeat _ | .forced _ | .dwelt _ _ | .patched _ _ _ => state

end PolicyState

/-- The monitor with its policy. -/
structure Governed where
  monitor : Monitor
  policy : PolicyState

namespace Governed

variable (env : MonitorEnv) (governed : Governed) (input : SampleInput) (policy : PolicyInput)

/-- The policy after the calls before `tsd_dispatcher_policy_recommend`. -/
def informed : PolicyState :=
  (Monitor.policyEvents env input (governed.monitor.observation env input).eval).foldl
    (fun state event => state.handle policy event) governed.policy

/-- What `tsd_dispatcher_policy_recommend` leaves and answers, if it is called. -/
def consulted : PolicyState × Option SimdWidth :=
  if env.policy = true ∧ governed.monitor.Optimises env input then
    (governed.informed env input policy).recommend input.width env.maxWidth policy
  else (governed.informed env input policy, none)

def advised : SampleInput :=
  { input with recommendation := (governed.consulted env input policy).2 }

def nextPolicy : PolicyState :=
  ((governed.monitor.observed env (governed.advised env input policy)).act env
      (governed.advised env input policy)
      (governed.monitor.observation env (governed.advised env input policy))).2.foldl
    (fun state event => state.handle policy event) (governed.consulted env input policy).1

def sample : Governed where
  monitor := (governed.monitor.sample env (governed.advised env input policy)).1
  policy := governed.nextPolicy env input policy

end Governed

/-- Iterations of both from their start. -/
structure GovernedRun (env : MonitorEnv) (trace : ℕ → Governed) (inputs : ℕ → SampleInput)
    (policies : ℕ → PolicyInput) (length : ℕ) : Prop where
  start : ∃ input limits, trace 0 = ⟨.start env input, .create limits⟩
  samples : ∀ index < length,
    trace (index + 1) = (trace index).sample env (inputs index) (policies index)

theorem GovernedRun.monitorRun {env trace inputs policies length}
    (run : GovernedRun env trace inputs policies length) :
    MonitorRun env (fun i => (trace i).monitor)
      (fun i => (trace i).advised env (inputs i) (policies i)) length where
  start := by
    obtain ⟨input, _, start⟩ := run.start
    exact ⟨input, by rw [start]⟩
  samples := fun i lt => by
    rw [run.samples i lt, Governed.sample]

theorem Governed.le_of_recommendation {env} {governed : Governed} {input policy target}
    (told : (governed.advised env input policy).recommendation = some target) :
    target ≤ env.maxWidth := by
  change (governed.consulted env input policy).2 = some target at told
  unfold consulted at told
  split at told
  · exact PolicyState.le_of_recommend told
  · cases told

end ThermalSimd
