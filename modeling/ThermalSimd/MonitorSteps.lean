import ThermalSimd.MonitorSafety

/-!
# What an iteration of the monitor does

The branches of `thermal_monitor_thread`: when each is taken, what it leaves in the thread's
variables and which widths it asks for.
-/

namespace ThermalSimd

/-- A call of `tsd_trampoline_patch` by the monitor. -/
structure Patch where
  kind : TransitionKind
  target : SimdWidth
  succeeds : Bool
  deriving DecidableEq

/-- The calls of `tsd_trampoline_patch` among the events of an iteration, in order. -/
def patches : List MonitorEvent → List Patch :=
  List.filterMap fun
    | .patched kind target succeeds => some ⟨kind, target, succeeds⟩
    | _ => none

@[simp]
theorem patches_append (first second) :
    patches (first ++ second) = patches first ++ patches second :=
  List.filterMap_append

@[simp]
theorem patches_recordDwellMetric (width dwellMs) :
    patches (recordDwellMetric width dwellMs) = [] := by
  unfold recordDwellMetric
  split <;> rfl

@[simp]
theorem patches_policyEvents (env input eval) :
    patches (Monitor.policyEvents env input eval) = [] := by
  unfold Monitor.policyEvents
  split_ifs <;> rfl

namespace Monitor

variable (env : MonitorEnv) (monitor : Monitor) (input : SampleInput)

/-- The branch an iteration takes. -/
inductive Branch
  /-- After `force_sse_safety`. -/
  | safety
  | unmeasured
  | gated
  | predictive
  | counted
  deriving DecidableEq

def observed : Monitor := (monitor.observe env input).1

def observation : Observation := (monitor.observe env input).2

@[simp]
theorem throttleCount_observed :
    (monitor.observed env input).throttleCount = monitor.throttleCount :=
  rfl

@[simp]
theorem stableCount_observed : (monitor.observed env input).stableCount = monitor.stableCount := rfl

/-- The iteration calls `force_sse_safety`. -/
def SafetyCalled : Prop :=
  (monitor.observation env input).softwareTimeout = true ∨
    EmergencyTemperatureExceeded env.cfg (monitor.observation env input).eval.telemetry
  deriving Decidable

def Unmeasured : Prop := (monitor.observation env input).eval.performanceAvailable = false
  deriving Decidable

def Gated : Prop :=
  input.nowMs < monitor.cooldownUntilMs ∨
    (monitor.observation env input).dwellMs <
      nonnegativeMs (env.cfg.effectiveMinDwellMs input.degraded)
  deriving Decidable

def Optimises : Prop :=
  ¬ monitor.SafetyCalled env input ∧ ¬ monitor.Unmeasured env input ∧ ¬ monitor.Gated env input
  deriving Decidable

def target : SimdWidth :=
  (monitor.observed env input).predictiveTarget env input (monitor.observation env input).eval

/-- The branch that is taken. -/
def branch : Branch :=
  if monitor.SafetyCalled env input then .safety
  else if monitor.Unmeasured env input then .unmeasured
  else if monitor.Gated env input then .gated
  else if monitor.target env input ≠ input.width ∧ input.predictivePatch = true then .predictive
  else .counted

/-- The counters are used. -/
def Counted : Prop := monitor.branch env input = .counted
  deriving Decidable

def Throttles : Prop := (monitor.observation env input).throttles = true
  deriving Decidable

theorem counted_iff : monitor.Counted env input ↔ monitor.Optimises env input ∧
    ¬ (monitor.target env input ≠ input.width ∧ input.predictivePatch = true) := by
  rw [Counted, branch, Optimises]
  split_ifs <;> simp_all

def DowngradeDue : Prop :=
  env.cfg.effectiveDownCount input.degraded ≤ monitor.throttleCount + 1 ∧ .sse41 < input.width

def UpgradeDue : Prop :=
  env.cfg.effectiveUpCount input.degraded ≤ monitor.stableCount + 1 ∧ input.width < env.maxWidth

def UpgradeClear : Prop :=
  (monitor.observed env input).UpgradeAllowed env (monitor.observation env input).eval
    input.transitionsForHysteresis

def downgradeTarget : SimdWidth :=
  if input.transitionsForHysteresis = false ∧ .sse41 < input.width.narrower then .sse41
  else input.width.narrower

def throttled : Monitor :=
  { monitor with throttleCount := monitor.throttleCount + 1, stableCount := 0 }

def saturated (downCount : ℤ) : Monitor :=
  { monitor with throttleCount := downCount, stableCount := 0, cooldownUntilMs := 0 }

def stabler : Monitor :=
  { monitor with throttleCount := 0, stableCount := monitor.stableCount + 1 }

def unsettled : Monitor := { monitor with throttleCount := 0, stableCount := 0 }

/-- How the counted part of an iteration ends. -/
inductive HysteresisOutcome : Monitor → List Patch → Prop
  | throttled (throttles : monitor.Throttles env input) (wait : ¬ monitor.DowngradeDue env input) :
      HysteresisOutcome (monitor.observed env input).throttled []
  | downgraded (throttles : monitor.Throttles env input) (due : monitor.DowngradeDue env input)
      (succeeds : input.hysteresisPatch = true) :
      HysteresisOutcome
        ((monitor.observed env input).moved input.nowMs
          (env.cfg.effectiveCooldownDownMs input.degraded))
        [⟨.hysteresis, downgradeTarget input, true⟩]
  | downgradeFailed (throttles : monitor.Throttles env input) (due : monitor.DowngradeDue env input)
      (fails : input.hysteresisPatch = false) :
      HysteresisOutcome
        ((monitor.observed env input).saturated (env.cfg.effectiveDownCount input.degraded))
        [⟨.hysteresis, downgradeTarget input, false⟩]
  | stable (calm : ¬ monitor.Throttles env input) (wait : ¬ monitor.UpgradeDue env input) :
      HysteresisOutcome (monitor.observed env input).stabler []
  | blocked (calm : ¬ monitor.Throttles env input) (due : monitor.UpgradeDue env input)
      (blocks : ¬ monitor.UpgradeClear env input) :
      HysteresisOutcome (monitor.observed env input).unsettled []
  | upgraded (calm : ¬ monitor.Throttles env input) (due : monitor.UpgradeDue env input)
      (clear : monitor.UpgradeClear env input) (succeeds : input.hysteresisPatch = true) :
      HysteresisOutcome
        ((monitor.observed env input).moved input.nowMs
          (env.cfg.effectiveCooldownUpMs input.degraded))
        [⟨.hysteresis, input.width.wider, true⟩]
  | upgradeFailed (calm : ¬ monitor.Throttles env input) (due : monitor.UpgradeDue env input)
      (clear : monitor.UpgradeClear env input) (fails : input.hysteresisPatch = false) :
      HysteresisOutcome (monitor.observed env input).unsettled
        [⟨.hysteresis, input.width.wider, false⟩]

theorem hysteresis_outcome :
    monitor.HysteresisOutcome env input
      ((monitor.observed env input).hysteresis env input (monitor.observation env input)).1
      (patches ((monitor.observed env input).hysteresis env input
        (monitor.observation env input)).2) := by
  unfold hysteresis
  dsimp only
  split
  · next throttles =>
    split
    · next due =>
      split
      · next succeeds =>
        rw [patches_append, patches_recordDwellMetric, succeeds]
        exact .downgraded throttles due succeeds
      · next fails =>
        rw [patches_append, patches_recordDwellMetric, Bool.eq_false_of_not_eq_true fails]
        exact .downgradeFailed throttles due (Bool.eq_false_of_not_eq_true fails)
    · next wait => exact .throttled throttles wait
  · next calm =>
    split
    · next due =>
      split
      · next blocks => exact .blocked calm due blocks
      · next clear =>
        split
        · next succeeds =>
          rw [patches_append, patches_recordDwellMetric, succeeds]
          exact .upgraded calm due (not_not.mp clear) succeeds
        · next fails =>
          rw [patches_append, patches_recordDwellMetric, Bool.eq_false_of_not_eq_true fails]
          exact .upgradeFailed calm due (not_not.mp clear) (Bool.eq_false_of_not_eq_true fails)
    · next wait => exact .stable calm wait

def failedPrediction : List Patch :=
  if monitor.target env input = input.width then []
  else [⟨.predictive, monitor.target env input, false⟩]

def predictiveCooldownMs : ℤ :=
  if monitor.target env input < input.width then env.cfg.effectiveCooldownDownMs input.degraded
  else env.cfg.effectiveCooldownUpMs input.degraded

/-- How an iteration ends: its branch, the monitor left, and the requests. -/
inductive Outcome : Branch → Monitor → List Patch → Prop
  | settled (called : monitor.SafetyCalled env input) (narrow : input.safetyWidth = .sse41) :
      Outcome .safety
        ((monitor.observed env input).moved input.nowMs
          (env.cfg.effectiveCooldownDownMs input.degraded)) []
  | forced (called : monitor.SafetyCalled env input) (wide : input.safetyWidth ≠ .sse41)
      (succeeds : input.safetyPatch = true) :
      Outcome .safety
        ((monitor.observed env input).moved input.nowMs
          (env.cfg.effectiveCooldownDownMs input.degraded)) [⟨.safety, .sse41, true⟩]
  | refused (called : monitor.SafetyCalled env input) (wide : input.safetyWidth ≠ .sse41)
      (fails : input.safetyPatch = false) :
      Outcome .safety
        ((monitor.observed env input).saturated (env.cfg.effectiveDownCount input.degraded))
        [⟨.safety, .sse41, false⟩]
  | unmeasured (uncalled : ¬ monitor.SafetyCalled env input)
      (unmeasured : monitor.Unmeasured env input) :
      Outcome .unmeasured { monitor.observed env input with stableCount := 0 } []
  | gated (uncalled : ¬ monitor.SafetyCalled env input) (measured : ¬ monitor.Unmeasured env input)
      (gated : monitor.Gated env input) :
      Outcome .gated (monitor.observed env input) []
  | predictive (optimises : monitor.Optimises env input)
      (asks : monitor.target env input ≠ input.width) (succeeds : input.predictivePatch = true) :
      Outcome .predictive
        ((monitor.observed env input).moved input.nowMs (monitor.predictiveCooldownMs env input))
        [⟨.predictive, monitor.target env input, true⟩]
  | counted (optimises : monitor.Optimises env input) {next requests}
      (ends : monitor.HysteresisOutcome env input next requests) :
      Outcome .counted next (monitor.failedPrediction env input ++ requests)

theorem optimise_eq :
    (monitor.observed env input).optimise env input (monitor.observation env input) =
      if monitor.target env input = input.width then
        (monitor.observed env input).hysteresis env input (monitor.observation env input)
      else
        let patch := recordDwellMetric input.width (monitor.observation env input).dwellMs ++
          [.patched .predictive (monitor.target env input) input.predictivePatch]
        if input.predictivePatch then
          ((monitor.observed env input).moved input.nowMs (monitor.predictiveCooldownMs env input),
            patch)
        else
          let (next, events) :=
            (monitor.observed env input).hysteresis env input (monitor.observation env input)
          (next, patch ++ .policyFallback :: events) := rfl

theorem optimise_outcome (optimises : monitor.Optimises env input) :
    monitor.Outcome env input (monitor.branch env input)
      ((monitor.observed env input).optimise env input (monitor.observation env input)).1
      (patches ((monitor.observed env input).optimise env input
        (monitor.observation env input)).2) := by
  have ends := monitor.hysteresis_outcome env input
  have counted := Outcome.counted optimises ends
  rw [failedPrediction] at counted
  rw [branch, if_neg optimises.1, if_neg optimises.2.1, if_neg optimises.2.2, optimise_eq]
  by_cases same : monitor.target env input = input.width
  · rw [if_neg fun asks => asks.1 same, if_pos same]
    rwa [if_pos same] at counted
  rw [if_neg same]
  rw [if_neg same] at counted
  by_cases succeeds : input.predictivePatch = true
  · rw [if_pos ⟨same, succeeds⟩, if_pos succeeds, patches_append, patches_recordDwellMetric,
      succeeds]
    exact .predictive optimises same succeeds
  · rw [if_neg fun both => succeeds both.2, if_neg succeeds]
    rw [patches_append, patches_append, patches_recordDwellMetric,
      Bool.eq_false_of_not_eq_true succeeds]
    exact counted

theorem forceSseSafety_outcome (called : monitor.SafetyCalled env input) (dwellMs) :
    monitor.Outcome env input .safety
      ((monitor.observed env input).forceSseSafety env input dwellMs).1
      (patches ((monitor.observed env input).forceSseSafety env input dwellMs).2) := by
  unfold forceSseSafety
  split
  · next narrow => exact .settled called narrow
  next wide =>
  split
  · next succeeds =>
    have reset : patches (if env.policy then [.policyReset] else []) = [] := by
      split <;> rfl
    rw [patches_append, patches_append, patches_recordDwellMetric, reset, succeeds]
    exact .forced called wide succeeds
  · next fails =>
    rw [patches_append, patches_recordDwellMetric, Bool.eq_false_of_not_eq_true fails]
    exact .refused called wide (Bool.eq_false_of_not_eq_true fails)

/-- The calls of `tsd_trampoline_patch` an iteration makes itself. -/
def requested : List Patch := patches (monitor.sample env input).2

theorem requested_eq : monitor.requested env input =
    patches ((monitor.observed env input).act env input (monitor.observation env input)).2 := by
  rw [requested, events_sample, patches_append, patches_policyEvents]
  rfl

theorem act_eq :
    (monitor.observed env input).act env input (monitor.observation env input) =
      if monitor.SafetyCalled env input then
        let reason :=
          if (monitor.observation env input).softwareTimeout then SafetyReason.softwareTimeout
          else .rawTemperatureEmergency
        let (next, events) := (monitor.observed env input).forceSseSafety env input
          (monitor.observation env input).dwellMs
        (next, .forced reason :: events)
      else if monitor.Unmeasured env input then
        ({ monitor.observed env input with stableCount := 0 }, [])
      else if monitor.Gated env input then (monitor.observed env input, [])
      else (monitor.observed env input).optimise env input (monitor.observation env input) := rfl

theorem sample_outcome :
    monitor.Outcome env input (monitor.branch env input) (monitor.sample env input).1
      (monitor.requested env input) := by
  change monitor.Outcome env input _
    ((monitor.observed env input).act env input (monitor.observation env input)).1 _
  rw [requested_eq, act_eq]
  by_cases called : monitor.SafetyCalled env input
  · rw [branch, if_pos called, if_pos called]
    exact monitor.forceSseSafety_outcome env input called _
  rw [if_neg called]
  by_cases unmeasured : monitor.Unmeasured env input
  · rw [branch, if_neg called, if_pos unmeasured, if_pos unmeasured]
    exact .unmeasured called unmeasured
  rw [if_neg unmeasured]
  by_cases gated : monitor.Gated env input
  · rw [branch, if_neg called, if_neg unmeasured, if_pos gated, if_pos gated]
    exact .gated called unmeasured gated
  · rw [if_neg gated]
    exact monitor.optimise_outcome env input ⟨called, unmeasured, gated⟩

end Monitor

end ThermalSimd
