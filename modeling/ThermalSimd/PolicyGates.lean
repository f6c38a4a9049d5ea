import ThermalSimd.Controller

/-!
# The gates of the dispatcher policy

The policy answers before its controller in fallback and in an emergency, and after it where the
width would rise; an exception makes it fail closed.
-/

namespace ThermalSimd

/-- `snapshot_runtime_limits`. -/
def RuntimeConfig.policyLimits (cfg : RuntimeConfig) : PolicyLimits :=
  ⟨cfg.predictiveTempCeilingC, cfg.predictiveSafetyMarginC, cfg.predictiveEmergencyMarginC⟩

namespace Policy

/-- `DispatcherPolicyState`. -/
structure DispatcherPolicy where
  state : PolicyState
  config : PolicyConfig
  controller : MpcController

/-- The calls on a policy; one that throws is given the controller it leaves. -/
inductive PolicyCall
  | reset (config : Option PolicyConfig) (cfg : RuntimeConfig) (parsed : Option Coefficients)
      (thrown : Option MpcController)
  | record (sample : ThermalEval) (now : ℤ) (thrown : Option MpcController)
  | recommend (cfg : RuntimeConfig) (current maxWidth : SimdWidth) (now : ℤ)
      (thrown : Option MpcController)
  | forceFallback
  | reload (parsed : Option Coefficients) (thrown : Option MpcController)

namespace DispatcherPolicy

variable (policy : DispatcherPolicy)

/-- `tsd_dispatcher_policy_create`, where it succeeds. -/
def create (config : Option PolicyConfig) (cfg : RuntimeConfig) (parsed : Option Coefficients) :
    DispatcherPolicy :=
  let config := config.getD .setDefaults
  ⟨.create cfg.policyLimits, config, .create config parsed⟩

/-- `tsd_dispatcher_policy_reset`. -/
def reset (config : Option PolicyConfig) (cfg : RuntimeConfig) (parsed : Option Coefficients)
    (thrown : Option MpcController) : DispatcherPolicy :=
  let config := config.getD policy.config
  ⟨policy.state.reset cfg.policyLimits thrown.isSome, config,
    thrown.getD (policy.controller.reset config parsed)⟩

/-- `tsd_dispatcher_policy_record`. -/
def record (sample : ThermalEval) (now : ℤ) (thrown : Option MpcController) : DispatcherPolicy :=
  { policy with
    state := policy.state.record sample thrown.isSome
    controller := thrown.getD (policy.controller.pushSample sample now) }

/-- `tsd_dispatcher_policy_force_fallback`. -/
def forceFallback : DispatcherPolicy := { policy with state := policy.state.forceFallback }

/-- `tsd_dispatcher_policy_reload`. -/
def reload (parsed : Option Coefficients) (thrown : Option MpcController) : DispatcherPolicy :=
  { policy with
    state := policy.state.reload thrown.isSome
    controller := thrown.getD (policy.controller.loadCoefficients parsed).1 }

/-- `tsd_dispatcher_policy_recommend`: the policy it leaves and the target, if any. -/
def recommend (cfg : RuntimeConfig) (current maxWidth : SimdWidth) (now : ℤ)
    (thrown : Option MpcController) : DispatcherPolicy × Option SimdWidth :=
  if policy.state.fallbackActive then (policy, PolicyState.failClosedTarget current)
  else if .sse41 < current ∧ policy.state.Emergency then (policy, some .sse41)
  else
    match thrown with
    | some left =>
      ({ policy with state := policy.state.enterFailClosed, controller := left },
        PolicyState.failClosedTarget current)
    | none =>
      let (controller, answer) := policy.controller.recommend cfg current maxWidth now
      let left := { policy with controller }
      match answer with
      | none => (left, none)
      | some target =>
        if current < target ∧ ¬ policy.state.UpgradeAllowed then (left, none)
        else (left, some target)

def perform : PolicyCall → DispatcherPolicy
  | .reset config cfg parsed thrown => policy.reset config cfg parsed thrown
  | .record sample now thrown => policy.record sample now thrown
  | .recommend cfg current maxWidth now thrown =>
    (policy.recommend cfg current maxWidth now thrown).1
  | .forceFallback => policy.forceFallback
  | .reload parsed thrown => policy.reload parsed thrown

theorem recommend_simulates {policy : DispatcherPolicy} {cfg current maxWidth}
    (within : current ≤ maxWidth) {now thrown input}
    (throws : input.recommendThrows = thrown.isSome)
    (compares : input.controller = policy.controller.findings cfg current maxWidth now) :
    policy.state.recommend current maxWidth input =
      ((policy.recommend cfg current maxWidth now thrown).1.state,
        (policy.recommend cfg current maxWidth now thrown).2) := by
  rw [PolicyState.recommend, recommend.eq_def, throws, compares,
    MpcController.recommend_findings within]
  by_cases fallback : policy.state.fallbackActive = true
  · rw [if_pos fallback, if_pos fallback]
  rw [if_neg fallback, if_neg fallback]
  by_cases emergency : .sse41 < current ∧ policy.state.Emergency
  · rw [if_pos emergency, if_pos emergency]
  rw [if_neg emergency, if_neg emergency]
  cases thrown with
  | some => rfl
  | none =>
    rw [if_neg (by decide)]
    dsimp only
    cases (policy.controller.recommend cfg current maxWidth now).2 with
    | none => rfl
    | some =>
      dsimp only
      split <;> rfl

theorem state_recommend (cfg current maxWidth now thrown) :
    (policy.recommend cfg current maxWidth now thrown).1.state = policy.state ∨
      (policy.recommend cfg current maxWidth now thrown).1.state =
        policy.state.enterFailClosed := by
  unfold recommend
  split
  · exact .inl rfl
  split
  · exact .inl rfl
  split
  · exact .inr rfl
  dsimp only
  split
  · exact .inl rfl
  split
  · exact .inl rfl
  · exact .inl rfl

end DispatcherPolicy

/-- A recorded temperature is an `int32_t`. -/
def PolicyCall.Representable : PolicyCall → Prop
  | .record sample _ _ =>
    -2 ^ 31 ≤ sample.telemetry.packageTempMillic ∧ sample.telemetry.packageTempMillic < 2 ^ 31
  | .reset .. | .recommend .. | .forceFallback | .reload .. => True

def PolicyCall.lastSample (last : Option ThermalEval) : PolicyCall → Option ThermalEval
  | .reset _ _ _ none => none
  | .record sample _ _ => some sample
  | .reset _ _ _ (some _) | .recommend .. | .forceFallback | .reload .. => last

/-- The policies that calls reach, with the last recorded sample. -/
inductive PolicyRun : DispatcherPolicy → Option ThermalEval → Prop
  | create (config : Option PolicyConfig) (cfg : RuntimeConfig) (parsed : Option Coefficients) :
      PolicyRun (.create config cfg parsed) none
  | call {policy last} (before : PolicyRun policy last) {call} (fits : call.Representable) :
      PolicyRun (policy.perform call) (call.lastSample last)

/-- The state is that of the last sample. -/
structure Remembers (state : PolicyState) (last : Option ThermalEval) : Prop where
  haveSample : state.haveSample = last.isSome
  tempAvailable : ∀ sample ∈ last, state.lastTempAvailable = sample.telemetry.tempAvailable
  tempMillic : ∀ sample ∈ last, state.lastTempMillic = sample.telemetry.packageTempMillic
  above : ∀ sample ∈ last, -2 ^ 31 ≤ sample.telemetry.packageTempMillic

namespace Remembers

variable {state : PolicyState} {last : Option ThermalEval}

theorem create (limits) : Remembers (.create limits) none where
  haveSample := rfl
  tempAvailable _ mem := absurd mem (Option.not_mem_none _)
  tempMillic _ mem := absurd mem (Option.not_mem_none _)
  above _ mem := absurd mem (Option.not_mem_none _)

theorem record {sample} (above : -2 ^ 31 ≤ sample.telemetry.packageTempMillic)
    (throws) : Remembers (state.record sample throws) (some sample) := by
  constructor
  case above => exact fun other same => Option.mem_some.mp same ▸ above
  all_goals cases throws
  · rfl
  · rfl
  all_goals
    rintro other ⟨⟩
    rfl

theorem congr {after} (before : Remembers state last)
    (haveSample : after.haveSample = state.haveSample)
    (tempAvailable : after.lastTempAvailable = state.lastTempAvailable)
    (tempMillic : after.lastTempMillic = state.lastTempMillic) : Remembers after last where
  haveSample := haveSample.trans before.haveSample
  tempAvailable sample mem := tempAvailable.trans (before.tempAvailable sample mem)
  tempMillic sample mem := tempMillic.trans (before.tempMillic sample mem)
  above := before.above

theorem perform {policy : DispatcherPolicy} (before : Remembers policy.state last) {call}
    (fits : call.Representable) : Remembers (policy.perform call).state (call.lastSample last) := by
  cases call with
  | reset _ cfg parsed thrown =>
    cases thrown with
    | none => exact create cfg.policyLimits
    | some left => exact before.congr rfl rfl rfl
  | record _ now thrown => exact record fits.1 thrown.isSome
  | recommend cfg current maxWidth now thrown =>
    change Remembers (policy.recommend cfg current maxWidth now thrown).1.state last
    rcases policy.state_recommend cfg current maxWidth now thrown with same | closed
    · rwa [same]
    · rw [closed]
      exact before.congr rfl rfl rfl
  | forceFallback => exact before.congr rfl rfl rfl
  | reload parsed thrown =>
    cases thrown with
    | none | some left => exact before.congr rfl rfl rfl

end Remembers

theorem PolicyRun.remembers {policy last}
    (run : PolicyRun policy last) : Remembers policy.state last := by
  induction run with
  | create _ cfg => exact .create cfg.policyLimits
  | call _ fits ih => exact ih.perform fits

def Headroom (limits : PolicyLimits) (last : Option ThermalEval) : Prop :=
  ∃ sample ∈ last, sample.telemetry.tempAvailable = true ∧ limits.Valid ∧
    sample.telemetry.packageTempMillic ≤ (limits.tempCeilingC - limits.safetyMarginC) * 1000

def Overheated (limits : PolicyLimits) (last : Option ThermalEval) : Prop :=
  ∃ sample ∈ last, sample.telemetry.tempAvailable = true ∧ (limits.Valid →
    (limits.tempCeilingC + limits.emergencyMarginC) * 1000 ≤ sample.telemetry.packageTempMillic)

theorem Remembers.upgradeAllowed {state last} (remembers : Remembers state last)
    (allowed : state.UpgradeAllowed) : Headroom state.limits last := by
  obtain ⟨have_sample, avail, below⟩ := allowed
  obtain ⟨sample, rfl⟩ := Option.isSome_iff_exists.mp (remembers.haveSample ▸ have_sample)
  have above := remembers.above sample rfl
  rw [remembers.tempMillic sample rfl, PolicyLimits.upgradeTemperatureLimitMillic] at below
  split at below
  · next valid => exact ⟨sample, rfl, remembers.tempAvailable sample rfl ▸ avail, valid, below⟩
  -- No `int32_t` is as low as the limit that invalid settings give.
  · omega

theorem Remembers.emergency_iff {state last}
    (remembers : Remembers state last) : state.Emergency ↔ Overheated state.limits last := by
  constructor
  · rintro ⟨have_sample, avail, above⟩
    obtain ⟨sample, rfl⟩ := Option.isSome_iff_exists.mp (remembers.haveSample ▸ have_sample)
    rw [remembers.tempMillic sample rfl, PolicyLimits.emergencyTemperatureLimitMillic] at above
    refine ⟨sample, rfl, remembers.tempAvailable sample rfl ▸ avail, fun valid => ?_⟩
    rwa [if_pos valid] at above
  · rintro ⟨sample, rfl, avail, hot⟩
    refine ⟨remembers.haveSample, (remembers.tempAvailable sample rfl).trans avail, ?_⟩
    have above := remembers.above sample rfl
    rw [remembers.tempMillic sample rfl, PolicyLimits.emergencyTemperatureLimitMillic]
    split
    · next valid => exact hot valid
    · omega

namespace DispatcherPolicy

variable {policy : DispatcherPolicy} {cfg : RuntimeConfig} {current maxWidth : SimdWidth} {now : ℤ}
  {thrown : Option MpcController}

def Overridden (policy : DispatcherPolicy) (last : Option ThermalEval)
    (thrown : Option MpcController) : Prop :=
  policy.state.fallbackActive = true ∨ thrown.isSome = true ∨ Overheated policy.state.limits last

theorem recommend_of_overridden {last} (remembers : Remembers policy.state last)
    (overridden : policy.Overridden last thrown) (wide : .sse41 < current) :
    (policy.recommend cfg current maxWidth now thrown).2 = some .sse41 := by
  have target : PolicyState.failClosedTarget current = some .sse41 := if_pos wide
  unfold recommend
  split
  · exact target
  next normal =>
  split
  · rfl
  next cool =>
  cases thrown with
  | some => exact target
  | none =>
    rcases overridden with fallback | throws | hot
    · exact absurd fallback normal
    · cases throws
    · exact absurd ⟨wide, remembers.emergency_iff.mpr hot⟩ cool

theorem of_recommend {target}
    (recommends : (policy.recommend cfg current maxWidth now thrown).2 = some target) :
    (target = .sse41 ∧ .sse41 < current ∧ (policy.state.fallbackActive = true ∨
        thrown.isSome = true ∨ policy.state.Emergency)) ∨
      policy.state.fallbackActive = false ∧
        (policy.controller.recommend cfg current maxWidth now).2 = some target ∧
        (current < target → policy.state.UpgradeAllowed) := by
  have closed : PolicyState.failClosedTarget current = some target →
      target = .sse41 ∧ .sse41 < current := by
    unfold PolicyState.failClosedTarget
    split
    · next wide => exact fun same => ⟨(Option.some.inj same).symm, wide⟩
    · nofun
  unfold recommend at recommends
  split at recommends
  · next fallback =>
      exact .inl ⟨(closed recommends).1, (closed recommends).2, .inl fallback⟩
  next normal =>
  split at recommends
  · next hot =>
      cases recommends
      exact .inl ⟨rfl, hot.1, .inr (.inr hot.2)⟩
  split at recommends
  · exact .inl ⟨(closed recommends).1, (closed recommends).2, .inr (.inl rfl)⟩
  dsimp only at recommends
  split at recommends
  · cases recommends
  next _ decides =>
  split at recommends
  · cases recommends
  next passes =>
  cases recommends
  exact .inr ⟨Bool.eq_false_iff.mpr normal, decides, fun wider =>
    Decidable.byContradiction fun refused => passes ⟨wider, refused⟩⟩

/-- A recommended width is at most the maximum, a wider one has headroom and no fallback, an
override goes to SSE4.1, and other changes are cheaper by the minimum improvement and within the
margin of the cheapest width. -/
theorem recommendation_gated {last : Option ThermalEval} (run : PolicyRun policy last)
    (within : current ≤ maxWidth) :
    let target := (policy.recommend cfg current maxWidth now thrown).2.getD current
    target ≤ maxWidth ∧
      (current < target →
        Headroom policy.state.limits last ∧ policy.state.fallbackActive = false) ∧
      (.sse41 < current → policy.Overridden last thrown → target = .sse41) ∧
      (target ≠ current → ¬ policy.Overridden last thrown →
        policy.controller.widthCost cfg target current + kMinImprovement ≤
            policy.controller.widthCost cfg current current ∧
          ∀ width ≤ maxWidth, policy.controller.widthCost cfg target current ≤
            policy.controller.widthCost cfg width current + kStabilityMargin) := by
  have remembers := run.remembers
  have overrides : .sse41 < current → policy.Overridden last thrown →
      (policy.recommend cfg current maxWidth now thrown).2.getD current = .sse41 := by
    intro wide overridden
    rw [recommend_of_overridden remembers overridden wide, Option.getD_some]
  dsimp only
  cases answer : (policy.recommend cfg current maxWidth now thrown).2 with
  | none =>
    rw [answer] at overrides
    exact ⟨within, fun wider => absurd wider (lt_irrefl current), overrides,
      fun changed => absurd rfl changed⟩
  | some target =>
    rw [answer] at overrides
    rw [Option.getD_some] at overrides ⊢
    obtain ⟨rfl, wide, override⟩ | ⟨normal, decides, gated⟩ := of_recommend answer
    · refine ⟨SimdWidth.sse41_le maxWidth, fun wider => absurd wider wide.asymm, overrides,
        fun _ free => absurd ?_ free⟩
      exact override.imp_right (Or.imp_right remembers.emergency_iff.mp)
    · obtain ⟨rfl, -, improves⟩ := MpcController.of_recommend decides
      have best := @MpcController.bestWidth_spec policy.controller cfg _ _ within
      exact ⟨best.1, fun wider => ⟨remembers.upgradeAllowed (gated wider), normal⟩, overrides,
        fun _ _ => ⟨improves, best.2⟩⟩

end DispatcherPolicy

def rewardingCoefficients : Coefficients :=
  { Coefficients.initial with
    temperatureCoeffs := [1 / 2]
    widthPerformanceBenefitMilliPerStep := 10000
    widthPerformanceBenefit_nonneg := by norm_num }

def slowedSample : ThermalEval :=
  { ThermalEval.zero with
    ratioMilli := 3000
    trimmedRatioMilli := 3000
    telemetry :=
      { ThermalSimd.TelemetrySample.zero with tempAvailable := true, packageTempMillic := 60000 } }

def informedPolicy : DispatcherPolicy :=
  (DispatcherPolicy.create none .setDefaults (some rewardingCoefficients)).perform
    (.record slowedSample 0 none)

theorem informed_recommendation_gated :
    (informedPolicy.recommend .setDefaults .sse41 .avx512 1000 none).2 = some .avx2 ∧
      Headroom informedPolicy.state.limits (some slowedSample) ∧
      informedPolicy.controller.widthCost .setDefaults .avx2 .sse41 + kMinImprovement ≤
        informedPolicy.controller.widthCost .setDefaults .sse41 .sse41 := by
  have answer :
    (informedPolicy.recommend .setDefaults .sse41 .avx512 1000 none).2 = some .avx2 := by
    decide +kernel
  have fits : (PolicyCall.record slowedSample 0 none).Representable := ⟨by decide, by decide⟩
  have run : PolicyRun informedPolicy (some slowedSample) :=
    .call (.create none .setDefaults (some rewardingCoefficients)) fits
  obtain ⟨-, headroom, -, cheaper⟩ := @DispatcherPolicy.recommendation_gated informedPolicy
    .setDefaults .sse41 .avx512 1000 none _ run (by decide)
  rw [answer, Option.getD_some] at headroom cheaper
  refine ⟨answer, (headroom (by decide)).1, (cheaper (by decide) ?_).1⟩
  rintro (fallback | throws | ⟨_, same, -, hot⟩)
  · cases fallback
  · cases throws
  · cases same
    exact absurd (hot (by decide)) (by decide)

theorem informed_recommendation_simulated :
    (informedPolicy.state.recommend .sse41 .avx512
      ⟨informedPolicy.state.limits, false, false, false,
        informedPolicy.controller.findings .setDefaults .sse41 .avx512 1000, false⟩).2 =
      some .avx2 := by
  rw [@DispatcherPolicy.recommend_simulates informedPolicy .setDefaults .sse41 .avx512 (by decide)
    1000 none _ rfl rfl]
  decide +kernel

end Policy

end ThermalSimd
