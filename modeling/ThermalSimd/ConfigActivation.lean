import ThermalSimd.Cli
import ThermalSimd.Runtime

/-!
# Activation of a parsed configuration

`tsd_runtime_config_activate_snapshot` validates and normalises a configuration once more. What the
command line returns passes unchanged, so the configuration published is the one parsed
(`parsed_config_activates`).
-/

namespace ThermalSimd

/-- `tsd_runtime_config_activate_snapshot` without interference. -/
def activateSnapshot (config : RuntimeConfig) (guard : GuardState) : Except Errno GuardState :=
  match config.validateGenerationConfig with
  | .error e => .error e
  | .ok snapshot =>
    if guard.configSnapshotState = .inactive then
      .ok { guard with
        configSnapshot := snapshot
        configSnapshotState := .active
        safetySnapshotState := .uncaptured }
    else .error .ebusy

namespace Runtime

variable {Task : Type*} {platform : Selector.Platform} {tid : ℤ} {t : Task} {f : StartFrame}
variable {s : Shared Task}

private def StartGoes (platform : Selector.Platform) (tid : ℤ) (t : Task) (f : StartFrame)
    (before after : Shared Task × StartPc) : Prop :=
  StartMoves platform tid t f before.1 before.2 after.1 after.2

theorem startMoves_of_activateSnapshot {guard}
    (activated : activateSnapshot f.config s.guard = .ok guard) :
    Relation.TransGen (StartGoes platform tid t f) (s, .activate)
      (s.withGuard guard, .lockRuntime) := by
  unfold activateSnapshot at activated
  split at activated
  · cases activated
  · next snapshot valid =>
      split_ifs at activated with inactive
      cases activated
      let publishing := s.withGuard { s.guard with configSnapshotState := .publishing }
      let written := publishing.withGuard { publishing.guard with configSnapshot := snapshot }
      let active := written.withGuard { written.guard with configSnapshotState := .active }
      have activates : StartGoes platform tid t f (s, .activate)
          (publishing, .writeConfig snapshot) := .activate valid inactive
      have writes : StartGoes platform tid t f (publishing, .writeConfig snapshot)
          (written, .publishConfig) := .writeConfig
      have publishes : StartGoes platform tid t f (written, .publishConfig)
          (active, .resetSafety) := .publishConfig
      exact (((Relation.TransGen.single activates).tail writes).tail publishes).tail .resetSafety

theorem startMoves_of_activateSnapshot_error {e}
    (failed : activateSnapshot f.config s.guard = .error e) :
    StartMoves platform tid t f s .activate s (.release e) := by
  unfold activateSnapshot at failed
  split at failed
  · next invalid =>
      cases failed
      exact .activateInvalid invalid
  · next valid =>
      split_ifs at failed with inactive
      cases failed
      exact .activateBusy valid inactive

end Runtime

namespace Cli

theorem generationRangesValid_settle {cfg} (inRange : cfg.InRange) :
    (settle cfg).GenerationRangesValid := by
  have interval : 1000 ≤ cfg.checkIntervalUs := (inRange .checkIntervalUs).1
  have down : 1 ≤ cfg.downCount := (inRange .downCount).1
  have up : 1 ≤ cfg.upCount := (inRange .upCount).1
  have cooldownDown : 1 ≤ cfg.cooldownDownMs := (inRange .cooldownDownMs).1
  have cooldownUp : 1 ≤ cfg.cooldownUpMs := (inRange .cooldownUpMs).1
  have dwell : 1 ≤ cfg.minDwellMs := (inRange .minDwellMs).1
  have divisor : 1 ≤ cfg.memoryGuardDivisor := (inRange .memoryGuardDivisor).1
  have timeout : 1 ≤ cfg.degradedTimeoutSec := (inRange .degradedTimeoutSec).1
  have ratio := inRange .downRatio
  have telemetry := inRange .telemetryIntervalMs
  have skew := inRange .telemetryMaxSkewMs
  have ceiling := inRange .predictiveTempCeilingC
  have safety := inRange .predictiveSafetyMarginC
  have emergency := inRange .predictiveEmergencyMarginC
  have pos : cfg.downRatio.FiniteWith (0 < ·) := by
    cases held : cfg.downRatio with
    | nonfinite =>
      rw [Setting.get, held] at ratio
      exact ratio
    | finite =>
      rw [Setting.get, held] at ratio
      exact zero_lt_one.trans_le ratio.1
  refine ⟨?_, ?_, ?_, pos, ?_, ?_, ?_, ?_, ?_, telemetry.1, telemetry.2, skew.1, skew.2,
    inRange .telemetryEwmaAlpha, ceiling.1, ceiling.2, safety.1, safety.2, emergency.1, emergency.2,
    inRange .predictiveAlpha⟩
  all_goals dsimp only [settle]; omega

theorem downRatioMilliOf_ne_zero (ratio) : downRatioMilliOf ratio ≠ 0 := by
  cases ratio with
  | nonfinite => exact one_ne_zero
  | finite =>
    rw [downRatioMilliOf]
    split_ifs with zero
    · exact one_ne_zero
    · exact zero

theorem policyConfigApplyBounds_idem (policy) :
    policyConfigApplyBounds (policyConfigApplyBounds policy) = policyConfigApplyBounds policy := by
  by_cases unlimited : policy.forecastHorizon = 0
  · simp [policyConfigApplyBounds, unlimited]
  · simp [policyConfigApplyBounds, unlimited]

theorem validateGenerationConfig_settle {cfg} (inRange : cfg.InRange) :
    (settle cfg).validateGenerationConfig = .ok (settle cfg) := by
  have ranges := generationRangesValid_settle inRange
  have ratio : (settle cfg).downRatioMilli ≠ 0 := downRatioMilliOf_ne_zero cfg.downRatio
  have bounds : policyConfigApplyBounds (settle cfg).policy = (settle cfg).policy :=
    policyConfigApplyBounds_idem cfg.policy
  have times := timesValid_of_inRange inRange
  rw [RuntimeConfig.validateGenerationConfig, if_neg (not_not.mpr ranges), if_neg ratio]
  change RuntimeConfig.refreshTicks { settle cfg with
    policy := policyConfigApplyBounds (settle cfg).policy } = _
  rw [bounds, refreshTicks_eq ?times]
  case times => exact times
  rfl

/-- What the parser returns is activated as it is. -/
theorem parsed_config_activates {env : Environment} {arguments : List Argument} {final : State}
    (parsed : parseCli env arguments = .returned final) {guard : GuardState}
    (inactive : guard.configSnapshotState = .inactive) :
    activateSnapshot final.cfg guard = .ok
      { guard with
        configSnapshot := final.cfg
        configSnapshotState := .active
        safetySnapshotState := .uncaptured } := by
  obtain ⟨-, -, rfl⟩ := parseCli_eq_returned_iff.mp parsed
  rw [activateSnapshot, validateGenerationConfig_settle (gathered_inRange env arguments)]
  exact if_pos inactive

/-- An interval from the command line reaches the published configuration. -/
theorem parsed_interval_activates :
    let env : Environment := ⟨none, fun _ => none⟩
    let arguments : List Argument := [⟨"--interval=20".toList, [], by decide⟩]
    let final : State := ⟨settle (gathered env arguments), false⟩
    let guard := GuardState.initial .setDefaults 0
    parseCli env arguments = .returned final ∧ final.cfg.checkIntervalUs = 20000 ∧
      activateSnapshot final.cfg guard = .ok
        { guard with
          configSnapshot := final.cfg
          configSnapshotState := .active
          safetySnapshotState := .uncaptured } := by
  intro env arguments final guard
  have parsed : parseCli env arguments = .returned final :=
    parseCli_of_unflagged (by decide +kernel) (by decide +kernel) (by decide +kernel)
  exact ⟨parsed, by decide +kernel, parsed_config_activates parsed rfl⟩

end Cli

end ThermalSimd
