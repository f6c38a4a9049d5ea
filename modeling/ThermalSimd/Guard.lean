import ThermalSimd.Observability

/-!
# Wide-width authorization

The process-wide guard state of `runtime_guard.c` and `runtime_flags.c`, and
`tsd_runtime_width_authorized`, which every selector and wide execution consults.
-/

namespace ThermalSimd

/-- `g_tsd_runtime_config_snapshot_state`: `0`, `1` and `2`. -/
inductive ConfigSnapshotState
  | inactive | publishing | active
  deriving DecidableEq

/-- `g_tsd_safety_config_snapshot_state`: `0`, `1` and `2`. -/
inductive SafetySnapshotState
  | uncaptured | publishing | available
  deriving DecidableEq

/-- `tsd_safety_config_snapshot_t`. -/
structure SafetyConfigSnapshot where
  telemetryMaxSkewMs : ℤ
  predictiveTempCeilingC : ℤ
  predictiveSafetyMarginC : ℤ
  predictiveEmergencyMarginC : ℤ
  deriving DecidableEq

/-- The fields `safety_config_snapshot` copies out of the active configuration. -/
def RuntimeConfig.safetyFields (cfg : RuntimeConfig) : SafetyConfigSnapshot where
  telemetryMaxSkewMs := cfg.telemetryMaxSkewMs
  predictiveTempCeilingC := cfg.predictiveTempCeilingC
  predictiveSafetyMarginC := cfg.predictiveSafetyMarginC
  predictiveEmergencyMarginC := cfg.predictiveEmergencyMarginC

/-- Everything the answer of `tsd_runtime_width_authorized` depends on. -/
structure GuardState where
  stopping : Bool
  ownerTid : ℤ
  degradedActive : Bool
  configSnapshotState : ConfigSnapshotState
  configSnapshot : RuntimeConfig
  /-- The writable compatibility object `g_tsd_config`. -/
  legacyConfig : RuntimeConfig
  /-- `g_tsd_safety_config_snapshot_state`. -/
  safetySnapshotState : SafetySnapshotState
  /-- `g_tsd_safety_config_snapshot`. -/
  safetySnapshot : SafetyConfigSnapshot
  sandboxComplete : Bool
  sandboxSuccess : Bool
  /-- `g_fusion_running` of the telemetry bridge. -/
  fusionRunning : Bool
  /-- `g_temperature_upgrade_allowed` of the telemetry bridge. -/
  temperatureUpgradeAllowed : Bool
  telemetry : TelemetryState
  /-- `steady_clock::now()`. -/
  now : ℕ
  deriving DecidableEq

namespace GuardState

def initial (legacy : RuntimeConfig) (now : ℕ) : GuardState where
  stopping := false
  ownerTid := 0
  degradedActive := false
  configSnapshotState := .inactive
  configSnapshot := legacy
  legacyConfig := legacy
  safetySnapshotState := .uncaptured
  safetySnapshot := legacy.safetyFields
  sandboxComplete := false
  sandboxSuccess := false
  fusionRunning := false
  temperatureUpgradeAllowed := true
  telemetry := .initial
  now := now

def permissive : GuardState :=
  { initial .setDefaults 0 with sandboxComplete := true, sandboxSuccess := true }

variable (guard : GuardState)

/-- `tsd_runtime_config_active_snapshot`. -/
def configActiveSnapshot : RuntimeConfig :=
  match guard.configSnapshotState with
  | .active => guard.configSnapshot
  | _ => guard.legacyConfig

/-- `safety_config_snapshot` uninterrupted: the limits, if any, and the state it leaves. -/
def safetyConfigSnapshot : Option SafetyConfigSnapshot × GuardState :=
  match guard.safetySnapshotState with
  | .uncaptured =>
    let captured := guard.configActiveSnapshot.safetyFields
    (some captured,
      { guard with safetySnapshot := captured, safetySnapshotState := .available })
  | .publishing => (none, guard)
  | .available => (some guard.safetySnapshot, guard)

/-- `tsd_telemetry_temperature_upgrade_allowed`. -/
def TelemetryTemperatureUpgradeAllowed : Prop :=
  guard.fusionRunning = true → guard.temperatureUpgradeAllowed = true
  deriving Decidable

/-- `tsd_runtime_flags_allow_transitions`. -/
def FlagsAllowTransitions : Prop :=
  guard.sandboxComplete = true ∧ guard.sandboxSuccess = true ∧
    guard.TelemetryTemperatureUpgradeAllowed
  deriving Decidable

/-- `tsd_runtime_current_thread_is_owner` for the thread `tid`. -/
def CurrentThreadIsOwner (tid : ℤ) : Prop :=
  guard.ownerTid ≤ 0 ∨ tid = guard.ownerTid
  deriving Decidable

end GuardState

variable (cfg : SafetyConfigSnapshot)

/-- `runtime_temperature_limits_valid`. -/
def SafetyConfigSnapshot.TemperatureLimitsValid : Prop :=
  20 ≤ cfg.predictiveTempCeilingC ∧ cfg.predictiveTempCeilingC ≤ 125 ∧
  0 ≤ cfg.predictiveSafetyMarginC ∧ cfg.predictiveSafetyMarginC ≤ 60 ∧
  0 ≤ cfg.predictiveEmergencyMarginC ∧ cfg.predictiveEmergencyMarginC ≤ 60
  deriving Decidable

def SafetyConfigSnapshot.freshnessMs : ℕ :=
  if cfg.telemetryMaxSkewMs < 0 then 150 else cfg.telemetryMaxSkewMs.toNat

/-- The comparison at the end of `raw_temperature_upgrade_allowed`. -/
def SafetyConfigSnapshot.RawTemperatureWithin (telemetry : TelemetryState) (now : ℕ) : Prop :=
  ∃ temp, telemetry.rawTemperature cfg.freshnessMs now = some (.finite temp) ∧
    temp ≤ (cfg.predictiveTempCeilingC - cfg.predictiveSafetyMarginC : ℤ)

instance (cfg : SafetyConfigSnapshot) (telemetry : TelemetryState) (now : ℕ) :
    Decidable (cfg.RawTemperatureWithin telemetry now) :=
  match reported : telemetry.rawTemperature cfg.freshnessMs now with
  | some (.finite temp) =>
    decidable_of_iff
      (temp ≤ (cfg.predictiveTempCeilingC - cfg.predictiveSafetyMarginC : ℤ))
      (by simp [SafetyConfigSnapshot.RawTemperatureWithin, reported])
  | some .nonfinite => isFalse (by simp [SafetyConfigSnapshot.RawTemperatureWithin, reported])
  | none => isFalse (by simp [SafetyConfigSnapshot.RawTemperatureWithin, reported])

namespace GuardState

variable (guard : GuardState) (width : ℤ)

/-- `raw_temperature_upgrade_allowed`, and the state it leaves. -/
def rawTemperatureUpgradeAllowed : Bool × GuardState :=
  if guard.TelemetryTemperatureUpgradeAllowed then
    match guard.safetyConfigSnapshot with
    | (none, after) => (false, after)
    | (some cfg, after) =>
      (decide (cfg.TemperatureLimitsValid ∧
        cfg.RawTemperatureWithin guard.telemetry guard.now), after)
  else (false, guard)

/-- `tsd_runtime_width_authorized`, and the state it leaves. -/
def runtimeWidthAuthorized : Bool × GuardState :=
  match SimdWidth.ofInt? width with
  | none => (false, guard)
  | some .sse41 => (true, guard)
  | some _ =>
    if guard.stopping then (false, guard)
    else if ¬ guard.FlagsAllowTransitions then (false, guard)
    -- No live adaptive runtime: the selector applies its own host and policy checks.
    else if ¬ guard.telemetry.RuntimeGuardActive then (true, guard)
    else if guard.telemetry.perf.mode ≠ .hardware ∨
        ¬ guard.telemetry.PerfHardwareFresh guard.now then (false, guard)
    else guard.rawTemperatureUpgradeAllowed

/-- `tsd_runtime_width_authorized(width)` answers yes in this state. -/
def WidthAuthorized : Prop :=
  (guard.runtimeWidthAuthorized width).1 = true
  deriving Decidable

def afterQuery : GuardState :=
  (guard.runtimeWidthAuthorized width).2

/-- By which `tsd_runtime_safety_write_leave` reopens wide admission. -/
def ReopenDecision : Prop :=
  guard.stopping = false ∧ guard.WidthAuthorized SimdWidth.avx2.toInt
  deriving Decidable

def AgreeOffSafetyCell (before after : GuardState) : Prop :=
  after =
    { before with
      safetySnapshotState := after.safetySnapshotState
      safetySnapshot := after.safetySnapshot }

theorem AgreeOffSafetyCell.refl : guard.AgreeOffSafetyCell guard := rfl

theorem safetyConfigSnapshot_agree : guard.AgreeOffSafetyCell guard.safetyConfigSnapshot.2 := by
  unfold safetyConfigSnapshot
  cases guard.safetySnapshotState <;> rfl

theorem rawTemperatureUpgradeAllowed_agree :
    guard.AgreeOffSafetyCell guard.rawTemperatureUpgradeAllowed.2 := by
  have captured := guard.safetyConfigSnapshot_agree
  unfold rawTemperatureUpgradeAllowed
  split_ifs
  · generalize guard.safetyConfigSnapshot = reply at captured ⊢
    obtain ⟨limits, _⟩ := reply
    cases limits <;> exact captured
  · rfl

theorem afterQuery_agree : guard.AgreeOffSafetyCell (guard.afterQuery width) := by
  unfold afterQuery runtimeWidthAuthorized
  split
  · rfl
  · rfl
  · split_ifs
    all_goals first | rfl | exact guard.rawTemperatureUpgradeAllowed_agree

@[simp]
theorem afterQuery_stopping : (guard.afterQuery width).stopping = guard.stopping := by
  rw [guard.afterQuery_agree width]

/-- Healthy fresh hardware counters, and a fresh raw temperature within valid limits. -/
def LiveWidthAuthorized : Prop :=
  guard.telemetry.PerfHardwareFresh guard.now ∧ guard.TelemetryTemperatureUpgradeAllowed ∧
    ∃ cfg, guard.safetyConfigSnapshot.1 = some cfg ∧ cfg.TemperatureLimitsValid ∧
      cfg.RawTemperatureWithin guard.telemetry guard.now

theorem rawTemperatureUpgradeAllowed_iff : guard.rawTemperatureUpgradeAllowed.1 = true ↔
      guard.TelemetryTemperatureUpgradeAllowed ∧
        ∃ cfg, guard.safetyConfigSnapshot.1 = some cfg ∧ cfg.TemperatureLimitsValid ∧
          cfg.RawTemperatureWithin guard.telemetry guard.now := by
  unfold rawTemperatureUpgradeAllowed
  by_cases allowed : guard.TelemetryTemperatureUpgradeAllowed
  · rcases guard.safetyConfigSnapshot with ⟨limits, after⟩
    cases limits <;> simp [allowed]
  · simp [allowed]

theorem widthAuthorized_wide_iff {width : SimdWidth} (wide : width.IsWide) :
    guard.WidthAuthorized width.toInt ↔
      guard.stopping = false ∧ guard.FlagsAllowTransitions ∧
        (guard.telemetry.RuntimeGuardActive → guard.LiveWidthAuthorized) := by
  have query :
      guard.runtimeWidthAuthorized width.toInt =
        if guard.stopping then (false, guard)
        else if ¬ guard.FlagsAllowTransitions then (false, guard)
        else if ¬ guard.telemetry.RuntimeGuardActive then (true, guard)
        else if guard.telemetry.perf.mode ≠ .hardware ∨
            ¬ guard.telemetry.PerfHardwareFresh guard.now then (false, guard)
        else guard.rawTemperatureUpgradeAllowed := by
    cases width with
    | sse41 => exact absurd wide (by decide)
    | avx2 | avx512 => rfl
  rw [WidthAuthorized, query]
  by_cases stopping : guard.stopping = true
  · simp [stopping]
  by_cases allowed : guard.FlagsAllowTransitions
  · by_cases active : guard.telemetry.RuntimeGuardActive
    · by_cases fresh : guard.telemetry.PerfHardwareFresh guard.now
      · simp [stopping, allowed, active, fresh, fresh.1, LiveWidthAuthorized,
          rawTemperatureUpgradeAllowed_iff]
      · simp [stopping, allowed, active, fresh, LiveWidthAuthorized]
    · simp [stopping, allowed, active]
  · simp [allowed]

theorem not_widthAuthorized_of_stopping (stopping : guard.stopping = true) {width : SimdWidth}
    (wide : width.IsWide) : ¬ guard.WidthAuthorized width.toInt := by
  rw [widthAuthorized_wide_iff guard wide]
  simp [stopping]

end GuardState

end ThermalSimd
