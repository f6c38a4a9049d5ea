import ThermalSimd.Config

/-!
# Published telemetry state

The process-wide `TelemetryState` of `telemetry_state.cpp`: the perf and fusion snapshots its
writers publish and the freshness queries of the width guard. Instants are `steady_clock`
nanoseconds, and the epoch `0` means "never".
-/

namespace ThermalSimd

/-- `tsd_perf_mode_t`. -/
inductive PerfMode
  | none | hardware | software
  deriving DecidableEq

def nsPerMs : ℕ := 1000000

def nsPerSec : ℕ := 1000000000

/-- `tsd_perf_telemetry_t`. -/
structure PerfTelemetry where
  mode : PerfMode
  countersHealthy : Bool
  pinnedCpu : ℤ
  monitorCpu : ℤ
  deriving DecidableEq

/-- `PerfTelemetrySnapshot`. -/
structure PerfTelemetrySnapshot extends PerfTelemetry where
  freshnessAt : ℕ
  deriving DecidableEq

/-- `tsd_fusion_telemetry_t`. -/
structure FusionTelemetry where
  running : Bool
  degraded : Bool
  tempAvailable : Bool
  packageTempC : Double
  freqAvailable : Bool
  freqRatio : Double
  cpiAvailable : Bool
  thermalCpi : Double
  powerAvailable : Bool
  powerBudgetW : Double
  deriving DecidableEq

/-- `FusionTelemetrySnapshot`. -/
structure FusionTelemetrySnapshot extends FusionTelemetry where
  rawTempAvailable : Bool
  rawPackageTempC : Double
  filteredTempAvailable : Bool
  filteredPackageTempC : Double
  freshnessAt : ℕ
  rawTempFreshnessAt : ℕ
  deriving DecidableEq

/-- `tsd_temperature_channels_t`. -/
structure TemperatureChannels where
  rawAvailable : Bool
  rawPackageTempC : Double
  filteredAvailable : Bool
  filteredPackageTempC : Double
  deriving DecidableEq

/-- `tsd_telemetry_sample_t`. -/
structure TelemetrySample where
  tempAvailable : Bool
  freqRatioAvailable : Bool
  packageTempMillic : ℤ
  freqRatioMilli : ℕ
  filteredTempAvailable : Bool
  filteredFreqRatioAvailable : Bool
  filteredPackageTempMillic : ℤ
  filteredFreqRatioMilli : ℕ
  deriving DecidableEq

def TelemetrySample.zero : TelemetrySample :=
  ⟨false, false, 0, 0, false, false, 0, 0⟩

/-- `TelemetryState`, without the controller snapshot the guard never reads. -/
structure TelemetryState where
  perf : PerfTelemetrySnapshot
  fusion : FusionTelemetrySnapshot
  deriving DecidableEq

namespace TelemetryState

def initial : TelemetryState where
  perf :=
    { mode := .none, countersHealthy := false, pinnedCpu := -1, monitorCpu := -1
      freshnessAt := 0 }
  fusion :=
    { running := false, degraded := false, tempAvailable := false, packageTempC := .finite 0
      freqAvailable := false, freqRatio := .finite 0, cpiAvailable := false
      thermalCpi := .finite 0, powerAvailable := false, powerBudgetW := .finite 0
      rawTempAvailable := false, rawPackageTempC := .finite 0, filteredTempAvailable := false
      filteredPackageTempC := .finite 0, freshnessAt := 0, rawTempFreshnessAt := 0 }

variable (state : TelemetryState)

/-- `TelemetryState::update_fusion` at instant `now`. -/
def updateFusion (telemetry : FusionTelemetry) (now : ℕ) : TelemetryState :=
  { state with
    fusion :=
      { state.fusion with
        toFusionTelemetry := telemetry
        filteredTempAvailable := telemetry.tempAvailable
        filteredPackageTempC := telemetry.packageTempC
        freshnessAt := now } }

/-- `TelemetryState::update_temperature_channels` at instant `now`. -/
def updateTemperatureChannels (telemetry : TemperatureChannels) (now : ℕ) : TelemetryState :=
  -- The legacy alias follows the filtered channel, and is cleared only with both channels gone.
  let legacy : Bool × Double :=
    if telemetry.filteredAvailable then (true, telemetry.filteredPackageTempC)
    else if !telemetry.rawAvailable then (false, .finite 0)
    else (state.fusion.tempAvailable, state.fusion.packageTempC)
  { state with
    fusion :=
      { state.fusion with
        rawTempAvailable := telemetry.rawAvailable
        rawPackageTempC := telemetry.rawPackageTempC
        rawTempFreshnessAt := if telemetry.rawAvailable then now else 0
        filteredTempAvailable := telemetry.filteredAvailable
        filteredPackageTempC := telemetry.filteredPackageTempC
        tempAvailable := legacy.1
        packageTempC := legacy.2
        freshnessAt := now } }

/-- `TelemetryState::runtime_guard_active`. -/
def RuntimeGuardActive : Prop :=
  state.perf.mode ≠ .none ∨ state.fusion.running = true
  deriving Decidable

/-- `TelemetryState::perf_hardware_fresh` with a window of five seconds. -/
def PerfHardwareFresh (now : ℕ) : Prop :=
  state.perf.mode = .hardware ∧ state.perf.countersHealthy = true ∧
    state.perf.freshnessAt ≠ 0 ∧ state.perf.freshnessAt ≤ now ∧
    now - state.perf.freshnessAt ≤ 5 * nsPerSec
  deriving Decidable

/-- `TelemetryState::raw_temperature`, if it is at most `maxAgeMs` old. -/
def rawTemperature (maxAgeMs now : ℕ) : Option Double :=
  if state.fusion.rawTempAvailable = false ∨ state.fusion.rawTempFreshnessAt = 0 then none
  else if now < state.fusion.rawTempFreshnessAt ∨
      now - state.fusion.rawTempFreshnessAt > maxAgeMs * nsPerMs then none
  else some state.fusion.rawPackageTempC

theorem rawTemperature_eq_some {state : TelemetryState} {maxAgeMs now temp}
    (reported : state.rawTemperature maxAgeMs now = some temp) :
    state.fusion.rawTempAvailable = true ∧ state.fusion.rawPackageTempC = temp ∧
      state.fusion.rawTempFreshnessAt ≤ now ∧
      now ≤ state.fusion.rawTempFreshnessAt + maxAgeMs * nsPerMs := by
  unfold rawTemperature at reported
  split_ifs at reported with unavailable stale
  obtain ⟨avail, -⟩ := not_or.mp unavailable
  refine ⟨by simpa using avail, Option.some.inj reported, ?_, ?_⟩ <;> omega

end TelemetryState

end ThermalSimd
