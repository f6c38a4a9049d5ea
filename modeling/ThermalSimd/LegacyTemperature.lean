import ThermalSimd.Observability
import Mathlib.Data.List.Induction

/-!
# The legacy temperature

`package_temp_c` is documented as an alias of the filtered channel, but an update with a raw
temperature alone clears that channel and keeps the legacy fields.
-/

namespace ThermalSimd

/-- What a call of `update_fusion` or `update_temperature_channels` publishes. -/
inductive FusionUpdate
  | fusion (telemetry : FusionTelemetry)
  | channels (telemetry : TemperatureChannels)
  deriving DecidableEq

namespace FusionUpdate

def filtered : FusionUpdate → Bool
  | fusion telemetry => telemetry.tempAvailable
  | channels telemetry => telemetry.filteredAvailable

def rawOnly : FusionUpdate → Bool
  | fusion _ => false
  | channels telemetry => telemetry.rawAvailable && !telemetry.filteredAvailable

end FusionUpdate

/-- A call, and whether its write is entered. -/
structure FusionCall where
  update : Option FusionUpdate
  entered : Bool
  now : ℕ
  deriving DecidableEq

def FusionCall.effective (call : FusionCall) : Option FusionUpdate :=
  if call.entered then call.update else none

namespace TelemetryState

def afterCall (state : TelemetryState) (call : FusionCall) : TelemetryState :=
  match call.effective with
  | none => state
  | some (.fusion telemetry) => state.updateFusion telemetry call.now
  | some (.channels telemetry) => state.updateTemperatureChannels telemetry call.now

def afterCalls (calls : List FusionCall) : TelemetryState := calls.foldl afterCall initial

def LegacyIsFiltered (state : TelemetryState) : Prop :=
  state.fusion.tempAvailable = state.fusion.filteredTempAvailable ∧
    (state.fusion.tempAvailable = true →
      state.fusion.packageTempC = state.fusion.filteredPackageTempC)
  deriving Decidable

/-- The last update that is not raw only, if any, reports a filtered temperature. -/
def shown (updates : List FusionUpdate) : Bool :=
  (updates.filter (!·.rawOnly)).getLast?.any (·.filtered)

/-- The legacy temperature is that of the last update that is not raw only. -/
structure Published (updates : List FusionUpdate) (state : TelemetryState) : Prop where
  legacy : state.fusion.tempAvailable = shown updates
  filtered : state.fusion.filteredTempAvailable = updates.getLast?.any (·.filtered)
  same : state.fusion.tempAvailable = true → state.fusion.filteredTempAvailable = true →
    state.fusion.packageTempC = state.fusion.filteredPackageTempC

theorem Published.afterCall {updates st} (pub : Published updates st)
    (call) : Published (updates ++ call.effective.toList) (st.afterCall call) := by
  unfold TelemetryState.afterCall
  cases call.effective with
  | none => simpa using pub
  | some update =>
    cases update with
    | fusion telemetry =>
      refine ⟨?_, ?_, fun _ _ => rfl⟩ <;> simp [updateFusion, shown, FusionUpdate.rawOnly,
        FusionUpdate.filtered]
    | channels telemetry =>
      obtain ⟨_, filtered, _⟩ := pub
      cases raw : telemetry.rawAvailable <;> cases smooth : telemetry.filteredAvailable
      all_goals
        constructor <;> simp_all [updateTemperatureChannels, shown, FusionUpdate.rawOnly,
          FusionUpdate.filtered]

theorem published_afterCalls (calls) :
    Published (calls.filterMap FusionCall.effective) (afterCalls calls) := by
  induction calls using List.reverseRecOn with
  | nil => exact ⟨rfl, rfl, fun _ _ => rfl⟩
  | append_singleton calls call ih =>
    rw [List.filterMap_append, afterCalls, List.foldl_concat, ← afterCalls]
    exact ih.afterCall call

theorem shown_eq_of_not_rawOnly {updates} (plain : updates.getLast?.any (·.rawOnly) = false) :
    shown updates = updates.getLast?.any (·.filtered) := by
  induction updates using List.reverseRecOn with
  | nil => rfl
  | append_singleton updates update =>
    have plain : update.rawOnly = false := by simpa using plain
    simp [shown, plain]

theorem not_filtered_of_rawOnly {update : FusionUpdate} (raw : update.rawOnly = true) :
    update.filtered = false := by
  cases update with
  | fusion telemetry => cases raw
  | channels telemetry => simpa [FusionUpdate.filtered] using (Bool.and_eq_true_iff.mp raw).2

/-- The legacy temperature is the filtered one unless the last update is raw only and the one before
the raw only ones reported a temperature. -/
theorem legacy_is_filtered_iff (calls : List FusionCall) :
    (afterCalls calls).LegacyIsFiltered ↔
      ¬ ((calls.filterMap FusionCall.effective).getLast?.any (·.rawOnly) = true ∧
        shown (calls.filterMap FusionCall.effective) = true) := by
  obtain ⟨legacy, filtered, same⟩ := published_afterCalls calls
  generalize calls.filterMap FusionCall.effective = updates at legacy filtered
  rw [LegacyIsFiltered, legacy, filtered]
  cases raw : updates.getLast?.any (·.rawOnly) with
  | false =>
    rw [shown_eq_of_not_rawOnly raw] at legacy ⊢
    refine ⟨by simp, fun _ => ⟨rfl, fun here => same ?_ ?_⟩⟩
    · rw [legacy, here]
    · rw [filtered, here]
  | true =>
    have silent : updates.getLast?.any (·.filtered) = false := by
      cases last : updates.getLast? with
      | none => rfl
      | some =>
        rw [last] at raw
        exact not_filtered_of_rawOnly raw
    rw [silent]
    cases shown updates <;> simp

/-- After 50 filtered and then 95 raw degrees the legacy fields show 50. -/
theorem legacy_outlives_filtered :
    let state := afterCalls
      [⟨some (.fusion ⟨true, false, true, .finite 50, false, .finite 0, false, .finite 0, false,
        .finite 0⟩), true, 1⟩, ⟨some (.channels ⟨true, .finite 95, false, .finite 0⟩), true, 2⟩]
    ¬ state.LegacyIsFiltered ∧ state.fusion.tempAvailable = true ∧
      state.fusion.packageTempC = .finite 50 ∧ state.fusion.filteredTempAvailable = false := by
  decide

end TelemetryState

end ThermalSimd
