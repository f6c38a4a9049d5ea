import ThermalSimd.Guard
import ThermalSimd.Interleaving

/-!
# The telemetry bridge

The raw and filtered temperature channels of `telemetry/fusion_bridge.cpp`, from the sensor through
the raw cache to the observability state. One bridge call runs at a time; the clock, the other guard
writers and the width queries run beside it.
-/

namespace ThermalSimd

/-- Temperature and frequency of `telemetry::TelemetrySnapshot`. -/
structure FilteredSnapshot where
  tempAvailable : Bool
  packageTempC : ℚ
  freqAvailable : Bool
  freqRatio : ℚ
  deriving DecidableEq

/-- `std::llround`: to the nearest integer, halves away from zero. -/
def llround (value : ℚ) : ℤ :=
  if 0 ≤ value then ⌊value + 1 / 2⌋ else -⌊-value + 1 / 2⌋

namespace Bridge

variable {millic : ℤ} {out : TelemetrySample}

variable (state : State) (cfg : RuntimeConfig) (sample : TelemetrySample)

/-- `runtime_config_initialized`. -/
def ConfigInitialized : Prop := 0 < cfg.checkIntervalUs
  deriving Decidable

/-- `freshness_window`, in milliseconds. -/
def freshnessWindow : ℕ :=
  let freshnessMs := if ConfigInitialized cfg then cfg.telemetryMaxSkewMs else 150
  if freshnessMs < 0 then 150 else freshnessMs.toNat

/-- `smoothing_alpha`; a zero weight bypasses the filter. -/
def smoothingAlpha : ℚ :=
  if ¬ ConfigInitialized cfg then 1
  else
    match cfg.telemetryEwmaAlpha with
    | .nonfinite => 1
    | .finite alpha => if alpha < 0 ∨ 1 < alpha ∨ alpha = 0 then 1 else alpha

/-- `smooth_value`: the new filter state, which is also the value returned. -/
def smoothValue (raw : ℚ) : Option ℚ → ℚ
  | none => raw
  | some state => smoothingAlpha cfg * raw + (1 - smoothingAlpha cfg) * state

/-- The bridge's caches and filters. -/
structure State where
  /-- `g_fusion` and `g_manager` exist. -/
  fusion : Bool
  directHelperReady : Bool
  smoothedTempC : Option ℚ
  smoothedFreqRatio : Option ℚ
  rawTempValid : Bool
  rawTempMillic : ℤ
  rawTempAt : ℕ
  rawFreqValid : Bool
  rawFreqRatioMilli : ℕ
  rawFreqAt : ℕ
  rawTempMeasuredAt : ℕ
  deriving DecidableEq

/-- `reset_signal_state_unlocked`. -/
def State.resetSignalState : State :=
  { state with
    smoothedTempC := none
    smoothedFreqRatio := none
    rawTempValid := false
    rawTempMillic := 0
    rawTempAt := 0
    rawFreqValid := false
    rawFreqRatioMilli := 0
    rawFreqAt := 0 }

def State.initial : State :=
  ⟨false, false, none, none, false, 0, 0, false, 0, 0, 0⟩

/-- `record_raw_sample_unlocked` of a sample read at `measuredAt`. -/
def State.recordRawSample (measuredAt now : ℕ) : State :=
  let withTemp :=
    if sample.tempAvailable then
      { state with
        rawTempValid := true
        rawTempMillic := sample.packageTempMillic
        rawTempAt := now
        rawTempMeasuredAt := measuredAt }
    else state
  if sample.freqRatioAvailable then
    { withTemp with
      rawFreqValid := true
      rawFreqRatioMilli := sample.freqRatioMilli
      rawFreqAt := now }
  else withTemp

/-- `publish_sample_unlocked`, without the readings it puts on the telemetry bus. -/
def State.publishSample (measuredAt now : ℕ) : State :=
  let recorded := state.recordRawSample sample measuredAt now
  { recorded with
    smoothedTempC :=
      if sample.tempAvailable then
        some (smoothValue cfg (sample.packageTempMillic / 1000) recorded.smoothedTempC)
      else recorded.smoothedTempC
    smoothedFreqRatio :=
      if sample.freqRatioAvailable then
        some (smoothValue cfg sample.freqRatioMilli recorded.smoothedFreqRatio)
      else recorded.smoothedFreqRatio }

/-- `raw_is_fresh`. -/
def RawIsFresh (timestamp now : ℕ) : Prop :=
  timestamp ≠ 0 ∧ timestamp ≤ now ∧ now - timestamp ≤ freshnessWindow cfg * nsPerMs
  deriving Decidable

/-- `copy_raw_cache_unlocked`. -/
def State.copyRawCache (out : TelemetrySample) (now : ℕ) : TelemetrySample :=
  let withTemp :=
    if state.rawTempValid = true ∧ RawIsFresh cfg state.rawTempAt now then
      { out with tempAvailable := true, packageTempMillic := state.rawTempMillic }
    else out
  if state.rawFreqValid = true ∧ RawIsFresh cfg state.rawFreqAt now then
    { withTemp with freqRatioAvailable := true, freqRatioMilli := state.rawFreqRatioMilli }
  else withTemp

def State.fillSmoothedTemp (out : TelemetrySample) : TelemetrySample :=
  match state.smoothedTempC with
  | some temp =>
    { out with
      filteredTempAvailable := true
      filteredPackageTempMillic := llround (temp * 1000) }
  | none => out

/-- `copy_filtered_snapshot` of the fusion worker's latest snapshot, if any. -/
def copyFilteredSnapshot (snapshot : Option FilteredSnapshot) (out : TelemetrySample) :
    TelemetrySample :=
  match snapshot with
  | none => out
  | some snapshot =>
    if snapshot.tempAvailable = false ∧ snapshot.freqAvailable = false then out
    else
      { out with
        filteredTempAvailable := snapshot.tempAvailable
        filteredFreqRatioAvailable := snapshot.freqAvailable
        filteredPackageTempMillic :=
          if snapshot.tempAvailable then llround (snapshot.packageTempC * 1000) else 0
        filteredFreqRatioMilli :=
          if snapshot.freqAvailable then (llround snapshot.freqRatio).toNat else 0 }

/-- `fill_filtered_from_raw`. -/
def fillFilteredFromRaw (out : TelemetrySample) : TelemetrySample :=
  let withTemp :=
    if out.filteredTempAvailable = false ∧ out.tempAvailable = true then
      { out with
        filteredTempAvailable := true
        filteredPackageTempMillic := out.packageTempMillic }
    else out
  if withTemp.filteredFreqRatioAvailable = false ∧ withTemp.freqRatioAvailable = true then
    { withTemp with
      filteredFreqRatioAvailable := true
      filteredFreqRatioMilli := withTemp.freqRatioMilli }
  else withTemp

/-- The channels `update_temperature_observability_unlocked` publishes for a sample. -/
def temperatureChannels : TemperatureChannels where
  rawAvailable := sample.tempAvailable
  rawPackageTempC := .finite (if sample.tempAvailable then sample.packageTempMillic / 1000 else 0)
  filteredAvailable := sample.filteredTempAvailable
  filteredPackageTempC :=
    .finite (if sample.filteredTempAvailable then sample.filteredPackageTempMillic / 1000 else 0)

/-- A temperature the sensor delivered, and when. -/
structure Reading where
  millic : ℤ
  measuredAt : ℕ
  deriving DecidableEq

/-- The calls that record a sample. -/
inductive CallKind
  | start | publish | sample
  deriving DecidableEq

/-- Where the bridge call is. -/
inductive CallPc
  | idle
  | starting
  | recording (kind : CallKind) (sample : TelemetrySample) (measuredAt : ℕ)
  | copying (kind : CallKind)
  | observing (out : TelemetrySample)
  | gating (available : Bool)
  | clearing
  deriving DecidableEq

/-- The bridge, the guard it publishes to, and the readings so far (auxiliary). -/
structure World where
  bridge : State
  guard : GuardState
  readings : List Reading
  call : CallPc
  deriving DecidableEq

/-- Clock and raw channel stay. -/
structure KeepsRawChannel (before after : GuardState) : Prop where
  now : after.now = before.now
  available : after.telemetry.fusion.rawTempAvailable = before.telemetry.fusion.rawTempAvailable
  value : after.telemetry.fusion.rawPackageTempC = before.telemetry.fusion.rawPackageTempC
  stamp : after.telemetry.fusion.rawTempFreshnessAt = before.telemetry.fusion.rawTempFreshnessAt

def World.readingsWith (w : World) (sample : TelemetrySample) : List Reading :=
  if sample.tempAvailable then ⟨sample.packageTempMillic, w.guard.now⟩ :: w.readings
  else w.readings

def HasSignal : Prop :=
  sample.tempAvailable = true ∨ sample.freqRatioAvailable = true

/-- `update_temperature_observability_unlocked` at the current instant. -/
def World.publishChannels (w : World) (channels : TemperatureChannels) : GuardState :=
  { w.guard with telemetry := w.guard.telemetry.updateTemperatureChannels channels w.guard.now }

/-- The steps of the bridge call and of the world around it. -/
inductive Step : World → World → Prop
  | tick {w} (now : ℕ) (later : w.guard.now ≤ now) :
      Step w { w with guard := { w.guard with now } }
  | drift {w} (guard : GuardState) (keeps : KeepsRawChannel w.guard guard) : Step w { w with guard }
  -- tsd_telemetry_fusion_start_for_cpu
  | startCall {w} (idle : w.call = .idle) (helper : Bool) :
      Step w { w with
        bridge := { w.bridge.resetSignalState with fusion := true, directHelperReady := helper }
        guard := { w.guard with fusionRunning := true }
        call := .starting }
  | startRead {w} (starting : w.call = .starting) (ready : w.bridge.directHelperReady = true)
      (sample : TelemetrySample) :
      Step w { w with
        readings := w.readingsWith sample
        call := .recording .start sample w.guard.now }
  | startBlind {w} (starting : w.call = .starting) : Step w { w with call := .gating false }
  -- tsd_telemetry_fusion_publish_sample
  | publishCall {w} (idle : w.call = .idle) (present : w.bridge.fusion = true)
      (sample : TelemetrySample) :
      Step w { w with
        readings := w.readingsWith sample
        call := .recording .publish sample w.guard.now }
  -- tsd_telemetry_fusion_sample: the helper is read, or it is missing, fails or has no signal.
  | sampleRead {w} (idle : w.call = .idle) (present : w.bridge.fusion = true)
      (ready : w.bridge.directHelperReady = true) (sample : TelemetrySample)
      (signal : HasSignal sample) :
      Step w { w with
        readings := w.readingsWith sample
        call := .recording .sample sample w.guard.now }
  | sampleBlind {w} (idle : w.call = .idle) (present : w.bridge.fusion = true) :
      Step w { w with call := .copying .sample }
  | recordStart {w sample measuredAt} (recording : w.call = .recording .start sample measuredAt) :
      Step w
        (let bridge :=
          w.bridge.publishSample w.guard.configActiveSnapshot sample measuredAt w.guard.now
        { w with
          bridge
          call := .observing
            (if sample.tempAvailable then bridge.fillSmoothedTemp sample else sample) })
  | record {w kind sample measuredAt} (recording : w.call = .recording kind sample measuredAt)
      (call : kind ≠ .start) :
      Step w { w with
        bridge := w.bridge.publishSample w.guard.configActiveSnapshot sample measuredAt w.guard.now
        call := .copying kind }
  | copyPublish {w} (copying : w.call = .copying .publish) :
      Step w { w with
        call := .observing (w.bridge.fillSmoothedTemp
          (w.bridge.copyRawCache w.guard.configActiveSnapshot .zero w.guard.now)) }
  | copySample {w} (copying : w.call = .copying .sample) (snapshot : Option FilteredSnapshot) :
      Step w { w with
        call := .observing (fillFilteredFromRaw
          (w.bridge.copyRawCache w.guard.configActiveSnapshot
            (copyFilteredSnapshot snapshot .zero) w.guard.now)) }
  | observe {w out} (observing : w.call = .observing out) :
      Step w { w with
        guard := w.publishChannels (temperatureChannels out)
        call := .gating out.tempAvailable }
  -- The guard lock is unavailable: the observability state stays as it was.
  | observeFails {w out} (observing : w.call = .observing out) :
      Step w { w with call := .gating out.tempAvailable }
  | gate {w available} (gating : w.call = .gating available) :
      Step w { w with
        guard := { w.guard with temperatureUpgradeAllowed := available }, call := .idle }
  | gateFails {w available} (gating : w.call = .gating available) :
      Step w { w with
        guard := { w.guard with temperatureUpgradeAllowed := false }, call := .idle }
  -- tsd_telemetry_fusion_stop by the last user, and the rollback of a failed start
  | stopCall {w} (idle : w.call = .idle ∨ w.call = .starting) (allowed : Bool)
      (gate : allowed = true ∨ allowed = w.guard.temperatureUpgradeAllowed) :
      Step w { w with
        bridge := { w.bridge.resetSignalState with fusion := false, directHelperReady := false }
        guard := { w.guard with fusionRunning := false, temperatureUpgradeAllowed := allowed }
        call := .clearing }
  | clear {w} (clearing : w.call = .clearing) :
      Step w { w with
        guard := w.publishChannels (temperatureChannels .zero), call := .idle }
  | clearFails {w} (clearing : w.call = .clearing) : Step w { w with call := .idle }

/-- Nothing has been published. -/
structure Initial (w : World) : Prop where
  idle : w.call = .idle
  bridge : w.bridge = .initial
  unpublished : w.guard.telemetry.fusion.rawTempAvailable = false

private def rawTemp : Option ℤ :=
  if sample.tempAvailable then some sample.packageTempMillic else none

private def State.cachedTemp : Option Reading :=
  if state.rawTempValid then some ⟨state.rawTempMillic, state.rawTempMeasuredAt⟩ else none

@[simp]
theorem rawTemp_zero : rawTemp .zero = none := rfl

@[simp]
theorem rawTemp_fillSmoothedTemp (out) : rawTemp (state.fillSmoothedTemp out) = rawTemp out := by
  unfold State.fillSmoothedTemp
  cases state.smoothedTempC <;> rfl

@[simp]
theorem rawTemp_copyFilteredSnapshot (snapshot out) :
    rawTemp (copyFilteredSnapshot snapshot out) = rawTemp out := by
  unfold copyFilteredSnapshot
  split
  · rfl
  · split_ifs <;> rfl

@[simp]
theorem rawTemp_fillFilteredFromRaw (out) : rawTemp (fillFilteredFromRaw out) = rawTemp out := by
  unfold fillFilteredFromRaw
  dsimp only
  split_ifs <;> rfl

variable {reading : Reading}

theorem rawTempMeasuredAt_eq {state : State} (cached : state.cachedTemp = some reading) :
    reading.measuredAt = state.rawTempMeasuredAt := by
  unfold State.cachedTemp at cached
  split_ifs at cached
  rw [← Option.some.inj cached]

theorem cachedTemp_publishSample (state : State) (cfg sample measuredAt now) :
    (state.publishSample cfg sample measuredAt now).cachedTemp =
      if sample.tempAvailable then some ⟨sample.packageTempMillic, measuredAt⟩
      else state.cachedTemp := by
  unfold State.publishSample State.recordRawSample State.cachedTemp
  cases sample.tempAvailable <;> cases sample.freqRatioAvailable <;> rfl

theorem cachedTemp_of_copyRawCache {state : State} {cfg now}
    (absent : rawTemp out = none)
    (copied : rawTemp (state.copyRawCache cfg out now) = some millic) :
    state.cachedTemp = some ⟨millic, state.rawTempMeasuredAt⟩ := by
  unfold State.copyRawCache at copied
  unfold State.cachedTemp
  by_cases fresh : state.rawTempValid = true ∧ RawIsFresh cfg state.rawTempAt now
  · have v : some state.rawTempMillic = some millic := by
      rw [← copied]
      split_ifs <;> rfl
    rw [if_pos fresh.1, Option.some.inj v]
  · have same : rawTemp out = some millic := by
      rw [← copied]
      split_ifs <;> rfl
    rw [absent] at same
    cases same

theorem temperatureChannels_raw (avail : (temperatureChannels out).rawAvailable = true) :
    ∃ millic, rawTemp out = some millic ∧
      (temperatureChannels out).rawPackageTempC = .finite (millic / 1000) := by
  have present : out.tempAvailable = true := avail
  exact ⟨out.packageTempMillic, by simp [rawTemp, present], by simp [temperatureChannels, present]⟩

/-- Raw temperatures were read, and published ones carry the instant of the reading. -/
structure Measured (w : World) : Prop where
  cached : ∀ reading, w.bridge.cachedTemp = some reading → reading ∈ w.readings
  recording : ∀ kind sample measuredAt millic, w.call = .recording kind sample measuredAt →
    rawTemp sample = some millic → ⟨millic, measuredAt⟩ ∈ w.readings
  observing : ∀ out millic, w.call = .observing out → rawTemp out = some millic →
    w.bridge.cachedTemp = some ⟨millic, w.bridge.rawTempMeasuredAt⟩
  published : w.guard.telemetry.fusion.rawTempAvailable = true →
    ∃ reading ∈ w.readings,
      w.guard.telemetry.fusion.rawPackageTempC = .finite (reading.millic / 1000) ∧
        w.guard.telemetry.fusion.rawTempFreshnessAt = reading.measuredAt

def StampsMeasurement (w next : World) : Prop :=
  ∀ out, w.call = .observing out → next.guard = w.publishChannels (temperatureChannels out) →
    out.tempAvailable = true → w.guard.now = w.bridge.rawTempMeasuredAt

theorem subset_readingsWith (w : World) (sample) (known : reading ∈ w.readings) :
    reading ∈ w.readingsWith sample := by
  unfold World.readingsWith
  split_ifs
  · exact List.mem_cons_of_mem _ known
  · exact known

theorem mem_readingsWith (w : World) {sample} (v : rawTemp sample = some millic) :
    (⟨millic, w.guard.now⟩ : Reading) ∈ w.readingsWith sample := by
  unfold rawTemp at v
  unfold World.readingsWith
  split_ifs at v ⊢
  rw [Option.some.inj v]
  exact List.mem_cons_self

variable {w : World}

theorem Initial.measured (initial : Initial w) : Measured w where
  cached reading cached := by
    rw [initial.bridge] at cached
    cases cached
  recording kind sample measuredAt millic call := by
    rw [initial.idle] at call
    cases call
  observing out millic call := by
    rw [initial.idle] at call
    cases call
  published avail := by
    rw [initial.unpublished] at avail
    cases avail

variable {next : World}

section

variable (step : Step w next)
include step

theorem Step.readings_subset (known : reading ∈ w.readings) :
    reading ∈ next.readings := by
  cases step with
  | startRead _ _ sample | publishCall _ _ sample | sampleRead _ _ _ sample =>
    exact subset_readingsWith w sample known
  | _ => exact known

theorem Step.recording (measured : Measured w) {kind sample measuredAt}
    (call : next.call = .recording kind sample measuredAt) (v : rawTemp sample = some millic) :
    (⟨millic, measuredAt⟩ : Reading) ∈ next.readings := by
  cases step with
  | tick _ _ | drift _ _ => exact measured.recording kind sample measuredAt millic call v
  | startRead _ _ read | publishCall _ _ read | sampleRead _ _ _ read =>
    obtain ⟨rfl, rfl, rfl⟩ := CallPc.recording.inj call
    exact mem_readingsWith w v
  | _ => cases call

theorem Step.cachedTemp :
    next.bridge.cachedTemp = w.bridge.cachedTemp ∨ next.bridge.cachedTemp = none ∨
      ∃ kind sample measuredAt millic, w.call = .recording kind sample measuredAt ∧
        rawTemp sample = some millic ∧ next.bridge.cachedTemp = some ⟨millic, measuredAt⟩ := by
  have recorded {kind sample measuredAt} (call : w.call = .recording kind sample measuredAt) :
      let after := (w.bridge.publishSample w.guard.configActiveSnapshot sample measuredAt
        w.guard.now).cachedTemp
      after = w.bridge.cachedTemp ∨ after = none ∨
        ∃ kind sample measuredAt millic, w.call = .recording kind sample measuredAt ∧
          rawTemp sample = some millic ∧ after = some ⟨millic, measuredAt⟩ := by
    rw [cachedTemp_publishSample]
    by_cases avail : sample.tempAvailable = true
    · exact .inr (.inr ⟨kind, sample, measuredAt, _, call, if_pos avail, if_pos avail⟩)
    · exact .inl (if_neg avail)
  cases step with
  | startCall _ _ | stopCall _ _ _ => exact .inr (.inl rfl)
  | recordStart call | record call _ => exact recorded call
  | _ => exact .inl rfl

theorem Step.observing (measured : Measured w)
    (call : next.call = .observing out) (v : rawTemp out = some millic) :
    next.bridge.cachedTemp = some ⟨millic, next.bridge.rawTempMeasuredAt⟩ := by
  cases step with
  | tick _ _ | drift _ _ => exact measured.observing out millic call v
  | @recordStart sample measuredAt recording =>
    have raw : rawTemp out = rawTemp sample := by
      rw [← CallPc.observing.inj call]
      split_ifs
      · exact rawTemp_fillSmoothedTemp _ sample
      · rfl
    rw [raw] at v
    have cached := cachedTemp_publishSample w.bridge w.guard.configActiveSnapshot sample
      measuredAt w.guard.now
    unfold rawTemp at v
    split_ifs at v with avail
    rw [if_pos avail, Option.some.inj v] at cached
    rw [← rawTempMeasuredAt_eq cached]
    exact cached
  | copyPublish copying =>
    cases call
    rw [rawTemp_fillSmoothedTemp] at v
    exact cachedTemp_of_copyRawCache rawTemp_zero v
  | copySample copying snapshot =>
    cases call
    rw [rawTemp_fillFilteredFromRaw] at v
    exact cachedTemp_of_copyRawCache (rawTemp_copyFilteredSnapshot snapshot .zero) v
  | _ => cases call

theorem Step.published
    (avail : next.guard.telemetry.fusion.rawTempAvailable = true) :
    (w.guard.telemetry.fusion.rawTempAvailable = true ∧
      next.guard.telemetry.fusion.rawPackageTempC = w.guard.telemetry.fusion.rawPackageTempC ∧
        next.guard.telemetry.fusion.rawTempFreshnessAt =
          w.guard.telemetry.fusion.rawTempFreshnessAt) ∨
      ∃ out millic, w.call = .observing out ∧ rawTemp out = some millic ∧
        next.guard = w.publishChannels (temperatureChannels out) ∧
          next.guard.telemetry.fusion.rawPackageTempC = .finite (millic / 1000) ∧
            next.guard.telemetry.fusion.rawTempFreshnessAt = w.guard.now := by
  cases step with
  | drift _ keeps => exact .inl ⟨keeps.available ▸ avail, keeps.value, keeps.stamp⟩
  | @observe out observing =>
    have raw : (temperatureChannels out).rawAvailable = true := avail
    obtain ⟨millic, v, degrees⟩ := temperatureChannels_raw raw
    exact .inr ⟨out, millic, observing, v, rfl, degrees, if_pos raw⟩
  | clear => cases avail
  | _ => exact .inl ⟨avail, rfl, rfl⟩

theorem Step.measured (stamps : StampsMeasurement w next)
    (measured : Measured w) : Measured next where
  cached reading cached := by
    rcases step.cachedTemp with same | emptied | ⟨kind, sample, measuredAt, millic, call, v, new⟩
    · rw [same] at cached
      exact step.readings_subset (measured.cached reading cached)
    · rw [emptied] at cached
      cases cached
    · rw [new] at cached
      rw [← Option.some.inj cached]
      exact step.readings_subset (measured.recording kind sample measuredAt millic call v)
  recording _ _ _ _ call v := step.recording measured call v
  observing _ _ call v := step.observing measured call v
  published avail := by
    rcases step.published avail with ⟨before, sameValue, sameStamp⟩ |
      ⟨out, millic, observing, v, publishes, degrees, stamp⟩
    · obtain ⟨reading, known, degrees, stamp⟩ := measured.published before
      exact ⟨reading, step.readings_subset known, sameValue.trans degrees, sameStamp.trans stamp⟩
    · have cached := measured.observing out millic observing v
      have carries : out.tempAvailable = true := by
        unfold rawTemp at v
        split_ifs at v with carries
        exact carries
      exact ⟨_, step.readings_subset (measured.cached _ cached), degrees,
        stamp.trans (stamps out observing publishes carries)⟩

end

/-- The temperature a width query compares was read within the captured window. -/
def ComparesMeasuredTemperature (w : World) : Prop :=
  ∃ cfg temp, w.guard.safetyConfigSnapshot.1 = some cfg ∧
    w.guard.telemetry.rawTemperature cfg.freshnessMs w.guard.now = some (.finite temp) ∧
      ∃ reading ∈ w.readings, temp = reading.millic / 1000 ∧ reading.measuredAt ≤ w.guard.now ∧
        w.guard.now ≤ reading.measuredAt + cfg.freshnessMs * nsPerMs

theorem Measured.comparesMeasuredTemperature (measured : Measured w)
    (live : w.guard.LiveWidthAuthorized) : ComparesMeasuredTemperature w := by
  obtain ⟨-, -, cfg, captured, -, temp, reported, -⟩ := live
  obtain ⟨avail, v, notEarlier, notOlder⟩ :=
    TelemetryState.rawTemperature_eq_some reported
  obtain ⟨reading, known, degrees, stamp⟩ := measured.published avail
  rw [stamp] at notEarlier notOlder
  have same : temp = reading.millic / 1000 := Double.finite.inj (v.symm.trans degrees)
  exact ⟨cfg, temp, captured, reported, reading, known, same, notEarlier, notOlder⟩

/-- Where raw temperatures are stamped when measured, a wide width is authorized only on one
measured within `telemetry_max_skew_ms`. -/
theorem authorized_on_measured_temperature {trace : ℕ → World} {length : ℕ}
    (initial : Initial (trace 0)) (run : Interleaving.IsRun Step trace length)
    (stamps : ∀ index < length, StampsMeasurement (trace index) (trace (index + 1)))
    {index : ℕ} (reached : index ≤ length) {width : SimdWidth} (wide : width.IsWide)
    (active : (trace index).guard.telemetry.RuntimeGuardActive)
    (authorized : (trace index).guard.WidthAuthorized width.toInt) :
    ComparesMeasuredTemperature (trace index) := by
  have stamped :
      Interleaving.IsRun (fun w next => Step w next ∧ StampsMeasurement w next) trace length :=
    fun index below => ⟨run index below, stamps index below⟩
  have measured := stamped.invariant initial.measured
    fun _ _ measured step => step.1.measured step.2 measured
  have live := ((GuardState.widthAuthorized_wide_iff _ wide).mp authorized).2.2 active
  exact (measured index reached).comparesMeasuredTemperature live

def hardwareGuard : GuardState :=
  { GuardState.permissive with
    now := 1 * nsPerMs
    telemetry :=
      { TelemetryState.initial with
        perf :=
          { mode := .hardware, countersHealthy := true, pinnedCpu := 0, monitorCpu := 0
            freshnessAt := 1 * nsPerMs } } }

def hardwareWorld : World := ⟨.initial, hardwareGuard, [], .idle⟩

def coolSample : TelemetrySample :=
  { TelemetrySample.zero with tempAvailable := true, packageTempMillic := 50000 }

private theorem hardwareWorld_initial : Initial hardwareWorld := ⟨rfl, rfl, rfl⟩

/-- A start of the bridge that reads and publishes fifty degrees. -/
def coolStart : Interleaving.Path Step hardwareWorld :=
  .move (.startCall rfl true) <| .move (.startRead rfl rfl coolSample) <|
  .move (.recordStart rfl) <| .move (.observe rfl) <| .move (.gate rfl) .done

/-- A sample call that has to copy the cached temperature, and publishes it. -/
def cachedSample : Interleaving.Path Step hardwareWorld :=
  coolStart.append <| .move (.tick (151 * nsPerMs) (by decide)) <| .move (.sampleBlind rfl rfl) <|
  .move (.copySample rfl none) <| .move (.observe rfl) <| .move (.gate rfl) <|
  .move (.tick (301 * nsPerMs) (by decide)) .done

/-- Fifty degrees are authorized right after they were read. -/
theorem authorized_on_measured_temperature_start :
    ((coolStart.trace 5).guard.WidthAuthorized SimdWidth.avx2.toInt) ∧
      ComparesMeasuredTemperature (coolStart.trace 5) := by
  have authorized : (coolStart.trace 5).guard.WidthAuthorized SimdWidth.avx2.toInt := by
    decide +kernel
  have stamps : ∀ index < 5,
      StampsMeasurement (coolStart.trace index) (coolStart.trace (index + 1)) := by
    intro index below _ observing _ _
    -- Only the fourth move publishes, and the clock has not moved since the reading.
    match index, below with
    | 3, _ => rfl
    | 0, _ | 1, _ | 2, _ | 4, _ => cases observing
  exact ⟨authorized, authorized_on_measured_temperature hardwareWorld_initial coolStart.isRun
    stamps le_rfl (by decide) (by decide) authorized⟩

/-- A failed sensor read restamps the cached temperature, and AVX2 is authorized 300 ms after the
only reading; the window is 150 ms. -/
theorem cached_temperature_restamped :
    ∃ trace length, Initial (trace 0) ∧ Interleaving.IsRun Step trace length ∧
      (trace length).guard.telemetry.RuntimeGuardActive ∧
      (trace length).guard.fusionRunning = true ∧
      (trace length).guard.WidthAuthorized SimdWidth.avx2.toInt ∧
      ¬ ComparesMeasuredTemperature (trace length) := by
  refine ⟨cachedSample.trace, 11, hardwareWorld_initial, cachedSample.isRun, by decide, rfl,
    by decide +kernel, ?_⟩
  rintro ⟨_, _, captured, -, _, known, -, -, notOlder⟩
  obtain rfl := Option.some.inj captured
  obtain rfl := List.mem_singleton.mp known
  exact absurd notOlder (by decide)

end Bridge
end ThermalSimd
