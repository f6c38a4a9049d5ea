import ThermalSimd.Bridge

/-!
# The fusion bridge, call by call

The process-wide state of `telemetry/fusion_bridge.cpp` with the fusion service it owns. Each entry
point runs under the bridge mutex and is a function of the state, the active configuration and what
it reads, exceptions included. The worker moves between the calls, and inside them between the
points where they touch the bus or the ring.
-/

namespace ThermalSimd.Bridge

/-- A reading on the telemetry bus from the source `direct`, which always has the same quality. -/
structure BusReading where
  value : ℚ
  timestamp : ℕ
  contributors : List ℕ
  deriving DecidableEq

/-- A snapshot with the times of its readings. -/
structure RingEntry where
  snapshot : FilteredSnapshot
  contributors : List ℕ
  deriving DecidableEq

/-- Where the worker stands in an iteration. -/
inductive WorkerPc
  | idle
  | readingTemp (now : ℕ)
  | readingFreq (now : ℕ) (temp : Option BusReading)
  | publishing (entry : RingEntry)
  deriving DecidableEq

/-- The parts of `TelemetryFusion` the bridge reaches. -/
structure Service where
  /-- `config_.freshness_window`, in milliseconds. -/
  window : ℕ
  running : Bool
  temp : Option BusReading
  freq : Option BusReading
  latest : Option RingEntry
  worker : WorkerPc
  deriving DecidableEq

/-- `TelemetryBus::publish` to the slot of `direct`. -/
def busPublish (reading : BusReading) : Option BusReading → BusReading
  | none => reading
  | some slot =>
    if slot.timestamp = 0 ∨ slot.timestamp ≤ reading.timestamp then reading else slot

/-- `TelemetryFusion::assign_value` with `direct` as the only source. -/
def assignValue (window now : ℕ) : Option BusReading → Option BusReading
  | none => none
  | some reading =>
    if reading.timestamp = 0 ∨ now < reading.timestamp ∨
        window * nsPerMs < now - reading.timestamp then none
    else some reading

/-- The snapshot `TelemetryFusion::fuse` makes of the readings it found. -/
def fuse (temp freq : Option BusReading) : RingEntry where
  snapshot :=
    { tempAvailable := temp.isSome
      packageTempC := (temp.map BusReading.value).getD 0
      freqAvailable := freq.isSome
      freqRatio := (freq.map BusReading.value).getD 0 }
  contributors := (temp.map BusReading.contributors).getD []

/-- A move of the worker: an iteration begins at `now`, goes on, or throws. -/
inductive WorkerMove
  | begins (now : ℕ)
  | proceeds
  | throws
  deriving DecidableEq

/-- One move of `TelemetryFusion::run`. -/
def Service.move (service : Service) : WorkerMove → Service
  | .begins now =>
    if service.running = true ∧ service.worker = .idle then
      { service with worker := .readingTemp now }
    else service
  | .proceeds =>
    match service.worker with
    | .idle => service
    | .readingTemp now =>
      { service with
        worker := .readingFreq now (assignValue service.window now service.temp) }
    | .readingFreq now temp =>
      { service with
        worker := .publishing (fuse temp (assignValue service.window now service.freq)) }
    | .publishing entry => { service with latest := some entry, worker := .idle }
  | .throws => { service with worker := .idle }

/-- The variables of the bridge. -/
structure Globals where
  signal : State
  /-- `g_fusion`, with `g_manager`. -/
  service : Option Service
  users : UInt32
  cpu : ℤ
  running : Bool
  upgradeAllowed : Bool
  temps : List Reading
  deriving DecidableEq

/-- What a call returns and publishes. -/
structure Reply where
  /-- The `errno` of a failed call. -/
  error : Option Errno
  /-- The output of `tsd_telemetry_fusion_sample`. -/
  out : TelemetrySample
  /-- What `tsd_observability_update_temperature_channels` is called with, if it is. -/
  channels : Option TemperatureChannels
  contributors : List ℕ
  deriving DecidableEq

/-- The publication that throws, if one does. -/
inductive BusFault
  | none | temp | freq
  deriving DecidableEq

/-- What `publish_sample_unlocked` meets: the clock, the bus, and the worker. -/
structure PublishEnv where
  now : ℕ
  fault : BusFault
  beforeTemp : List WorkerMove
  beforeFreq : List WorkerMove

namespace Globals

variable (bridge : Globals)

def initial : Globals := ⟨.initial, none, 0, -1, false, true, []⟩

/-- `tsd_telemetry_temperature_upgrade_allowed`. -/
def temperatureUpgradeAllowed : Bool := !bridge.running || bridge.upgradeAllowed

def work (moves : List WorkerMove) : Globals :=
  { bridge with service := bridge.service.map fun service => moves.foldl Service.move service }

/-- `record_raw_sample_unlocked`. -/
def recordRawSample (sample : TelemetrySample) (now : ℕ) : Globals :=
  { bridge with
    signal := bridge.signal.recordRawSample sample now now
    temps :=
      if sample.tempAvailable then ⟨sample.packageTempMillic, now⟩ :: bridge.temps
      else bridge.temps }

variable (cfg : RuntimeConfig)

/-- `smooth_value` of the temperature. -/
def smoothTemp (sample : TelemetrySample) : Globals :=
  { bridge with
    signal := { bridge.signal with
      smoothedTempC :=
        some (smoothValue cfg (sample.packageTempMillic / 1000) bridge.signal.smoothedTempC) } }

/-- `smooth_value` of the frequency ratio. -/
def smoothFreq (sample : TelemetrySample) : Globals :=
  { bridge with
    signal := { bridge.signal with
      smoothedFreqRatio :=
        some (smoothValue cfg sample.freqRatioMilli bridge.signal.smoothedFreqRatio) } }

def tempTimes : List ℕ := bridge.temps.map Reading.measuredAt

def publishTemp (now : ℕ) : Globals :=
  { bridge with
    service := bridge.service.map fun service =>
      { service with
        temp := some (busPublish
          ⟨bridge.signal.smoothedTempC.getD 0, now, bridge.tempTimes⟩ service.temp) } }

def publishFreq (now : ℕ) : Globals :=
  { bridge with
    service := bridge.service.map fun service =>
      { service with
        freq := some (busPublish
          ⟨bridge.signal.smoothedFreqRatio.getD 0, now, []⟩ service.freq) } }

/-- The temperature part of `publish_sample_unlocked`. -/
def publishSampleTemp (sample : TelemetrySample) (env : PublishEnv) : Globals × Bool :=
  if sample.tempAvailable = false then (bridge, false)
  else if env.fault = .temp then (bridge.smoothTemp cfg sample, true)
  else ((bridge.smoothTemp cfg sample).publishTemp env.now, false)

/-- The frequency part of `publish_sample_unlocked`. -/
def publishSampleFreq (sample : TelemetrySample) (env : PublishEnv) : Globals × Bool :=
  if sample.freqRatioAvailable = false then (bridge, false)
  else if env.fault = .freq then (bridge.smoothFreq cfg sample, true)
  else ((bridge.smoothFreq cfg sample).publishFreq env.now, false)

/-- `publish_sample_unlocked`: the state it leaves, and whether it throws. -/
def publishSample (sample : TelemetrySample) (env : PublishEnv) : Globals × Bool :=
  match ((bridge.recordRawSample sample env.now).work env.beforeTemp).publishSampleTemp
      cfg sample env with
  | (thrown, true) => (thrown, true)
  | (published, false) => (published.work env.beforeFreq).publishSampleFreq cfg sample env

/-- `update_temperature_gate_unlocked`; `entered`: the guard's lock could be taken. -/
def updateTemperatureGate (available entered : Bool) : Globals :=
  { bridge with upgradeAllowed := entered && available }

/-- The common end of `rollback_start_unlocked` and of the last stop. -/
def tearDown (entered : Bool) : Globals where
  signal := { bridge.signal.resetSignalState with fusion := false, directHelperReady := false }
  service := none
  users := 0
  cpu := -1
  running := false
  upgradeAllowed := entered || bridge.upgradeAllowed
  temps := []

end Globals

instance (sample : TelemetrySample) : Decidable (HasSignal sample) :=
  inferInstanceAs (Decidable (_ ∨ _))

/-- The readings `tsd_telemetry_helper_sample` obtains. -/
structure HelperReadings where
  temp : Option ℤ
  freq : Option ℕ

/-- The sample `tsd_telemetry_helper_sample` fills in. -/
def HelperReadings.fill (readings : HelperReadings) : TelemetrySample :=
  { TelemetrySample.zero with
    tempAvailable := readings.temp.isSome
    packageTempMillic := readings.temp.getD 0
    freqRatioAvailable := readings.freq.isSome
    freqRatioMilli := readings.freq.getD 0 }

/-- `tsd_telemetry_helper_sample`, which fails when it has no reading at all. -/
def HelperReadings.sample (readings : HelperReadings) : Option TelemetrySample :=
  if HasSignal readings.fill then some readings.fill else none

/-- What `start_unlocked` reads. -/
structure StartInput where
  /-- An exception before the gate is updated, as the `errno` it is reported as. -/
  fault : Option Errno
  /-- `tsd_telemetry_helper_init` succeeds. -/
  helper : Bool
  initial : HelperReadings
  env : PublishEnv
  /-- `tsd_runtime_safety_write_enter` succeeds. -/
  entered : Bool

/-- What `tsd_telemetry_fusion_publish_sample` reads besides its argument. -/
structure PublishInput where
  env : PublishEnv
  copiedAt : ℕ
  entered : Bool

/-- What `tsd_telemetry_fusion_sample` reads. -/
structure SampleCallInput where
  direct : HelperReadings
  env : PublishEnv
  beforeSnapshot : List WorkerMove
  copiedAt : ℕ
  entered : Bool

def Reply.bare (error : Option Errno) (channels : Option TemperatureChannels) : Reply :=
  ⟨error, .zero, channels, []⟩

namespace Globals

variable (bridge : Globals) (cfg : RuntimeConfig)

/-- `runtime_config_initialized` with a profile path that is not empty. -/
def HasProfile : Prop := ConfigInitialized cfg ∧ cfg.telemetryProfilePath ≠ ""
  deriving Decidable

/-- The state of `start_unlocked` once the worker is started. -/
def started (cpu : ℤ) (helper : Bool) : Globals :=
  { bridge with
    signal := { bridge.signal.resetSignalState with fusion := true, directHelperReady := helper }
    service := some ⟨freshnessWindow cfg, true, none, none, none, .idle⟩
    users := 1
    cpu := cpu
    running := true
    temps := [] }

/-- The end of `start_unlocked`: the first sample and the gate. -/
def publishInitial (input : StartInput) : Globals × Reply :=
  match bridge.signal.directHelperReady, input.initial.sample with
  | true, some sample =>
    let published :=
      if HasSignal sample then
        (bridge.publishSample cfg sample { input.env with fault := .none }).1
      else bridge
    let out :=
      if sample.tempAvailable then published.signal.fillSmoothedTemp sample else sample
    (published.updateTemperatureGate sample.tempAvailable input.entered,
      { error := none
        out := .zero
        channels := some (temperatureChannels out)
        contributors := published.tempTimes })
  | _, _ => (bridge.updateTemperatureGate false input.entered, .bare none none)

/-- `g_fusion && g_fusion->running()`. -/
def Live : Prop := (bridge.service.map Service.running).getD false = true
  deriving Decidable

/-- `start_unlocked`. -/
def startUnlocked (cpu : ℤ) (input : StartInput) : Globals × Reply :=
  if cpu < 0 then (bridge, .bare (some .einval) none)
  else if HasProfile cfg then (bridge, .bare (some .enotsup) none)
  else if bridge.Live then
    if cpu ≠ bridge.cpu then (bridge, .bare (some .ebusy) none)
    else ({ bridge with users := bridge.users + 1 }, .bare none none)
  else
    match input.fault with
    | some error =>
      (bridge.tearDown input.entered, .bare (some error) (some (temperatureChannels .zero)))
    | none => (bridge.started cfg cpu input.helper).publishInitial cfg input

/-- `tsd_telemetry_fusion_stop`. -/
def stop (entered : Bool) : Globals × Reply :=
  if 1 < bridge.users then ({ bridge with users := bridge.users - 1 }, .bare none none)
  else (bridge.tearDown entered, .bare none (some (temperatureChannels .zero)))

/-- `tsd_telemetry_fusion_publish_sample`. -/
def publishCall (sample : TelemetrySample) (input : PublishInput) : Globals × Reply :=
  if bridge.service = none then (bridge, .bare (some .enodev) none)
  else
    match bridge.publishSample cfg sample input.env with
    | (thrown, true) => (thrown, .bare (some .eio) none)
    | (published, false) =>
      let safety := published.signal.fillSmoothedTemp
        (published.signal.copyRawCache cfg .zero input.copiedAt)
      (published.updateTemperatureGate safety.tempAvailable input.entered,
        { error := if HasSignal sample then none else some .enodata
          out := .zero
          channels := some (temperatureChannels safety)
          contributors := published.tempTimes })

/-- The direct sample of `tsd_telemetry_fusion_sample`, and whether it throws. -/
def publishDirect (input : SampleCallInput) : Globals × Bool :=
  match bridge.signal.directHelperReady, input.direct.sample with
  | true, some direct =>
    if HasSignal direct then bridge.publishSample cfg direct input.env else (bridge, false)
  | _, _ => (bridge, false)

def usableSnapshot : Option RingEntry :=
  (bridge.service.bind Service.latest).filter fun entry =>
    entry.snapshot.tempAvailable || entry.snapshot.freqAvailable

/-- The output of `tsd_telemetry_fusion_sample` at `now`. -/
def sampleOut (now : ℕ) : TelemetrySample :=
  fillFilteredFromRaw (bridge.signal.copyRawCache cfg
    (copyFilteredSnapshot ((bridge.service.bind Service.latest).map RingEntry.snapshot) .zero) now)

/-- The readings behind the filtered temperature of `sampleOut`. -/
def sampleContributors : List ℕ :=
  match bridge.usableSnapshot with
  | some entry =>
    if entry.snapshot.tempAvailable then entry.contributors else [bridge.signal.rawTempAt]
  | none => [bridge.signal.rawTempAt]

/-- `tsd_telemetry_fusion_sample`. -/
def sampleCall (input : SampleCallInput) : Globals × Reply :=
  if bridge.service = none then (bridge, .bare (some .enodev) none)
  else
    match bridge.publishDirect cfg input with
    | (thrown, true) => (thrown, .bare (some .eio) none)
    | (direct, false) =>
      let fused := direct.work input.beforeSnapshot
      let out := fused.sampleOut cfg input.copiedAt
      (fused.updateTemperatureGate out.tempAvailable input.entered,
        { error :=
            if HasSignal out ∨ fused.usableSnapshot.isSome = true then none else some .enodata
          out := out
          channels := some (temperatureChannels out)
          contributors := fused.sampleContributors })

def workerStops : Globals :=
  { bridge with service := bridge.service.map fun service => { service with running := false } }

end Globals

namespace Globals

variable (bridge : Globals) (cfg : RuntimeConfig)

/-- How `start_unlocked` ends. -/
inductive StartOutcome (cpu : ℤ) (input : StartInput) : Globals × Reply → Prop
  | refused (error : Errno) : StartOutcome cpu input (bridge, .bare (some error) none)
  | shared (live : bridge.Live) (same : cpu = bridge.cpu) :
      StartOutcome cpu input ({ bridge with users := bridge.users + 1 }, .bare none none)
  | failed (stopped : ¬ bridge.Live) (error : Errno) :
      StartOutcome cpu input
        (bridge.tearDown input.entered, .bare (some error) (some (temperatureChannels .zero)))
  | opened (stopped : ¬ bridge.Live) :
      StartOutcome cpu input ((bridge.started cfg cpu input.helper).publishInitial cfg input)

theorem startUnlocked_outcome (cpu input) :
    bridge.StartOutcome cfg cpu input (bridge.startUnlocked cfg cpu input) := by
  unfold startUnlocked
  by_cases negative : cpu < 0
  · rw [if_pos negative]
    exact .refused _
  by_cases profile : HasProfile cfg
  · rw [if_neg negative, if_pos profile]
    exact .refused _
  rw [if_neg negative, if_neg profile]
  by_cases live : bridge.Live
  · rw [if_pos live]
    by_cases same : cpu = bridge.cpu
    · rw [if_neg (not_not.mpr same)]
      exact .shared live same
    · rw [if_pos same]
      exact .refused _
  · rw [if_neg live]
    cases input.fault with
    | some error => exact .failed live error
    | none => exact .opened live

def safetySample (now : ℕ) : TelemetrySample :=
  bridge.signal.fillSmoothedTemp (bridge.signal.copyRawCache cfg .zero now)

/-- How a publication ends. -/
inductive PublishOutcome (sample : TelemetrySample) (input : PublishInput) : Globals × Reply → Prop
  | absent : PublishOutcome sample input (bridge, .bare (some .enodev) none)
  | thrown (after : Globals)
      (publishes : bridge.publishSample cfg sample input.env = (after, true)) :
      PublishOutcome sample input (after, .bare (some .eio) none)
  | published (after : Globals)
      (publishes : bridge.publishSample cfg sample input.env = (after, false)) :
      PublishOutcome sample input
        (after.updateTemperatureGate (after.safetySample cfg input.copiedAt).tempAvailable
            input.entered,
          { error := if HasSignal sample then none else some .enodata
            out := .zero
            channels := some (temperatureChannels (after.safetySample cfg input.copiedAt))
            contributors := after.tempTimes })

theorem publishCall_outcome (sample input) :
    bridge.PublishOutcome cfg sample input (bridge.publishCall cfg sample input) := by
  unfold publishCall
  by_cases absent : bridge.service = none
  · rw [if_pos absent]
    exact .absent
  rw [if_neg absent]
  split
  next after publishes => exact .thrown after publishes
  next after publishes => exact .published after publishes

theorem publishCall_rule (good : Globals → Prop)
    (gated : ∀ after avail entered, good after →
      good (after.updateTemperatureGate avail entered))
    {sample input} (absent : good bridge)
    (pub : good (bridge.publishSample cfg sample input.env).1) :
    good (bridge.publishCall cfg sample input).1 := by
  have out := bridge.publishCall_outcome cfg sample input
  generalize bridge.publishCall cfg sample input = res at out ⊢
  cases out with
  | absent => exact absent
  | thrown after publishes =>
    rw [publishes] at pub
    exact pub
  | published after publishes =>
    rw [publishes] at pub
    exact gated _ _ _ pub

/-- How a sample ends. -/
inductive SampleOutcome (input : SampleCallInput) : Globals × Reply → Prop
  | absent : SampleOutcome input (bridge, .bare (some .enodev) none)
  | thrown (after : Globals) (publishes : bridge.publishDirect cfg input = (after, true)) :
      SampleOutcome input (after, .bare (some .eio) none)
  | sampled (direct after : Globals) (publishes : bridge.publishDirect cfg input = (direct, false))
      (fused : direct.work input.beforeSnapshot = after) :
      SampleOutcome input
        (after.updateTemperatureGate (after.sampleOut cfg input.copiedAt).tempAvailable
            input.entered,
          { error :=
              if HasSignal (after.sampleOut cfg input.copiedAt) ∨
                after.usableSnapshot.isSome = true then none else some .enodata
            out := after.sampleOut cfg input.copiedAt
            channels := some (temperatureChannels (after.sampleOut cfg input.copiedAt))
            contributors := after.sampleContributors })

theorem sampleCall_outcome (input) :
    bridge.SampleOutcome cfg input (bridge.sampleCall cfg input) := by
  unfold sampleCall
  by_cases absent : bridge.service = none
  · rw [if_pos absent]
    exact .absent
  rw [if_neg absent]
  split
  next after publishes => exact .thrown after publishes
  next direct publishes => exact .sampled direct _ publishes rfl

theorem sampleCall_rule (good : Globals → Prop)
    (gated : ∀ after avail entered, good after →
      good (after.updateTemperatureGate avail entered))
    (worked : ∀ after moves, good after → good (after.work moves))
    {input} (absent : good bridge)
    (pub : good (bridge.publishDirect cfg input).1) :
    good (bridge.sampleCall cfg input).1 := by
  have out := bridge.sampleCall_outcome cfg input
  generalize bridge.sampleCall cfg input = res at out ⊢
  cases out with
  | absent => exact absent
  | thrown after publishes =>
    rw [publishes] at pub
    exact pub
  | sampled _ after publishes fused =>
    rw [publishes] at pub
    rw [← fused]
    exact gated _ _ _ (worked _ _ pub)

end Globals

/-- The entry points, and the moves of the worker between them. -/
inductive Call
  | start (cpu : ℤ) (input : StartInput)
  | stop (entered : Bool)
  | publish (sample : TelemetrySample) (input : PublishInput)
  | sample (input : SampleCallInput)
  | worker (move : WorkerMove)
  | workerStops

/-- The call by its kind. -/
def Globals.perform (bridge : Globals) (cfg : RuntimeConfig) : Call → Globals × Reply
  | .start cpu input => bridge.startUnlocked cfg cpu input
  | .stop entered => bridge.stop entered
  | .publish sample input => bridge.publishCall cfg sample input
  | .sample input => bridge.sampleCall cfg input
  | .worker move => (bridge.work [move], .bare none none)
  | .workerStops => (bridge.workerStops, .bare none none)

/-- A run of the bridge: call `index` is made under `configs index`. -/
structure CallRun (trace : ℕ → Globals) (configs : ℕ → RuntimeConfig) (calls : ℕ → Call)
    (length : ℕ) : Prop where
  start : trace 0 = .initial
  steps : ∀ index < length,
    trace (index + 1) = ((trace index).perform (configs index) (calls index)).1

/-- What call `index` of a run replies. -/
def replyAt (trace : ℕ → Globals) (configs : ℕ → RuntimeConfig) (calls : ℕ → Call) (index : ℕ) :
    Reply :=
  ((trace index).perform (configs index) (calls index)).2

/-- The bridge call after call. -/
def follow (configs : ℕ → RuntimeConfig) (calls : ℕ → Call) : ℕ → Globals
  | 0 => .initial
  | index + 1 => ((follow configs calls index).perform (configs index) (calls index)).1

theorem follow_run (configs calls length) : CallRun (follow configs calls) configs calls length :=
  ⟨rfl, fun _ _ => rfl⟩

end ThermalSimd.Bridge
