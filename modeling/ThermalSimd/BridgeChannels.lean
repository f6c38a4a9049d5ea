import ThermalSimd.FusionBridge

/-!
# The raw and the filtered channel

The smoothing weight reaches the filtered values only: states equal once these are erased stay so,
with the same raw replies. Along every run the raw cache holds the newest temperature since the
start, and the smoothed one lies in the range of them all.
-/

namespace ThermalSimd

def RuntimeConfig.withAlpha (cfg : RuntimeConfig) (alpha : Double) : RuntimeConfig :=
  { cfg with telemetryEwmaAlpha := alpha }

namespace Bridge

variable {calls : ℕ → Call} {configs : ℕ → RuntimeConfig} {length : ℕ} {trace : ℕ → Globals}

/-- The raw part of a sample. -/
structure RawSample where
  tempAvailable : Bool
  packageTempMillic : ℤ
  freqRatioAvailable : Bool
  freqRatioMilli : ℕ
  deriving DecidableEq

variable (cfg : RuntimeConfig) (temps : List Reading) (sample : TelemetrySample)

def rawSample : RawSample :=
  ⟨sample.tempAvailable, sample.packageTempMillic, sample.freqRatioAvailable, sample.freqRatioMilli⟩

private def RawSample.channel (sample : RawSample) : Bool × Double :=
  (sample.tempAvailable,
    .finite (if sample.tempAvailable then sample.packageTempMillic / 1000 else 0))

def rawChannel (channels : TemperatureChannels) : Bool × Double :=
  (channels.rawAvailable, channels.rawPackageTempC)

/-- The raw part of a reply: its return code, output and published temperature. -/
structure RawReply where
  error : Option Errno
  out : RawSample
  channel : Option (Bool × Double)
  deriving DecidableEq

def Reply.raw (reply : Reply) : RawReply :=
  ⟨reply.error, rawSample reply.out, reply.channels.map rawChannel⟩

theorem rawChannel_temperatureChannels :
    rawChannel (temperatureChannels sample) = (rawSample sample).channel := rfl

@[simp]
theorem rawSample_fillSmoothedTemp (st : State) (sample) :
    rawSample (st.fillSmoothedTemp sample) = rawSample sample := by
  unfold State.fillSmoothedTemp
  split <;> rfl

@[simp]
theorem rawSample_fillFilteredFromRaw :
    rawSample (fillFilteredFromRaw sample) = rawSample sample := by
  simp only [fillFilteredFromRaw]
  split_ifs <;> rfl

@[simp]
theorem rawSample_copyFilteredSnapshot (snapshot sample) :
    rawSample (copyFilteredSnapshot snapshot sample) = rawSample sample := by
  unfold copyFilteredSnapshot
  split
  · rfl
  · split_ifs <;> rfl

/-- The raw part of `copy_raw_cache_unlocked` needs only the raw part of its argument. -/
theorem rawSample_copyRawCache {first second}
    (same : rawSample first = rawSample second) (st : State) (cfg now) :
    rawSample (st.copyRawCache cfg first now) = rawSample (st.copyRawCache cfg second now) := by
  simp only [rawSample, RawSample.mk.injEq] at same
  obtain ⟨temp, millic, freq, milli⟩ := same
  simp only [State.copyRawCache]
  split_ifs <;> simp [rawSample, temp, millic, freq, milli]

/-- The output of `tsd_telemetry_fusion_sample` has the raw part of the cache. -/
theorem rawSample_sampleOut (bridge : Globals) (cfg now) :
    rawSample (bridge.sampleOut cfg now) =
      rawSample (bridge.signal.copyRawCache cfg .zero now) := by
  rw [Globals.sampleOut, rawSample_fillFilteredFromRaw]
  exact rawSample_copyRawCache (rawSample_copyFilteredSnapshot _ _) _ _ _

theorem hasSignal_congr {first second}
    (same : rawSample first = rawSample second) : HasSignal first ↔ HasSignal second := by
  have temp : first.tempAvailable = second.tempAvailable := congrArg RawSample.tempAvailable same
  have freq : first.freqRatioAvailable = second.freqRatioAvailable :=
    congrArg RawSample.freqRatioAvailable same
  rw [HasSignal, HasSignal, temp, freq]

private def BusReading.erase (reading : BusReading) : BusReading := { reading with value := 0 }

private def RingEntry.erase (entry : RingEntry) : RingEntry :=
  { entry with snapshot := { entry.snapshot with packageTempC := 0, freqRatio := 0 } }

private def WorkerPc.erase : WorkerPc → WorkerPc
  | .idle => .idle
  | .readingTemp now => .readingTemp now
  | .readingFreq now temp => .readingFreq now (temp.map BusReading.erase)
  | .publishing entry => .publishing entry.erase

private def Service.erase (service : Service) : Service :=
  { service with
    temp := service.temp.map BusReading.erase
    freq := service.freq.map BusReading.erase
    latest := service.latest.map RingEntry.erase
    worker := service.worker.erase }

private def State.erase (state : State) : State :=
  { state with
    smoothedTempC := state.smoothedTempC.map fun _ => 0
    smoothedFreqRatio := state.smoothedFreqRatio.map fun _ => 0 }

private def Globals.erase (bridge : Globals) : Globals :=
  { bridge with signal := bridge.signal.erase, service := bridge.service.map Service.erase }

theorem erase_busPublish (reading slot) :
    (busPublish reading slot).erase = busPublish reading.erase (slot.map BusReading.erase) := by
  cases slot with
  | none => rfl
  | some slot =>
    by_cases newer : slot.timestamp = 0 ∨ slot.timestamp ≤ reading.timestamp <;>
      simp [busPublish, BusReading.erase, newer]

theorem erase_assignValue (window now slot) :
    (assignValue window now slot).map BusReading.erase =
      assignValue window now (slot.map BusReading.erase) := by
  cases slot with
  | none => rfl
  | some slot =>
    simp only [assignValue, Option.map_some, BusReading.erase]
    split_ifs <;> rfl

theorem erase_fuse (temp freq) :
    (fuse temp freq).erase = fuse (temp.map BusReading.erase) (freq.map BusReading.erase) := by
  cases temp <;> cases freq <;> rfl

theorem erase_move (service : Service) (move) :
    (service.move move).erase = service.erase.move move := by
  obtain ⟨_, running, temp, _, _, worker⟩ := service
  cases move with
  | begins now => cases worker <;> cases running <;> rfl
  | proceeds =>
    cases worker with
    | idle | publishing entry => rfl
    | readingTemp now =>
      simp only [Service.move, Service.erase, WorkerPc.erase, erase_assignValue]
    | readingFreq now temp =>
      simp only [Service.move, Service.erase, WorkerPc.erase, erase_fuse, erase_assignValue]
  | throws => rfl

theorem erase_moves (service) (moves : List WorkerMove) :
    (moves.foldl Service.move service).erase = moves.foldl Service.move service.erase := by
  induction moves generalizing service with
  | nil => rfl
  | cons move moves hypothesis =>
    rw [List.foldl_cons, List.foldl_cons, hypothesis, erase_move]

namespace Globals

variable (bridge : Globals)

theorem erase_work (moves) : (bridge.work moves).erase = bridge.erase.work moves := by
  simp only [work, erase, Option.map_map]
  congr 2
  exact funext fun service => erase_moves service moves

theorem erase_recordRawSample (sample now) :
    (bridge.recordRawSample sample now).erase = bridge.erase.recordRawSample sample now := by
  simp only [recordRawSample, State.recordRawSample]
  split_ifs <;> rfl

theorem erase_publishTemp (now) :
    (bridge.publishTemp now).erase = bridge.erase.publishTemp now := by
  simp only [publishTemp, erase, Option.map_map]
  congr 2
  funext service
  simp only [Function.comp_apply, Service.erase, Option.map_some, erase_busPublish]
  cases smoothed : bridge.signal.smoothedTempC <;>
    simp [State.erase, smoothed, BusReading.erase, tempTimes]

theorem erase_publishFreq (now) :
    (bridge.publishFreq now).erase = bridge.erase.publishFreq now := by
  simp only [publishFreq, erase, Option.map_map]
  congr 2
  funext service
  simp only [Function.comp_apply, Service.erase, Option.map_some, erase_busPublish]
  cases smoothed : bridge.signal.smoothedFreqRatio <;>
    simp [State.erase, smoothed, BusReading.erase]

theorem erase_workerStops : bridge.workerStops.erase = bridge.erase.workerStops := by
  simp only [workerStops, erase, Option.map_map]
  rfl

theorem erase_usableSnapshot :
    bridge.erase.usableSnapshot = bridge.usableSnapshot.map RingEntry.erase := by
  obtain ⟨_, service, _, _, _, _, _⟩ := bridge
  cases service with
  | none => rfl
  | some service =>
    obtain ⟨_, _, _, _, latest, _⟩ := service
    cases latest with
    | none => rfl
    | some =>
      simp only [usableSnapshot, erase, Option.map_some, Option.bind_some, Service.erase,
        Option.filter_some, RingEntry.erase]
      split_ifs <;> rfl

end Globals

private def Agree (first second : Globals) : Prop := first.erase = second.erase

private def AgreeResults {α : Type} (first second : Globals × α) : Prop :=
  Agree first.1 second.1 ∧ first.2 = second.2

namespace Agree

open Globals

variable {first second : Globals} {cfg : RuntimeConfig} {alpha beta : Double}
  (agree : Agree first second)
include agree

theorem running : first.service.map Service.running = second.service.map Service.running := by
  have same := congrArg (fun bridge : Globals => bridge.service.map Service.running) agree
  simpa only [erase, Option.map_map] using! same

theorem service_eq_none : first.service = none ↔ second.service = none := by
  have same := agree.running
  rw [← Option.map_eq_none_iff (f := Service.running), same, Option.map_eq_none_iff]

theorem helper : first.signal.directHelperReady = second.signal.directHelperReady :=
  (congrArg (fun bridge : Globals => bridge.signal.directHelperReady) agree :)

theorem cpu : first.cpu = second.cpu :=
  (congrArg Globals.cpu agree :)

theorem gate : first.upgradeAllowed = second.upgradeAllowed :=
  (congrArg Globals.upgradeAllowed agree :)

theorem copyRawCache (out now) :
    first.signal.copyRawCache (cfg.withAlpha alpha) out now =
      second.signal.copyRawCache (cfg.withAlpha beta) out now :=
  (congrArg (fun bridge : Globals => bridge.signal.copyRawCache cfg out now) agree :)

theorem usableSnapshot : first.usableSnapshot.isSome = second.usableSnapshot.isSome := by
  have same := congrArg (fun bridge : Globals => bridge.usableSnapshot.isSome) agree
  simpa only [erase_usableSnapshot, Option.isSome_map] using same

theorem work (moves) : Agree (first.work moves) (second.work moves) := by
  rw [Agree, erase_work, erase_work, agree]

variable (sample : TelemetrySample)

theorem recordRawSample (now) :
    Agree (first.recordRawSample sample now) (second.recordRawSample sample now) := by
  rw [Agree, erase_recordRawSample, erase_recordRawSample, agree]

theorem smoothTemp : Agree (first.smoothTemp (cfg.withAlpha alpha) sample)
      (second.smoothTemp (cfg.withAlpha beta) sample) :=
  (congrArg (fun bridge : Globals =>
    { bridge with signal := { bridge.signal with smoothedTempC := some 0 } }) agree :)

theorem smoothFreq : Agree (first.smoothFreq (cfg.withAlpha alpha) sample)
      (second.smoothFreq (cfg.withAlpha beta) sample) :=
  (congrArg (fun bridge : Globals =>
    { bridge with signal := { bridge.signal with smoothedFreqRatio := some 0 } }) agree :)

theorem publishTemp (now) : Agree (first.publishTemp now) (second.publishTemp now) := by
  rw [Agree, erase_publishTemp, erase_publishTemp, agree]

theorem publishFreq (now) : Agree (first.publishFreq now) (second.publishFreq now) := by
  rw [Agree, erase_publishFreq, erase_publishFreq, agree]

theorem updateTemperatureGate (avail entered) :
    Agree (first.updateTemperatureGate avail entered)
      (second.updateTemperatureGate avail entered) :=
  (congrArg (fun bridge : Globals => bridge.updateTemperatureGate avail entered) agree :)

theorem tearDown (entered) : Agree (first.tearDown entered) (second.tearDown entered) :=
  (congrArg (fun bridge : Globals => bridge.tearDown entered) agree :)

theorem started (cpu helper) :
    Agree (first.started (cfg.withAlpha alpha) cpu helper)
      (second.started (cfg.withAlpha beta) cpu helper) :=
  (congrArg (fun bridge : Globals => bridge.started cfg cpu helper) agree :)

theorem publishSampleTemp (sample env) :
    AgreeResults (first.publishSampleTemp (cfg.withAlpha alpha) sample env)
      (second.publishSampleTemp (cfg.withAlpha beta) sample env) := by
  unfold Globals.publishSampleTemp
  split_ifs
  · exact ⟨agree, rfl⟩
  · exact ⟨agree.smoothTemp sample, rfl⟩
  · exact ⟨(agree.smoothTemp sample).publishTemp env.now, rfl⟩

theorem publishSampleFreq (sample env) :
    AgreeResults (first.publishSampleFreq (cfg.withAlpha alpha) sample env)
      (second.publishSampleFreq (cfg.withAlpha beta) sample env) := by
  unfold Globals.publishSampleFreq
  split_ifs
  · exact ⟨agree, rfl⟩
  · exact ⟨agree.smoothFreq sample, rfl⟩
  · exact ⟨(agree.smoothFreq sample).publishFreq env.now, rfl⟩

theorem publishSample (sample env) :
    AgreeResults (first.publishSample (cfg.withAlpha alpha) sample env)
      (second.publishSample (cfg.withAlpha beta) sample env) := by
  have temp : AgreeResults
      (((first.recordRawSample sample env.now).work env.beforeTemp).publishSampleTemp
        (cfg.withAlpha alpha) sample env)
      (((second.recordRawSample sample env.now).work env.beforeTemp).publishSampleTemp
        (cfg.withAlpha beta) sample env) :=
    ((agree.recordRawSample sample env.now).work env.beforeTemp).publishSampleTemp sample env
  unfold Globals.publishSample
  generalize ((first.recordRawSample sample env.now).work env.beforeTemp).publishSampleTemp
    (cfg.withAlpha alpha) sample env = left at temp ⊢
  generalize ((second.recordRawSample sample env.now).work env.beforeTemp).publishSampleTemp
    (cfg.withAlpha beta) sample env = right at temp ⊢
  obtain ⟨left, thrown⟩ := left
  obtain ⟨right, same⟩ := right
  obtain ⟨temp, rfl⟩ : Agree left right ∧ thrown = same := temp
  cases thrown with
  | false => exact (temp.work env.beforeFreq).publishSampleFreq sample env
  | true => exact ⟨temp, rfl⟩

theorem publishDirect (input) :
    AgreeResults (first.publishDirect (cfg.withAlpha alpha) input)
      (second.publishDirect (cfg.withAlpha beta) input) := by
  unfold Globals.publishDirect
  rw [agree.helper]
  split
  · split_ifs
    · exact agree.publishSample _ input.env
    · exact ⟨agree, rfl⟩
  · exact ⟨agree, rfl⟩

private def Replies (first second : Globals × Reply) : Prop :=
  Agree first.1 second.1 ∧ first.2.raw = second.2.raw

theorem answers {left right leftOut rightOut leftError rightError leftAvailable rightAvailable}
    (avail : leftAvailable = rightAvailable) (error : leftError = rightError)
    (out : rawSample leftOut = rawSample rightOut) (raw : rawSample left = rawSample right)
    (entered leftTimes rightTimes) :
    Replies
      (first.updateTemperatureGate leftAvailable entered,
        ⟨leftError, leftOut, some (temperatureChannels left), leftTimes⟩)
      (second.updateTemperatureGate rightAvailable entered,
        ⟨rightError, rightOut, some (temperatureChannels right), rightTimes⟩) := by
  refine ⟨?_, ?_⟩
  · rw [avail]
    exact agree.updateTemperatureGate _ _
  · simp only [Reply.raw, Option.map_some, rawChannel_temperatureChannels, error, out, raw]

theorem publishInitial (input) :
    Replies (first.publishInitial (cfg.withAlpha alpha) input)
      (second.publishInitial (cfg.withAlpha beta) input) := by
  unfold Globals.publishInitial
  rw [agree.helper]
  split
  next sample _ _ =>
    have pub : Agree
        (first.publishSample (cfg.withAlpha alpha) sample { input.env with fault := .none }).1
        (second.publishSample (cfg.withAlpha beta) sample { input.env with fault := .none }).1 :=
      (agree.publishSample sample _).1
    split_ifs
    · refine pub.answers rfl rfl rfl ?_ _ _ _
      rw [rawSample_fillSmoothedTemp, rawSample_fillSmoothedTemp]
    · exact pub.answers rfl rfl rfl rfl _ _ _
    · refine agree.answers rfl rfl rfl ?_ _ _ _
      rw [rawSample_fillSmoothedTemp, rawSample_fillSmoothedTemp]
    · exact agree.answers rfl rfl rfl rfl _ _ _
  next => exact ⟨agree.updateTemperatureGate _ _, rfl⟩

theorem startUnlocked (cpu input) :
    Replies (first.startUnlocked (cfg.withAlpha alpha) cpu input)
      (second.startUnlocked (cfg.withAlpha beta) cpu input) := by
  have users : Agree { first with users := first.users + 1 }
      { second with users := second.users + 1 } := by
    have same := congrArg (fun bridge : Globals => { bridge with users := bridge.users + 1 }) agree
    exact same
  have profile : HasProfile (cfg.withAlpha alpha) ↔ HasProfile (cfg.withAlpha beta) := Iff.rfl
  have elsewhere : cpu ≠ first.cpu ↔ cpu ≠ second.cpu := by rw [agree.cpu]
  have live : first.Live ↔ second.Live := by rw [Live, Live, agree.running]
  unfold Globals.startUnlocked
  simp only [profile, elsewhere, live]
  split_ifs
  · exact ⟨agree, rfl⟩
  · exact ⟨agree, rfl⟩
  · exact ⟨agree, rfl⟩
  · exact ⟨users, rfl⟩
  · split
    · exact ⟨agree.tearDown _, rfl⟩
    · exact (agree.started cpu input.helper).publishInitial input

theorem stop (entered) : Replies (first.stop entered) (second.stop entered) := by
  have count : first.users = second.users := by
    have same := congrArg Globals.users agree
    exact same
  have users : Agree { first with users := first.users - 1 }
      { second with users := second.users - 1 } := by
    have same := congrArg (fun bridge : Globals => { bridge with users := bridge.users - 1 }) agree
    exact same
  unfold Globals.stop
  rw [count] at users ⊢
  split_ifs
  · exact ⟨users, rfl⟩
  · exact ⟨agree.tearDown entered, rfl⟩

theorem publishCall (sample input) :
    Replies (first.publishCall (cfg.withAlpha alpha) sample input)
      (second.publishCall (cfg.withAlpha beta) sample input) := by
  have res : AgreeResults (first.publishSample (cfg.withAlpha alpha) sample input.env)
      (second.publishSample (cfg.withAlpha beta) sample input.env) :=
    agree.publishSample sample input.env
  unfold Globals.publishCall
  by_cases absent : second.service = none
  · rw [if_pos absent, if_pos (agree.service_eq_none.mpr absent)]
    exact ⟨agree, rfl⟩
  rw [if_neg absent, if_neg (mt agree.service_eq_none.mp absent)]
  generalize first.publishSample (cfg.withAlpha alpha) sample input.env = left at res ⊢
  generalize second.publishSample (cfg.withAlpha beta) sample input.env = right at res ⊢
  obtain ⟨left, thrown⟩ := left
  obtain ⟨right, same⟩ := right
  obtain ⟨pub, rfl⟩ : Agree left right ∧ thrown = same := res
  cases thrown with
  | true => exact ⟨pub, rfl⟩
  | false =>
    have raw : rawSample (left.signal.fillSmoothedTemp
        (left.signal.copyRawCache (cfg.withAlpha alpha) .zero input.copiedAt)) =
          rawSample (right.signal.fillSmoothedTemp
            (right.signal.copyRawCache (cfg.withAlpha beta) .zero input.copiedAt)) := by
      rw [rawSample_fillSmoothedTemp, rawSample_fillSmoothedTemp]
      exact congrArg rawSample (pub.copyRawCache _ _)
    exact pub.answers (congrArg RawSample.tempAvailable raw) rfl rfl raw _ _ _

theorem sampleOut (now) :
    rawSample (first.sampleOut (cfg.withAlpha alpha) now) =
      rawSample (second.sampleOut (cfg.withAlpha beta) now) := by
  rw [rawSample_sampleOut, rawSample_sampleOut]
  exact congrArg rawSample (agree.copyRawCache _ _)

theorem sampleCall (input) :
    Replies (first.sampleCall (cfg.withAlpha alpha) input)
      (second.sampleCall (cfg.withAlpha beta) input) := by
  have res : AgreeResults (first.publishDirect (cfg.withAlpha alpha) input)
      (second.publishDirect (cfg.withAlpha beta) input) := agree.publishDirect input
  unfold Globals.sampleCall
  by_cases absent : second.service = none
  · rw [if_pos absent, if_pos (agree.service_eq_none.mpr absent)]
    exact ⟨agree, rfl⟩
  rw [if_neg absent, if_neg (mt agree.service_eq_none.mp absent)]
  generalize first.publishDirect (cfg.withAlpha alpha) input = left at res ⊢
  generalize second.publishDirect (cfg.withAlpha beta) input = right at res ⊢
  obtain ⟨left, thrown⟩ := left
  obtain ⟨right, same⟩ := right
  obtain ⟨direct, rfl⟩ : Agree left right ∧ thrown = same := res
  cases thrown with
  | true => exact ⟨direct, rfl⟩
  | false =>
    have fused := direct.work input.beforeSnapshot
    have out : rawSample ((left.work input.beforeSnapshot).sampleOut (cfg.withAlpha alpha)
        input.copiedAt) = rawSample ((right.work input.beforeSnapshot).sampleOut
          (cfg.withAlpha beta) input.copiedAt) := fused.sampleOut input.copiedAt
    refine fused.answers (congrArg RawSample.tempAvailable out) ?_ out out _ _ _
    rw [if_congr (or_congr (hasSignal_congr out) (by rw [fused.usableSnapshot])) rfl rfl]

theorem perform (call) :
    Replies (first.perform (cfg.withAlpha alpha) call)
      (second.perform (cfg.withAlpha beta) call) := by
  cases call with
  | start cpu input => exact agree.startUnlocked cpu input
  | stop entered => exact agree.stop entered
  | publish sample input => exact agree.publishCall sample input
  | sample input => exact agree.sampleCall input
  | worker move => exact ⟨agree.work [move], rfl⟩
  | workerStops =>
    refine ⟨?_, rfl⟩
    rw [Agree, Globals.perform, Globals.perform, erase_workerStops, erase_workerStops, agree]

end Agree

/-- The caches, and the readings they come from. -/
structure Caches where
  signal : State
  temps : List Reading

private def Globals.caches (bridge : Globals) : Caches := ⟨bridge.signal, bridge.temps⟩

/-- The temperatures recorded once a sample is published at `now`. -/
def recordTemps (now : ℕ) : List Reading :=
  if sample.tempAvailable then ⟨sample.packageTempMillic, now⟩ :: temps else temps

/-- The caches are cleared, or a sample is published; one that throws at the temperature leaves the
smoothed frequency behind. -/
inductive CacheStep (cfg : RuntimeConfig) (recordedAt : Option ℕ) : Caches → Caches → Prop
  | cleared (caches : Caches) (fusion helper : Bool) :
      CacheStep cfg recordedAt caches
        ⟨{ caches.signal.resetSignalState with fusion := fusion, directHelperReady := helper }, []⟩
  | published (caches : Caches) (sample : TelemetrySample) (ratio : Option ℚ) (now : ℕ)
      (recorded : now ∈ recordedAt) :
      CacheStep cfg recordedAt caches
        ⟨{ caches.signal.publishSample cfg sample now now with smoothedFreqRatio := ratio },
          recordTemps caches.temps sample now⟩

open Relation (ReflTransGen)

def Call.recordedAt : Call → Option ℕ
  | .start _ input => some input.env.now
  | .publish _ input => some input.env.now
  | .sample input => some input.env.now
  | .stop _ | .worker _ | .workerStops => none

namespace Globals

variable (bridge : Globals) (cfg : RuntimeConfig)

theorem caches_publishSample (sample env) :
    CacheStep cfg (some env.now) bridge.caches (bridge.publishSample cfg sample env).1.caches := by
  have shape : (bridge.publishSample cfg sample env).1.caches =
      ⟨{ bridge.signal.publishSample cfg sample env.now env.now with
          smoothedFreqRatio := (bridge.publishSample cfg sample env).1.signal.smoothedFreqRatio },
        recordTemps bridge.temps sample env.now⟩ := by
    obtain ⟨now, fault, _, _⟩ := env
    obtain ⟨tempAvailable, freqAvailable, _, _, _, _, _, _⟩ := sample
    cases tempAvailable <;> cases freqAvailable <;> cases fault <;> rfl
  rw [shape]
  exact .published bridge.caches sample _ env.now rfl

theorem caches_publishInitial (input) :
    ReflTransGen (CacheStep cfg (some input.env.now)) bridge.caches
      (bridge.publishInitial cfg input).1.caches := by
  unfold publishInitial
  split
  next sample _ _ =>
    by_cases signal : HasSignal sample
    · simp only [if_pos signal]
      exact .single (bridge.caches_publishSample cfg sample { input.env with fault := .none })
    · simp only [if_neg signal]
      exact .refl
  next => exact .refl

theorem caches_perform (call) :
    ReflTransGen (CacheStep cfg call.recordedAt) bridge.caches
      (bridge.perform cfg call).1.caches := by
  cases call with
  | start cpu input =>
    have out := bridge.startUnlocked_outcome cfg cpu input
    rw [perform]
    generalize bridge.startUnlocked cfg cpu input = res at out ⊢
    cases out with
    | refused error | shared live same => exact .refl
    | failed stopped error => exact .single (.cleared bridge.caches false false)
    | opened stopped =>
      exact .head (.cleared bridge.caches true input.helper)
        ((bridge.started cfg cpu input.helper).caches_publishInitial cfg input)
  | stop =>
    rw [perform, Globals.stop]
    split_ifs
    · exact .refl
    · exact .single (.cleared bridge.caches false false)
  | publish sample input =>
    apply bridge.publishCall_rule cfg fun after =>
      ReflTransGen (CacheStep cfg (Call.publish sample input).recordedAt) bridge.caches after.caches
    · exact fun _ _ _ steps => steps
    · exact .refl
    · exact .single (bridge.caches_publishSample cfg sample input.env)
  | sample input =>
    apply bridge.sampleCall_rule cfg fun after =>
      ReflTransGen (CacheStep cfg (Call.sample input).recordedAt) bridge.caches after.caches
    · exact fun _ _ _ steps => steps
    · exact fun _ _ steps => steps
    · exact .refl
    · unfold publishDirect
      split
      · split_ifs
        · exact .single (bridge.caches_publishSample cfg _ _)
        · exact .refl
      · exact .refl
  | worker move | workerStops => exact .refl

end Globals

def Reading.degrees (reading : Reading) : ℚ := reading.millic / 1000

def Between (value : ℚ) : Prop :=
  (∃ low ∈ temps, low.degrees ≤ value) ∧ ∃ high ∈ temps, value ≤ high.degrees

theorem smoothingAlpha_nonneg : 0 ≤ smoothingAlpha cfg := by
  unfold smoothingAlpha
  split
  · norm_num
  · split
    · norm_num
    · split_ifs
      · norm_num
      · grind

theorem smoothingAlpha_le_one : smoothingAlpha cfg ≤ 1 := by
  unfold smoothingAlpha
  split
  · norm_num
  · split
    · norm_num
    · split_ifs
      · norm_num
      · grind

theorem Between.smoothValue {temps st} (reading) (bound : ∀ v ∈ st, Between temps v)
    (cfg) : Between (reading :: temps) (smoothValue cfg reading.degrees st) := by
  have lower := smoothingAlpha_nonneg cfg
  have upper := smoothingAlpha_le_one cfg
  cases st with
  | none =>
    exact ⟨⟨reading, List.mem_cons_self, le_rfl⟩, ⟨reading, List.mem_cons_self, le_rfl⟩⟩
  | some v =>
    obtain ⟨⟨low, lowMember, _⟩, high, highMember, _⟩ := bound v rfl
    rw [Bridge.smoothValue]
    rcases le_total reading.degrees v with below | above
    · refine ⟨⟨reading, List.mem_cons_self, ?_⟩, high, List.mem_cons_of_mem _ highMember, ?_⟩
      · nlinarith
      · nlinarith
    · refine ⟨⟨low, List.mem_cons_of_mem _ lowMember, ?_⟩, reading, List.mem_cons_self, ?_⟩
      · nlinarith
      · nlinarith

/-- The raw cache holds the newest temperature; the filter stays in the range of all. -/
structure Cached (caches : Caches) : Prop where
  raw : caches.signal.rawTempValid = true →
    ∃ reading ∈ caches.temps.head?, reading.millic = caches.signal.rawTempMillic
  filtered : ∀ value ∈ caches.signal.smoothedTempC, Between caches.temps value

theorem Cached.step {cfg recordedAt before after}
    (cached : Cached before) (step : CacheStep cfg recordedAt before after) : Cached after := by
  cases step with
  | cleared => exact ⟨nofun, nofun⟩
  | published sample _ now =>
    have filtered := Between.smoothValue ⟨sample.packageTempMillic, now⟩ cached.filtered cfg
    obtain ⟨tempAvailable, freqAvailable, millic, _, _, _, _, _⟩ := sample
    cases tempAvailable <;> cases freqAvailable
    · exact { cached with }
    · exact { cached with }
    · refine ⟨fun _ => ⟨⟨millic, now⟩, rfl, rfl⟩, ?_⟩
      rintro v ⟨⟩
      exact filtered
    · refine ⟨fun _ => ⟨⟨millic, now⟩, rfl, rfl⟩, ?_⟩
      rintro v ⟨⟩
      exact filtered

private def Unfiltered (caches : Caches) : Prop :=
  ∀ value ∈ caches.signal.smoothedTempC, ∃ reading ∈ caches.temps.head?, value = reading.degrees

private def Bypasses : Prop :=
  cfg.telemetryEwmaAlpha = .finite 0 ∨ cfg.telemetryEwmaAlpha = .finite 1

theorem Bypasses.smoothingAlpha {cfg} (bypasses : Bypasses cfg) : smoothingAlpha cfg = 1 := by
  rcases bypasses with alpha | alpha <;> simp [Bridge.smoothingAlpha, alpha]

theorem Bypasses.smoothValue {cfg} (bypasses : Bypasses cfg) (raw st) :
    smoothValue cfg raw st = raw := by
  cases st with
  | none => rfl
  | some =>
    rw [Bridge.smoothValue, bypasses.smoothingAlpha]
    ring

theorem Unfiltered.step {cfg recordedAt before after}
    (unfiltered : Unfiltered before) (bypasses : Bypasses cfg)
    (step : CacheStep cfg recordedAt before after) : Unfiltered after := by
  cases step with
  | cleared => exact nofun
  | published sample _ now =>
    obtain ⟨tempAvailable, freqAvailable, millic, _, _, _, _, _⟩ := sample
    cases tempAvailable <;> cases freqAvailable
    · exact unfiltered
    · exact unfiltered
    · rintro v ⟨⟩
      exact ⟨⟨millic, now⟩, rfl, bypasses.smoothValue _ _⟩
    · rintro v ⟨⟩
      exact ⟨⟨millic, now⟩, rfl, bypasses.smoothValue _ _⟩

section

variable (run : CallRun trace configs calls length)
include run

theorem CallRun.caches {Holds : Caches → Prop}
    (initial : Holds Globals.initial.caches)
    (step : ∀ i < length, ∀ before after,
      CacheStep (configs i) (calls i).recordedAt before after → Holds before → Holds after) :
    ∀ i ≤ length, Holds (trace i).caches := by
  intro i within
  induction i with
  | zero =>
    rw [run.start]
    exact initial
  | succ i hypothesis =>
    have steps := (trace i).caches_perform (configs i) (calls i)
    rw [run.steps i within]
    generalize ((trace i).perform (configs i) (calls i)).1.caches = after at steps ⊢
    induction steps with
    | refl => exact hypothesis (Nat.le_of_succ_le within)
    | tail _ last held => exact step i within _ _ last held

theorem CallRun.cached :
    ∀ i ≤ length, Cached (trace i).caches :=
  run.caches ⟨nofun, nofun⟩ fun _ _ _ _ step cached => cached.step step

theorem CallRun.unfiltered
    (bypasses : ∀ i < length, Bypasses (configs i)) : ∀ i ≤ length, Unfiltered (trace i).caches :=
  run.caches nofun fun i within _ _ step unfiltered => unfiltered.step (bypasses i within) step

end

def RawSample.Newest (sample : RawSample) (temps : List Reading) : Prop :=
  sample.tempAvailable = true → ∃ reading ∈ temps.head?, sample.packageTempMillic = reading.millic

/-- The raw parts of a reply show the newest reading. -/
structure RawReply.Newest (reply : RawReply) (temps : List Reading) : Prop where
  out : reply.out.Newest temps
  channel : ∀ channel ∈ reply.channel, channel.1 = true →
    ∃ reading ∈ temps.head?, channel.2 = .finite reading.degrees

theorem RawSample.Newest.published {sample : RawSample} {temps}
    (newest : sample.Newest temps) (avail : sample.channel.1 = true) :
    ∃ reading ∈ temps.head?, sample.channel.2 = .finite reading.degrees := by
  obtain ⟨reading, mem, millic⟩ := newest avail
  have shown : sample.tempAvailable = true := avail
  refine ⟨reading, mem, ?_⟩
  rw [RawSample.channel, if_pos shown, millic, Reading.degrees]

theorem newest_bare (error temps) : (Reply.bare error none).raw.Newest temps :=
  ⟨nofun, nofun⟩

theorem newest_zero (error temps) :
    (Reply.bare error (some (temperatureChannels .zero))).raw.Newest temps := by
  refine ⟨nofun, ?_⟩
  exact nofun

theorem Cached.newest {caches} (cached : Cached caches) (cfg now) :
    (rawSample (caches.signal.copyRawCache cfg .zero now)).Newest caches.temps := by
  intro avail
  by_cases fresh : caches.signal.rawTempValid = true ∧ RawIsFresh cfg caches.signal.rawTempAt now
  · obtain ⟨reading, mem, millic⟩ := cached.raw fresh.1
    refine ⟨reading, mem, ?_⟩
    rw [millic]
    simp only [State.copyRawCache, if_pos fresh]
    split_ifs <;> rfl
  · simp only [State.copyRawCache, if_neg fresh, rawSample] at avail
    split_ifs at avail <;> cases avail

namespace Globals

variable (bridge : Globals) (cfg : RuntimeConfig)

theorem temps_publishSample (sample env) :
    (bridge.publishSample cfg sample env).1.temps = recordTemps bridge.temps sample env.now := by
  obtain ⟨now, fault, _, _⟩ := env
  obtain ⟨tempAvailable, freqAvailable, _, _, _, _, _, _⟩ := sample
  cases tempAvailable <;> cases freqAvailable <;> cases fault <;> rfl

theorem newest_publishInitial (input) :
    (bridge.publishInitial cfg input).2.raw.Newest (bridge.publishInitial cfg input).1.temps := by
  unfold publishInitial
  split
  next sample _ _ =>
    have raw : rawSample (if sample.tempAvailable = true then
        (if HasSignal sample then
          (bridge.publishSample cfg sample { input.env with fault := .none }).1
        else bridge).signal.fillSmoothedTemp sample else sample) = rawSample sample := by
      split_ifs <;> simp
    have newest : (rawSample sample).Newest (if HasSignal sample then
        (bridge.publishSample cfg sample { input.env with fault := .none }).1
      else bridge).temps := by
      intro avail
      have shown : sample.tempAvailable = true := avail
      have signal : HasSignal sample := Or.inl shown
      rw [if_pos signal, temps_publishSample, recordTemps, if_pos shown]
      exact ⟨_, rfl, rfl⟩
    refine ⟨nofun, ?_⟩
    rintro _ ⟨⟩
    rw [rawChannel_temperatureChannels, raw]
    exact newest.published
  next => exact newest_bare _ _

theorem newest_perform (call) (cached : Cached (bridge.perform cfg call).1.caches) :
    (bridge.perform cfg call).2.raw.Newest (bridge.perform cfg call).1.temps := by
  cases call with
  | start cpu input =>
    have out := bridge.startUnlocked_outcome cfg cpu input
    rw [perform]
    generalize bridge.startUnlocked cfg cpu input = res at out ⊢
    cases out with
    | refused error | shared live same => exact newest_bare _ _
    | failed stopped error => exact newest_zero _ _
    | opened stopped => exact newest_publishInitial _ cfg input
  | stop =>
    rw [perform, Globals.stop]
    split_ifs
    · exact newest_bare _ _
    · exact newest_zero _ _
  | publish sample input =>
    have out := bridge.publishCall_outcome cfg sample input
    rw [perform] at cached ⊢
    generalize bridge.publishCall cfg sample input = res at out cached ⊢
    cases out with
    | absent | thrown after publishes => exact newest_bare _ _
    | published after publishes =>
      refine ⟨nofun, ?_⟩
      rintro channel ⟨⟩
      rw [rawChannel_temperatureChannels, safetySample, rawSample_fillSmoothedTemp]
      exact (cached.newest cfg input.copiedAt).published
  | sample input =>
    have out := bridge.sampleCall_outcome cfg input
    rw [perform] at cached ⊢
    generalize bridge.sampleCall cfg input = res at out cached ⊢
    cases out with
    | absent | thrown after publishes => exact newest_bare _ _
    | sampled _ after publishes =>
      have newest : (rawSample (after.sampleOut cfg input.copiedAt)).Newest after.temps := by
        rw [rawSample_sampleOut]
        exact cached.newest cfg input.copiedAt
      refine ⟨newest, ?_⟩
      rintro channel ⟨⟩
      exact newest.published
  | worker move | workerStops => exact newest_bare _ _

end Globals

theorem CallRun.agree {first second} {alphas betas : ℕ → Double}
    (left : CallRun first (fun i => (configs i).withAlpha (alphas i)) calls length)
    (right : CallRun second (fun i => (configs i).withAlpha (betas i)) calls length) :
    ∀ i ≤ length, Agree (first i) (second i) := by
  intro i within
  induction i with
  | zero => rw [left.start, right.start, Agree]
  | succ i hypothesis =>
    have agree := hypothesis (Nat.le_of_succ_le within)
    rw [left.steps i within, right.steps i within]
    exact (agree.perform (calls i)).1

/-- Runs that differ only in the smoothing weight have the same raw replies and gate. The raw
temperature is the newest since the start, and the filter is in the range of those since the start.
-/
theorem raw_independent_of_alpha {first second : ℕ → Globals} {configs : ℕ → RuntimeConfig}
    {alphas betas : ℕ → Double} {calls : ℕ → Call} {length : ℕ}
    (left : CallRun first (fun index => (configs index).withAlpha (alphas index)) calls length)
    (right : CallRun second (fun index => (configs index).withAlpha (betas index)) calls length) :
    (∀ index < length,
      (replyAt first (fun index => (configs index).withAlpha (alphas index)) calls index).raw =
        (replyAt second (fun index => (configs index).withAlpha (betas index)) calls index).raw) ∧
    (∀ index ≤ length, (first index).upgradeAllowed = (second index).upgradeAllowed) ∧
    (∀ index < length,
      (replyAt first (fun index => (configs index).withAlpha (alphas index)) calls index).raw.Newest
        (first (index + 1)).temps) ∧
    (∀ index ≤ length, ∀ value ∈ (first index).signal.smoothedTempC,
      Between (first index).temps value) ∧
    ((∀ index < length, alphas index = .finite 0 ∨ alphas index = .finite 1) →
      ∀ index ≤ length, ∀ value ∈ (first index).signal.smoothedTempC,
        ∃ reading ∈ (first index).temps.head?, value = reading.degrees) := by
  have agree := left.agree right
  have cached := left.cached
  refine ⟨fun index within => ?_, fun index within => (agree index within).gate,
    fun index within => ?_, fun index within => (cached index within).filtered,
    fun weights => left.unfiltered weights⟩
  · exact ((agree index (Nat.le_of_lt within)).perform (calls index)).2
  · have after := cached (index + 1) within
    rw [left.steps index within] at after ⊢
    exact (first index).newest_perform _ _ after

def heatingCalls : ℕ → Call
  | 0 => .start 0 ⟨none, true, ⟨some 40000, none⟩, ⟨10, .none, [], []⟩, true⟩
  | 1 => .publish { TelemetrySample.zero with tempAvailable := true, packageTempMillic := 80000 }
      ⟨⟨20, .none, [], []⟩, 20, true⟩
  | 2 => .sample ⟨⟨none, none⟩, ⟨30, .none, [], []⟩, [.begins 30, .proceeds, .proceeds, .proceeds],
      30, true⟩
  | _ => .stop true

def heatingTrace (alpha : Double) : ℕ → Globals :=
  follow (fun _ => RuntimeConfig.setDefaults.withAlpha alpha) heatingCalls

theorem raw_independent_of_alpha_heating :
    (heatingTrace (.finite (1 / 4)) 3).signal.smoothedTempC = some 50 ∧
      (heatingTrace .nonfinite 3).signal.smoothedTempC = some 80 ∧
      (replyAt (heatingTrace (.finite (1 / 4)))
          (fun _ => RuntimeConfig.setDefaults.withAlpha (.finite (1 / 4))) heatingCalls 2).raw =
        (replyAt (heatingTrace .nonfinite)
          (fun _ => RuntimeConfig.setDefaults.withAlpha .nonfinite) heatingCalls 2).raw := by
  refine ⟨by decide +kernel, by decide +kernel, ?_⟩
  exact (raw_independent_of_alpha
    (follow_run (fun _ => RuntimeConfig.setDefaults.withAlpha (.finite (1 / 4))) heatingCalls 3)
    (follow_run (fun _ => RuntimeConfig.setDefaults.withAlpha .nonfinite) heatingCalls 3)).1 2
    (by decide)

end Bridge

end ThermalSimd
