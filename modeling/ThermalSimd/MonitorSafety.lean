import ThermalSimd.Monitor
import ThermalSimd.PerfPaths

/-!
# Safety transitions of the monitor

When an iteration of the monitor asks for SSE4.1: an emergency is seen where the evaluation fetches
the telemetry, and a timeout is reported once for each entry into software mode.
-/

namespace ThermalSimd

open Interleaving

namespace Monitor

variable (env : MonitorEnv) (monitor : Monitor) (input : SampleInput)

def checked : PerfCtx :=
  (monitor.perf.checkSoftwareTimeout env.cfg.degradedTimeoutSec input.timeoutAt).1

def TimeoutFires : Prop :=
  (monitor.perf.checkSoftwareTimeout env.cfg.degradedTimeoutSec input.timeoutAt).2 = true

def path : EvalPath := (monitor.checked env input).evalPath input.eval

def reading : TelemetrySample := monitor.perf.fetchFusedTelemetry input.eval.sensors

/-- `force_sse_safety` is called. -/
def ForcesSse : Prop := ∃ reason, .forced reason ∈ (monitor.sample env input).2

def RequestsSse41 : Prop :=
  monitor.perf.requests < (monitor.sample env input).1.perf.requests ∨
    ∃ kind succeeds, .patched kind .sse41 succeeds ∈ (monitor.sample env input).2

theorem checkSoftwareTimeout_cases (ctx : PerfCtx) (timeoutSec now) :
    ctx.checkSoftwareTimeout timeoutSec now = (ctx, false) ∨
      ctx.SoftwareTimeoutExceeded timeoutSec now ∧ ctx.timeoutNotified = false ∧
        ctx.checkSoftwareTimeout timeoutSec now =
          ({ ctx with timeoutNotified := true }.record (.metric .softwareTimeoutEscalations),
            true) := by
  unfold PerfCtx.checkSoftwareTimeout
  split
  · exact .inl rfl
  next pending =>
  split
  · exact .inl rfl
  next exceeded =>
  refine .inr ⟨not_not.mp exceeded, ?_, rfl⟩
  simpa using (not_or.mp pending).2

theorem checked_same : (monitor.checked env input).fusionAcquired = monitor.perf.fusionAcquired ∧
    (monitor.checked env input).requests = monitor.perf.requests := by
  rcases checkSoftwareTimeout_cases monitor.perf env.cfg.degradedTimeoutSec input.timeoutAt with
    eq | ⟨-, -, eq⟩ <;> rw [checked, eq] <;> exact ⟨rfl, rfl⟩

theorem checked_sound (sound : monitor.perf.modeView.Sound) :
    (monitor.checked env input).modeView.Sound :=
  (monitor.perf.perform_steps sound (.checkSoftwareTimeout _ _)).sound sound

theorem evaluated (sound : monitor.perf.modeView.Sound) :
    Evaluated monitor.perf input.eval (monitor.path env input)
      ((monitor.checked env input).evaluate env.cfg input.eval) := by
  obtain ⟨fusion, requests⟩ := monitor.checked_same env input
  exact ((monitor.checked env input).evaluate_evaluated env.cfg input.eval
    (monitor.checked_sound env input sound)).of_same fusion requests

variable (obs : Observation)

theorem perf_hysteresis : (monitor.hysteresis env input obs).1.perf = monitor.perf := by
  unfold hysteresis
  dsimp only
  split_ifs <;> rfl

theorem perf_act : (monitor.act env input obs).1.perf = monitor.perf := by
  unfold act forceSseSafety optimise
  dsimp only
  split_ifs <;> first | rfl | exact monitor.perf_hysteresis env input obs

theorem perf_sample : (monitor.sample env input).1.perf =
    ((monitor.checked env input).evaluate env.cfg input.eval).1 :=
  perf_act env _ input _

theorem events_sample : (monitor.sample env input).2 =
    policyEvents env input (monitor.observe env input).2.eval ++
      ((monitor.observe env input).1.act env input (monitor.observe env input).2).2 := rfl

@[simp]
theorem mem_recordDwellMetric {event width dwellMs} :
    event ∈ recordDwellMetric width dwellMs ↔ 0 < dwellMs ∧ event = .dwelt width dwellMs := by
  unfold recordDwellMetric
  split <;> simp_all

theorem forced_notMem_hysteresis (reason) :
    .forced reason ∉ (monitor.hysteresis env input obs).2 := by
  unfold hysteresis
  dsimp only
  split_ifs <;> simp

theorem forced_notMem_optimise (reason) : .forced reason ∉ (monitor.optimise env input obs).2 := by
  have normal := monitor.forced_notMem_hysteresis env input obs reason
  unfold optimise
  dsimp only
  split_ifs <;> simp [normal]

/-- `force_sse_safety` is called exactly on a timeout or a reported emergency. -/
theorem exists_forced_act : (∃ reason, .forced reason ∈ (monitor.act env input obs).2) ↔
      obs.softwareTimeout = true ∨ EmergencyTemperatureExceeded env.cfg obs.eval.telemetry := by
  unfold act
  split
  · next triggered => exact iff_of_true ⟨_, List.mem_cons_self⟩ triggered
  next calm =>
  refine iff_of_false ?_ calm
  rintro ⟨reason, mem⟩
  split_ifs at mem
  · exact List.not_mem_nil mem
  · exact List.not_mem_nil mem
  · exact monitor.forced_notMem_optimise env input obs reason mem

theorem reports_emergency_iff (sound : monitor.perf.modeView.Sound) :
    EmergencyTemperatureExceeded env.cfg (monitor.observe env input).2.eval.telemetry ↔
      monitor.path env input = .observed ∧
        EmergencyTemperatureExceeded env.cfg (monitor.reading input) := by
  have telemetry := (monitor.evaluated env input sound).telemetry
  change (monitor.observe env input).2.eval.telemetry = _ at telemetry
  rw [telemetry]
  split
  · next heard => exact (and_iff_right heard).symm
  · next unheard =>
    exact iff_of_false (fun hot => Bool.false_ne_true hot.1) fun heard => unheard heard.1

/-- `force_sse_safety` is called exactly where the timeout fires or an emergency is heard. -/
theorem forcesSse_iff (sound : monitor.perf.modeView.Sound) :
    monitor.ForcesSse env input ↔ monitor.TimeoutFires env input ∨
      monitor.path env input = .observed ∧
        EmergencyTemperatureExceeded env.cfg (monitor.reading input) := by
  rw [← monitor.reports_emergency_iff env input sound]
  refine Iff.trans ?_
    ((monitor.observe env input).1.exists_forced_act env input (monitor.observe env input).2)
  refine exists_congr fun reason => ?_
  refine List.mem_append.trans (or_iff_right ?_)
  unfold policyEvents
  split_ifs <;> simp

theorem not_requestsSse41 (sound : monitor.perf.modeView.Sound)
    (silent : ¬ monitor.TimeoutFires env input) (unheard : monitor.path env input ≠ .observed)
    (kept : monitor.path env input ≠ .failed) : ¬ monitor.RequestsSse41 env input := by
  have evaluated := monitor.evaluated env input sound
  have calm : ¬ ((monitor.observe env input).2.softwareTimeout = true ∨
      EmergencyTemperatureExceeded env.cfg (monitor.observe env input).2.eval.telemetry) := by
    rw [monitor.reports_emergency_iff env input sound]
    exact fun triggered => triggered.elim silent fun heard => unheard heard.1
  rintro (more | ⟨_, _, mem⟩)
  · rw [perf_sample, evaluated.requests, if_neg fun lost => kept lost.1] at more
    exact lt_irrefl _ more
  · have unavailable : (monitor.observe env input).2.eval.performanceAvailable = false :=
      evaluated.unavailable unheard
    rw [events_sample, act, if_neg calm, if_pos unavailable, List.append_nil] at mem
    unfold policyEvents at mem
    split_ifs at mem <;> simp at mem

end Monitor

def Hot (cfg : RuntimeConfig) (sample : TelemetrySample) : Prop :=
  sample.tempAvailable = true ∧ emergencyLimitMillic cfg ≤ sample.packageTempMillic
  deriving Decidable

theorem Hot.exceeded {cfg sample} (hot : Hot cfg sample) :
    EmergencyTemperatureExceeded cfg sample := ⟨hot.1, fun _ => hot.2⟩

/-- Wherever the width is read, it is wide. -/
structure Monitor.ReadsWide (env : MonitorEnv) (monitor : Monitor) (input : SampleInput) :
    Prop where
  start : input.startWidth.IsWide
  failure : input.eval.failure.mode.width.IsWide
  later : monitor.path env input ≠ .failed → input.width.IsWide ∧ input.safetyWidth.IsWide

variable (env : MonitorEnv) (monitor : Monitor) (input : SampleInput)

def Monitor.Alert : Prop :=
  monitor.TimeoutFires env input ∨ monitor.path env input = .observed ∨
    monitor.path env input = .failed

theorem Monitor.requestsSse41_of_alert {env} {monitor : Monitor} {input}
    (sound : monitor.perf.modeView.Sound) (hot : Hot env.cfg (monitor.reading input))
    (wide : monitor.ReadsWide env input) (alert : monitor.Alert env input) :
    monitor.RequestsSse41 env input := by
  by_cases failed : monitor.path env input = .failed
  · have lost : monitor.path env input = .failed ∧ input.eval.failure.mode.width ≠ .sse41 :=
      ⟨failed, SimdWidth.isWide_iff.mp wide.failure⟩
    left
    rw [perf_sample, (monitor.evaluated env input sound).requests, if_pos lost]
    exact Nat.lt_succ_self _
  · have triggered : (monitor.observe env input).2.softwareTimeout = true ∨
        EmergencyTemperatureExceeded env.cfg (monitor.observe env input).2.eval.telemetry := by
      rw [monitor.reports_emergency_iff env input sound]
      rcases alert with fires | heard | lost
      · exact .inl fires
      · exact .inr ⟨heard, hot.exceeded⟩
      · exact absurd lost failed
    right
    have wideThere := SimdWidth.isWide_iff.mp (wide.later failed).2
    refine ⟨.safety, input.safetyPatch, List.mem_append_right _ ?_⟩
    change _ ∈ ((monitor.observe env input).1.act env input (monitor.observe env input).2).2
    rw [act, if_pos triggered]
    refine List.mem_cons_of_mem _ ?_
    rw [forceSseSafety, if_neg wideThere]
    split <;> simp

theorem Monitor.start_sound (input) : (Monitor.start env input).perf.modeView.Sound := by
  have started := (PerfCtx.init_outcome input.init).sound.1
  have enabled := (PerfCtx.perform_steps _ started
    (.enable input.enable input.enableFailure)).sound started
  exact (PerfCtx.perform_steps _ enabled (.measureBaseline env.cfg input.baseline)).sound enabled

theorem MonitorRun.sound {env trace inputs length} (run : MonitorRun env trace inputs length) :
    ∀ i ≤ length, (trace i).perf.modeView.Sound := by
  intro i
  induction i with
  | zero =>
    obtain ⟨input, start⟩ := run.start
    rw [start]
    exact fun _ => Monitor.start_sound env input
  | succ i ih =>
    intro lt
    have checked := (trace i).checked_sound env (inputs i) (ih (Nat.le_of_succ_le lt))
    rw [run.samples i lt, Monitor.perf_sample]
    exact (((trace i).checked env (inputs i)).perform_steps checked (.evaluate _ _)).sound checked

/-- In an emergency at a wide width, SSE4.1 is asked for exactly if the monitor is alert. -/
theorem emergency_requests_iff {env : MonitorEnv} {trace : ℕ → Monitor} {inputs : ℕ → SampleInput}
    {length : ℕ} (run : MonitorRun env trace inputs length) {index : ℕ} (below : index < length)
    (hot : Hot env.cfg ((trace index).reading (inputs index)))
    (wide : (trace index).ReadsWide env (inputs index)) :
    (trace index).RequestsSse41 env (inputs index) ↔ (trace index).Alert env (inputs index) := by
  have sound := run.sound index below.le
  refine ⟨fun requests => ?_, Monitor.requestsSse41_of_alert sound hot wide⟩
  by_contra idle
  obtain ⟨silent, unheard, kept⟩ : _ ∧ _ ∧ _ := by simpa [Monitor.Alert] using idle
  exact Monitor.not_requestsSse41 env _ _ sound silent unheard kept requests

def Monitor.follow (env : MonitorEnv) (start : MonitorStart) (inputs : ℕ → SampleInput) :
    ℕ → Monitor
  | 0 => .start env start
  | index + 1 => ((follow env start inputs index).sample env (inputs index)).1

theorem Monitor.follow_run (start inputs length) :
    MonitorRun env (follow env start inputs) inputs length :=
  ⟨⟨start, rfl⟩, fun _ _ => rfl⟩

def defaultEnv : MonitorEnv := ⟨.setDefaults, .avx2, true⟩

def validatedStart : MonitorStart where
  init := { refusedInit with events := ⟨.ok 3, .ok 4, .error .eperm, 1000000000⟩ }
  enable := grantedReprobe.events
  enableFailure := refusedInit.failure
  baseline :=
    { start := ⟨1, 0⟩, finish := ⟨1, 0⟩, stampedAt := ⟨1, 0⟩
      iterationsBefore := 0, iterationsAfter := 0, iterationsLast := 0
      events := grantedReprobe.events
      baseline := grantedReprobe.baseline
      failure := refusedInit.failure }
  startedMs := 1000

def avx2Sample (seconds : ℕ) (tempMillic : ℤ) (group : Option PerfGroupRead) : SampleInput where
  nowMs := UInt64.ofNat (seconds * 1000)
  startWidth := .avx2
  reload := false
  timeoutAt := ⟨seconds, 0⟩
  eval :=
    { recover :=
        { grantedReprobe with
          now := UInt64.ofNat (seconds * 1000000000)
          opens := refusedInit.events
          failure := ⟨UInt64.ofNat (seconds * 1000000000), ⟨seconds, 0⟩, .avx2⟩ }
      swNow := ⟨seconds, 0⟩
      iterations := 0
      llcRecover := recoveringInput.llcRecover
      group := group
      llc := none
      llcFailedAt := UInt64.ofNat (seconds * 1000000000)
      sensors := ⟨some ⟨true, false, tempMillic, 0, true, false, tempMillic, 0⟩, .zero⟩
      degraded := false
      failure := ⟨UInt64.ofNat (seconds * 1000000000), ⟨seconds, 0⟩, .avx2⟩ }
  width := .avx2
  safetyWidth := .avx2
  safetyPatch := false
  degraded := false
  recommendation := none
  transitionsForUpgrade := true
  transitionsForTarget := true
  predictivePatch := true
  transitionsForHysteresis := true
  hysteresisPatch := true

def hotInputs : ℕ → SampleInput
  | 0 => avx2Sample 2 105000 (some ⟨2, 2000, 2000, 1000, 800⟩)
  | 1 => avx2Sample 3 105000 (some ⟨2, 3000, 3000, 1500, 1200⟩)
  | _ => avx2Sample 4 105000 (some ⟨2, 4000, 4000, 1500, 1200⟩)

def hotTrace : ℕ → Monitor := Monitor.follow defaultEnv validatedStart hotInputs

theorem hotTrace_run (length) : MonitorRun defaultEnv hotTrace hotInputs length :=
  Monitor.follow_run _ _ _ length

theorem emergency_requests_iff_working :
    Hot defaultEnv.cfg ((hotTrace 0).reading (hotInputs 0)) ∧
      (hotTrace 0).ReadsWide defaultEnv (hotInputs 0) ∧
      (hotTrace 0).RequestsSse41 defaultEnv (hotInputs 0) := by
  have hot : Hot defaultEnv.cfg ((hotTrace 0).reading (hotInputs 0)) := by decide +kernel
  have wide : (hotTrace 0).ReadsWide defaultEnv (hotInputs 0) :=
    ⟨by decide, by decide, fun _ => by decide⟩
  have heard : (hotTrace 0).path defaultEnv (hotInputs 0) = .observed := by decide +kernel
  exact ⟨hot, wide, (emergency_requests_iff (hotTrace_run 1) Nat.zero_lt_one hot wide).mpr
    (.inr (.inl heard))⟩

/-- While the workload idles at 105 degrees on AVX2, the monitor asks for nothing. -/
theorem emergency_unheard_while_idle :
    ∃ env trace inputs, MonitorRun env trace inputs 3 ∧
      Hot env.cfg ((trace 2).reading (inputs 2)) ∧ (trace 2).ReadsWide env (inputs 2) ∧
      ¬ (trace 2).RequestsSse41 env (inputs 2) := by
  refine ⟨defaultEnv, hotTrace, hotInputs, hotTrace_run 3, by decide +kernel,
    ⟨by decide, by decide, fun _ => by decide⟩, ?_⟩
  have idle : (hotTrace 2).path defaultEnv (hotInputs 2) = .idle := by decide +kernel
  apply Monitor.not_requestsSse41 _ _ _ ((hotTrace_run 3).sound 2 (by decide))
  · rw [Monitor.TimeoutFires]
    decide +kernel
  · rw [idle]
    decide
  · rw [idle]
    decide

/-- The patch of `force_sse_safety` fails in the iteration. -/
def Monitor.SafetyFails : Prop :=
  .patched .safety .sse41 false ∈ (monitor.sample env input).2

def Monitor.HearsEmergency : Prop :=
  monitor.path env input = .observed ∧ EmergencyTemperatureExceeded env.cfg (monitor.reading input)

def Monitor.PastTimeout : Prop :=
  monitor.perf.SoftwareTimeoutExceeded env.cfg.degradedTimeoutSec input.timeoutAt

theorem Monitor.not_timeoutFires {env} {monitor : Monitor} (input)
    (notified : monitor.perf.timeoutNotified = true) : ¬ monitor.TimeoutFires env input := by
  rw [TimeoutFires, PerfCtx.checkSoftwareTimeout, if_pos (.inr notified)]
  exact Bool.false_ne_true

theorem Monitor.TimeoutFires.notified {env} {monitor : Monitor} {input}
    (fires : monitor.TimeoutFires env input) (sound : monitor.perf.modeView.Sound)
    (stays : (monitor.sample env input).1.perf.mode = .software) :
    (monitor.sample env input).1.perf.timeoutNotified = true := by
  rw [perf_sample] at stays ⊢
  rcases checkSoftwareTimeout_cases monitor.perf env.cfg.degradedTimeoutSec input.timeoutAt with
    silent | ⟨exceeded, -, eq⟩
  · rw [TimeoutFires, silent] at fires
    exact absurd fires Bool.false_ne_true
  · have sw : (monitor.checked env input).mode = .software := by
      rw [checked, eq]
      exact exceeded.2.1
    have notified : (monitor.checked env input).timeoutNotified = true := by
      rw [checked, eq]
      rfl
    have unvalidated := ((monitor.checked_sound env input sound).software sw).1
    exact (PerfCtx.evaluate_notified _ _ _ sw unvalidated stays).trans notified

/-- After a failed safety transition whose trigger persists, `force_sse_safety` is called again
exactly if: in an emergency, the telemetry is fetched or the timeout fires; after a timeout, an
emergency is heard. -/
theorem safety_retried_iff {env : MonitorEnv} {trace : ℕ → Monitor} {inputs : ℕ → SampleInput}
    {length : ℕ} (run : MonitorRun env trace inputs length) {index : ℕ}
    (next : index + 1 < length) :
    ((trace index).SafetyFails env (inputs index) →
      (trace index).HearsEmergency env (inputs index) →
      Hot env.cfg ((trace (index + 1)).reading (inputs (index + 1))) →
      ((trace (index + 1)).ForcesSse env (inputs (index + 1)) ↔
        (trace (index + 1)).path env (inputs (index + 1)) = .observed ∨
          (trace (index + 1)).TimeoutFires env (inputs (index + 1)))) ∧
    ((trace index).SafetyFails env (inputs index) →
      (trace index).TimeoutFires env (inputs index) →
      (trace (index + 1)).PastTimeout env (inputs (index + 1)) →
      ((trace (index + 1)).ForcesSse env (inputs (index + 1)) ↔
        (trace (index + 1)).HearsEmergency env (inputs (index + 1)))) := by
  have forces := (trace (index + 1)).forcesSse_iff env (inputs (index + 1)) (run.sound _ next.le)
  refine ⟨fun _ _ hot => ?_, fun _ fired past => ?_⟩
  · rw [forces, and_iff_left hot.exceeded, or_comm]
  · have sample := run.samples index (Nat.lt_of_succ_lt next)
    have sound := run.sound index (Nat.lt_of_succ_lt next).le
    have stays : ((trace index).sample env (inputs index)).1.perf.mode = .software := by
      rw [← sample]
      exact past.2.1
    have notified := fired.notified sound stays
    rw [← sample] at notified
    rw [forces, or_iff_right (Monitor.not_timeoutFires _ notified), Monitor.HearsEmergency]

theorem safety_retried_iff_working :
    (hotTrace 0).SafetyFails defaultEnv (hotInputs 0) ∧
      (hotTrace 0).HearsEmergency defaultEnv (hotInputs 0) ∧
      Hot defaultEnv.cfg ((hotTrace 1).reading (hotInputs 1)) ∧
      (hotTrace 1).ForcesSse defaultEnv (hotInputs 1) := by
  have fails : (hotTrace 0).SafetyFails defaultEnv (hotInputs 0) := by
    rw [Monitor.SafetyFails]
    decide +kernel
  have hears : (hotTrace 0).HearsEmergency defaultEnv (hotInputs 0) :=
    ⟨by decide +kernel, by decide +kernel⟩
  have hot : Hot defaultEnv.cfg ((hotTrace 1).reading (hotInputs 1)) := by decide +kernel
  have heard : (hotTrace 1).path defaultEnv (hotInputs 1) = .observed := by decide +kernel
  have retries := (safety_retried_iff (hotTrace_run 2) Nat.one_lt_two).1 fails hears hot
  exact ⟨fails, hears, hot, retries.mpr (.inl heard)⟩

private def lostInputs : ℕ → SampleInput
  | 0 => avx2Sample 2 60000 none
  | 1 => avx2Sample 130 60000 none
  | _ => avx2Sample 131 60000 none

private def lostTrace : ℕ → Monitor := Monitor.follow defaultEnv validatedStart lostInputs

theorem lostTrace_run (length) : MonitorRun defaultEnv lostTrace lostInputs length :=
  Monitor.follow_run _ _ _ length

/-- A failed timeout or emergency transition need not be attempted again, with its trigger and AVX2
still there. -/
theorem failed_safety_not_retried :
    (∃ env trace inputs, MonitorRun env trace inputs 3 ∧
      (trace 1).SafetyFails env (inputs 1) ∧ (trace 1).TimeoutFires env (inputs 1) ∧
      (trace 2).PastTimeout env (inputs 2) ∧ (trace 2).ReadsWide env (inputs 2) ∧
      ¬ (trace 2).ForcesSse env (inputs 2)) ∧
    ∃ env trace inputs, MonitorRun env trace inputs 3 ∧
      (trace 1).SafetyFails env (inputs 1) ∧ (trace 1).HearsEmergency env (inputs 1) ∧
      Hot env.cfg ((trace 2).reading (inputs 2)) ∧ (trace 2).ReadsWide env (inputs 2) ∧
      ¬ (trace 2).ForcesSse env (inputs 2) := by
  constructor
  · refine ⟨defaultEnv, lostTrace, lostInputs, lostTrace_run 3, ?_, ?_, ?_,
      ⟨by decide, by decide, fun _ => by decide⟩, ?_⟩
    · rw [Monitor.SafetyFails]
      decide +kernel
    · rw [Monitor.TimeoutFires]
      decide +kernel
    · rw [Monitor.PastTimeout]
      decide +kernel
    · have events : ((lostTrace 2).sample defaultEnv (lostInputs 2)).2 = [.heartbeat .avx2] := by
        decide +kernel
      rintro ⟨reason, member⟩
      simp [events] at member
  · refine ⟨defaultEnv, hotTrace, hotInputs, hotTrace_run 3, ?_, ⟨?_, ?_⟩, ?_,
      ⟨by decide, by decide, fun _ => by decide⟩, ?_⟩
    · rw [Monitor.SafetyFails]
      decide +kernel
    · decide +kernel
    · decide +kernel
    · decide +kernel
    · have events : ((hotTrace 2).sample defaultEnv (hotInputs 2)).2 = [.heartbeat .avx2] := by
        decide +kernel
      rintro ⟨reason, member⟩
      simp [events] at member

end ThermalSimd
