import ThermalSimd.Policy
import ThermalSimd.Streak

/-!
# Counting and spacing normal transitions

What a request of the monitor says about the samples before it, and how far apart its normal
transitions lie. Both follow from what one iteration does to the two counters and the two timers.
-/

namespace ThermalSimd

open Streak

variable {patch : Patch} {next : Monitor} {requests : List Patch} {taken : Branch}

theorem SimdWidth.lt_wider {width bound : SimdWidth} (lt : width < bound) :
    width < width.wider ∧ width.wider ≤ bound ∧ width.wider.toNat = width.toNat + 1 := by
  revert lt
  cases width <;> cases bound <;> decide

theorem SimdWidth.narrower_lt {width : SimdWidth} (wide : .sse41 < width) :
    width.narrower < width ∧ width.narrower.toNat + 1 = width.toNat := by
  revert wide
  cases width <;> decide

def SampleInput.transitionsFor (input : SampleInput) : TransitionKind → Bool
  | .predictive => input.transitionsForUpgrade && input.transitionsForTarget
  | .safety | .hysteresis => input.transitionsForHysteresis

namespace Monitor

variable (env : MonitorEnv) (monitor : Monitor) (input : SampleInput)

def Transitions : Prop := ∃ patch ∈ monitor.requested env input, patch.succeeds = true

def UpgradeBlocked : Prop :=
  monitor.Counted env input ∧ ¬ monitor.Throttles env input ∧ monitor.UpgradeDue env input ∧
    ¬ monitor.UpgradeClear env input

def DowngradeFails : Prop :=
  ∃ patch ∈ monitor.requested env input, patch.succeeds = false ∧
    (patch.kind = .safety ∨ patch.kind = .hysteresis ∧ patch.target < input.width)

def HysteresisDowngrades : Prop :=
  ∃ patch ∈ monitor.requested env input, patch.kind = .hysteresis ∧ patch.target < input.width

def HysteresisUpgrades : Prop :=
  ∃ patch ∈ monitor.requested env input, patch.kind = .hysteresis ∧ input.width < patch.target

/-- What every upgrade has to satisfy. -/
structure UpgradeLegal (patch : Patch) : Prop where
  transitions : input.transitionsFor patch.kind = true
  perf : (monitor.observed env input).perf.UpgradesAllowed
  available : (monitor.observation env input).eval.telemetry.tempAvailable = true
  cool : (monitor.observation env input).eval.telemetry.packageTempMillic ≤
    (env.cfg.predictiveTempCeilingC - env.cfg.predictiveSafetyMarginC) * 1000
  bounded : patch.target ≤ env.maxWidth

/-- A hysteresis request moves one step, or down to SSE4.1 while transitions are off. -/
def StepsWidth (patch : Patch) : Prop :=
  patch.target.toNat + 1 = input.width.toNat ∨ patch.target.toNat = input.width.toNat + 1 ∨
    input.transitionsForHysteresis = false ∧ patch.target = .sse41 ∧ .sse41 < input.width

theorem downgradeTarget_lt {input} (wide : .sse41 < input.width) :
    downgradeTarget input < input.width := by
  unfold downgradeTarget
  split
  · exact wide
  · exact (SimdWidth.narrower_lt wide).1

variable {env monitor input}

theorem mem_failedPrediction (mem : patch ∈ monitor.failedPrediction env input) :
    patch = ⟨.predictive, monitor.target env input, false⟩ ∧
      monitor.target env input ≠ input.width := by
  unfold failedPrediction at mem
  split at mem
  · cases mem
  · next asks => exact ⟨List.mem_singleton.mp mem, asks⟩

theorem HysteresisOutcome.request (ends : monitor.HysteresisOutcome env input next requests)
    (mem : patch ∈ requests) :
    patch.kind = .hysteresis ∧
      (monitor.Throttles env input ∧ monitor.DowngradeDue env input ∧
          patch.target = downgradeTarget input ∨
        ¬ monitor.Throttles env input ∧ monitor.UpgradeDue env input ∧
          monitor.UpgradeClear env input ∧ patch.target = input.width.wider) := by
  cases ends with
  | throttled | stable | blocked => cases mem
  | downgraded throttles due | downgradeFailed throttles due =>
    obtain rfl := List.mem_singleton.mp mem
    exact ⟨rfl, .inl ⟨throttles, due, rfl⟩⟩
  | upgraded calm due clear | upgradeFailed calm due clear =>
    obtain rfl := List.mem_singleton.mp mem
    exact ⟨rfl, .inr ⟨calm, due, clear, rfl⟩⟩

theorem Outcome.request (out : monitor.Outcome env input taken next requests)
    (mem : patch ∈ requests) :
    patch.kind = .safety ∧ patch.target = .sse41 ∨
      patch.kind = .predictive ∧ patch.target = monitor.target env input ∧
        monitor.target env input ≠ input.width ∨
      taken = .counted ∧ patch.kind = .hysteresis ∧
        (monitor.Throttles env input ∧ monitor.DowngradeDue env input ∧
            patch.target = downgradeTarget input ∨
          ¬ monitor.Throttles env input ∧ monitor.UpgradeDue env input ∧
            monitor.UpgradeClear env input ∧ patch.target = input.width.wider) := by
  cases out with
  | settled | unmeasured | gated => cases mem
  | forced | refused =>
    obtain rfl := List.mem_singleton.mp mem
    exact .inl ⟨rfl, rfl⟩
  | predictive optimises asks =>
    obtain rfl := List.mem_singleton.mp mem
    exact .inr (.inl ⟨rfl, rfl, asks⟩)
  | counted optimises ends =>
    rcases List.mem_append.mp mem with failed | mem
    · obtain ⟨rfl, asks⟩ := mem_failedPrediction failed
      exact .inr (.inl ⟨rfl, rfl, asks⟩)
    · exact .inr (.inr ⟨rfl, ends.request mem⟩)

theorem target_wider (rises : input.width < monitor.target env input) :
    input.recommendation = some (monitor.target env input) ∧
      (monitor.observed env input).UpgradeAllowed env (monitor.observation env input).eval
        input.transitionsForUpgrade ∧
      input.transitionsForTarget = true := by
  generalize named : monitor.target env input = found at rises
  unfold target predictiveTarget at named
  split at named
  next recommended =>
    split at named
    · exact absurd rises (named ▸ lt_irrefl _)
    split at named
    · exact absurd rises (named ▸ lt_irrefl _)
    next passes =>
    split at named
    · exact absurd rises (named ▸ (SimdWidth.sse41_le _).not_gt)
    next flagged =>
    subst found
    refine ⟨recommended, not_not.mp fun fails => passes ⟨rises, fails⟩, ?_⟩
    by_contra off
    have wide := (SimdWidth.sse41_le _).trans_lt rises
    exact flagged ⟨Bool.eq_false_of_not_eq_true off, wide.ne'⟩
  · exact absurd rises (named ▸ lt_irrefl _)

theorem UpgradeLegal.of_allowed {transitions}
    (allowed : (monitor.observed env input).UpgradeAllowed env (monitor.observation env input).eval
      transitions)
    (flagged : transitions = true → input.transitionsFor patch.kind = true)
    (bound : patch.target ≤ env.maxWidth) : monitor.UpgradeLegal env input patch :=
  ⟨flagged allowed.1, allowed.2.1, allowed.2.2.1, allowed.2.2.2.2, bound⟩

theorem upgradeLegal (mem : patch ∈ monitor.requested env input)
    (bound : ∀ target, input.recommendation = some target → target ≤ env.maxWidth)
    (rises : input.width < patch.target) : monitor.UpgradeLegal env input patch := by
  rcases (monitor.sample_outcome env input).request mem with
    ⟨_, named⟩ | ⟨kind, named, _⟩ | ⟨_, kind, ⟨_, due, named⟩ | ⟨_, due, clear, named⟩⟩
  · rw [named] at rises
    exact absurd rises (SimdWidth.sse41_le _).not_gt
  · rw [named] at rises
    obtain ⟨recommended, allowed, flagged⟩ := target_wider rises
    refine .of_allowed allowed (fun upgrade => ?_) (named ▸ bound _ recommended)
    rw [kind, SampleInput.transitionsFor, upgrade, flagged]
    rfl
  · rw [named] at rises
    exact absurd rises (downgradeTarget_lt due.2).not_gt
  · refine .of_allowed clear (fun flagged => ?_) (named ▸ (SimdWidth.lt_wider due.2).2.1)
    rw [kind]
    exact flagged

theorem stepsWidth (mem : patch ∈ monitor.requested env input)
    (hysteresis : patch.kind = .hysteresis) : StepsWidth input patch := by
  rcases (monitor.sample_outcome env input).request mem with
    ⟨kind, _⟩ | ⟨kind, _⟩ | ⟨_, _, ⟨_, due, named⟩ | ⟨_, due, _, named⟩⟩
  · cases hysteresis.symm.trans kind
  · cases hysteresis.symm.trans kind
  · rw [StepsWidth, named]
    unfold downgradeTarget
    split
    · next off => exact .inr (.inr ⟨off.1, rfl, due.2⟩)
    · exact .inl (SimdWidth.narrower_lt due.2).2
  · rw [StepsWidth, named]
    exact .inr (.inl (SimdWidth.lt_wider due.2).2.2)

theorem HysteresisDowngrades.due (asks : monitor.HysteresisDowngrades env input) :
    monitor.Counted env input ∧ monitor.Throttles env input ∧ monitor.DowngradeDue env input := by
  obtain ⟨_, mem, kind, falls⟩ := asks
  rcases (monitor.sample_outcome env input).request mem with
    ⟨other, _⟩ | ⟨other, _⟩ | ⟨counted, _, ⟨throttles, due, _⟩ | ⟨_, due, _, named⟩⟩
  · cases kind.symm.trans other
  · cases kind.symm.trans other
  · exact ⟨counted, throttles, due⟩
  · rw [named] at falls
    exact absurd falls (SimdWidth.lt_wider due.2).1.not_gt

theorem HysteresisUpgrades.due (asks : monitor.HysteresisUpgrades env input) :
    monitor.Counted env input ∧ ¬ monitor.Throttles env input ∧ monitor.UpgradeDue env input := by
  obtain ⟨_, mem, kind, rises⟩ := asks
  rcases (monitor.sample_outcome env input).request mem with
    ⟨other, _⟩ | ⟨other, _⟩ | ⟨counted, _, ⟨_, due, named⟩ | ⟨calm, due, _, _⟩⟩
  · cases kind.symm.trans other
  · cases kind.symm.trans other
  · rw [named] at rises
    exact absurd rises (downgradeTarget_lt due.2).not_gt
  · exact ⟨counted, calm, due⟩

theorem Outcome.throttleCount (out : monitor.Outcome env input taken next requests) :
    next.throttleCount = 0 ∨
      (¬ (taken = .counted ∧ ¬ monitor.Throttles env input) ∧
        next.throttleCount ≤ monitor.throttleCount +
          if taken = .counted ∧ monitor.Throttles env input then 1 else 0) ∨
      ∃ patch ∈ requests, patch.succeeds = false ∧
        (patch.kind = .safety ∨ patch.kind = .hysteresis ∧ patch.target < input.width) := by
  cases out with
  | settled | forced | predictive => exact .inl rfl
  | refused => exact .inr (.inr ⟨_, List.mem_singleton_self _, rfl, .inl rfl⟩)
  | unmeasured | gated => exact .inr (.inl ⟨by simp, by simp⟩)
  | counted _ ends =>
    cases ends with
    | throttled throttles => exact .inr (.inl ⟨by simp [throttles], by simp [throttles, throttled]⟩)
    | downgraded | stable | blocked | upgraded | upgradeFailed => exact .inl rfl
    | downgradeFailed throttles due =>
      refine .inr (.inr ⟨_, List.mem_append_right _ (List.mem_singleton_self _), rfl, ?_⟩)
      exact .inr ⟨rfl, downgradeTarget_lt due.2⟩

theorem Outcome.throttleCount_of_calm (out : monitor.Outcome env input .counted next requests)
    (calm : ¬ monitor.Throttles env input) : next.throttleCount = 0 := by
  cases out with
  | counted _ ends =>
    cases ends with
    | throttled throttles | downgradeFailed throttles => exact absurd throttles calm
    | downgraded | stable | blocked | upgraded | upgradeFailed => rfl

private def Unsettles (env : MonitorEnv) (monitor : Monitor) (input : SampleInput) : Prop :=
  monitor.Unmeasured env input ∨ monitor.Counted env input ∧ monitor.Throttles env input ∨
    monitor.Transitions env input ∨ monitor.UpgradeBlocked env input

theorem Outcome.stableCount (out : monitor.Outcome env input taken next requests) :
    next.stableCount = 0 ∨
      (¬ monitor.Unmeasured env input ∧ (taken = .counted → ¬ monitor.Throttles env input) ∧
        (¬ ∃ patch ∈ requests, patch.succeeds = true) ∧
        (taken = .counted → ¬ monitor.UpgradeDue env input) ∧
        next.stableCount ≤ monitor.stableCount + if taken = .counted then 1 else 0) := by
  cases out with
  | settled | forced | refused | unmeasured | predictive => exact .inl rfl
  | gated _ measured => exact .inr ⟨measured, by simp, by simp, by simp, by simp⟩
  | counted optimises ends =>
    cases ends with
    | throttled | downgraded | downgradeFailed | blocked | upgraded | upgradeFailed =>
      exact .inl rfl
    | stable calm wait =>
      refine .inr ⟨optimises.2.1, fun _ => calm, ?_, fun _ => wait, by simp [stabler]⟩
      rintro ⟨patch, mem, succeeds⟩
      rw [List.append_nil] at mem
      rw [(mem_failedPrediction mem).1] at succeeds
      cases succeeds

theorem stableCount_sample : (monitor.sample env input).1.stableCount = 0 ∨
    (¬ monitor.Unsettles env input ∧
      (monitor.sample env input).1.stableCount ≤
        monitor.stableCount + if monitor.Counted env input then 1 else 0) := by
  refine (monitor.sample_outcome env input).stableCount.imp_right ?_
  rintro ⟨measured, calm, still, wait, grows⟩
  refine ⟨?_, grows⟩
  rintro (unmeasured | ⟨counted, throttles⟩ | transitions | ⟨counted, _, due, _⟩)
  · exact measured unmeasured
  · exact calm counted throttles
  · exact still transitions
  · exact wait counted due

end Monitor

section

variable (env : MonitorEnv) (trace : ℕ → Monitor) (inputs : ℕ → SampleInput)

/-- Sample `index` of a run ends in the hysteresis part. -/
def CountedAt (index : ℕ) : Prop := (trace index).Counted env (inputs index)
  deriving Decidable

def ThrottledAt (index : ℕ) : Prop := (trace index).Throttles env (inputs index)
  deriving Decidable

/-- The last `count` counted samples up to `index` are all throttled. -/
def LastThrottled (count : ℤ) (index : ℕ) : Prop :=
  ∃ first ≤ index, count ≤ hits (CountedAt env trace inputs) first (index + 1) ∧
    ∀ sample, first ≤ sample → sample ≤ index → CountedAt env trace inputs sample →
      ThrottledAt env trace inputs sample

def FailedSinceStable (index : ℕ) : Prop :=
  SetSince (fun sample => (trace sample).DowngradeFails env (inputs sample))
    (fun sample => CountedAt env trace inputs sample ∧ ¬ ThrottledAt env trace inputs sample) index

/-- The last `count` counted samples are stable. Since the first, all have performance data, and
none makes a transition or has its upgrade blocked. -/
def LastStable (count : ℤ) (index : ℕ) : Prop :=
  ∃ first ≤ index, count ≤ hits (CountedAt env trace inputs) first (index + 1) ∧
    (∀ sample, first ≤ sample → sample ≤ index →
      ¬ (trace sample).Unmeasured env (inputs sample) ∧
        (CountedAt env trace inputs sample → ¬ ThrottledAt env trace inputs sample)) ∧
    ∀ sample, first ≤ sample → sample < index →
      ¬ (trace sample).Transitions env (inputs sample) ∧
        ¬ (trace sample).UpgradeBlocked env (inputs sample)

variable {env trace inputs} {length : ℕ}

section

variable (run : MonitorRun env trace inputs length)
include run

theorem MonitorRun.throttled_accounted :
    ∀ i ≤ length,
      Accounted (fun sample => CountedAt env trace inputs sample ∧
        ThrottledAt env trace inputs sample)
          (fun sample => CountedAt env trace inputs sample ∧ ¬ ThrottledAt env trace inputs sample)
          (trace i).throttleCount i ∨
        FailedSinceStable env trace inputs i := by
  apply accounted_or_setSince
  · obtain ⟨_, start⟩ := run.start
    rw [start, Monitor.start]
  · intro i lt
    have out := (trace i).sample_outcome env (inputs i)
    rw [← run.samples i lt] at out
    exact out.throttleCount.imp_left le_of_eq
  · rintro i lt ⟨counted, calm⟩
    have out := (trace i).sample_outcome env (inputs i)
    rw [← run.samples i lt, counted] at out
    exact (out.throttleCount_of_calm calm).le

theorem MonitorRun.stable_accounted :
    ∀ i ≤ length,
      Accounted (CountedAt env trace inputs)
        (fun sample => (trace sample).Unsettles env (inputs sample)) (trace i).stableCount
        i := by
  apply accounted
  · obtain ⟨_, start⟩ := run.start
    rw [start, Monitor.start]
  · intro i lt
    rw [run.samples i lt]
    exact Monitor.stableCount_sample.imp le_of_eq .inl

theorem MonitorRun.throttled_before {i}
    (lt : i < length) (asks : (trace i).HysteresisDowngrades env (inputs i)) :
    LastThrottled env trace inputs (env.cfg.effectiveDownCount (inputs i).degraded) i ∨
      FailedSinceStable env trace inputs i := by
  obtain ⟨counted, throttles, due, _⟩ := asks.due
  refine (run.throttled_accounted i lt.le).imp_left ?_
  rintro ⟨first, le, _, since⟩
  refine ⟨first, le, ?_, fun sample above upto counted => ?_⟩
  · have more : hits (fun sample => CountedAt env trace inputs sample ∧
        ThrottledAt env trace inputs sample) first (i + 1) ≤
        hits (CountedAt env trace inputs) first (i + 1) := Nat.count_mono_left fun _ _ both =>
          both.1
    rw [hits_succ le, if_pos ⟨counted, throttles⟩] at more
    omega
  · rcases upto.lt_or_eq with before | rfl
    · exact not_not.mp fun calm => since sample above before ⟨counted, calm⟩
    · exact throttles

theorem MonitorRun.stable_before {i}
    (lt : i < length) (asks : (trace i).HysteresisUpgrades env (inputs i)) :
    LastStable env trace inputs (env.cfg.effectiveUpCount (inputs i).degraded) i := by
  obtain ⟨counted, calm, due, _⟩ := asks.due
  obtain ⟨first, le, _, since⟩ := run.stable_accounted i lt.le
  refine ⟨first, le, ?_, fun sample above upto => ?_, fun sample above before => ?_⟩
  · have here : CountedAt env trace inputs i := counted
    rw [hits_succ le, if_pos here]
    omega
  · rcases upto.lt_or_eq with before | rfl
    · have settled := since sample above before
      exact ⟨fun unmeasured => settled (.inl unmeasured), fun counted throttles =>
        settled (.inr (.inl ⟨counted, throttles⟩))⟩
    · exact ⟨((Monitor.counted_iff env _ _).mp counted).1.2.1, fun _ => calm⟩
  · have settled := since sample above before
    exact ⟨fun transitions => settled (.inr (.inr (.inl transitions))), fun blocked =>
      settled (.inr (.inr (.inr blocked)))⟩

end

end

/-- Each request above the width read is legal, each hysteresis request moves one step or to SSE4.1,
a downgrade follows enough throttled samples or a failed attempt, and an upgrade enough stable ones.
-/
theorem upgrades_legal_and_counted {env : MonitorEnv} {trace : ℕ → Governed}
    {inputs : ℕ → SampleInput} {policies : ℕ → PolicyInput} {length : ℕ}
    (run : GovernedRun env trace inputs policies length) {index : ℕ} (below : index < length) :
    let monitors := fun sample => (trace sample).monitor
    let advised := fun sample => (trace sample).advised env (inputs sample) (policies sample)
    (∀ patch ∈ (monitors index).requested env (advised index),
      (advised index).width < patch.target →
        (monitors index).UpgradeLegal env (advised index) patch) ∧
    (∀ patch ∈ (monitors index).requested env (advised index),
      patch.kind = .hysteresis → Monitor.StepsWidth (advised index) patch) ∧
    ((monitors index).HysteresisDowngrades env (advised index) →
      LastThrottled env monitors advised
          (env.cfg.effectiveDownCount (advised index).degraded) index ∨
        FailedSinceStable env monitors advised index) ∧
    ((monitors index).HysteresisUpgrades env (advised index) →
      LastStable env monitors advised
        (env.cfg.effectiveUpCount (advised index).degraded) index) := by
  have monitorRun := run.monitorRun
  refine ⟨fun patch member => ?_, fun patch => Monitor.stepsWidth,
    monitorRun.throttled_before below,
    monitorRun.stable_before below⟩
  exact Monitor.upgradeLegal member fun target => Governed.le_of_recommendation

def Governed.follow (env : MonitorEnv) (start : MonitorStart) (limits : PolicyLimits)
    (inputs : ℕ → SampleInput) (policies : ℕ → PolicyInput) : ℕ → Governed
  | 0 => ⟨.start env start, .create limits⟩
  | index + 1 =>
    (follow env start limits inputs policies index).sample env (inputs index) (policies index)

theorem Governed.follow_run (env start limits inputs policies length) :
    GovernedRun env (follow env start limits inputs policies) inputs policies length :=
  ⟨⟨start, limits, rfl⟩, fun _ _ => rfl⟩

def workSample (index : ℕ) (width : SimdWidth) (cycles : ℕ) : SampleInput :=
  let clock := UInt64.ofNat (1000 * (index + 2))
  let sample := avx2Sample (index + 2) 60000
    (some ⟨2, clock, clock, UInt64.ofNat cycles, UInt64.ofNat (400 * (index + 2))⟩)
  { sample with
    startWidth := width
    eval := { sample.eval with iterations := UInt64.ofNat (100 * (index + 1)) }
    width := width }

def quietPolicy : PolicyInput where
  limits := ⟨92, 4, 10⟩
  reloadThrows := false
  recordThrows := false
  recommendThrows := false
  controller := ⟨false, fun _ => false, false⟩
  resetThrows := false

def recoveryInputs (index : ℕ) : SampleInput :=
  workSample index (if index < 5 then .sse41 else .avx2) (500 * (index + 2) + 1000 * (index - 5))

def recoveryTrace : ℕ → Governed :=
  .follow defaultEnv validatedStart quietPolicy.limits recoveryInputs fun _ => quietPolicy

theorem recoveryTrace_run (length) :
    GovernedRun defaultEnv recoveryTrace recoveryInputs (fun _ => quietPolicy) length :=
  Governed.follow_run _ _ _ _ _ length

theorem upgrades_legal_and_counted_recovering :
    (recoveryTrace 4).monitor.HysteresisUpgrades defaultEnv
        ((recoveryTrace 4).advised defaultEnv (recoveryInputs 4) quietPolicy) ∧
      LastStable defaultEnv (fun sample => (recoveryTrace sample).monitor)
        (fun sample => (recoveryTrace sample).advised defaultEnv
          (recoveryInputs sample) quietPolicy)
        (defaultEnv.cfg.effectiveUpCount false) 4 := by
  have asks : (recoveryTrace 4).monitor.HysteresisUpgrades defaultEnv
      ((recoveryTrace 4).advised defaultEnv (recoveryInputs 4) quietPolicy) := by
    rw [Monitor.HysteresisUpgrades]
    decide +kernel
  exact ⟨asks, (upgrades_legal_and_counted (recoveryTrace_run 5) (by decide)).2.2.2 asks⟩

private def switchedOffInputs (index : ℕ) : SampleInput :=
  { workSample index .avx512 (500 * (index + 2) + 1000 * (index - 2)) with
    transitionsForUpgrade := false
    transitionsForTarget := false
    transitionsForHysteresis := false }

/-- With transitions off, a hysteresis downgrade goes from AVX-512 to SSE4.1 at once. -/
theorem hysteresis_moves_two_steps :
    ∃ env trace inputs policies, GovernedRun env trace inputs policies 6 ∧
      ∃ patch ∈ (trace 5).monitor.requested env
        ((trace 5).advised env (inputs 5) (policies 5)),
        patch.kind = .hysteresis ∧ patch.target.toNat + 2 = (inputs 5).width.toNat := by
  refine ⟨⟨.setDefaults, .avx512, true⟩, _, switchedOffInputs, fun _ => quietPolicy,
    Governed.follow_run _ validatedStart quietPolicy.limits _ _ 6, ?_⟩
  decide +kernel

namespace Monitor

variable {env : MonitorEnv} {monitor : Monitor} {input : SampleInput}

def transitionCooldownMs (env : MonitorEnv) (input : SampleInput) (target : SimdWidth) : ℤ :=
  if target < input.width then env.cfg.effectiveCooldownDownMs input.degraded
  else env.cfg.effectiveCooldownUpMs input.degraded

def Moves (env : MonitorEnv) (monitor : Monitor) (input : SampleInput) (target : SimdWidth) :
    Prop :=
  ∃ patch ∈ monitor.requested env input,
    patch.kind ≠ .safety ∧ patch.succeeds = true ∧ patch.target = target

/-- The iteration neither calls `force_sse_safety` nor makes a transition. -/
def Still (env : MonitorEnv) (monitor : Monitor) (input : SampleInput) : Prop :=
  ¬ monitor.SafetyCalled env input ∧ ¬ monitor.Transitions env input

theorem HysteresisOutcome.next_eq_moved (ends : monitor.HysteresisOutcome env input next requests)
    (mem : patch ∈ requests) (succeeds : patch.succeeds = true) :
    next = (monitor.observed env input).moved input.nowMs
      (transitionCooldownMs env input patch.target) := by
  cases ends with
  | throttled | stable | blocked => cases mem
  | downgraded _ due =>
    obtain rfl := List.mem_singleton.mp mem
    rw [transitionCooldownMs, if_pos (downgradeTarget_lt due.2)]
  | downgradeFailed | upgradeFailed =>
    obtain rfl := List.mem_singleton.mp mem
    cases succeeds
  | upgraded _ due =>
    obtain rfl := List.mem_singleton.mp mem
    rw [transitionCooldownMs, if_neg (SimdWidth.lt_wider due.2).1.not_gt]

theorem Outcome.next_eq_moved (out : monitor.Outcome env input taken next requests)
    (mem : patch ∈ requests) (normal : patch.kind ≠ .safety) (succeeds : patch.succeeds = true) :
    ¬ monitor.Gated env input ∧
      next = (monitor.observed env input).moved input.nowMs
        (transitionCooldownMs env input patch.target) := by
  cases out with
  | settled | unmeasured | gated => cases mem
  | forced | refused =>
    obtain rfl := List.mem_singleton.mp mem
    exact absurd rfl normal
  | predictive optimises =>
    obtain rfl := List.mem_singleton.mp mem
    exact ⟨optimises.2.2, rfl⟩
  | counted optimises ends =>
    refine ⟨optimises.2.2, ?_⟩
    rcases List.mem_append.mp mem with failed | mem
    · rw [(mem_failedPrediction failed).1] at succeeds
      cases succeeds
    · exact ends.next_eq_moved mem succeeds

theorem Outcome.timers_of_still (out : monitor.Outcome env input taken next requests)
    (uncalled : ¬ monitor.SafetyCalled env input)
    (still : ¬ ∃ patch ∈ requests, patch.succeeds = true) :
    next.widthSinceMs = monitor.widthSinceMs ∧
      (next.cooldownUntilMs = monitor.cooldownUntilMs ∨
        ¬ monitor.Gated env input ∧ next.cooldownUntilMs = 0) := by
  cases out with
  | settled called | forced called | refused called => exact absurd called uncalled
  | unmeasured | gated => exact ⟨rfl, .inl rfl⟩
  | predictive => exact absurd ⟨_, List.mem_singleton_self _, rfl⟩ still
  | counted optimises ends =>
    cases ends with
    | throttled | stable | blocked | upgradeFailed => exact ⟨rfl, .inl rfl⟩
    | downgraded | upgraded =>
      exact absurd ⟨_, List.mem_append_right _ (List.mem_singleton_self _), rfl⟩ still
    | downgradeFailed => exact ⟨rfl, .inr ⟨optimises.2.2, rfl⟩⟩

/-- The timers from a transition at `since` on: the cooldown stands, or was cleared when over. -/
structure Timed (since cooled lastMs : UInt64) (monitor : Monitor) : Prop where
  width : monitor.widthSinceMs = since
  cooldown : monitor.cooldownUntilMs = cooled ∨ monitor.cooldownUntilMs = 0 ∧ cooled ≤ lastMs

theorem Timed.sample {since cooled lastMs} (timed : monitor.Timed since cooled lastMs)
    (still : monitor.Still env input) (later : lastMs ≤ input.nowMs) :
    (monitor.sample env input).1.Timed since cooled input.nowMs := by
  obtain ⟨width, cooldown⟩ :=
    (monitor.sample_outcome env input).timers_of_still still.1 still.2
  refine ⟨width.trans timed.width, ?_⟩
  rcases cooldown with same | ⟨passed, cleared⟩
  · rw [same]
    exact timed.cooldown.imp_right fun past => ⟨past.1, UInt64.le_trans past.2 later⟩
  · refine .inr ⟨cleared, ?_⟩
    rcases timed.cooldown with stands | past
    · rw [← stands]
      exact UInt64.not_lt.mp fun early => passed (.inl early)
    · exact UInt64.le_trans past.2 later

theorem Timed.gated_iff {since cooled lastMs} (timed : monitor.Timed since cooled lastMs)
    (later : lastMs ≤ input.nowMs) (began : since ≤ input.nowMs) :
    ¬ monitor.Gated env input ↔ cooled ≤ input.nowMs ∧
      since.toNat + (nonnegativeMs (env.cfg.effectiveMinDwellMs input.degraded)).toNat ≤
        input.nowMs.toNat := by
  have dwell : (monitor.observation env input).dwellMs = input.nowMs - since := by
    change (if monitor.widthSinceMs ≤ input.nowMs then _ else 0) = _
    rw [timed.width, if_pos began]
  rw [Gated, dwell, not_or, UInt64.not_lt, UInt64.not_lt]
  refine and_congr ?_ ?_
  · rcases timed.cooldown with stands | ⟨cleared, past⟩
    · rw [stands]
    · rw [cleared]
      exact iff_of_true (UInt64.le_iff_toNat_le.mpr (Nat.zero_le _)) (UInt64.le_trans past later)
  · rw [UInt64.le_iff_toNat_le, UInt64.toNat_sub_of_le _ _ began]
    have := UInt64.le_iff_toNat_le.mp began
    omega

end Monitor

section

variable {env : MonitorEnv} {trace : ℕ → Monitor} {inputs : ℕ → SampleInput} {length : ℕ}

theorem MonitorRun.timed (run : MonitorRun env trace inputs length)
    (monotone : ∀ first second, first ≤ second → second < length →
      (inputs first).nowMs ≤ (inputs second).nowMs)
    {earlier target}
    (moves : (trace earlier).Moves env (inputs earlier) target) :
    ∀ later, earlier ≤ later → later < length →
      (∀ sample, earlier < sample → sample ≤ later → (trace sample).Still env (inputs sample)) →
      (trace (later + 1)).Timed (inputs earlier).nowMs
        ((inputs earlier).nowMs +
          nonnegativeMs (Monitor.transitionCooldownMs env (inputs earlier) target))
        (inputs later).nowMs := by
  intro later after
  induction later, after using Nat.le_induction with
  | base =>
    intro lt _
    obtain ⟨_, mem, normal, succeeds, rfl⟩ := moves
    have next := (((trace earlier).sample_outcome env (inputs earlier)).next_eq_moved mem normal
      succeeds).2
    rw [run.samples earlier lt, next]
    exact ⟨rfl, .inl rfl⟩
  | succ later after ih =>
    intro lt still
    rw [run.samples (later + 1) lt]
    refine Monitor.Timed.sample ?_ (still _ (Nat.lt_succ_of_le after) le_rfl)
      (monotone _ _ (Nat.le_succ later) lt)
    exact ih (Nat.lt_of_succ_lt lt) fun sample above upto =>
      still sample above (Nat.le_succ_of_le upto)

/-- After a normal transition the gate is open exactly in the samples the minimum dwell and the
cooldown later, so the next one keeps that distance. -/
theorem normal_transitions_spaced (run : MonitorRun env trace inputs length)
    (monotone : ∀ first second, first ≤ second → second < length →
      (inputs first).nowMs ≤ (inputs second).nowMs)
    {earlier later : ℕ} (after : earlier < later) (below : later < length) {target : SimdWidth}
    (moves : (trace earlier).Moves env (inputs earlier) target)
    (fits : (inputs earlier).nowMs.toNat +
      (nonnegativeMs (Monitor.transitionCooldownMs env (inputs earlier) target)).toNat < 2 ^ 64)
    (still : ∀ sample, earlier < sample → sample < later →
      (trace sample).Still env (inputs sample)) :
    (¬ (trace later).Gated env (inputs later) ↔
      (inputs earlier).nowMs.toNat +
          (nonnegativeMs (Monitor.transitionCooldownMs env (inputs earlier) target)).toNat ≤
        (inputs later).nowMs.toNat ∧
      (inputs earlier).nowMs.toNat +
          (nonnegativeMs (env.cfg.effectiveMinDwellMs (inputs later).degraded)).toNat ≤
        (inputs later).nowMs.toNat) ∧
    ((∃ next, (trace later).Moves env (inputs later) next) →
      (inputs earlier).nowMs.toNat +
          (nonnegativeMs (Monitor.transitionCooldownMs env (inputs earlier) target)).toNat ≤
        (inputs later).nowMs.toNat ∧
      (inputs earlier).nowMs.toNat +
          (nonnegativeMs (env.cfg.effectiveMinDwellMs (inputs later).degraded)).toNat ≤
        (inputs later).nowMs.toNat) := by
  obtain ⟨before, rfl⟩ : ∃ before, later = before + 1 := ⟨later - 1, by omega⟩
  have timed := run.timed monotone moves before (Nat.le_of_lt_succ after) (Nat.lt_of_succ_lt below)
    fun sample above upto => still sample above (Nat.lt_succ_of_le upto)
  have opens := @Monitor.Timed.gated_iff env _ _ _ _ _ timed
    (monotone _ _ (Nat.le_succ before) below) (monotone _ _ after.le below)
  rw [UInt64.le_iff_toNat_le, UInt64.toNat_add, Nat.mod_eq_of_lt fits] at opens
  refine ⟨opens, ?_⟩
  rintro ⟨next, _, member, normal, succeeds, -⟩
  exact opens.mp
    (((trace (before + 1)).sample_outcome env _).next_eq_moved member normal succeeds).1

end

def recoveryAdvised (index : ℕ) : SampleInput :=
  (recoveryTrace index).advised defaultEnv (recoveryInputs index) quietPolicy

theorem normal_transitions_spaced_recovering :
    (recoveryTrace 4).monitor.Moves defaultEnv (recoveryAdvised 4) .avx2 ∧
      (recoveryTrace 8).monitor.Moves defaultEnv (recoveryAdvised 8) .sse41 ∧
      (recoveryAdvised 4).nowMs.toNat + 2000 ≤ (recoveryAdvised 8).nowMs.toNat := by
  have rises : (recoveryTrace 4).monitor.Moves defaultEnv (recoveryAdvised 4) .avx2 := by
    rw [Monitor.Moves]
    decide +kernel
  have falls : (recoveryTrace 8).monitor.Moves defaultEnv (recoveryAdvised 8) .sse41 := by
    rw [Monitor.Moves]
    decide +kernel
  have clock : ∀ second < 9, ∀ first < second + 1,
      (recoveryAdvised first).nowMs ≤ (recoveryAdvised second).nowMs := by
    decide +kernel
  have still : ∀ sample < 8, 4 < sample →
      (recoveryTrace sample).monitor.Still defaultEnv (recoveryAdvised sample) := by
    simp only [Monitor.Still, Monitor.Transitions]
    decide +kernel
  have fits : (recoveryAdvised 4).nowMs.toNat + (nonnegativeMs
      (Monitor.transitionCooldownMs defaultEnv (recoveryAdvised 4) .avx2)).toNat < 2 ^ 64 := by
    decide +kernel
  refine ⟨rises, falls, ?_⟩
  exact ((normal_transitions_spaced (recoveryTrace_run 9).monitorRun
    (fun first second le below => clock second below first (Nat.lt_succ_of_le le))
    (by decide) (by decide) rises fits fun sample above before => still sample before above).2
    ⟨_, falls⟩).1

end ThermalSimd
