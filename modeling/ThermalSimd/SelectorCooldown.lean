import ThermalSimd.SharedSelector

/-!
# Cooldown after a narrowing

The monitor's cooldown and stable count are its own variables, while other writers narrow the
selected width too. Where none of them does and no safety transition fails, every upgrade comes
after the cooldown (`cooldown_follows_narrowing`).
-/

namespace ThermalSimd

open Streak

variable {patch : Patch}

/-- The overlay only lengthens the cooldown, which stays an `int`. -/
theorem RuntimeConfig.effectiveCooldownDownMs_le {cfg : RuntimeConfig}
    (int : cfg.cooldownDownMs ≤ RuntimeConfig.intMax) (degraded) :
    cfg.effectiveCooldownDownMs false ≤ cfg.effectiveCooldownDownMs degraded ∧
      cfg.effectiveCooldownDownMs degraded ≤ RuntimeConfig.intMax := by
  unfold effectiveCooldownDownMs saturatedDoubleInt
  unfold RuntimeConfig.intMax at *
  cases degraded <;> simp <;> split_ifs <;> omega

theorem toNat_nonnegativeMs {v} (fits : v < 2 ^ 64) :
    (nonnegativeMs v).toNat = v.toNat := by
  unfold nonnegativeMs
  split
  · rw [UInt64.ofInt]
    simp
    omega
  · next nonpositive => exact (Int.toNat_of_nonpos (not_lt.mp nonpositive)).symm

theorem cooldownDown_le {cfg : RuntimeConfig} (int : cfg.cooldownDownMs ≤ RuntimeConfig.intMax)
    (degraded) :
    (nonnegativeMs (cfg.effectiveCooldownDownMs false)).toNat ≤
      (nonnegativeMs (cfg.effectiveCooldownDownMs degraded)).toNat := by
  obtain ⟨le, bound⟩ := RuntimeConfig.effectiveCooldownDownMs_le int degraded
  unfold RuntimeConfig.intMax at bound
  rw [toNat_nonnegativeMs (by omega), toNat_nonnegativeMs (by omega)]
  exact Int.toNat_le_toNat le

namespace Monitor

variable {env : MonitorEnv} {monitor : Monitor} {input : SampleInput}

variable {lastMs : UInt64} {next : Monitor}

/-- The cooldown lasts at least to `bound`, or `bound` has passed. -/
def Cooling (bound : ℕ) (lastMs : UInt64) (monitor : Monitor) : Prop :=
  bound ≤ monitor.cooldownUntilMs.toNat ∨ bound ≤ lastMs.toNat

theorem cooldownUntilMs_le (opened : ¬ monitor.Gated env input) :
    monitor.cooldownUntilMs.toNat ≤ input.nowMs.toNat := by
  have late := fun early => opened (.inl early)
  exact UInt64.le_iff_toNat_le.mp (UInt64.not_lt.mp late)

theorem Cooling.passed {bound} (cooling : monitor.Cooling bound lastMs)
    (later : lastMs ≤ input.nowMs) (opened : ¬ monitor.Gated env input) :
    bound ≤ input.nowMs.toNat :=
  cooling.elim (fun lasts => lasts.trans (cooldownUntilMs_le opened)) fun past =>
    past.trans (UInt64.le_iff_toNat_le.mp later)

theorem Cooling.kept {bound} (cooling : monitor.Cooling bound lastMs) (later : lastMs ≤ input.nowMs)
    (same : next.cooldownUntilMs = monitor.cooldownUntilMs) : next.Cooling bound input.nowMs := by
  refine cooling.imp (fun lasts => ?_) fun past => past.trans (UInt64.le_iff_toNat_le.mp later)
  rwa [same]

def cooledMs (env : MonitorEnv) (input : SampleInput) : ℕ :=
  input.nowMs.toNat + (nonnegativeMs (env.cfg.effectiveCooldownDownMs input.degraded)).toNat

theorem toNat_cooldown (fits : cooledMs env input < 2 ^ 64) :
    (input.nowMs + nonnegativeMs (env.cfg.effectiveCooldownDownMs input.degraded)).toNat =
      cooledMs env input := by
  exact Nat.mod_eq_of_lt fits

theorem Outcome.cooling {taken requests} (out : monitor.Outcome env input taken next requests)
    {bound} (cooling : monitor.Cooling bound lastMs) (later : lastMs ≤ input.nowMs)
    (patches : input.safetyPatch = true) (lasts : bound ≤ cooledMs env input)
    (fits : cooledMs env input < 2 ^ 64) : next.Cooling bound input.nowMs := by
  cases out with
  | settled | forced => exact .inl (lasts.trans_eq (toNat_cooldown fits).symm)
  | refused _ _ fails => cases fails.symm.trans patches
  | unmeasured | gated => exact cooling.kept later rfl
  | predictive optimises | counted optimises => exact .inr (cooling.passed later optimises.2.2)

theorem Outcome.cooldown_of_narrowing {taken requests}
    (out : monitor.Outcome env input taken next requests) (mem : patch ∈ requests)
    (succeeds : patch.succeeds = true)
    (narrows : patch.kind ≠ .safety → patch.target < input.width) :
    next.cooldownUntilMs =
      input.nowMs + nonnegativeMs (env.cfg.effectiveCooldownDownMs input.degraded) := by
  by_cases normal : patch.kind = .safety
  · cases out with
    | settled | unmeasured | gated => cases mem
    | forced => rfl
    | refused =>
      obtain rfl := List.mem_singleton.mp mem
      cases succeeds
    | predictive =>
      obtain rfl := List.mem_singleton.mp mem
      cases normal
    | counted _ ends =>
      rcases List.mem_append.mp mem with failed | mem
      · rw [(mem_failedPrediction failed).1] at normal
        cases normal
      · cases normal.symm.trans (ends.request mem).1
  · rw [(out.next_eq_moved mem normal succeeds).2, transitionCooldownMs,
      if_pos (narrows normal)]
    rfl

end Monitor

/-- Who writes the selected width. -/
inductive Writer
  | monitor | other
  deriving DecidableEq

section

variable (env : MonitorEnv) (state : Contended) (input : SampleInput) (policy : PolicyInput)
  (others : Interference) (index : ℕ)

/-- Who narrows the width in an iteration, when, and the first sample after it. -/
inductive Contended.Narrows : Writer → UInt64 → ℕ → Prop
  | start {time} (publishes : others.start = some time) (wide : .sse41 < state.selected) :
      Narrows .other time index
  | width {time} (publishes : others.width = some time) (wide : .sse41 < state.startWidth others) :
      Narrows .other time (index + 1)
  | safety {time}
      (called : state.governed.monitor.SafetyCalled env (state.advised env input policy others))
      (publishes : others.safety = some time) (wide : .sse41 < state.width others) :
      Narrows .other time (index + 1)
  | patch {time selected patch} (member : (selected, patch) ∈ state.trail env input policy others)
      (publishes : others.patch patch.kind = some time) (wide : .sse41 < selected) :
      Narrows .other time (index + 1)
  | monitor {selected patch} (member : (selected, patch) ∈ state.trail env input policy others)
      (succeeds : patch.succeeds = true) (narrower : patch.target < others.before selected patch) :
      Narrows .monitor input.nowMs (index + 1)

end

/-- A narrowing in sample `index` comes before the transition of sample `rise`. -/
def Precedes (index : ℕ) (writer : Writer) (rise : ℕ) : Prop :=
  index < rise ∨ index = rise ∧ writer = .other

section

variable (env : MonitorEnv) (trace : ℕ → Contended) (inputs : ℕ → SampleInput)
  (policies : ℕ → PolicyInput) (others : ℕ → Interference)

def monitorAt (index : ℕ) : Monitor := (trace index).governed.monitor

def advisedAt (index : ℕ) : SampleInput :=
  (trace index).advised env (inputs index) (policies index) (others index)

/-- Sample `index` changes the selected width to a narrower one. -/
def NarrowsAt (index : ℕ) (writer : Writer) (time : UInt64) (next : ℕ) : Prop :=
  (trace index).Narrows env (inputs index) (policies index) (others index) index writer time next

/-- The upgrade of sample `rise` respects the cooldown, on stable samples from `next` on. -/
def Cooled (time : UInt64) (next rise : ℕ) : Prop :=
  time.toNat + (nonnegativeMs (env.cfg.effectiveCooldownDownMs (inputs rise).degraded)).toNat ≤
      (inputs rise).nowMs.toNat ∧
    ((monitorAt trace rise).HysteresisUpgrades env
      (advisedAt env trace inputs policies others rise) →
      ∃ first, next ≤ first ∧ first ≤ rise ∧
        env.cfg.effectiveUpCount (inputs rise).degraded ≤
          hits (CountedAt env (monitorAt trace) (advisedAt env trace inputs policies others)) first
            (rise + 1) ∧
        ∀ sample, first ≤ sample → sample ≤ rise →
          CountedAt env (monitorAt trace) (advisedAt env trace inputs policies others) sample →
            ¬ ThrottledAt env (monitorAt trace) (advisedAt env trace inputs policies others) sample)

variable {env trace inputs policies others} {length : ℕ}

section

variable (run : ContendedRun env trace inputs policies others length)
include run

theorem ContendedRun.sample_monitor
    {index} (lt : index < length) :
    monitorAt trace (index + 1) = ((monitorAt trace index).sample env
      (advisedAt env trace inputs policies others index)).1 := by
  rw [monitorAt, run.samples index lt]
  rfl

theorem ContendedRun.cooling_start
    {index} (lt : index < length) {selected}
    (mem : (selected, patch) ∈
      (trace index).trail env (inputs index) (policies index) (others index))
    (succeeds : patch.succeeds = true)
    (narrower : patch.target < (others index).before selected patch) :
    (monitorAt trace (index + 1)).cooldownUntilMs = (inputs index).nowMs +
      nonnegativeMs (env.cfg.effectiveCooldownDownMs (inputs index).degraded) := by
  rw [run.sample_monitor lt]
  have requested := Contended.mem_requests_of_trail mem
  refine ((monitorAt trace index).sample_outcome env _).cooldown_of_narrowing requested succeeds
    fun normal => ?_
  rcases Contended.before_of_trail mem with ⟨-, before⟩ | ⟨-, before⟩
  · rw [before] at narrower
    exact absurd narrower (SimdWidth.sse41_le _).not_gt
  · rwa [before, Contended.actsOn_of_normal requested normal] at narrower

theorem ContendedRun.cooling
    (monotone : ∀ first second, first ≤ second → second < length →
      (inputs first).nowMs ≤ (inputs second).nowMs)
    (fits : ∀ index < length, Monitor.cooledMs env (inputs index) < 2 ^ 64)
    {start bound} (lasts : ∀ index, start ≤ index → index < length →
      bound ≤ Monitor.cooledMs env (inputs index))
    (cooling : (monitorAt trace (start + 1)).Cooling bound (inputs start).nowMs) :
    ∀ later, start ≤ later → later < length →
      (∀ sample ≤ later, (inputs sample).safetyPatch = true) →
      (monitorAt trace (later + 1)).Cooling bound (inputs later).nowMs := by
  intro later after
  induction later, after using Nat.le_induction with
  | base => exact fun _ _ => cooling
  | succ later after hypothesis =>
    intro below patches
    rw [run.sample_monitor below]
    have before := hypothesis (Nat.lt_of_succ_lt below) fun sample upto =>
      patches sample (Nat.le_succ_of_le upto)
    exact ((monitorAt trace (later + 1)).sample_outcome env _).cooling before
      (monotone _ _ (Nat.le_succ later) below) (patches _ le_rfl)
      (lasts _ (Nat.le_succ_of_le after) below) (fits _ below)

end

theorem Contended.Rises.opened {state : Contended} {input policy other}
    (rises : state.Rises env input policy other) :
    ¬ state.governed.monitor.Gated env (state.advised env input policy other) ∧
      (state.governed.monitor.observed env
        (state.advised env input policy other)).perf.UpgradesAllowed := by
  obtain ⟨patch, mem, succeeds, above⟩ := rises
  have out := state.governed.monitor.sample_outcome env (state.advised env input policy other)
  have normal : patch.kind ≠ .safety := by
    intro safety
    rcases out.request mem with ⟨-, target⟩ | ⟨kind, -⟩ | ⟨-, kind, -⟩
    · rw [target] at above
      exact (SimdWidth.sse41_le _).not_gt above
    · cases safety.symm.trans kind
    · cases safety.symm.trans kind
  refine ⟨(out.next_eq_moved mem normal succeeds).1, ?_⟩
  exact (Monitor.upgradeLegal mem (fun target => Governed.le_of_recommendation) above).perf

theorem ContendedRun.stable_after (run : ContendedRun env trace inputs policies others length)
    {index rise} (after : index < rise) (lt : rise < length)
    (mem : patch ∈ (trace index).requests env (inputs index) (policies index) (others index))
    (succeeds : patch.succeeds = true)
    (asks : (monitorAt trace rise).HysteresisUpgrades env
      (advisedAt env trace inputs policies others rise)) :
    ∃ first, index + 1 ≤ first ∧ first ≤ rise ∧
      env.cfg.effectiveUpCount (inputs rise).degraded ≤
        hits (CountedAt env (monitorAt trace) (advisedAt env trace inputs policies others)) first
          (rise + 1) ∧
      ∀ sample, first ≤ sample → sample ≤ rise →
        CountedAt env (monitorAt trace) (advisedAt env trace inputs policies others) sample →
          ¬ ThrottledAt env (monitorAt trace)
            (advisedAt env trace inputs policies others) sample := by
  have monitorRun := run.governedRun.monitorRun
  obtain ⟨first, le, count, calm, still⟩ := monitorRun.stable_before lt asks
  refine ⟨first, ?_, le, count, fun sample above upto => (calm sample above upto).2⟩
  by_contra early
  exact (still index (Nat.le_of_lt_succ (not_le.mp early)) after).1 ⟨patch, mem, succeeds⟩

/-- Where only the monitor narrows the width and no safety transition fails, its upgrades keep the
cooldown after every narrowing, with all stable samples after it. -/
theorem cooldown_follows_narrowing
    (run : ContendedRun env trace inputs policies others length)
    (monotone : ∀ first second, first ≤ second → second < length →
      (inputs first).nowMs ≤ (inputs second).nowMs)
    (int : env.cfg.cooldownDownMs ≤ RuntimeConfig.intMax)
    (fits : ∀ index < length, Monitor.cooledMs env (inputs index) < 2 ^ 64)
    (overlay : ∀ index < length,
      ((monitorAt trace index).observed env
        (advisedAt env trace inputs policies others index)).perf.UpgradesAllowed →
      (inputs index).degraded = false)
    {rise : ℕ} (below : rise < length)
    (rises : (trace rise).Rises env (inputs rise) (policies rise) (others rise))
    (alone : ∀ index ≤ rise, ∀ time next,
      ¬ NarrowsAt env trace inputs policies others index .other time next)
    (patches : ∀ sample < rise, (inputs sample).safetyPatch = true) :
    ∀ index writer time next,
      NarrowsAt env trace inputs policies others index writer time next →
      Precedes index writer rise → Cooled env trace inputs policies others time next rise := by
  intro index writer time next narrows precedes
  have upto : index ≤ rise := precedes.elim Nat.le_of_lt fun same => same.1.le
  have own : writer ≠ .other := by
    rintro rfl
    exact alone index upto time next narrows
  cases narrows with
  | start | width | safety | patch => exact absurd rfl own
  | @monitor selected patch member succeeds narrower =>
    have after : index < rise := precedes.resolve_right fun same => own same.2
    obtain ⟨opened, upgrades⟩ := rises.opened
    have plain : (inputs rise).degraded = false := overlay rise below upgrades
    refine ⟨?_, run.stable_after after below (Contended.mem_requests_of_trail member) succeeds⟩
    -- The bound counts from the narrowing with the cooldown of the upgrade, the shortest of all.
    have lasts : ∀ sample, index ≤ sample → sample < length → (inputs index).nowMs.toNat +
        (nonnegativeMs (env.cfg.effectiveCooldownDownMs (inputs rise).degraded)).toNat ≤
          Monitor.cooledMs env (inputs sample) := by
      intro sample above under
      rw [plain]
      exact Nat.add_le_add (UInt64.le_iff_toNat_le.mp (monotone _ _ above under))
        (cooldownDown_le int _)
    obtain ⟨last, rfl⟩ : ∃ last, rise = last + 1 := ⟨rise - 1, by omega⟩
    have started : (monitorAt trace (index + 1)).Cooling ((inputs index).nowMs.toNat +
        (nonnegativeMs (env.cfg.effectiveCooldownDownMs (inputs (last + 1)).degraded)).toNat)
        (inputs index).nowMs := by
      refine .inl ((lasts index le_rfl (after.trans below)).trans ?_)
      rw [run.cooling_start (after.trans below) member succeeds narrower]
      exact (Monitor.toNat_cooldown (fits index (after.trans below))).ge
    have cooling := run.cooling monotone fits lasts started last (Nat.le_of_lt_succ after)
      (Nat.lt_of_succ_lt below) fun sample upto => patches sample (Nat.lt_succ_of_le upto)
    exact cooling.passed (monotone _ _ (Nat.le_succ last) below) opened

end

private def gatingOthers (index : ℕ) : Interference :=
  if index = 6 then { Interference.quiet with start := some 7900 } else .quiet

private def gatedTrace : ℕ → Contended :=
  .follow defaultEnv validatedStart .avx2 steadyInputs (fun _ => quietPolicy) gatingOthers

/-- The monitor upgrades a tenth of a second after the temperature gate has narrowed the width, on
stable samples counted before but for one. -/
theorem upgrade_soon_after_narrowing :
    ∃ env trace inputs policies others, ContendedRun env trace inputs policies others 7 ∧
      (trace 6).Rises env (inputs 6) (policies 6) (others 6) ∧
      NarrowsAt env trace inputs policies others 6 .other 7900 6 ∧
      ¬ Cooled env trace inputs policies others 7900 6 6 := by
  refine ⟨defaultEnv, gatedTrace, steadyInputs, fun _ => quietPolicy, gatingOthers,
    Contended.follow_run _ _ _ _ _ _ 7, ?_, .start rfl (by decide +kernel), fun cooled => ?_⟩
  · rw [Contended.Rises]
    decide +kernel
  · exact absurd cooled.1 (by decide +kernel)

def returningInputs (index : ℕ) : SampleInput :=
  { workSample index .sse41 (500 * (index + 2) + 1000 * min (index - 5) 3) with
    safetyPatch := true }

def returningTrace : ℕ → Contended :=
  .follow defaultEnv validatedStart .sse41 returningInputs (fun _ => quietPolicy) fun _ => .quiet

theorem cooldown_follows_narrowing_returning :
    (returningTrace 13).Rises defaultEnv (returningInputs 13) quietPolicy .quiet ∧
      NarrowsAt defaultEnv returningTrace returningInputs (fun _ => quietPolicy) (fun _ => .quiet)
        8 .monitor (returningInputs 8).nowMs 9 ∧
      Cooled defaultEnv returningTrace returningInputs (fun _ => quietPolicy) (fun _ => .quiet)
        (returningInputs 8).nowMs 9 13 := by
  have rises : (returningTrace 13).Rises defaultEnv (returningInputs 13) quietPolicy .quiet := by
    rw [Contended.Rises]
    decide +kernel
  have narrows : NarrowsAt defaultEnv returningTrace returningInputs (fun _ => quietPolicy)
      (fun _ => .quiet) 8 .monitor (returningInputs 8).nowMs 9 := by
    have member : (SimdWidth.avx2, ⟨.hysteresis, .sse41, true⟩) ∈
        (returningTrace 8).trail defaultEnv (returningInputs 8) quietPolicy .quiet := by
      decide +kernel
    exact .monitor member rfl (by decide)
  have clock : ∀ second < 14, ∀ first < second + 1,
      (returningInputs first).nowMs ≤ (returningInputs second).nowMs := by
    decide +kernel
  have fits : ∀ index < 14, Monitor.cooledMs defaultEnv (returningInputs index) < 2 ^ 64 := by
    decide +kernel
  refine ⟨rises, narrows, cooldown_follows_narrowing (Contended.follow_run _ _ _ _ _ _ 14)
    (fun first second le below => clock second below first (Nat.lt_succ_of_le le)) (by decide) fits
    (fun _ _ _ => rfl) (by decide) rises (fun index _ time next narrows => ?_) (fun _ _ => rfl) 8
    .monitor _ 9 narrows (.inl (by decide))⟩
  cases narrows with
  | start publishes | width publishes | safety called publishes | patch member publishes =>
    cases publishes

end ThermalSimd
