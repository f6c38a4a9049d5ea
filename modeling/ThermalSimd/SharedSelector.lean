import ThermalSimd.Hysteresis

/-!
# The monitor and the other writers of the selector

The monitor reads the selected width, decides, and asks for a width some time later; meanwhile perf
mode loss, the temperature gate and the shim's repair may publish SSE4.1.
-/

namespace ThermalSimd

variable {patch : Patch}

/-- When other writers publish SSE4.1 during an iteration: before each read of the selected width,
and before a request of each kind. -/
structure Interference where
  start : Option UInt64
  width : Option UInt64
  /-- Before the read of `force_sse_safety`. -/
  safety : Option UInt64
  /-- Before `tsd_trampoline_patch`. -/
  patch : TransitionKind → Option UInt64

variable (index : ℕ) (selected : SimdWidth)

def published (publication : Option UInt64) : SimdWidth :=
  if publication.isSome then .sse41 else selected

@[simp]
theorem published_none : published selected none = selected := rfl

@[simp]
theorem published_some (time) : published selected (some time) = .sse41 := rfl

theorem published_cases (publication) :
    publication.isSome = true ∧ published selected publication = .sse41 ∨
      ¬ publication.isSome = true ∧ published selected publication = selected := by
  cases publication <;> simp

namespace Interference

variable (others : Interference)

def quiet : Interference := ⟨none, none, none, fun _ => none⟩

def before (selected : SimdWidth) (patch : Patch) : SimdWidth :=
  published selected (others.patch patch.kind)

def after (selected : SimdWidth) (patch : Patch) : SimdWidth :=
  if patch.succeeds then patch.target else others.before selected patch

def trail : SimdWidth → List Patch → List (SimdWidth × Patch)
  | _, [] => []
  | selected, patch :: rest => (selected, patch) :: trail (others.after selected patch) rest

def Disturbs (requests : List Patch) (kind : TransitionKind) : Prop :=
  (others.patch kind).isSome = true ∨
    kind = .hysteresis ∧ (∃ patch ∈ requests, patch.kind = .predictive) ∧
      (others.patch .predictive).isSome = true

variable {others}

theorem before_cases {requests} (selected)
    (alone : patch.kind = .hysteresis → ∀ other ∈ requests, other.kind ≠ .predictive) :
    (others.Disturbs requests patch.kind ∧ others.before selected patch = .sse41) ∨
      ¬ others.Disturbs requests patch.kind ∧ others.before selected patch = selected := by
  rcases published_cases selected (others.patch patch.kind) with ⟨writes, narrow⟩ | ⟨silent, same⟩
  · exact .inl ⟨.inl writes, narrow⟩
  · refine .inr ⟨?_, same⟩
    rintro (writes | ⟨kind, ⟨other, mem, predictive⟩, _⟩)
    · exact silent writes
    · exact alone kind other mem predictive

theorem before_after_cases (base) {failed last} (predictive : failed.kind = .predictive)
    (fails : failed.succeeds = false) (hysteresis : last.kind = .hysteresis) :
    (others.Disturbs [failed, last] last.kind ∧
        others.before (others.after base failed) last = .sse41) ∨
      ¬ others.Disturbs [failed, last] last.kind ∧
        others.before (others.after base failed) last = base := by
  have left : others.after base failed = published base (others.patch .predictive) := by
    rw [after, fails, before, predictive]
    rfl
  rw [left, before, hysteresis]
  have first : ∃ patch ∈ [failed, last], patch.kind = .predictive :=
    ⟨failed, List.mem_cons_self, predictive⟩
  rcases published_cases base (others.patch .predictive) with ⟨writes, narrow⟩ | ⟨silent, same⟩
  · refine .inl ⟨.inr ⟨rfl, first, writes⟩, ?_⟩
    rw [narrow]
    rcases published_cases .sse41 (others.patch .hysteresis) with ⟨_, narrow⟩ | ⟨_, narrow⟩ <;>
      exact narrow
  · rw [same]
    rcases published_cases base (others.patch .hysteresis) with ⟨writes, narrow⟩ | ⟨quiet, same⟩
    · exact .inl ⟨.inl writes, narrow⟩
    · exact .inr ⟨fun disturbs => disturbs.elim quiet fun early => silent early.2.2, same⟩

end Interference

/-- The monitor, its policy and the selected width. -/
structure Contended where
  governed : Governed
  selected : SimdWidth

namespace Contended

variable (env : MonitorEnv) (state : Contended) (input : SampleInput) (policy : PolicyInput)
  (others : Interference)

def startWidth : SimdWidth := published state.selected others.start

def width : SimdWidth := published (state.startWidth others) others.width

/-- The selected width `force_sse_safety` finds. -/
def safetyWidth : SimdWidth := published (state.width others) others.safety

def reads : SampleInput :=
  { input with
    startWidth := state.startWidth others
    width := state.width others
    safetyWidth := state.safetyWidth others }

def advised : SampleInput := state.governed.advised env (state.reads input others) policy

def requests : List Patch :=
  state.governed.monitor.requested env (state.advised env input policy others)

def actsOn : SimdWidth :=
  if state.governed.monitor.SafetyCalled env (state.advised env input policy others) then
    state.safetyWidth others
  else state.width others

def trail : List (SimdWidth × Patch) :=
  others.trail (state.actsOn env input policy others) (state.requests env input policy others)

def sample : Contended where
  governed := state.governed.sample env (state.reads input others) policy
  selected := (state.requests env input policy others).foldl others.after
    (state.actsOn env input policy others)

end Contended

/-- Iterations with other writers beside them. -/
structure ContendedRun (env : MonitorEnv) (trace : ℕ → Contended) (inputs : ℕ → SampleInput)
    (policies : ℕ → PolicyInput) (others : ℕ → Interference) (length : ℕ) : Prop where
  start : ∃ input limits, (trace 0).governed = ⟨.start env input, .create limits⟩
  samples : ∀ index < length, trace (index + 1) =
    (trace index).sample env (inputs index) (policies index) (others index)

theorem ContendedRun.governedRun {env trace inputs policies others length}
    (run : ContendedRun env trace inputs policies others length) :
    GovernedRun env (fun index => (trace index).governed)
      (fun index => (trace index).reads (inputs index) (others index)) policies length where
  start := run.start
  samples := fun index lt => by
    rw [run.samples index lt]
    rfl

namespace Monitor

variable {env : MonitorEnv} {monitor : Monitor} {input : SampleInput}

variable {next : Monitor}

theorem HysteresisOutcome.requests_cases {requests}
    (ends : monitor.HysteresisOutcome env input next requests) :
    requests = [] ∨ ∃ patch, requests = [patch] ∧ patch.kind = .hysteresis := by
  cases ends with
  | throttled | stable | blocked => exact .inl rfl
  | downgraded | downgradeFailed | upgraded | upgradeFailed => exact .inr ⟨_, rfl, rfl⟩

theorem failedPrediction_cases :
    monitor.failedPrediction env input = [] ∨
      ∃ patch, monitor.failedPrediction env input = [patch] ∧
        patch.kind = .predictive ∧ patch.succeeds = false := by
  unfold failedPrediction
  split
  · exact .inl rfl
  · exact .inr ⟨_, rfl, rfl, rfl⟩

theorem Outcome.requests_cases {taken requests}
    (out : monitor.Outcome env input taken next requests) :
    requests = [] ∨ (∃ patch, requests = [patch]) ∨
      ∃ failed patch, requests = [failed, patch] ∧ failed.kind = .predictive ∧
        failed.succeeds = false ∧ patch.kind = .hysteresis := by
  cases out with
  | settled | unmeasured | gated => exact .inl rfl
  | forced | refused | predictive => exact .inr (.inl ⟨_, rfl⟩)
  | counted _ ends =>
    rcases @failedPrediction_cases env monitor input with absent | ⟨failed, one, kind, fails⟩ <;>
      rcases ends.requests_cases with rfl | ⟨patch, rfl, hysteresis⟩
    · exact .inl (by rw [absent, List.append_nil])
    · exact .inr (.inl ⟨patch, by rw [absent, List.nil_append]⟩)
    · exact .inr (.inl ⟨failed, by rw [one, List.append_nil]⟩)
    · exact .inr (.inr ⟨failed, patch, by rw [one]; rfl, kind, fails, hysteresis⟩)

/-- An iteration that calls `force_sse_safety` makes only safety requests. -/
theorem Outcome.kind_of_called {taken requests}
    (out : monitor.Outcome env input taken next requests)
    (called : monitor.SafetyCalled env input) (mem : patch ∈ requests) : patch.kind = .safety := by
  cases out with
  | settled => cases mem
  | forced | refused =>
    obtain rfl := List.mem_singleton.mp mem
    rfl
  | unmeasured uncalled | gated uncalled => exact absurd called uncalled
  | predictive optimises | counted optimises => exact absurd called optimises.1

end Monitor

namespace Contended

variable {env : MonitorEnv} {state : Contended} {input : SampleInput} {policy : PolicyInput}
  {others : Interference}

theorem mem_requests_of_trail {selected}
    (mem : (selected, patch) ∈ state.trail env input policy others) :
    patch ∈ state.requests env input policy others := by
  unfold trail at mem
  generalize state.actsOn env input policy others = base at mem
  generalize state.requests env input policy others = requests at mem ⊢
  induction requests generalizing base with
  | nil => cases mem
  | cons _ _ ih =>
    rcases List.mem_cons.mp mem with same | mem
    · cases same
      exact List.mem_cons_self
    · exact List.mem_cons_of_mem _ (ih _ mem)

theorem requests_cases : state.requests env input policy others = [] ∨
    (∃ patch, state.requests env input policy others = [patch]) ∨
      ∃ failed patch, state.requests env input policy others = [failed, patch] ∧
        failed.kind = .predictive ∧ failed.succeeds = false ∧ patch.kind = .hysteresis :=
  (state.governed.monitor.sample_outcome env (state.advised env input policy others)).requests_cases

theorem before_of_trail {selected} (mem : (selected, patch) ∈ state.trail env input policy others) :
    (others.Disturbs (state.requests env input policy others) patch.kind ∧
        others.before selected patch = .sse41) ∨
      ¬ others.Disturbs (state.requests env input policy others) patch.kind ∧
        others.before selected patch = state.actsOn env input policy others := by
  unfold trail at mem
  have shape := @requests_cases env state input policy others
  generalize state.actsOn env input policy others = base at mem ⊢
  generalize state.requests env input policy others = requests at mem shape ⊢
  rcases shape with rfl | ⟨only, rfl⟩ | ⟨failed, last, rfl, predictive, fails, hysteresis⟩
  · cases mem
  · obtain ⟨rfl, rfl⟩ := Prod.mk.inj (List.mem_singleton.mp mem)
    refine Interference.before_cases selected fun kind other mem predictive => ?_
    rw [List.mem_singleton.mp mem, kind] at predictive
    cases predictive
  · rcases List.mem_cons.mp mem with first | second
    · obtain ⟨rfl, rfl⟩ := Prod.mk.inj first
      refine Interference.before_cases selected fun kind => ?_
      cases kind.symm.trans predictive
    · obtain ⟨rfl, rfl⟩ := Prod.mk.inj (List.mem_singleton.mp second)
      exact Interference.before_after_cases base predictive fails hysteresis

end Contended

theorem Contended.actsOn_of_normal {env} {state : Contended} {input policy others}
    (mem : patch ∈ state.requests env input policy others) (normal : patch.kind ≠ .safety) :
    state.actsOn env input policy others = state.width others := by
  refine if_neg fun called => normal ?_
  exact (state.governed.monitor.sample_outcome env _).kind_of_called called mem

/-- A successful request for less than the width read does not widen the selected width, exactly if
it asks for SSE4.1 or no other writer has published since. -/
theorem downgrade_never_widens_iff {env : MonitorEnv} {state : Contended} {input : SampleInput}
    {policy : PolicyInput} {others : Interference} {selected : SimdWidth} {patch : Patch}
    (member : (selected, patch) ∈ state.trail env input policy others)
    (normal : patch.kind ≠ .safety) (succeeds : patch.succeeds = true)
    (narrower : patch.target < state.width others) :
    others.after selected patch ≤ others.before selected patch ↔
      patch.target = .sse41 ∨
        ¬ others.Disturbs (state.requests env input policy others) patch.kind := by
  have after : others.after selected patch = patch.target := if_pos succeeds
  rw [after]
  rcases Contended.before_of_trail member with ⟨disturbs, before⟩ | ⟨undisturbed, before⟩
  · rw [before, or_iff_left (not_not.mpr disturbs)]
    exact ⟨fun le => le_antisymm le (SimdWidth.sse41_le _), le_of_eq⟩
  · rw [before, Contended.actsOn_of_normal (Contended.mem_requests_of_trail member) normal]
    exact iff_of_true narrower.le (.inr undisturbed)

def Contended.follow (env : MonitorEnv) (start : MonitorStart) (selected : SimdWidth)
    (inputs : ℕ → SampleInput) (policies : ℕ → PolicyInput) (others : ℕ → Interference) :
    ℕ → Contended
  | 0 => ⟨⟨.start env start, .create quietPolicy.limits⟩, selected⟩
  | index + 1 =>
    (follow env start selected inputs policies others index).sample env (inputs index)
      (policies index) (others index)

theorem Contended.follow_run (env start selected inputs policies others length) :
    ContendedRun env (follow env start selected inputs policies others) inputs policies others
      length :=
  ⟨⟨start, quietPolicy.limits, rfl⟩, fun _ _ => rfl⟩

def avx512Env : MonitorEnv := ⟨.setDefaults, .avx512, true⟩

def slowingInputs : SampleInput :=
  workSample index .avx512 (500 * (index + 2) + 1000 * (index - 2))

/-- At sample 5 the temperature gate publishes just before the monitor's downgrade. -/
def racingOthers : Interference :=
  if index = 5 then
    { Interference.quiet with patch := fun kind => if kind = .hysteresis then some 7000 else none }
  else .quiet

def slowingTrace (others : ℕ → Interference) : ℕ → Contended :=
  .follow avx512Env validatedStart .avx512 slowingInputs (fun _ => quietPolicy) others

theorem downgrade_never_widens_iff_alone :
    let others := fun _ => Interference.quiet
    (SimdWidth.avx512, ⟨.hysteresis, .avx2, true⟩) ∈
        (slowingTrace others 5).trail avx512Env (slowingInputs 5) quietPolicy (others 5) ∧
      (others 5).after .avx512 ⟨.hysteresis, .avx2, true⟩ ≤
        (others 5).before .avx512 ⟨.hysteresis, .avx2, true⟩ := by
  intro others
  have member : (SimdWidth.avx512, ⟨.hysteresis, .avx2, true⟩) ∈
      (slowingTrace others 5).trail avx512Env (slowingInputs 5) quietPolicy (others 5) := by
    decide +kernel
  refine ⟨member, (downgrade_never_widens_iff member (by decide) rfl (by decide +kernel)).mpr
    (.inr ?_)⟩
  rintro (read | ⟨-, -, read⟩) <;> cases read

/-- The monitor reads AVX-512, the gate publishes SSE4.1, and the downgrade widens it. -/
theorem downgrade_widens :
    ∃ env trace inputs policies others, ContendedRun env trace inputs policies others 6 ∧
      ∃ selected patch,
        (selected, patch) ∈ (trace 5).trail env (inputs 5) (policies 5) (others 5) ∧
          patch.kind = .hysteresis ∧ patch.succeeds = true ∧
          patch.target < (trace 5).width (others 5) ∧
          (others 5).before selected patch < (others 5).after selected patch := by
  refine ⟨avx512Env, slowingTrace racingOthers, slowingInputs, fun _ => quietPolicy, racingOthers,
    Contended.follow_run _ _ _ _ _ _ 6, .avx512, ⟨.hysteresis, .avx2, true⟩, ?_⟩
  decide +kernel

theorem PolicyState.fallback_handle {state : PolicyState} (input) {event}
    (fallback : state.fallbackActive = true) (kept : event ≠ .policyReset) :
    (state.handle input event).fallbackActive = true := by
  cases event with
  | policyReload =>
    rw [handle, reload]
    split
    · rfl
    · exact fallback
  | policyRecord _ width =>
    rw [handle, record]
    split
    · rfl
    · exact fallback
  | policyReset => exact absurd rfl kept
  | policyFallback => rfl
  | heartbeat width | forced reason | dwelt width dwellMs | patched kind target succeeds =>
    exact fallback

theorem PolicyState.fallback_foldl (input) {events : List MonitorEvent}
    (kept : .policyReset ∉ events) {state : PolicyState} (fallback : state.fallbackActive = true) :
    (events.foldl (fun state event => state.handle input event) state).fallbackActive = true := by
  induction events generalizing state with
  | nil => exact fallback
  | cons event events ih =>
    obtain ⟨other, rest⟩ := not_or.mp fun either => kept (List.mem_cons.mpr either)
    exact ih rest (fallback_handle input fallback (Ne.symm other))

namespace Governed

variable {env : MonitorEnv} {governed : Governed} {input : SampleInput} {policy : PolicyInput}

section

variable (fallback : governed.policy.fallbackActive = true)
include fallback

theorem fallback_informed :
    (governed.informed env input policy).fallbackActive = true := by
  refine PolicyState.fallback_foldl policy ?_ fallback
  unfold Monitor.policyEvents
  split_ifs <;> simp

theorem consulted_of_fallback
    (present : env.policy = true) (optimises : governed.monitor.Optimises env input) :
    (governed.consulted env input policy).2 = PolicyState.failClosedTarget input.width := by
  rw [consulted, if_pos ⟨present, optimises⟩,
    PolicyState.recommend_of_fallback (fallback_informed fallback)]

theorem fallback_sample
    (kept : .policyReset ∉ (governed.monitor.sample env (governed.advised env input policy)).2) :
    (governed.sample env input policy).policy.fallbackActive = true := by
  refine PolicyState.fallback_foldl policy (fun mem => kept ?_) ?_
  · exact List.mem_append_right _ mem
  · unfold consulted
    split
    · rw [PolicyState.recommend_of_fallback (fallback_informed fallback)]
      exact fallback_informed fallback
    · exact fallback_informed fallback

theorem target_of_fallback
    (present : env.policy = true) (optimises : governed.monitor.Optimises env input)
    (wide : .sse41 < input.width) :
    governed.monitor.target env (governed.advised env input policy) = .sse41 := by
  have told : (governed.advised env input policy).recommendation = some .sse41 := by
    rw [advised, consulted_of_fallback fallback present optimises, PolicyState.failClosedTarget,
      if_pos wide]
  have width : (governed.advised env input policy).width = input.width := rfl
  rw [Monitor.target, Monitor.predictiveTarget, present, told, width]
  dsimp only
  rw [if_neg wide.ne, if_neg fun rises => wide.not_gt rises.1, if_neg fun off => off.2 rfl]

end

end Governed

theorem Monitor.policyReset_mem {env} {monitor : Monitor} {input} (present : env.policy = true)
    (called : monitor.SafetyCalled env input) (wide : input.safetyWidth ≠ .sse41)
    (succeeds : input.safetyPatch = true) : .policyReset ∈ (monitor.sample env input).2 := by
  apply List.mem_append_right
  change _ ∈ ((monitor.observed env input).act env input (monitor.observation env input)).2
  rw [act_eq, if_pos called]
  apply List.mem_cons_of_mem
  rw [forceSseSafety, if_neg wide, if_pos succeeds, if_pos present]
  exact List.mem_append_right _ List.mem_cons_self

namespace Contended

variable {env : MonitorEnv} {state : Contended} {input : SampleInput} {policy : PolicyInput}
  {others : Interference}

def Rises (env : MonitorEnv) (state : Contended) (input : SampleInput) (policy : PolicyInput)
    (others : Interference) : Prop :=
  ∃ patch ∈ state.requests env input policy others,
    patch.succeeds = true ∧ state.width others < patch.target

def Falls (env : MonitorEnv) (state : Contended) (input : SampleInput) (policy : PolicyInput)
    (others : Interference) : Prop :=
  ∃ patch ∈ state.requests env input policy others,
    patch.succeeds = true ∧ patch.target < state.width others

def Optimises (env : MonitorEnv) (state : Contended) (input : SampleInput) (policy : PolicyInput)
    (others : Interference) : Prop :=
  state.governed.monitor.Optimises env (state.advised env input policy others)

/-- No other writer, no reset, and every request succeeds. -/
structure Undisturbed (env : MonitorEnv) (state : Contended) (input : SampleInput)
    (policy : PolicyInput) (others : Interference) : Prop where
  alone : others = .quiet
  unreset : .policyReset ∉
    (state.governed.monitor.sample env (state.advised env input policy others)).2
  safety : input.safetyPatch = true
  predictive : input.predictivePatch = true
  hysteresis : input.hysteresisPatch = true

theorem selected_of_transition (mem : patch ∈ state.requests env input policy others)
    (succeeds : patch.succeeds = true) :
    (state.sample env input policy others).selected = patch.target := by
  change (state.requests env input policy others).foldl _ _ = _
  rcases @requests_cases env state input policy others with
    none | ⟨only, one⟩ | ⟨failed, last, two, -, fails, -⟩
  · rw [none] at mem
    cases mem
  · rw [one] at mem ⊢
    obtain rfl := List.mem_singleton.mp mem
    exact if_pos succeeds
  · rw [two] at mem ⊢
    rcases List.mem_cons.mp mem with rfl | mem
    · cases fails.symm.trans succeeds
    · obtain rfl := List.mem_singleton.mp mem
      exact if_pos succeeds

section

variable (undisturbed : state.Undisturbed env input policy others)
include undisturbed

theorem Undisturbed.requests_eq_nil
    (present : env.policy = true) (skips : ¬ state.Optimises env input policy others) :
    state.requests env input policy others = [] := by
  have out := state.governed.monitor.sample_outcome env (state.advised env input policy others)
  change Monitor.Outcome env _ _ _ _ (state.requests env input policy others) at out
  generalize state.requests env input policy others = requests at out
  generalize Monitor.branch env _ _ = taken at out
  generalize sampled : (Monitor.sample env _ _).1 = next at out
  cases out with
  | settled | unmeasured | gated => rfl
  | forced called wide succeeds =>
    exact absurd (Monitor.policyReset_mem present called wide succeeds) undisturbed.unreset
  | refused called wide fails => cases undisturbed.safety.symm.trans fails
  | predictive optimises | counted optimises => exact absurd optimises skips

theorem Undisturbed.width_eq :
    state.width others = state.selected := by
  rw [undisturbed.alone]
  rfl

theorem Undisturbed.selected_sample
    (present : env.policy = true) (skips : ¬ state.Optimises env input policy others) :
    (state.sample env input policy others).selected = state.selected := by
  change (state.requests env input policy others).foldl _ _ = _
  rw [undisturbed.requests_eq_nil present skips, List.foldl_nil, actsOn, safetyWidth,
    undisturbed.width_eq, undisturbed.alone]
  split <;> rfl

theorem Undisturbed.falls
    (present : env.policy = true) (fallback : state.governed.policy.fallbackActive = true)
    (optimises : state.Optimises env input policy others) (wide : .sse41 < state.selected) :
    state.Falls env input policy others := by
  rw [← undisturbed.width_eq] at wide
  have target :
    state.governed.monitor.target env (state.advised env input policy others) = .sse41 :=
    Governed.target_of_fallback fallback present optimises wide
  have asks : state.governed.monitor.target env (state.advised env input policy others) ≠
      (state.advised env input policy others).width := target ▸ wide.ne
  have taken : state.governed.monitor.branch env (state.advised env input policy others) =
      .predictive := by
    rw [Monitor.branch, if_neg optimises.1, if_neg optimises.2.1, if_neg optimises.2.2,
      if_pos ⟨asks, undisturbed.predictive⟩]
  have out := state.governed.monitor.sample_outcome env (state.advised env input policy others)
  change Monitor.Outcome env _ _ _ _ (state.requests env input policy others) at out
  rw [Falls]
  rw [taken] at out
  generalize state.requests env input policy others = requests at out ⊢
  generalize (Monitor.sample env _ _).1 = next at out
  cases out with
  | predictive => exact ⟨_, List.mem_singleton_self _, rfl, target ▸ wide⟩

theorem Undisturbed.optimises
    (present : env.policy = true) (mem : patch ∈ state.requests env input policy others) :
    state.Optimises env input policy others := by
  by_contra skips
  rw [undisturbed.requests_eq_nil present skips] at mem
  cases mem

end

end Contended

section

variable {env : MonitorEnv} {trace : ℕ → Contended} {inputs : ℕ → SampleInput}
  {policies : ℕ → PolicyInput} {others : ℕ → Interference} {length point : ℕ}

theorem ContendedRun.fallback (run : ContendedRun env trace inputs policies others length)
    (fallback : (trace point).governed.policy.fallbackActive = true)
    (undisturbed : ∀ index, point ≤ index → index < length →
      (trace index).Undisturbed env (inputs index) (policies index) (others index)) :
    ∀ index, point ≤ index → index ≤ length →
      (trace index).governed.policy.fallbackActive = true := by
  intro index after
  induction index, after using Nat.le_induction with
  | base => exact fun _ => fallback
  | succ index after ih =>
    intro lt
    rw [run.samples index lt]
    exact Governed.fallback_sample (ih (Nat.le_of_succ_le lt))
      (undisturbed index after lt).unreset

theorem ContendedRun.wide_after (run : ContendedRun env trace inputs policies others length)
    (present : env.policy = true)
    (undisturbed : ∀ index, point ≤ index → index < length →
      (trace index).Undisturbed env (inputs index) (policies index) (others index))
    {rise} (since : point ≤ rise) (rises : (trace rise).Rises env (inputs rise)
      (policies rise) (others rise)) :
    ∀ later, rise + 1 ≤ later → later ≤ length →
      (∀ index, rise < index → index < later → ¬ (trace index).Optimises env (inputs index)
        (policies index) (others index)) → .sse41 < (trace later).selected := by
  intro later after
  induction later, after using Nat.le_induction with
  | base =>
    intro lt _
    obtain ⟨_, mem, succeeds, above⟩ := rises
    rw [run.samples rise lt, Contended.selected_of_transition mem succeeds]
    exact (SimdWidth.sse41_le _).trans_lt above
  | succ later after ih =>
    intro lt skips
    have here := undisturbed later (since.trans (Nat.le_of_succ_le after)) lt
    rw [run.samples later lt,
      here.selected_sample present (skips later after (Nat.lt_succ_self later))]
    exact ih (Nat.le_of_succ_le lt) fun index above under =>
      skips index above (Nat.lt_succ_of_lt under)

/-- With the policy in fallback, no other writer, no reset and every request successful, no upgrade
is undone exactly if no iteration after one reaches the predictive part. -/
theorem fallback_never_flaps_iff (run : ContendedRun env trace inputs policies others length)
    (present : env.policy = true) (fallback : (trace point).governed.policy.fallbackActive = true)
    (undisturbed : ∀ index, point ≤ index → index < length →
      (trace index).Undisturbed env (inputs index) (policies index) (others index)) :
    (∀ rise fall, point ≤ rise → rise < fall → fall < length →
      (trace rise).Rises env (inputs rise) (policies rise) (others rise) →
      ¬ (trace fall).Falls env (inputs fall) (policies fall) (others fall)) ↔
    ∀ rise later, point ≤ rise → rise < later → later < length →
      (trace rise).Rises env (inputs rise) (policies rise) (others rise) →
      ¬ (trace later).Optimises env (inputs later) (policies later) (others later) := by
  constructor
  · intro never rise later since after below rises optimises
    -- The first iteration after the rise that reaches the predictive part falls.
    induction later using Nat.strong_induction_on with
    | h later ih =>
      have wide := run.wide_after present undisturbed since rises later after below.le
        fun index above under => ih index under above (under.trans below)
      have here := since.trans after.le
      exact never rise later since after below rises
        ((undisturbed later here below).falls present
          (run.fallback fallback undisturbed later here below.le) optimises wide)
  · rintro skips rise fall since after below rises ⟨_, member, _⟩
    exact skips rise fall since after below rises
      ((undisturbed fall (since.trans after.le) below).optimises present member)

end

def throwingPolicies : PolicyInput := { quietPolicy with recordThrows := index = 0 }

def steadyInputs : SampleInput :=
  { workSample index .sse41 (500 * (index + 2)) with safetyPatch := true }

def fallbackTrace : ℕ → Contended :=
  .follow defaultEnv validatedStart .sse41 steadyInputs throwingPolicies fun _ => .quiet

theorem fallbackTrace_run (length) :
    ContendedRun defaultEnv fallbackTrace steadyInputs throwingPolicies (fun _ => .quiet) length :=
  Contended.follow_run _ _ _ _ _ _ length

theorem fallbackTrace_undisturbed : ∀ index < 7,
    (fallbackTrace index).Undisturbed defaultEnv (steadyInputs index) (throwingPolicies index)
      .quiet := by
  have unreset : ∀ index < 7, .policyReset ∉ ((fallbackTrace index).governed.monitor.sample
      defaultEnv ((fallbackTrace index).advised defaultEnv (steadyInputs index)
        (throwingPolicies index) .quiet)).2 := by
    decide +kernel
  exact fun index lt => ⟨rfl, unreset index lt, rfl, rfl, rfl⟩

theorem fallback_never_flaps_iff_rising :
    (fallbackTrace 1).governed.policy.fallbackActive = true ∧
      ∀ rise fall, 1 ≤ rise → rise < fall → fall < 6 →
        (fallbackTrace rise).Rises defaultEnv (steadyInputs rise) (throwingPolicies rise) .quiet →
        ¬ (fallbackTrace fall).Falls defaultEnv (steadyInputs fall) (throwingPolicies fall)
          .quiet := by
  have fallback : (fallbackTrace 1).governed.policy.fallbackActive = true := by decide +kernel
  refine ⟨fallback, (fallback_never_flaps_iff (fallbackTrace_run 6) rfl fallback
    fun index _ below => fallbackTrace_undisturbed index (Nat.lt_succ_of_lt below)).mpr ?_⟩
  -- The only rise is in sample 4, and sample 5 still lies in its cooldown.
  have calm : ∀ rise < 4, ¬ (fallbackTrace rise).Rises defaultEnv (steadyInputs rise)
      (throwingPolicies rise) .quiet := by
    simp only [Contended.Rises]
    decide +kernel
  have gated : ¬ (fallbackTrace 5).Optimises defaultEnv (steadyInputs 5) (throwingPolicies 5)
      .quiet := by
    rw [Contended.Optimises]
    decide +kernel
  intro rise later _ _ below rises
  have late : 4 ≤ rise := not_lt.mp fun early => calm rise early rises
  obtain rfl : later = 5 := by omega
  exact gated

/-- A policy in fallback lets a healthy monitor rise to AVX2 and takes it down again. -/
theorem fallback_flaps :
    ∃ env trace inputs policies others, ContendedRun env trace inputs policies others 7 ∧
      (trace 1).governed.policy.fallbackActive = true ∧
      (∀ index < 7, (trace index).Undisturbed env (inputs index) (policies index) (others index) ∧
        ((trace index).governed.monitor.observed env (inputs index)).perf.UpgradesAllowed ∧
        TemperatureUpgradeAllowed env.cfg
          ((trace index).governed.monitor.observation env (inputs index)).eval.telemetry ∧
        ¬ (trace index).governed.monitor.Throttles env (inputs index)) ∧
      (trace 4).Rises env (inputs 4) (policies 4) (others 4) ∧
      (trace 6).Falls env (inputs 6) (policies 6) (others 6) := by
  refine ⟨defaultEnv, fallbackTrace, steadyInputs, throwingPolicies, fun _ => .quiet,
    fallbackTrace_run 7, by decide +kernel, fun index below => ?_, ?_, ?_⟩
  · have healthy : ∀ index < 7,
        ((fallbackTrace index).governed.monitor.observed defaultEnv
          (steadyInputs index)).perf.UpgradesAllowed ∧
        TemperatureUpgradeAllowed defaultEnv.cfg ((fallbackTrace index).governed.monitor.observation
          defaultEnv (steadyInputs index)).eval.telemetry ∧
        ¬ (fallbackTrace index).governed.monitor.Throttles defaultEnv (steadyInputs index) := by
      decide +kernel
    exact ⟨fallbackTrace_undisturbed index below, healthy index below⟩
  · rw [Contended.Rises]
    decide +kernel
  · rw [Contended.Falls]
    decide +kernel

end ThermalSimd
