import ThermalSimd.Dispatch
import ThermalSimd.StripMine

/-!
# The registered kernels

The benchmark's mixing kernel in its three widths, and passes that take an array chunk by chunk in
whatever width is selected: all compute what the scalar loop computes.
-/

namespace ThermalSimd
namespace Kernels

open Dispatch StripMine

/-- One round of `mix_scalar`. -/
def mixRound (value : UInt32) : UInt32 :=
  let value := value * 1664525 + 1013904223
  let value := value ^^^ (value >>> 13)
  let value := value * 2246822519 + 3266489917
  value ^^^ (value <<< 7)

/-- `mix_scalar`. -/
def mixScalar (value : UInt32) : ℕ → UInt32
  | 0 => value
  | rounds + 1 => mixScalar (mixRound value) rounds

/-! Lane-wise instructions. -/

section

variable {lanes : ℕ}

/-- `set1_epi32`. -/
def set1 (lanes : ℕ) (value : UInt32) : Vector UInt32 lanes := Vector.replicate lanes value

variable (left right : Vector UInt32 lanes) (value : Vector UInt32 lanes)

/-- `add_epi32`. -/
def add : Vector UInt32 lanes := left.zipWith (· + ·) right

/-- `mullo_epi32`. -/
def mullo : Vector UInt32 lanes := left.zipWith (· * ·) right

/-- `xor_si128` and its wider forms. -/
def xor : Vector UInt32 lanes := left.zipWith (· ^^^ ·) right

/-- `srli_epi32`. -/
def srli (count : UInt32) : Vector UInt32 lanes :=
  value.map (· >>> count)

/-- `slli_epi32`. -/
def slli (count : UInt32) : Vector UInt32 lanes :=
  value.map (· <<< count)

def mixRoundLanes : Vector UInt32 lanes :=
  let multiplierA := set1 lanes 1664525
  let addendA := set1 lanes 1013904223
  let multiplierB := set1 lanes 2246822519
  let addendB := set1 lanes 3266489917
  let value := add (mullo value multiplierA) addendA
  let value := xor value (srli value 13)
  let value := add (mullo value multiplierB) addendB
  xor value (slli value 7)

def mixLanes (value : Vector UInt32 lanes) : ℕ → Vector UInt32 lanes
  | 0 => value
  | rounds + 1 => mixLanes (mixRoundLanes value) rounds

theorem mixRoundLanes_eq : mixRoundLanes value = value.map mixRound := by
  ext lane bound
  simp only [mixRoundLanes, add, mullo, xor, srli, slli, set1, Vector.getElem_zipWith,
    Vector.getElem_map, Vector.getElem_replicate, mixRound]

theorem mixLanes_eq (rounds) (value : Vector UInt32 lanes) :
    mixLanes value rounds = value.map fun value => mixScalar value rounds := by
  induction rounds generalizing value with
  | zero => exact (Vector.map_id value).symm
  | succ rounds ih =>
    rw [mixLanes, ih, mixRoundLanes_eq, Vector.map_map]
    rfl

end

/-- `kernel_context_t`; the arrays are functions, with `itemCount` values of their own. -/
structure KernelContext where
  input : ℕ → UInt32
  output : ℕ → UInt32
  itemCount : ℕ
  rounds : ℕ
  itemCount_le : itemCount ≤ 2 ^ 32

/-- A kernel of some lanes: the output afterwards, or an error that left it alone. -/
def kernel (lanes : ℕ) (context : KernelContext) (offset workItems : ℕ) :
    Except Errno (ℕ → UInt32) :=
  if context.itemCount < offset ∨ context.itemCount - offset < workItems then .error .einval
  else
    let stop := offset + workItems
    let blocks := blockLoop (fun value : Vector UInt32 lanes => mixLanes value context.rounds)
      context.input stop offset context.output
    .ok (scalarLoop (fun value => mixScalar value context.rounds) context.input stop
      blocks.1 blocks.2)

/-- `kernel_sse41`. -/
def kernelSse41 : KernelContext → ℕ → ℕ → Except Errno (ℕ → UInt32) := kernel 4

/-- `kernel_avx2`. -/
def kernelAvx2 : KernelContext → ℕ → ℕ → Except Errno (ℕ → UInt32) := kernel 8

/-- `kernel_avx512`. -/
def kernelAvx512 : KernelContext → ℕ → ℕ → Except Errno (ℕ → UInt32) := kernel 16

def kernelOf : SimdWidth → KernelContext → ℕ → ℕ → Except Errno (ℕ → UInt32)
  | .sse41 => kernelSse41
  | .avx2 => kernelAvx2
  | .avx512 => kernelAvx512

variable (width : SimdWidth) (options : BenchmarkOptions) (dispatch : KernelDispatch SimdWidth)
  (input : CallInput) (context : KernelContext) {offset count : ℕ}

private def KernelContext.mixed (start stop : ℕ) : ℕ → UInt32 :=
  mapped (fun value => mixScalar value context.rounds) context.input start stop context.output

theorem kernel_eq (lanes context offset workItems) :
    kernel lanes context offset workItems =
      if offset + workItems ≤ context.itemCount then
        .ok (context.mixed offset (offset + workItems))
      else .error .einval := by
  unfold kernel
  by_cases inside : offset + workItems ≤ context.itemCount
  · rw [if_pos inside, if_neg (by omega)]
    exact congrArg Except.ok (scalarLoop_blockLoop (mixLanes_eq context.rounds) context.input
      (Nat.le_add_right _ _) context.output)
  · rw [if_neg inside, if_pos (by omega)]

theorem kernelOf_eq (offset workItems) : kernelOf width context offset workItems =
      if offset + workItems ≤ context.itemCount then
        .ok (context.mixed offset (offset + workItems))
      else .error .einval := by
  cases width <;> exact kernel_eq _ context offset workItems

def statusOf : Except Errno (ℕ → UInt32) → ℤ
  | .ok _ => 0
  | .error _ => 22

def KernelContext.outputAfter : Except Errno (ℕ → UInt32) → ℕ → UInt32
  | .ok output => output
  | .error _ => context.output

/-- `benchmark_mode_t`. -/
inductive BenchmarkMode
  | fixed (width : SimdWidth)
  | adaptive
  deriving DecidableEq

/-- `benchmark_options_t`; its parser refuses a chunk of no items. -/
structure BenchmarkOptions where
  mode : BenchmarkMode
  workItems : ℕ
  chunkItems : ℕ
  chunkItems_pos : 0 < chunkItems

/-- `tsd_kernel_dispatch_v2_execute`; the admitted kernel provides the status. -/
def adaptiveCall (offset count : ℕ) : ℤ × (ℕ → UInt32) :=
  let ran :=
    match admitted (some dispatch) input with
    | .ok (_, fn) => kernelOf fn context offset count
    | .error e => .error e
  let (returned, world) := execute (some dispatch) { input with status := statusOf ran } offset
    (UInt64.ofNat count) ⟨[], 0⟩
  (returned.rc, if world.calls.isEmpty then context.output else context.outputAfter ran)

def chunkCall (offset count : ℕ) : ℤ × (ℕ → UInt32) :=
  match options.mode with
  | .adaptive => adaptiveCall dispatch input context offset count
  | .fixed width =>
    let ran := kernelOf width context offset count
    (statusOf ran, context.outputAfter ran)

/-- The loop of `run_phase` over a pass: chunk `index` meets `inputs index`. -/
def passLoop (options : BenchmarkOptions) (dispatch : KernelDispatch SimdWidth)
    (inputs : ℕ → CallInput) (context : KernelContext) (index offset : ℕ) (output : ℕ → UInt32) :
    Option (ℕ → UInt32) :=
  if offset < options.workItems then
    let rest := options.workItems - offset
    let count := if options.chunkItems < rest then options.chunkItems else rest
    let result := chunkCall options dispatch (inputs index) { context with output } offset count
    if result.1 ≠ 0 then none
    else passLoop options dispatch inputs context (index + 1) (offset + count) result.2
  else some output
  termination_by options.workItems - offset
  decreasing_by
    have := options.chunkItems_pos
    split <;> omega

/-- `checksum_output`. -/
def checksumOutput (itemCount : ℕ) (output : ℕ → UInt32) : UInt64 :=
  (List.range itemCount).foldl (fun hash index =>
    [0, 8, 16, 24].foldl (fun (hash : UInt64) (shift : UInt32) =>
      (hash ^^^ (output index >>> shift).toUInt8.toUInt64) * 1099511628211) hash)
    1469598103934665603

theorem outputAfter_kernelOf (succeeded : statusOf (kernelOf width context offset count) = 0) :
    context.outputAfter (kernelOf width context offset count) =
      context.mixed offset (offset + count) := by
  rw [kernelOf_eq] at succeeded ⊢
  split at succeeded
  · rw [if_pos ‹_›]
    rfl
  · exact absurd succeeded (by decide)

theorem adaptiveCall_mixed (succeeded : (adaptiveCall dispatch input context offset count).1 = 0) :
    (adaptiveCall dispatch input context offset count).2 =
      context.mixed offset (offset + count) := by
  unfold adaptiveCall at succeeded ⊢
  dsimp only at succeeded ⊢
  generalize ran_eq : (match admitted (some dispatch) input with
    | .ok (_, fn) => kernelOf fn context offset count
    | .error e => .error e) = ran at succeeded ⊢
  have out := execute_outcome (some dispatch) { input with status := statusOf ran } offset
    (UInt64.ofNat count) ⟨[], 0⟩
  generalize execute (some dispatch) { input with status := statusOf ran } offset
    (UInt64.ofNat count) ⟨[], 0⟩ = res at out succeeded ⊢
  have failure : (-1 : ℤ) ≠ 0 := by decide
  cases out with
  | refused e | unprotected fn width e fails | unrestored fn width e fails =>
    exact absurd succeeded failure
  | completed fn width =>
    have output : context.outputAfter ran = context.mixed offset (offset + count) := by
      have status : statusOf ran = 0 := succeeded
      split at ran_eq
      · subst ran_eq
        exact outputAfter_kernelOf _ context status
      · subst ran_eq
        exact absurd status (show (22 : ℤ) ≠ 0 by decide)
    exact output

theorem chunkCall_mixed
    (succeeded : (chunkCall options dispatch input context offset count).1 = 0) :
    (chunkCall options dispatch input context offset count).2 =
      context.mixed offset (offset + count) := by
  unfold chunkCall at succeeded ⊢
  split at succeeded
  · exact adaptiveCall_mixed dispatch input context succeeded
  · exact outputAfter_kernelOf _ context succeeded

theorem passLoop_mixed
    (inputs context) {i offset}
    (within : offset ≤ options.workItems) {res}
    (completed : passLoop options dispatch inputs context i offset (context.mixed 0 offset) =
      some res) :
    res = context.mixed 0 options.workItems := by
  generalize start : context.mixed 0 offset = output at completed
  fun_induction passLoop options dispatch inputs context i offset output with
  | case1 => exact absurd completed (by simp)
  | case2 i offset output _ rest count call succeeded ih =>
    subst start
    have bound : offset + count ≤ options.workItems := by
      have : count ≤ rest := by
        unfold count
        split <;> omega
      omega
    have mixed : call.2 = context.mixed 0 (offset + count) := by
      have chunk := chunkCall_mixed options dispatch (inputs i)
        { context with output := context.mixed 0 offset } (not_not.mp succeeded)
      exact chunk.trans
        (mapped_trans _ _ (Nat.zero_le offset) (Nat.le_add_right offset count) _)
    exact ih bound mixed.symm completed
  | case3 i offset output outside =>
    subst start
    rw [← Option.some.inj completed, Nat.le_antisymm within (not_lt.mp outside)]

def pass (inputs : ℕ → CallInput) (context : KernelContext) : Option (ℕ → UInt32) :=
  passLoop options dispatch inputs context 0 0 context.output

theorem pass_mixed {options dispatch inputs context res}
    (completed : pass options dispatch inputs context = some res) :
    res = context.mixed 0 options.workItems := by
  exact passLoop_mixed options dispatch inputs context (Nat.zero_le _) completed

/-- An undisturbed call on a range inside the array succeeds. -/
theorem adaptiveCall_succeeds {input width fn} {context : KernelContext} {offset count}
    (admits : admitted (some dispatch) input = .ok (width, fn))
    (quiet : input.disable = none ∧ input.restore = none ∧ input.redisable = none ∧
      input.finish = none) (inside : offset + count ≤ context.itemCount) :
    (adaptiveCall dispatch input context offset count).1 = 0 := by
  obtain ⟨disable, snapshot, admission, restore, status, redisable, accounting, finish⟩ := input
  obtain ⟨rfl, rfl, rfl, rfl⟩ := quiet
  have whatever : ∀ status, admitted (some dispatch)
      ⟨none, snapshot, admission, none, status, none, accounting, none⟩ = .ok (width, fn) :=
    fun _ => admits
  simp only [adaptiveCall, whatever, kernelOf_eq, if_pos inside, execute]
  rfl

theorem passLoop_isSome {options dispatch inputs context}
    (succeeds : ∀ index output offset count, offset + count ≤ options.workItems →
      (chunkCall options dispatch (inputs index) { context with output } offset count).1 = 0)
    (index offset output) :
    (passLoop options dispatch inputs context index offset output).isSome := by
  fun_induction passLoop options dispatch inputs context index offset output with
  | case1 index offset output inside rest count call failed =>
    have within : offset + count ≤ options.workItems := by
      have : count ≤ rest := by
        unfold count
        split <;> omega
      omega
    exact absurd (succeeds index output offset count within) failed
  | case2 index offset output inside rest count call _ ih => exact ih
  | case3 => rfl

/-- A range that fits is computed, and nothing else written. -/
structure Computes (context : KernelContext) (offset workItems : ℕ)
    (result : Except Errno (ℕ → UInt32)) : Prop where
  accepts : (∃ output, result = .ok output) ↔ offset + workItems ≤ context.itemCount
  refuses : ¬ offset + workItems ≤ context.itemCount → result = .error .einval
  writes : ∀ output, result = .ok output → ∀ index, offset ≤ index → index < offset + workItems →
    output index = mixScalar (context.input index) context.rounds
  frame : ∀ output, result = .ok output → ∀ index, ¬ (offset ≤ index ∧ index < offset + workItems) →
    output index = context.output index
  unwrapped : offset + workItems ≤ context.itemCount → offset + workItems + 16 < 2 ^ 64

theorem computes_kernelOf (offset workItems) :
    Computes context offset workItems (kernelOf width context offset workItems) := by
  have unwrapped : offset + workItems ≤ context.itemCount → offset + workItems + 16 < 2 ^ 64 := by
    have := context.itemCount_le
    omega
  rw [kernelOf_eq]
  by_cases inside : offset + workItems ≤ context.itemCount
  · rw [if_pos inside]
    refine ⟨iff_of_true ⟨_, rfl⟩ inside, fun outside => absurd inside outside, ?_, ?_, unwrapped⟩
    · rintro output ⟨⟩ i low high
      exact if_pos ⟨low, high⟩
    · rintro output ⟨⟩ i outside
      exact if_neg outside
  · rw [if_neg inside]
    exact ⟨iff_of_false nofun inside, fun _ => rfl, nofun, nofun, unwrapped⟩

def scalarPass : ℕ → UInt32 :=
  scalarLoop (fun value => mixScalar value context.rounds) context.input context.itemCount 0
    context.output

/-- Every width computes what the scalar code does, on ranges and in every completed pass, whatever
the chunks and their widths. -/
theorem kernels_equivalent (context : KernelContext) :
    (∀ width offset workItems,
      Computes context offset workItems (kernelOf width context offset workItems)) ∧
    ∀ (options : BenchmarkOptions) (dispatch : KernelDispatch SimdWidth) (inputs : ℕ → CallInput)
      (result : ℕ → UInt32), options.workItems = context.itemCount →
      pass options dispatch inputs context = some result →
      result = scalarPass context ∧
        checksumOutput context.itemCount result =
          checksumOutput context.itemCount (scalarPass context) := by
  refine ⟨fun width => computes_kernelOf width context, ?_⟩
  intro options dispatch inputs result whole completed
  have same : result = scalarPass context := by
    rw [pass_mixed completed, scalarPass, scalarLoop_eq, whole]
    rfl
  exact ⟨same, congrArg _ same⟩

def everyKernel : KernelDispatch SimdWidth :=
  ⟨⟨some .sse41, some .avx2, some .avx512⟩, .avx512⟩

/-- The selection narrows after the first chunk, and admission is closed from the third on. -/
def switchingCalls (index : ℕ) : CallInput :=
  { quietCall with
    snapshot := ⟨if index = 0 then 2 else 1, true, true, true⟩
    admission := ⟨true, decide (index < 2)⟩ }

def unevenOptions : BenchmarkOptions := ⟨.adaptive, 55, 17, by decide⟩

def unevenContext : KernelContext := ⟨fun index => UInt32.ofNat index, fun _ => 0, 55, 3, by decide⟩

theorem switching_pass_equivalent :
    admitted (some everyKernel) (switchingCalls 0) = .ok (.avx512, .avx512) ∧
      admitted (some everyKernel) (switchingCalls 1) = .ok (.avx2, .avx2) ∧
      admitted (some everyKernel) (switchingCalls 2) = .ok (.sse41, .sse41) ∧
      ∃ result, pass unevenOptions everyKernel switchingCalls unevenContext = some result ∧
        checksumOutput 55 result = checksumOutput 55 (scalarPass unevenContext) := by
  have admits : ∀ index, ∃ width fn,
      admitted (some everyKernel) (switchingCalls index) = .ok (width, fn)
    | 0 => ⟨_, _, rfl⟩
    | 1 => ⟨_, _, rfl⟩
    | _ + 2 => ⟨_, _, rfl⟩
  have succeeds : ∀ index output offset count, offset + count ≤ unevenOptions.workItems →
      (chunkCall unevenOptions everyKernel (switchingCalls index) { unevenContext with output }
        offset count).1 = 0 := by
    intro index output offset count inside
    obtain ⟨width, fn, admitted⟩ := admits index
    exact adaptiveCall_succeeds everyKernel admitted ⟨rfl, rfl, rfl, rfl⟩ inside
  obtain ⟨result, completed⟩ := Option.isSome_iff_exists.mp
    (passLoop_isSome succeeds 0 0 unevenContext.output)
  exact ⟨rfl, rfl, rfl, result, completed, ((kernels_equivalent unevenContext).2 unevenOptions
    everyKernel switchingCalls result rfl completed).2⟩

end Kernels
end ThermalSimd
