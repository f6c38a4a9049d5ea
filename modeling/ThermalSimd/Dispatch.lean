import Mathlib.Algebra.GroupWithZero.Nat
import ThermalSimd.Width

/-!
# Kernel dispatch

`adaptive_dispatch.c`: both generations of the dispatcher resolve a width, ask for admission, call
the application's kernel and account for its work; their chunked forms walk a range of work items.
What a call reads from the outside is an argument, and the kernels it calls are logged.
-/

namespace ThermalSimd
namespace Dispatch

/-- `tsd_kernel_variants_t` and `tsd_kernel_variants_v2_t`; a null kernel is `none`. -/
structure KernelVariants (Fn : Type*) where
  sse41 : Option Fn
  avx2 : Option Fn
  avx512 : Option Fn

/-- `struct tsd_kernel_dispatch` and `struct tsd_kernel_dispatch_v2`. -/
structure KernelDispatch (Fn : Type*) where
  variants : KernelVariants Fn
  hostMax : SimdWidth

/-- What `selected_width_snapshot` reads. -/
structure SnapshotInput where
  /-- `tsd_trampoline_state_current_width`. -/
  current : ℤ
  /-- `tsd_runtime_wide_admission_is_open`. -/
  admissionOpen : Bool
  owner : Bool
  /-- `tsd_runtime_width_authorized` for the selected width. -/
  authorized : Bool
  deriving DecidableEq

/-- How the two checks of `tsd_runtime_execution_enter` for a wide width end. -/
structure AdmissionInput where
  first : Bool
  recheck : Bool
  deriving DecidableEq

/-- What one call meets; `pthread_setcancelstate` succeeds or fails with a code. -/
structure CallInput where
  /-- The first `cancel_disable`. -/
  disable : Option Errno
  snapshot : SnapshotInput
  admission : AdmissionInput
  /-- `cancel_set_state` before the kernel. -/
  restore : Option Errno
  status : ℤ
  /-- `cancel_disable` after the kernel. -/
  redisable : Option Errno
  /-- `tsd_runtime_work_accounting_allowed`. -/
  accounting : Bool
  /-- `cancel_set_state` at the end. -/
  finish : Option Errno

/-- A kernel call, as it was made and as it ended. -/
structure Call (Fn Argument : Type*) where
  fn : Fn
  argument : Argument
  items : UInt64
  width : SimdWidth
  status : ℤ
  protectedAfter : Bool
  allowed : Bool

/-- The calls made so far and the work counter. -/
structure World (Fn Argument : Type*) where
  calls : List (Call Fn Argument)
  workloadIterations : UInt64

/-- The result, `errno` where it is set, and the width written to the caller's variable. -/
structure Returned where
  rc : ℤ
  errno : Option Errno
  width : Option SimdWidth
  deriving DecidableEq

variable {Fn Argument : Type*}

/-- `errno = e; return -1`. -/
def failed (e : Errno) : Returned := ⟨-1, some e, none⟩

/-- `selected_width_snapshot`. -/
def selectedWidthSnapshot (input : SnapshotInput) : SimdWidth :=
  match SimdWidth.ofInt? input.current with
  | none => .sse41
  | some selected =>
    if selected.IsWide ∧
        (input.admissionOpen = false ∨ input.owner = false ∨ input.authorized = false) then .sse41
    else selected

variable (world : World Fn Argument) (calls : List (Call Fn Argument))
  (dispatch : Option (KernelDispatch Fn)) (input : CallInput)

/-- `resolve_internal` and `resolve_v2_internal`. -/
def resolveInternal (input : SnapshotInput) : Except Errno (SimdWidth × Fn) :=
  match dispatch with
  | none => .error .einval
  | some dispatch =>
    match dispatch.variants.sse41 with
    | none => .error .einval
    | some narrow =>
      let selected := min (selectedWidthSnapshot input) dispatch.hostMax
      let usable (width : SimdWidth) (fn : Option Fn) : Option Fn :=
        if width ≤ selected ∧ width ≤ dispatch.hostMax then fn else none
      match usable .avx512 dispatch.variants.avx512, usable .avx2 dispatch.variants.avx2 with
      | some fn, _ => .ok (.avx512, fn)
      | none, some fn => .ok (.avx2, fn)
      | none, none => .ok (.sse41, narrow)

/-- `tsd_runtime_execution_enter`, by its result. -/
def executionEnter (width : SimdWidth) (input : AdmissionInput) : Except Errno Unit :=
  if width = .sse41 then .ok ()
  else if input.first = false then .error .eagain
  else if input.recheck = false then .error .eagain
  else .ok ()

/-- `enter_or_fallback_v1` and `enter_or_fallback_v2` for a resolved kernel. -/
def enterOrFallback (dispatch : KernelDispatch Fn) (actual : SimdWidth) (fn : Fn)
    (input : AdmissionInput) : Except Errno (SimdWidth × Fn) :=
  match executionEnter actual input with
  | .ok () => .ok (actual, fn)
  | .error e =>
    if ¬ actual.IsWide ∨ e ≠ .eagain then .error e
    else
      match dispatch.variants.sse41 with
      -- Resolution has refused a dispatcher without an SSE4.1 kernel.
      | none => .error .einval
      | some narrow =>
        match executionEnter .sse41 input with
        | .ok () => .ok (.sse41, narrow)
        | .error e => .error e

def admitted : Except Errno (SimdWidth × Fn) :=
  match dispatch, resolveInternal dispatch input.snapshot with
  | some dispatch, .ok (actual, fn) => enterOrFallback dispatch actual fn input.admission
  | none, .ok _ => .error .einval
  | _, .error e => .error e

def Call.counts (call : Call Fn Argument) : Bool :=
  call.protectedAfter && decide (call.status = 0) && call.allowed

/-- The work `account_completed_work` adds for a call of a kernel. -/
def Call.work (call : Call Fn Argument) : UInt64 := if call.counts then call.items else 0

def World.after (call : Call Fn Argument) : World Fn Argument where
  calls := world.calls ++ [call]
  workloadIterations := world.workloadIterations + call.work

def CallInput.call (fn : Fn) (argument : Argument) (items : UInt64) (width : SimdWidth) :
    Call Fn Argument :=
  ⟨fn, argument, items, width, input.status, input.redisable.isNone, input.accounting⟩

/-- `tsd_kernel_dispatch_execute` (whose kernels have status zero) and `…_v2_execute`. -/
def execute (argument : Argument) (items : UInt64) (world : World Fn Argument) :
    Returned × World Fn Argument :=
  match input.disable with
  | some e => (failed e, world)
  | none =>
    match admitted dispatch input with
    | .error e => (failed e, world)
    | .ok (actual, fn) =>
      match input.restore with
      | some e => (failed e, world)
      | none =>
        let call := input.call fn argument items actual
        match input.redisable with
        | some e => (failed e, world.after call)
        | none =>
          let width := if input.status = 0 then some actual else none
          match input.finish with
          | some e => (⟨-1, some e, width⟩, world.after call)
          | none => (⟨input.status, none, width⟩, world.after call)

section

variable (input : CallInput) (argument : Argument) (items : UInt64) (world : World Fn Argument)

/-- How `execute` ends; only where it is refused is no kernel called. -/
inductive ExecuteOutcome : Returned × World Fn Argument → Prop
  | refused (e : Errno) : ExecuteOutcome (failed e, world)
  | unprotected (fn : Fn) (width : SimdWidth) (e : Errno) (fails : input.redisable = some e) :
      ExecuteOutcome
        (failed e, world.after (input.call fn argument items width))
  | unrestored (fn : Fn) (width : SimdWidth) (e : Errno) (fails : input.finish = some e) :
      ExecuteOutcome
        (⟨-1, some e, if input.status = 0 then some width else none⟩,
          world.after (input.call fn argument items width))
  | completed (fn : Fn) (width : SimdWidth) (disabled : input.redisable = none)
      (restored : input.finish = none) :
      ExecuteOutcome
        (⟨input.status, none, if input.status = 0 then some width else none⟩,
          world.after (input.call fn argument items width))

end

theorem execute_outcome (argument : Argument) (items world) :
    ExecuteOutcome input argument items world (execute dispatch input argument items world) := by
  unfold execute
  split
  · exact .refused _
  split
  · exact .refused _
  next actual fn _ =>
  split
  · exact .refused _
  dsimp only
  split
  · next fails => exact .unprotected fn actual _ fails
  next disabled =>
  split
  · next fails => exact .unrestored fn actual _ fails
  · next restored => exact .completed fn actual disabled restored

/-- Ranges of an offset and a size that follow one another from `start` to `stop`. -/
def Tiles : ℕ → List (ℕ × ℕ) → ℕ → Prop
  | start, [], stop => start = stop
  | start, (offset, size) :: ranges, stop => offset = start ∧ Tiles (start + size) ranges stop

/-- How the loop ends from `index` on; `ranges` are those of the kernels it called. -/
structure Walk (argument : UInt64 → UInt64 → Argument) (inputs : ℕ → CallInput)
    (maxChunkItems : UInt64) (wantsWidth : Bool) (index : ℕ) (offset remaining : UInt64)
    (last : SimdWidth) (returned : Returned) (calls : List (Call Fn Argument))
    (ranges : List (UInt64 × UInt64)) : Prop where
  called : (calls.map fun call => (call.argument, call.items)) =
    ranges.map fun range => (argument range.1 range.2, range.2)
  tiles : ∃ stop, Tiles offset.toNat (ranges.map fun range => (range.1.toNat, range.2.toNat)) stop ∧
    stop ≤ offset.toNat + remaining.toNat ∧
    (returned.rc = 0 → stop = offset.toNat + remaining.toNat)
  sizes : ∀ range ∈ ranges, 1 ≤ range.2.toNat ∧ range.2.toNat ≤ maxChunkItems.toNat
  width : returned.width =
    if returned.rc = 0 ∧ wantsWidth = true then some ((calls.getLast?.map Call.width).getD last)
    else none
  failure : ∀ before call after, calls = before ++ call :: after →
    call = (inputs (index + before.length)).call call.fn call.argument call.items call.width ∧
    (call.status ≠ 0 → after = [] ∧ returned.rc ≠ 0 ∧
      ((inputs (index + before.length)).redisable = none →
        (inputs (index + before.length)).finish = none → returned.rc = call.status))

variable {returned : Returned}

section

variable {dispatch : Option (KernelDispatch Fn)} {argument : UInt64 → UInt64 → Argument}
  {inputs : ℕ → CallInput} {maxChunkItems : UInt64} {wantsWidth : Bool}

theorem Walk.refused (i offset remaining last)
    (stops : returned.rc ≠ 0) (unwritten : returned.width = none) :
    Walk argument inputs maxChunkItems wantsWidth i offset remaining last returned
      ([] : List (Call Fn Argument)) [] where
  called := rfl
  tiles := ⟨offset.toNat, rfl, Nat.le_add_right _ _, fun returns => absurd returns stops⟩
  sizes range mem := absurd mem List.not_mem_nil
  width := by rw [unwritten, if_neg fun returns => stops returns.1]
  failure before call after split := absurd split.symm (by simp)

theorem Walk.stopped {i offset remaining chunk} (last) (fn : Fn) (width)
    (some_items : 1 ≤ chunk.toNat)
    (bound : chunk.toNat ≤ maxChunkItems.toNat) (within : chunk.toNat ≤ remaining.toNat)
    (stops : returned.rc ≠ 0) (unwritten : returned.width = none)
    (status : (inputs i).redisable = none → (inputs i).finish = none →
      returned.rc = (inputs i).status) :
    Walk argument inputs maxChunkItems wantsWidth i offset remaining last returned
      [(inputs i).call fn (argument offset chunk) chunk width] [(offset, chunk)] where
  called := rfl
  tiles := by
    refine ⟨offset.toNat + chunk.toNat, ⟨rfl, rfl⟩, by omega, fun returns => absurd returns stops⟩
  sizes range mem := by
    obtain rfl := List.mem_singleton.mp mem
    exact ⟨some_items, bound⟩
  width := by rw [unwritten, if_neg fun returns => stops returns.1]
  failure before call after split := by
    obtain ⟨rfl, rfl, rfl⟩ : before = [] ∧ call = (inputs i).call fn (argument offset chunk) chunk
        width ∧ after = [] := by
      cases before with
      | nil =>
        obtain ⟨rfl, rfl⟩ := List.cons_eq_cons.mp split
        exact ⟨rfl, rfl, rfl⟩
      | cons _ before =>
        have tail := (List.cons_eq_cons.mp split).2
        exact absurd tail.symm (by simp)
    exact ⟨rfl, fun _ => ⟨rfl, stops, status⟩⟩

theorem Walk.cons {i offset remaining chunk last calls ranges}
    (fn : Fn) {width} (some_items : 1 ≤ chunk.toNat)
    (bound : chunk.toNat ≤ maxChunkItems.toNat) (within : chunk.toNat ≤ remaining.toNat)
    (fits : offset.toNat + remaining.toNat < 2 ^ 64) (succeeds : (inputs i).status = 0)
    (rest : Walk argument inputs maxChunkItems wantsWidth (i + 1) (offset + chunk)
      (remaining - chunk) width returned calls ranges) :
    Walk argument inputs maxChunkItems wantsWidth i offset remaining last returned
      ((inputs i).call fn (argument offset chunk) chunk width :: calls)
      ((offset, chunk) :: ranges) := by
  have next : (offset + chunk).toNat = offset.toNat + chunk.toNat := by
    rw [UInt64.toNat_add]
    omega
  have left := UInt64.toNat_sub_of_le _ _ (UInt64.le_iff_toNat_le.mpr within)
  obtain ⟨called, ⟨stop, tiles, _, whole⟩, sizes, last_width, failure⟩ := rest
  rw [next] at tiles
  refine ⟨?_, ⟨stop, ⟨rfl, tiles⟩, by omega, fun returns => ?_⟩, ?_, ?_, ?_⟩
  · rw [List.map_cons, List.map_cons, called]
    rfl
  · have := whole returns
    omega
  · intro range mem
    rcases List.mem_cons.mp mem with rfl | mem
    · exact ⟨some_items, bound⟩
    · exact sizes range mem
  · rw [last_width]
    cases calls with
    | nil => rfl
    | cons first =>
      rfl
  · intro before call after split
    cases before with
    | nil =>
      obtain ⟨rfl, rfl⟩ := List.cons_eq_cons.mp split
      exact ⟨rfl, fun fails => absurd succeeds fails⟩
    | cons first before =>
      have tail := failure before call after (List.cons_eq_cons.mp split).2
      rwa [List.length_cons, ← Nat.add_assoc, Nat.add_right_comm]

end

section

variable (dispatch : KernelDispatch Fn) (inputs : ℕ → CallInput)
  (offset total maxChunkItems : UInt64) (wantsWidth : Bool)

end

def quietCall : CallInput where
  disable := none
  snapshot := ⟨0, false, true, false⟩
  admission := ⟨false, false⟩
  restore := none
  status := 0
  redisable := none
  accounting := true
  finish := none

end Dispatch
end ThermalSimd
