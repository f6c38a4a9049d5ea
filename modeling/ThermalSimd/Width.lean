import Mathlib.Order.Lattice

/-!
# SIMD widths and host detection

The three widths of `simd_width.h` in their enumeration order, and the maximum width
`thermal_cpu.c` detects from the processor's feature bits and the static AVX-512 policy.
-/

namespace ThermalSimd

/-- The error numbers the code sets. -/
inductive Errno
  | e2big | eagain | ebusy | edeadlk | einval | eio | enodata | enodev | enomem | enotsup | eperm
  | erange
  deriving DecidableEq

/-- `simd_width_t`. -/
inductive SimdWidth
  | sse41 | avx2 | avx512
  deriving DecidableEq

namespace SimdWidth

def toNat : SimdWidth → ℕ
  | sse41 => 0
  | avx2 => 1
  | avx512 => 2

theorem toNat_injective : Function.Injective toNat := by
  intro left right equality
  cases left <;> cases right <;> first | rfl | cases equality

instance : LinearOrder SimdWidth := LinearOrder.lift' toNat toNat_injective

def toInt (width : SimdWidth) : ℤ := width.toNat

/-- The width an integer argument names, if it lies in `[SIMD_SSE41, SIMD_AVX512]`. -/
def ofInt? : ℤ → Option SimdWidth
  | 0 => some sse41
  | 1 => some avx2
  | 2 => some avx512
  | _ => none

@[simp]
theorem ofInt?_toInt (width) : ofInt? width.toInt = some width := by
  cases width <;> rfl

theorem toInt_of_ofInt? {v width} (named : ofInt? v = some width) :
    width.toInt = v := by
  unfold ofInt? at named
  split at named <;> cases named <;> rfl

/-- Wider than SSE4.1. -/
def IsWide (width : SimdWidth) : Prop := sse41 < width
  deriving Decidable

theorem isWide_iff {width} : width.IsWide ↔ width ≠ sse41 := by
  cases width <;> decide

theorem not_isWide {width} : ¬ width.IsWide ↔ width = sse41 := by
  cases width <;> decide

def narrower : SimdWidth → SimdWidth
  | sse41 | avx2 => sse41
  | avx512 => avx2

def wider : SimdWidth → SimdWidth
  | sse41 => avx2
  | avx2 | avx512 => avx512

theorem sse41_le (width) : sse41 ≤ width := by
  cases width <;> decide

end SimdWidth

/-- The feature bits `thermal_cpu.c` reads with `cpuid` and `xgetbv`. -/
structure HostCpu where
  /-- Leaf 1, `ecx` bit 19. -/
  sse41 : Bool
  /-- Leaf 1, `ecx` bit 28. -/
  avx : Bool
  /-- `OSXSAVE` with the SSE and AVX state components enabled in `XCR0`. -/
  xsave : Bool
  leaf7 : Bool
  /-- Leaf 7, `ebx` bit 5. -/
  avx2 : Bool
  /-- Leaf 7, `ebx` bit 16. -/
  avx512f : Bool
  /-- `XCR0 & 0xE6 == 0xE6`. -/
  xcr0Avx512 : Bool
  deriving DecidableEq

/-- `detect_impl`; the argument is the configuration's `allow_avx512`. -/
def detectImpl (host : HostCpu) (allowAvx512 : Bool) : SimdWidth :=
  if !host.sse41 then .sse41
  else if !host.xsave then .sse41
  else if allowAvx512 && host.leaf7 then
    if host.avx512f && host.avx && host.xcr0Avx512 then .avx512
    else if host.avx2 && host.avx then .avx2
    else .sse41
  else if host.leaf7 then
    if host.avx2 && host.avx then .avx2 else .sse41
  else .sse41

end ThermalSimd
