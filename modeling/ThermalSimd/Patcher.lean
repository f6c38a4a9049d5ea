import ThermalSimd.Trampoline

/-!
# The calls of the patcher

`tsd_trampoline_init`, `tsd_trampoline_patch`, `tsd_trampoline_self_validate` and
`tsd_attestation_get_active_hash` as functions of the patcher's globals and of what the host
answers. The selection is kept in several copies: the word, its mirrors, the context and the digest.
-/

namespace ThermalSimd

/-- The width as an `unsigned char`. -/
def SimdWidth.byte (width : SimdWidth) : Byte := BitVec.ofInt 8 width.toInt

/-- The globals of `patcher/trampoline.cpp` and `patcher/trampoline_state.c`. -/
structure Patcher where
  pageA : Address
  /-- `g_tsd_trampoline_ctx.active`. -/
  ctxActive : Address
  /-- `g_tsd_trampoline_ctx.inactive`. -/
  ctxInactive : Address
  slots : SimdWidth → Address
  /-- `slot->code` for the slot at an address. -/
  code : Address → List Byte
  /-- `g_tsd_page_a_effective_writable`. -/
  pageAWritable : Bool
  /-- `g_tsd_page_b_effective_writable`. -/
  pageBWritable : Bool
  selectionWord : Address
  currentWidth : SimdWidth
  currentWidthByte : Byte
  activeTrampoline : Address
  initialized : Bool
  lastPatchAttempt : Byte
  lastPatchedWidth : Byte
  activeHash : List Byte
  activeHashValid : Bool

/-- How a call fails: the text it reports and the `errno` it sets, if any. -/
structure Failure where
  text : Option String
  errno : Option Errno
  deriving DecidableEq

/-- `set_error`. -/
def setError (message : String) (errno : Errno) : Failure := ⟨some message, some errno⟩

def lockFailure (errno : Errno) : Failure := ⟨none, some errno⟩

/-- What the host answers while the table is built. -/
structure BuildEnv where
  /-- `sysconf(_SC_PAGESIZE)`. -/
  pageSize : ℤ
  /-- The `errno` it leaves. -/
  sysconfErrno : Option Errno
  mmap : Except Errno CodePage
  /-- The error of `mprotect`, if it fails. -/
  mprotect : Option Errno
  /-- `mapping_is_rx_not_writable` of the page. -/
  rx : Bool

/-- What the host answers during `tsd_trampoline_init`. -/
structure InitEnv where
  /-- The error of `g_tsd_patch_lock`, if it cannot be taken. -/
  patchLock : Option Errno
  build : BuildEnv
  /-- The error of `g_attestation_lock`, if it cannot be taken. -/
  attestationLock : Option Errno

/-- What the runtime guard and the host answer during `tsd_trampoline_patch`. -/
structure PatchEnv where
  /-- The error of `tsd_runtime_safety_write_enter`, if it fails. -/
  safetyWriteEnter : Option Errno
  widthAuthorized : Bool
  patchLock : Option Errno
  hasSse41 : Bool
  /-- `tsd_detect_max_simd` of the active configuration. -/
  allowedWidth : SimdWidth
  build : BuildEnv
  /-- `mapping_is_rx_not_writable` of the target. -/
  rx : Bool
  /-- `SHA256` returns a digest. -/
  hashed : Bool
  attestationLock : Option Errno

/-- What the host answers during `tsd_trampoline_self_validate`. -/
structure ValidateEnv where
  patchLock : Option Errno
  /-- `mapping_is_rx_not_writable` of the active slot. -/
  rx : Bool

/-- The buffer and what the host answers during `tsd_attestation_get_active_hash`. -/
structure HashEnv where
  buffer : Option ℕ
  patchLock : Option Errno
  attestationLock : Option Errno

namespace Patcher

def initial : Patcher where
  pageA := 0
  ctxActive := 0
  ctxInactive := 0
  slots := fun _ => 0
  code := fun _ => []
  pageAWritable := false
  pageBWritable := false
  selectionWord := 0
  currentWidth := .sse41
  currentWidthByte := SimdWidth.sse41.byte
  activeTrampoline := 0
  initialized := false
  lastPatchAttempt := SimdWidth.sse41.byte
  lastPatchedWidth := SimdWidth.sse41.byte
  activeHash := List.replicate 32 0
  activeHashValid := false

variable (p : Patcher)

/-- `tsd_trampoline_state_snapshot`. -/
def snapshot : Except Errno (SimdWidth × Address) := decodeSelection p.selectionWord

/-- `tsd_trampoline_state_current_width`. -/
def stateCurrentWidth : SimdWidth :=
  match p.snapshot with
  | .ok (width, _) => width
  | .error _ => p.currentWidth

/-- `tsd_trampoline_state_active`. -/
def stateActive : Address :=
  match p.snapshot with
  | .ok (_, active) => active
  | .error _ => p.activeTrampoline

/-- `tsd_trampoline_state_reset`. -/
def stateReset (active : Address) : Patcher :=
  { p with
    selectionWord := encodeSelection .sse41 active
    currentWidth := .sse41
    currentWidthByte := SimdWidth.sse41.byte
    activeTrampoline := active
    initialized := false
    lastPatchAttempt := SimdWidth.sse41.byte
    lastPatchedWidth := SimdWidth.sse41.byte }

/-- `tsd_trampoline_state_set_last_patch_attempt`. -/
def setLastPatchAttempt (width : ℤ) : Patcher :=
  { p with lastPatchAttempt := BitVec.ofInt 8 width }

/-- `tsd_trampoline_state_publish_selection`. -/
def publishSelection (width : SimdWidth) (active : Address) : Patcher :=
  if encodeSelection width active = 0 then p
  else
    { p with
      selectionWord := encodeSelection width active
      currentWidth := width
      currentWidthByte := width.byte
      activeTrampoline := active
      initialized := true
      lastPatchedWidth := width.byte }

/-- `discard_code_page`. -/
def discardCodePage : Patcher :=
  { p with
    pageA := 0
    ctxActive := 0
    ctxInactive := 0
    slots := fun _ => 0
    pageAWritable := false
    pageBWritable := false }

/-- The loop of `build_canonical_code_page`, and whether every payload is valid. -/
def fillSlots (page : CodePage) : List SimdWidth → Patcher → Patcher × Bool
  | [], p => (p, true)
  | width :: widths, p =>
    if HasEnbr64Prefix (canonicalPatch width) then
      fillSlots page widths
        { p with
          slots := Function.update p.slots width (page.slot width)
          code := Function.update p.code (page.slot width) (canonicalPatch width) }
    else (p, false)

/-- `build_canonical_code_page`. -/
def buildCanonicalCodePage (env : BuildEnv) : Patcher × Except Failure Unit :=
  if env.pageSize ≤ 0 then
    (p, .error (setError "failed to query page size" (env.sysconfErrno.getD .einval)))
  else if env.pageSize < 3 * 64 then
    (p, .error (setError "trampoline table exceeds page size" .e2big))
  else
    match env.mmap with
    | .error errno => (p, .error (setError "mmap(trampoline table)" errno))
    | .ok page =>
      let mapped := { p with pageA := page.base, pageAWritable := true, pageBWritable := false }
      match mapped.fillSlots page [.sse41, .avx2, .avx512] with
      | (filled, false) =>
        (filled.discardCodePage,
          .error (setError "invalid canonical trampoline payload" .einval))
      | (filled, true) =>
        match env.mprotect with
        | some errno =>
          (filled.discardCodePage, .error (setError "mprotect(trampoline table RX)" errno))
        | none =>
          let sealed := { filled with pageAWritable := false }
          if env.rx then (sealed, .ok ())
          else
            (sealed.discardCodePage,
              .error (setError "trampoline table failed RX verification" .eperm))

/-- The page is built if `page_a` is null. -/
def ensureCodePage (env : BuildEnv) : Patcher × Except Failure Unit :=
  if p.pageA = 0 then p.buildCanonicalCodePage env else (p, .ok ())

/-- `tsd_trampoline_init`. -/
def trampolineInit (env : InitEnv) : Patcher × Except Failure Unit :=
  match env.patchLock with
  | some errno => (p, .error (lockFailure errno))
  | none =>
    match p.ensureCodePage env.build with
    | (p, .error failure) => (p, .error failure)
    | (p, .ok ()) =>
      match env.attestationLock with
      | some errno => (p, .error (lockFailure errno))
      | none =>
        let selected :=
          { p with ctxActive := p.slots .sse41, ctxInactive := p.slots .avx2 }
        ({ selected.stateReset (p.slots .sse41) with activeHashValid := false }, .ok ())

section

variable (sha256 : List Byte → List Byte)

/-- The stores of `commit_selection_and_attestation`. -/
def commit (p : Patcher) (width : SimdWidth) (target : Address) : Patcher :=
  let selected :=
    { p with activeHashValid := false, ctxActive := target, ctxInactive := p.stateActive }
  { selected.publishSelection width target with
    activeHash := sha256 (p.code target)
    activeHashValid := true }

/-- `commit_selection_and_attestation`. -/
def commitSelectionAndAttestation (p : Patcher) (width : SimdWidth) (target : Address)
    (env : PatchEnv) : Patcher × Except Failure Unit :=
  if target = 0 then (p, .error (setError "null trampoline target" .einval))
  else if env.hashed = false then
    (p, .error (setError "failed to hash trampoline target" .eio))
  else
    match env.attestationLock with
    | some errno => (p, .error (setError "failed to lock attestation state" errno))
    | none => (p.commit sha256 width target, .ok ())

/-- `tsd_trampoline_patch` of `trampoline.cpp`, the private selector. -/
def patchImpl (p : Patcher) (newWidth : ℤ) (env : PatchEnv) : Patcher × Except Failure Unit :=
  match env.patchLock with
  | some errno => (p, .error (lockFailure errno))
  | none =>
    let attempted := p.setLastPatchAttempt newWidth
    match SimdWidth.ofInt? newWidth with
    | none => (attempted, .error (setError "invalid SIMD width" .einval))
    | some width =>
      if env.hasSse41 = false then
        (attempted, .error (setError "SSE4.1 is not supported by this host" .enotsup))
      else if env.allowedWidth < width then
        (attempted,
          .error (setError "requested SIMD width exceeds host or runtime policy" .enotsup))
      else
        match attempted.ensureCodePage env.build with
        | (p, .error failure) => (p, .error failure)
        | (p, .ok ()) =>
          if ¬ HasEnbr64Prefix (canonicalPatch width) then
            (p, .error (setError "missing ENDBR64 landing pad" .einval))
          else if p.slots width = 0 ∨ env.rx = false then
            (p, .error (setError "target trampoline is not immutable RX" .eperm))
          else p.commitSelectionAndAttestation sha256 width (p.slots width) env

/-- `tsd_trampoline_patch` of `trampoline_guard.c`. -/
def patch (p : Patcher) (newWidth : ℤ) (env : PatchEnv) : Patcher × Except Failure Unit :=
  match env.safetyWriteEnter with
  | some errno => (p, .error (lockFailure errno))
  | none =>
    if env.widthAuthorized = false then (p, .error ⟨none, some .eagain⟩)
    else
      match p.patchImpl sha256 newWidth env with
      | (p, .ok ()) => (p, .ok ())
      | (p, .error failure) =>
        (p, .error { failure with errno := some (failure.errno.getD .eio) })

end

/-- `tsd_trampoline_self_validate`. -/
def selfValidate (env : ValidateEnv) : Except Failure Unit :=
  match env.patchLock with
  | some errno => .error ⟨some "patch lock unavailable", some errno⟩
  | none =>
    if p.initialized = false then .error ⟨some "trampoline not initialised", none⟩
    else if p.stateActive = 0 then .error ⟨some "active trampoline unavailable", none⟩
    else if p.code p.stateActive ≠ canonicalPatch p.stateCurrentWidth then
      .error ⟨some "active slot checksum mismatch", none⟩
    else if ¬ HasEnbr64Prefix (p.code p.stateActive) then
      .error ⟨some "active slot missing ENDBR64", none⟩
    else if env.rx = false then .error ⟨some "active trampoline is not RX-only", none⟩
    else if p.pageAWritable ∨ p.pageBWritable then .error ⟨some "trampoline page writable", none⟩
    else .ok ()

/-- `tsd_attestation_get_active_hash`. -/
def getActiveHash (env : HashEnv) : Except Failure (List Byte) :=
  if env.buffer.getD 0 < 32 then .error ⟨some "buffer too small", some .einval⟩
  else
    match env.patchLock, env.attestationLock with
    | some errno, _ => .error (lockFailure errno)
    | none, some errno => .error (lockFailure errno)
    | none, none =>
      if p.activeHashValid = false then .error ⟨some "hash unavailable", some .enodata⟩
      else .ok p.activeHash

/-- The calls of the patcher. -/
inductive Call
  | init (env : InitEnv)
  | patch (newWidth : ℤ) (env : PatchEnv)
  | selfValidate (env : ValidateEnv)
  | getActiveHash (env : HashEnv)

def after (sha256 : List Byte → List Byte) (p : Patcher) : Call → Patcher
  | .init env => (p.trampolineInit env).1
  | .patch newWidth env => (p.patch sha256 newWidth env).1
  | .selfValidate _ | .getActiveHash _ => p

def run (sha256 : List Byte → List Byte) : List Call → Patcher → Patcher
  | [], p => p
  | call :: calls, p => run sha256 calls (p.after sha256 call)

private def fill (page : CodePage) (code : Address → List Byte) :
    List SimdWidth → Address → List Byte
  | [] => code
  | width :: widths =>
    fill page (Function.update code (page.slot width) (canonicalPatch width)) widths

theorem fillSlots_eq (page widths) (p : Patcher) :
    p.fillSlots page widths =
      ({ p with
          slots := fun width => if width ∈ widths then page.slot width else p.slots width
          code := fill page p.code widths }, true) := by
  induction widths generalizing p with
  | nil => simp [fillSlots, fill]
  | cons width widths ih =>
    rw [fillSlots, if_pos (canonicalPatch_valid width).2, ih]
    congr 2
    funext other
    by_cases same : other = width
    · subst same
      simp
    · simp [same]

theorem fill_apply (page code widths) {width}
    (filled : width ∈ widths ∨ code (page.slot width) = canonicalPatch width) :
    fill page code widths (page.slot width) = canonicalPatch width := by
  induction widths generalizing code with
  | nil => simpa [fill] using filled
  | cons next widths ih =>
    apply ih
    by_cases same : width = next
    · subst same
      exact .inr (Function.update_self _ _ _)
    · rcases filled with mem | already
      · exact .inl (by simpa [same] using mem)
      · refine .inr ?_
        rwa [Function.update_of_ne (page.slot_injective.ne same)]

def Table : Option CodePage → Prop
  | none => p.pageA = 0 ∧ ∀ width, p.slots width = 0
  | some page =>
    p.pageA = page.base ∧
      ∀ width, p.slots width = page.slot width ∧ p.code (page.slot width) = canonicalPatch width

/-- What `build_canonical_code_page` can leave. -/
inductive BuildOutcome (p : Patcher) : Patcher × Except Failure Unit → Prop
  | unmapped (failure : Failure) : BuildOutcome p (p, .error failure)
  | discarded (code : Address → List Byte) (failure : Failure) :
      BuildOutcome p ({ p.discardCodePage with code := code }, .error failure)
  | built {page : CodePage} {code : Address → List Byte}
      (filled : ∀ width, code (page.slot width) = canonicalPatch width) :
      BuildOutcome p
        ({ p with
            pageA := page.base
            slots := page.slot
            code := code
            pageAWritable := false
            pageBWritable := false }, .ok ())

theorem build_outcome (env) : BuildOutcome p (p.buildCanonicalCodePage env) := by
  have every : ∀ width : SimdWidth, width ∈ [SimdWidth.sse41, .avx2, .avx512] := by
    intro width
    cases width <;> simp
  rw [buildCanonicalCodePage]
  by_cases query : env.pageSize ≤ 0
  · rw [if_pos query]
    exact .unmapped _
  by_cases small : env.pageSize < 3 * 64
  · rw [if_neg query, if_pos small]
    exact .unmapped _
  rw [if_neg query, if_neg small]
  cases env.mmap with
  | error errno => exact .unmapped _
  | ok page =>
    simp only [fillSlots_eq, every, if_true]
    cases env.mprotect with
    | some errno => exact .discarded _ _
    | none =>
      cases env.rx with
      | true => exact .built fun width => fill_apply page p.code _ (.inl (every width))
      | false => exact .discarded _ _

def copies : Patcher :=
  { p with pageA := 0, slots := fun _ => 0, code := fun _ => [] }

end Patcher

end ThermalSimd
