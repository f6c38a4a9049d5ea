import Mathlib.Data.BitVec
import ThermalSimd.Width

/-!
# The trampoline table and its selection word

The immutable code page of `patcher/trampoline.cpp` and the published selection of
`patcher/trampoline_state.c`. One machine word holds the selected slot's address and, in its two low
bits, the width; the other published atomics are mirrors of it.
-/

namespace ThermalSimd

/-- `uintptr_t`. -/
abbrev Address := BitVec 64

abbrev Byte := BitVec 8

variable (width : SimdWidth)

def SimdWidth.bits : Address := BitVec.ofNat 64 width.toNat

/-- `TSD_SELECTION_WIDTH_MASK`. -/
def selectionWidthMask : Address := 3

/-- `encode_selection`; the range test on the width is its type. -/
def encodeSelection (active : Address) : Address :=
  if active = 0 ∨ active &&& selectionWidthMask ≠ 0 then 0 else active ||| width.bits

/-- The decoding in `tsd_trampoline_state_snapshot`. -/
def decodeSelection (word : Address) : Except Errno (SimdWidth × Address) :=
  if word = 0 then .error .enodev
  else
    let active := word &&& ~~~ selectionWidthMask
    match SimdWidth.ofInt? (word &&& selectionWidthMask).toNat with
    | none => .error .eio
    | some width => if active = 0 then .error .eio else .ok (width, active)

/-- A mapped page that holds the three 64-byte slots, as `mmap` returns it. -/
structure CodePage where
  /-- `page_a`. -/
  base : Address
  pos : 0 < base.toNat
  aligned : base.toNat % 64 = 0
  fits : base.toNat + 3 * 64 ≤ 2 ^ 64

/-- `g_slots[width]` on a page. -/
def CodePage.slot (page : CodePage) (width : SimdWidth) : Address :=
  page.base + BitVec.ofNat 64 (64 * width.toNat)

/-- `canonical_patch`. -/
def canonicalPatch : SimdWidth → List Byte
  | .sse41 =>
    [0xF3, 0x0F, 0x1E, 0xFA, 0x66, 0x0F, 0x70, 0xC0, 0x00, 0x66, 0x0F, 0x70, 0xC9, 0x00,
      0x66, 0x0F, 0x38, 0x40, 0xC1, 0xC3, 0x90, 0x90, 0x90, 0x90, 0x90, 0x90, 0x90, 0x90,
      0x90, 0x90, 0x90, 0x90]
  | .avx2 =>
    [0xF3, 0x0F, 0x1E, 0xFA, 0xC4, 0xE2, 0x7D, 0x58, 0xC0, 0xC4, 0xE2, 0x7D, 0x58, 0xC9,
      0xC4, 0xE2, 0x7D, 0x40, 0xC1, 0xC5, 0xF8, 0x77, 0xC3, 0x90, 0x90, 0x90, 0x90, 0x90,
      0x90, 0x90, 0x90, 0x90]
  | .avx512 =>
    [0xF3, 0x0F, 0x1E, 0xFA, 0x62, 0xF2, 0x7D, 0x48, 0x58, 0xC0, 0x62, 0xF2, 0x7D, 0x48,
      0x58, 0xC9, 0x62, 0xF2, 0x7D, 0x48, 0x40, 0xC1, 0xC5, 0xF8, 0x77, 0xC3, 0x90, 0x90,
      0x90, 0x90, 0x90, 0x90]

/-- `has_enbr64_prefix`: the first four bytes spell `ENDBR64`. -/
def HasEnbr64Prefix (code : List Byte) : Prop := code.take 4 = [0xF3, 0x0F, 0x1E, 0xFA]
  deriving Decidable

theorem canonicalPatch_valid :
    (canonicalPatch width).length = 32 ∧ HasEnbr64Prefix (canonicalPatch width) := by
  cases width <;> decide

/-- The code page and the published selection. -/
structure TrampolineState where
  /-- `g_tsd_trampoline_ctx.page_a` and the slots on it, once the table is built. -/
  page : Option CodePage
  /-- `g_tsd_trampoline_ctx.active`. -/
  ctxActive : Address
  /-- `g_tsd_trampoline_ctx.inactive`. -/
  ctxInactive : Address
  selectionWord : Address
  /-- `g_tsd_current_width`, and `g_tsd_current_width_byte` with it. -/
  currentWidth : SimdWidth
  activeTrampoline : Address
  initialized : Bool
  lastPatchAttempt : Byte
  lastPatchedWidth : SimdWidth
  activeHash : List Byte
  activeHashValid : Bool

namespace TrampolineState

def initial : TrampolineState where
  page := none
  ctxActive := 0
  ctxInactive := 0
  selectionWord := 0
  currentWidth := .sse41
  activeTrampoline := 0
  initialized := false
  lastPatchAttempt := 0
  lastPatchedWidth := .sse41
  activeHash := []
  activeHashValid := false

variable (state : TrampolineState)

/-- `tsd_trampoline_state_snapshot`. -/
def snapshot : Except Errno (SimdWidth × Address) :=
  decodeSelection state.selectionWord

/-- `tsd_trampoline_state_current_width`. -/
def stateCurrentWidth : SimdWidth :=
  match state.snapshot with
  | .ok (width, _) => width
  | .error _ => state.currentWidth

/-- `tsd_trampoline_state_active`. -/
def stateActive : Address :=
  match state.snapshot with
  | .ok (_, active) => active
  | .error _ => state.activeTrampoline

/-- `g_slots[width]`, null before the table is built. -/
def slot (state : TrampolineState) (width : SimdWidth) : Address :=
  match state.page with
  | some page => page.slot width
  | none => 0

/-- A successful `build_canonical_code_page`. -/
def built (page : CodePage) : TrampolineState :=
  { state with page := some page }

/-- `discard_code_page`, with which every failed build after `mmap` ends. -/
def discardCodePage : TrampolineState :=
  { state with page := none, ctxActive := 0, ctxInactive := 0 }

/-- `tsd_trampoline_state_reset`'s store, and what `tsd_trampoline_init` sets before. -/
def resetWord : TrampolineState :=
  { state with
    ctxActive := state.slot .sse41
    ctxInactive := state.slot .avx2
    selectionWord := encodeSelection .sse41 (state.slot .sse41) }

/-- The remaining stores of `tsd_trampoline_state_reset` and `tsd_trampoline_init`. -/
def resetMirrors : TrampolineState :=
  { state with
    currentWidth := .sse41
    activeTrampoline := state.slot .sse41
    initialized := false
    lastPatchAttempt := 0
    lastPatchedWidth := .sse41
    activeHashValid := false }

/-- `commit_selection_and_attestation` up to the store of the selection word. -/
def commitWord (width : SimdWidth) : TrampolineState :=
  { state with
    activeHashValid := false
    ctxActive := state.slot width
    ctxInactive := state.stateActive
    selectionWord :=
      if encodeSelection width (state.slot width) = 0 then state.selectionWord
      else encodeSelection width (state.slot width) }

/-- What `commit_selection_and_attestation` stores after the word. -/
def commitMirrors (width : SimdWidth) (hash : List Byte) : TrampolineState :=
  { state with
    currentWidth := width
    activeTrampoline := state.slot width
    initialized := true
    lastPatchedWidth := width
    activeHash := hash
    activeHashValid := true }

end TrampolineState

theorem and_selectionWidthMask_eq_zero {address} (aligned : address.toNat % 64 = 0) :
    address &&& selectionWidthMask = 0 := by
  have mask : selectionWidthMask.toNat = 2 ^ 2 - 1 := rfl
  rw [← BitVec.toNat_inj, BitVec.toNat_and, mask, Nat.and_two_pow_sub_one_eq_mod]
  change address.toNat % 4 = 0
  omega

theorem and_not_selectionWidthMask {address} (aligned : address.toNat % 64 = 0) :
    address &&& ~~~ selectionWidthMask = address := by
  have low := and_selectionWidthMask_eq_zero aligned
  calc
    address &&& ~~~ selectionWidthMask
        = address &&& selectionWidthMask ||| address &&& ~~~ selectionWidthMask := by simp [low]
    _ = address &&& (selectionWidthMask ||| ~~~ selectionWidthMask) :=
        BitVec.and_or_distrib_left.symm
    _ = address := by rw [BitVec.or_not_self, BitVec.and_allOnes]

theorem decodeSelection_encodeSelection {active} (pos : active ≠ 0)
    (aligned : active.toNat % 64 = 0) :
    decodeSelection (encodeSelection width active) = .ok (width, active) := by
  have low := and_selectionWidthMask_eq_zero aligned
  have encoded : encodeSelection width active = active ||| width.bits :=
    if_neg (not_or.mpr ⟨pos, not_not.mpr low⟩)
  have width_part : (active ||| width.bits) &&& selectionWidthMask = width.bits := by
    rw [BitVec.and_or_distrib_right, low]
    cases width <;> decide
  have slot_part : (active ||| width.bits) &&& ~~~ selectionWidthMask = active := by
    rw [BitVec.and_or_distrib_right, and_not_selectionWidthMask aligned]
    cases width <;> simp [SimdWidth.bits, SimdWidth.toNat, selectionWidthMask]
  have nonzero : active ||| width.bits ≠ 0 := by
    intro zero
    rw [zero] at slot_part
    exact pos (by simpa using slot_part.symm)
  have width_read : SimdWidth.ofInt? width.bits.toNat = some width := by cases width <;> rfl
  simp only [encoded, decodeSelection, if_neg nonzero, slot_part, width_part, width_read,
    if_neg pos]

namespace CodePage

variable (page : CodePage) (width : SimdWidth)

theorem slot_toNat : (page.slot width).toNat = page.base.toNat + 64 * width.toNat := by
  have fits := page.fits
  have offset : 64 * width.toNat ≤ 128 := by cases width <;> decide
  rw [slot, BitVec.toNat_add, BitVec.toNat_ofNat]
  omega

theorem slot_ne_zero : page.slot width ≠ 0 := by
  intro zero
  have v := page.slot_toNat width
  rw [zero] at v
  have pos := page.pos
  simp at v
  omega

theorem slot_injective : Function.Injective page.slot := by
  intro left right equality
  have values : (page.slot left).toNat = (page.slot right).toNat := by rw [equality]
  rw [page.slot_toNat, page.slot_toNat] at values
  apply SimdWidth.toNat_injective
  omega

theorem decodeSelection_slot :
    decodeSelection (encodeSelection width (page.slot width)) = .ok (width, page.slot width) :=
  decodeSelection_encodeSelection width (page.slot_ne_zero width) <| by
    rw [page.slot_toNat]
    have aligned := page.aligned
    omega

theorem encodeSelection_slot_ne_zero : encodeSelection width (page.slot width) ≠ 0 := by
  intro zero
  have decoded := page.decodeSelection_slot width
  simp [zero, decodeSelection] at decoded

end CodePage

namespace TrampolineState

variable {state : TrampolineState} {width : SimdWidth}

def Selects (state : TrampolineState) (width : SimdWidth) : Prop :=
  ∃ page, state.page = some page ∧ state.snapshot = .ok (width, page.slot width)

theorem Selects.stateCurrentWidth (selects : state.Selects width) :
    state.stateCurrentWidth = width := by
  obtain ⟨_, -, snapshot⟩ := selects
  rw [TrampolineState.stateCurrentWidth, snapshot]

theorem Selects.eq_of_snapshot {width width' active} (selects : state.Selects width)
    (read : state.snapshot = .ok (width', active)) : width = width' := by
  obtain ⟨_, -, snapshot⟩ := selects
  rw [snapshot] at read
  cases read
  rfl

theorem Selects.page_isSome (selects : state.Selects width) : state.page.isSome := by
  obtain ⟨page, built, -⟩ := selects
  simp [built]

theorem selects_resetWord {page} (built : state.page = some page) :
    state.resetWord.Selects .sse41 := by
  refine ⟨page, built, ?_⟩
  simp only [snapshot, resetWord, slot, built]
  exact page.decodeSelection_slot .sse41

theorem selects_commitWord {page} (built : state.page = some page) (width) :
    (state.commitWord width).Selects width := by
  refine ⟨page, built, ?_⟩
  simp only [snapshot, commitWord, slot, built, if_neg (page.encodeSelection_slot_ne_zero width)]
  exact page.decodeSelection_slot width

/-- The selection word stays, and so does a table that exists. -/
structure KeepsSelection (before after : TrampolineState) : Prop where
  word : after.selectionWord = before.selectionWord
  page : before.page.isSome → after.page = before.page

theorem KeepsSelection.refl (state : TrampolineState) : state.KeepsSelection state :=
  ⟨rfl, fun _ => rfl⟩

theorem KeepsSelection.selects {before after : TrampolineState}
    (keeps : before.KeepsSelection after) (selects : before.Selects width) :
    after.Selects width := by
  obtain ⟨page, built, read⟩ := selects
  refine ⟨page, (keeps.page (by simp [built])).trans built, ?_⟩
  rw [snapshot, keeps.word]
  exact read

end TrampolineState

end ThermalSimd
