import ThermalSimd.Patcher

/-!
# Selection and attestation

The calls of the patcher refine the operations of the selector on the trampoline state: the copies
of the selection stay together, and a valid digest is that of the selected slot.
-/

namespace ThermalSimd

open Relation (ReflTransGen)

namespace TrampolineState

/-- What a call may do to the state. -/
inductive Change (sha256 : List Byte → List Byte) : TrampolineState → TrampolineState → Prop
  | attempt {state} (attempted : Byte) :
      Change sha256 state { state with lastPatchAttempt := attempted }
  | discard {state} (missing : state.page = none) : Change sha256 state state.discardCodePage
  | build {state} (missing : state.page = none) (page : CodePage) :
      Change sha256 state (state.built page)
  | reset {state} (present : state.page.isSome) : Change sha256 state state.resetWord.resetMirrors
  | commit {state} (present : state.page.isSome) (width : SimdWidth) :
      Change sha256 state
        ((state.commitWord width).commitMirrors width (sha256 (canonicalPatch width)))

/-- The word selects a slot or nothing, and a digest is valid just while a patch is in force. -/
structure Attested (sha256 : List Byte → List Byte) (state : TrampolineState) : Prop where
  unbuilt : state.page = none →
    state.selectionWord = 0 ∧ state.ctxActive = 0 ∧ state.ctxInactive = 0
  selected : state.selectionWord = 0 ∨ ∃ width, state.Selects width
  hashed : state.activeHashValid = true →
    ∃ width, state.Selects width ∧ state.activeHash = sha256 (canonicalPatch width)
  initialized : state.initialized = state.activeHashValid

theorem Change.attested {sha256 before after} (change : Change sha256 before after)
    (attested : before.Attested sha256) : after.Attested sha256 := by
  cases change with
  | attempt =>
    exact { attested with }
  | discard missing =>
    obtain ⟨word, -, -⟩ := attested.unbuilt missing
    refine ⟨fun _ => ⟨word, rfl, rfl⟩, .inl word, fun valid => ?_, attested.initialized⟩
    obtain ⟨width, selects, -⟩ := attested.hashed valid
    exact absurd selects.page_isSome (by simp [missing])
  | build missing page =>
    obtain ⟨word, -, -⟩ := attested.unbuilt missing
    refine ⟨nofun, .inl word, fun valid => ?_, attested.initialized⟩
    obtain ⟨width, selects, -⟩ := attested.hashed valid
    exact absurd selects.page_isSome (by simp [missing])
  | reset present =>
    obtain ⟨page, built⟩ := Option.isSome_iff_exists.mp present
    have selects := selects_resetWord built
    exact ⟨fun missing => absurd (built.symm.trans missing) nofun, .inr ⟨.sse41, selects⟩, nofun,
      rfl⟩
  | commit present width =>
    obtain ⟨page, built⟩ := Option.isSome_iff_exists.mp present
    have selects := selects_commitWord built width
    exact ⟨fun missing => absurd (built.symm.trans missing) nofun, .inr ⟨width, selects⟩,
      fun _ => ⟨width, selects, rfl⟩, rfl⟩

end TrampolineState

namespace Patcher

/-- The globals hold the abstract state. -/
structure Refines (p : Patcher) (state : TrampolineState) : Prop where
  table : p.Table state.page
  ctxActive : p.ctxActive = state.ctxActive
  ctxInactive : p.ctxInactive = state.ctxInactive
  closed : p.pageAWritable = false ∧ p.pageBWritable = false
  selectionWord : p.selectionWord = state.selectionWord
  currentWidth : p.currentWidth = state.currentWidth
  currentWidthByte : p.currentWidthByte = state.currentWidth.byte
  activeTrampoline : p.activeTrampoline = state.activeTrampoline
  initialized : p.initialized = state.initialized
  lastPatchAttempt : p.lastPatchAttempt = state.lastPatchAttempt
  lastPatchedWidth : p.lastPatchedWidth = state.lastPatchedWidth.byte
  activeHashValid : p.activeHashValid = state.activeHashValid
  activeHash : state.activeHashValid = true → p.activeHash = state.activeHash

theorem initial_refines : initial.Refines TrampolineState.initial where
  table := ⟨rfl, fun _ => rfl⟩
  ctxActive := rfl
  ctxInactive := rfl
  closed := ⟨rfl, rfl⟩
  selectionWord := rfl
  currentWidth := rfl
  currentWidthByte := rfl
  activeTrampoline := rfl
  initialized := rfl
  lastPatchAttempt := rfl
  lastPatchedWidth := rfl
  activeHashValid := rfl
  activeHash := nofun

section

variable {p : Patcher} {state : TrampolineState} {page : CodePage} (refines : p.Refines state)
include refines

theorem Refines.slots (built : state.page = some page) (width) :
    p.slots width = page.slot width ∧ p.code (page.slot width) = canonicalPatch width := by
  have table := refines.table
  rw [built] at table
  exact table.2 width

theorem Refines.slot (built : state.page = some page) (width) :
    p.slots width = state.slot width := by
  rw [(refines.slots built width).1, TrampolineState.slot, built]

theorem Refines.snapshot : p.snapshot = state.snapshot := by
  rw [Patcher.snapshot, TrampolineState.snapshot, refines.selectionWord]

theorem Refines.stateActive : p.stateActive = state.stateActive := by
  rw [Patcher.stateActive, TrampolineState.stateActive, refines.snapshot]
  cases state.snapshot with
  | ok => rfl
  | error => exact refines.activeTrampoline

/-- `page_a` is null exactly while there is no table. -/
theorem Refines.pageA_eq_zero : p.pageA = 0 ↔ state.page = none := by
  have table := refines.table
  cases built : state.page with
  | none =>
    rw [built] at table
    exact iff_of_true table.1 rfl
  | some page =>
    rw [built] at table
    refine iff_of_false (fun null => ?_) nofun
    have pos := page.pos
    rw [← table.1, null] at pos
    exact absurd pos (by decide)

theorem Refines.attempt (newWidth) :
    (p.setLastPatchAttempt newWidth).Refines
      { state with lastPatchAttempt := BitVec.ofInt 8 newWidth } :=
  { refines with lastPatchAttempt := rfl }

theorem Refines.discard (code) :
    ({ p.discardCodePage with code := code }).Refines state.discardCodePage :=
  { refines with
    table := ⟨rfl, fun _ => rfl⟩
    ctxActive := rfl
    ctxInactive := rfl
    closed := ⟨rfl, rfl⟩ }

theorem Refines.build {code} (filled : ∀ width, code (page.slot width) = canonicalPatch width) :
    ({ p with
        pageA := page.base
        slots := page.slot
        code := code
        pageAWritable := false
        pageBWritable := false }).Refines (state.built page) :=
  { refines with
    table := ⟨rfl, fun width => ⟨rfl, filled width⟩⟩
    closed := ⟨rfl, rfl⟩ }

theorem Refines.commit_eq (built : state.page = some page) (sha256 width) :
    p.commit sha256 width (p.slots width) =
      { p with
        ctxActive := page.slot width
        ctxInactive := p.stateActive
        selectionWord := encodeSelection width (page.slot width)
        currentWidth := width
        currentWidthByte := width.byte
        activeTrampoline := page.slot width
        initialized := true
        lastPatchedWidth := width.byte
        activeHash := sha256 (canonicalPatch width)
        activeHashValid := true } := by
  obtain ⟨slot, code⟩ := refines.slots built width
  simp only [Patcher.commit, publishSelection, slot, code,
    if_neg (page.encodeSelection_slot_ne_zero width)]

theorem Refines.commit (built : state.page = some page) (sha256 width) :
    (p.commit sha256 width (p.slots width)).Refines
      ((state.commitWord width).commitMirrors width (sha256 (canonicalPatch width))) := by
  have slot : state.slot width = page.slot width := by rw [TrampolineState.slot, built]
  have word : (state.commitWord width).selectionWord = encodeSelection width (page.slot width) := by
    simp only [TrampolineState.commitWord, slot,
      if_neg (page.encodeSelection_slot_ne_zero width)]
  rw [refines.commit_eq built]
  exact
    { table := refines.table
      ctxActive := slot.symm
      ctxInactive := refines.stateActive
      closed := refines.closed
      selectionWord := word.symm
      currentWidth := rfl
      currentWidthByte := rfl
      activeTrampoline := slot.symm
      initialized := rfl
      lastPatchAttempt := refines.lastPatchAttempt
      lastPatchedWidth := rfl
      activeHashValid := rfl
      activeHash := fun _ => rfl }

theorem Refines.reset (built : state.page = some page) :
    ({ ({ p with ctxActive := p.slots .sse41, ctxInactive := p.slots .avx2 }).stateReset
          (p.slots .sse41) with activeHashValid := false }).Refines
      state.resetWord.resetMirrors :=
  { table := refines.table
    ctxActive := refines.slot built .sse41
    ctxInactive := refines.slot built .avx2
    closed := refines.closed
    selectionWord := congrArg (encodeSelection .sse41) (refines.slot built .sse41)
    currentWidth := rfl
    currentWidthByte := rfl
    activeTrampoline := refines.slot built .sse41
    initialized := rfl
    lastPatchAttempt := rfl
    lastPatchedWidth := rfl
    activeHashValid := rfl
    activeHash := nofun }

end

/-- They do, and what it attests is so. -/
structure Represents (sha256 : List Byte → List Byte) (p : Patcher) (state : TrampolineState) :
    Prop where
  refines : p.Refines state
  attested : state.Attested sha256

/-- The operations of the selector lead from `state` to what `p` represents. -/
def Reaches (sha256 : List Byte → List Byte) (state : TrampolineState) (p : Patcher)
    (next : TrampolineState) : Prop :=
  ReflTransGen (TrampolineState.Change sha256) state next ∧ p.Represents sha256 next

section

variable {sha256 : List Byte → List Byte} {p : Patcher} {state : TrampolineState}

theorem Reaches.trans {q middle next} (first : Reaches sha256 state p middle)
    (second : Reaches sha256 middle q next) : Reaches sha256 state q next :=
  ⟨first.1.trans second.1, second.2⟩

section

variable (represents : p.Represents sha256 state)
include represents

theorem Represents.reaches : Reaches sha256 state p state :=
  ⟨.refl, represents⟩

theorem Represents.change {q next} (change : TrampolineState.Change sha256 state next)
    (refines : q.Refines next) : Reaches sha256 state q next :=
  ⟨.single change, refines, change.attested represents.attested⟩

theorem Represents.ensureCodePage (env) :
    ∃ next, Reaches sha256 state (p.ensureCodePage env).1 next ∧
      (p.ensureCodePage env).1.copies = p.copies ∧
      ((p.ensureCodePage env).2 = .ok () → next.page.isSome) := by
  obtain ⟨closedA, closedB⟩ := represents.refines.closed
  by_cases null : p.pageA = 0
  · have missing := represents.refines.pageA_eq_zero.mp null
    obtain ⟨-, ctxActive, ctxInactive⟩ := represents.attested.unbuilt missing
    rw [← represents.refines.ctxActive] at ctxActive
    rw [← represents.refines.ctxInactive] at ctxInactive
    have out := p.build_outcome env
    rw [Patcher.ensureCodePage, if_pos null]
    generalize p.buildCanonicalCodePage env = res at out ⊢
    cases out with
    | unmapped failure => exact ⟨state, represents.reaches, rfl, nofun⟩
    | discarded code failure =>
      refine ⟨_, represents.change (.discard missing) (represents.refines.discard code), ?_,
        nofun⟩
      simp [copies, discardCodePage, ctxActive, ctxInactive, closedA, closedB]
    | built filled =>
      refine ⟨_, represents.change (.build missing _) (represents.refines.build filled), ?_,
        fun _ => rfl⟩
      simp [copies, closedA, closedB]
  · rw [Patcher.ensureCodePage, if_neg null]
    refine ⟨state, represents.reaches, rfl, fun _ => ?_⟩
    rw [represents.refines.pageA_eq_zero] at null
    exact Option.isSome_iff_ne_none.mpr null

/-- What `tsd_trampoline_patch` leaves: the copies as they were, or a commit on a built table. -/
inductive PatchOutcome (sha256 : List Byte → List Byte) (p : Patcher) (state : TrampolineState)
    (newWidth : ℤ) : Patcher × Except Failure Unit → Prop
  | failed {q next failure} (attempted : Byte) (reaches : Reaches sha256 state q next)
      (kept : q.copies = ({ p with lastPatchAttempt := attempted }).copies) :
      PatchOutcome sha256 p state newWidth (q, .error failure)
  | patched {q next width} (named : SimdWidth.ofInt? newWidth = some width)
      (reaches : Reaches sha256 state q next) (present : next.page.isSome)
      (kept : q.copies = (p.setLastPatchAttempt newWidth).copies) :
      PatchOutcome sha256 p state newWidth (q.commit sha256 width (q.slots width), .ok ())

theorem Represents.patchImpl_outcome (newWidth env) :
    PatchOutcome sha256 p state newWidth (p.patchImpl sha256 newWidth env) := by
  have attempts := represents.change (.attempt _) (represents.refines.attempt newWidth)
  obtain ⟨_, ensures, kept, present⟩ := attempts.2.ensureCodePage env.build
  have reaches := attempts.trans ensures
  rw [patchImpl]
  cases env.patchLock with
  | some errno => exact .failed p.lastPatchAttempt represents.reaches rfl
  | none =>
    cases named : SimdWidth.ofInt? newWidth with
    | none => exact .failed _ attempts rfl
    | some width =>
      dsimp only
      by_cases unsupported : env.hasSse41 = false
      · rw [if_pos unsupported]
        exact .failed _ attempts rfl
      by_cases above : env.allowedWidth < width
      · rw [if_neg unsupported, if_pos above]
        exact .failed _ attempts rfl
      rw [if_neg unsupported, if_neg above]
      generalize (p.setLastPatchAttempt newWidth).ensureCodePage env.build = ensured
        at reaches kept present ⊢
      obtain ⟨q, res⟩ := ensured
      cases res with
      | error => exact .failed _ reaches kept
      | ok =>
        have valid := (canonicalPatch_valid width).2
        dsimp only
        rw [if_neg (not_not.mpr valid)]
        by_cases refused : q.slots width = 0 ∨ env.rx = false
        · rw [if_pos refused]
          exact .failed _ reaches kept
        rw [if_neg refused, commitSelectionAndAttestation, if_neg (not_or.mp refused).1]
        by_cases unhashed : env.hashed = false
        · rw [if_pos unhashed]
          exact .failed _ reaches kept
        rw [if_neg unhashed]
        cases env.attestationLock with
        | some errno => exact .failed _ reaches kept
        | none => exact .patched named reaches (present rfl) kept

theorem Represents.patch_outcome (newWidth env) :
    PatchOutcome sha256 p state newWidth (p.patch sha256 newWidth env) := by
  rw [Patcher.patch]
  cases env.safetyWriteEnter with
  | some => exact .failed p.lastPatchAttempt represents.reaches rfl
  | none =>
    by_cases refused : env.widthAuthorized = false
    · rw [if_pos refused]
      exact .failed p.lastPatchAttempt represents.reaches rfl
    rw [if_neg refused]
    have out := represents.patchImpl_outcome newWidth env
    generalize p.patchImpl sha256 newWidth env = res at out ⊢
    cases out with
    | failed attempted reaches kept => exact .failed attempted reaches kept
    | patched named reaches present kept => exact .patched named reaches present kept

end

theorem Reaches.commit {q next}
    (reaches : Reaches sha256 state q next) (present : next.page.isSome) (width) :
    Reaches sha256 state (q.commit sha256 width (q.slots width))
      ((next.commitWord width).commitMirrors width (sha256 (canonicalPatch width))) := by
  obtain ⟨page, built⟩ := Option.isSome_iff_exists.mp present
  exact reaches.trans
    (reaches.2.change (.commit present width) (reaches.2.refines.commit built sha256 width))

section

variable (represents : p.Represents sha256 state)
include represents

theorem Represents.patch (newWidth env) :
    ∃ next, Reaches sha256 state (p.patch sha256 newWidth env).1 next := by
  have out := represents.patch_outcome newWidth env
  generalize p.patch sha256 newWidth env = res at out ⊢
  cases out with
  | failed _ reaches kept => exact ⟨_, reaches⟩
  | patched _ reaches present kept => exact ⟨_, reaches.commit present _⟩

theorem Represents.trampolineInit (env) :
    ∃ next, Reaches sha256 state (p.trampolineInit env).1 next := by
  obtain ⟨next, reaches, -, present⟩ := represents.ensureCodePage env.build
  rw [Patcher.trampolineInit]
  cases env.patchLock with
  | some errno => exact ⟨state, represents.reaches⟩
  | none =>
    generalize p.ensureCodePage env.build = ensured at reaches present ⊢
    obtain ⟨q, res⟩ := ensured
    cases res with
    | error => exact ⟨next, reaches⟩
    | ok =>
      cases env.attestationLock with
      | some errno => exact ⟨next, reaches⟩
      | none =>
        have isSome := present rfl
        obtain ⟨_, built⟩ := Option.isSome_iff_exists.mp isSome
        exact ⟨_, reaches.trans
          (reaches.2.change (.reset isSome) (reaches.2.refines.reset built))⟩

theorem Represents.after (call) :
    ∃ next, Reaches sha256 state (p.after sha256 call) next := by
  cases call with
  | init env => exact represents.trampolineInit env
  | patch newWidth env => exact represents.patch newWidth env
  | selfValidate env | getActiveHash env => exact ⟨state, represents.reaches⟩

theorem Represents.run (calls) :
    ∃ next, Reaches sha256 state (p.run sha256 calls) next := by
  induction calls generalizing p state with
  | nil => exact ⟨state, represents.reaches⟩
  | cons call calls ih =>
    obtain ⟨_, first⟩ := represents.after call
    obtain ⟨next, rest⟩ := ih first.2
    exact ⟨next, first.trans rest⟩

end

end

/-- All copies of the selection show it. -/
structure MirrorsAgree (p : Patcher) (width : SimdWidth) (active : Address) : Prop where
  ctxActive : p.ctxActive = active
  currentWidth : p.currentWidth = width
  currentWidthByte : p.currentWidthByte = width.byte
  activeTrampoline : p.activeTrampoline = active
  initialized : p.initialized = true
  lastPatchAttempt : p.lastPatchAttempt = width.byte
  lastPatchedWidth : p.lastPatchedWidth = width.byte

/-- The copies of the selection are together, and stay so over the next patch. -/
structure Coherent (sha256 : List Byte → List Byte) (p : Patcher) : Prop where
  selected : ∀ width active, p.snapshot = .ok (width, active) → active = p.slots width
  roundTrip : ∀ width (active : Address), active ≠ 0 → active.toNat % 64 = 0 →
    decodeSelection (encodeSelection width active) = .ok (width, active)
  attested : p.activeHashValid = true →
    ∃ width active, p.snapshot = .ok (width, active) ∧ p.activeHash = sha256 (p.code active)
  reported : ∀ env hash, p.getActiveHash env = .ok hash →
    ∃ width active, p.snapshot = .ok (width, active) ∧ hash = sha256 (p.code active)
  patched : ∀ newWidth env, (p.patch sha256 newWidth env).2 = .ok () →
    ∃ width active, width.toInt = newWidth ∧
      (p.patch sha256 newWidth env).1.snapshot = .ok (width, active) ∧
      (p.patch sha256 newWidth env).1.MirrorsAgree width active
  failed : ∀ newWidth env failure, (p.patch sha256 newWidth env).2 = .error failure →
    ∃ attempted,
      (p.patch sha256 newWidth env).1.copies = ({ p with lastPatchAttempt := attempted }).copies

section

variable {sha256 : List Byte → List Byte} {p : Patcher} {state : TrampolineState}

theorem of_getActiveHash {env hash} (reported : p.getActiveHash env = .ok hash) :
    p.activeHashValid = true ∧ hash = p.activeHash := by
  unfold getActiveHash at reported
  split at reported
  · exact absurd reported nofun
  · split at reported
    · exact absurd reported nofun
    · exact absurd reported nofun
    · split at reported
      · exact absurd reported nofun
      · rename_i valid
        cases reported
        exact ⟨by simpa using valid, rfl⟩

variable (represents : p.Represents sha256 state)
include represents

theorem Represents.selected {width active}
    (read : p.snapshot = .ok (width, active)) : active = p.slots width := by
  have snapshot := represents.refines.snapshot
  rcases represents.attested.selected with empty | ⟨selected, page, built, selects⟩
  · rw [read, TrampolineState.snapshot, empty] at snapshot
    cases snapshot
  · rw [read, selects] at snapshot
    cases snapshot
    exact (represents.refines.slots built width).1.symm

theorem Represents.hashed (valid : p.activeHashValid = true) :
    ∃ width active, p.snapshot = .ok (width, active) ∧ p.activeHash = sha256 (p.code active) := by
  have stateValid : state.activeHashValid = true := represents.refines.activeHashValid ▸ valid
  obtain ⟨width, ⟨page, built, selects⟩, hash⟩ := represents.attested.hashed stateValid
  refine ⟨width, page.slot width, represents.refines.snapshot.trans selects, ?_⟩
  rw [represents.refines.activeHash stateValid, hash, (represents.refines.slots built width).2]

theorem Represents.commit_mirrors (present : state.page.isSome) {newWidth width}
    (named : SimdWidth.ofInt? newWidth = some width)
    (attempted : p.lastPatchAttempt = BitVec.ofInt 8 newWidth) :
    (p.commit sha256 width (p.slots width)).snapshot = .ok (width, p.slots width) ∧
      (p.commit sha256 width (p.slots width)).MirrorsAgree width (p.slots width) := by
  obtain ⟨page, built⟩ := Option.isSome_iff_exists.mp present
  have slot := (represents.refines.slots built width).1
  rw [represents.refines.commit_eq built, slot]
  refine ⟨page.decodeSelection_slot width, ⟨rfl, rfl, rfl, rfl, rfl, ?_, rfl⟩⟩
  rw [SimdWidth.byte, SimdWidth.toInt_of_ofInt? named]
  exact attempted

theorem Represents.coherent : p.Coherent sha256 where
  selected _ _ read := represents.selected read
  roundTrip width _ pos aligned := decodeSelection_encodeSelection width pos aligned
  attested valid := represents.hashed valid
  reported env hash reported := by
    obtain ⟨valid, same⟩ := of_getActiveHash reported
    rw [same]
    exact represents.hashed valid
  patched newWidth env succeeded := by
    have out := represents.patch_outcome newWidth env
    generalize p.patch sha256 newWidth env = res at out succeeded ⊢
    cases out with
    | failed attempted reaches kept => exact absurd succeeded nofun
    | patched named reaches present kept =>
      have attempted := congrArg lastPatchAttempt kept
      obtain ⟨read, mirrors⟩ := reaches.2.commit_mirrors present named attempted
      exact ⟨_, _, SimdWidth.toInt_of_ofInt? named, read, mirrors⟩
  failed newWidth env failure fails := by
    have out := represents.patch_outcome newWidth env
    generalize p.patch sha256 newWidth env = res at out fails ⊢
    cases out with
    | failed attempted reaches kept => exact ⟨attempted, kept⟩
    | patched named reaches present kept => exact absurd fails nofun

theorem Represents.selfValidate_iff (env) :
    p.selfValidate env = .ok () ↔
      env.patchLock = none ∧ p.initialized = true ∧ env.rx = true := by
  rw [selfValidate]
  cases env.patchLock with
  | some => simp
  | none =>
    cases patched : p.initialized with
    | false => simp
    | true =>
      have valid : state.activeHashValid = true := by
        rw [← represents.attested.initialized, ← represents.refines.initialized, patched]
      obtain ⟨width, ⟨page, built, selects⟩, -⟩ := represents.attested.hashed valid
      have read := represents.refines.snapshot.trans selects
      have active : p.stateActive = page.slot width := by rw [stateActive, read]
      have current : p.stateCurrentWidth = width := by rw [stateCurrentWidth, read]
      have code := (represents.refines.slots built width).2
      have nonnull : page.slot width ≠ 0#64 := page.slot_ne_zero width
      cases env.rx with
      | false => simp [active, current, code, nonnull, (canonicalPatch_valid width).2]
      | true =>
        simp [active, current, code, nonnull, (canonicalPatch_valid width).2,
          represents.refines.closed]

end

theorem initial_represents (sha256) : initial.Represents sha256 TrampolineState.initial :=
  ⟨initial_refines, fun _ => ⟨rfl, rfl, rfl⟩, .inl rfl, nofun, rfl⟩

/-- After every sequence of calls the copies of the selection are together. -/
theorem run_coherent (sha256 : List Byte → List Byte) (calls : List Call) :
    (initial.run sha256 calls).Coherent sha256 := by
  obtain ⟨_, -, represents⟩ := (initial_represents sha256).run calls
  exact represents.coherent

def mappedPage : CodePage := ⟨4096, by decide, by decide, by decide⟩

def mappingHost : BuildEnv := ⟨4096, none, .ok mappedPage, none, true⟩

def grantingHost : PatchEnv := ⟨none, true, none, true, .avx2, mappingHost, true, true, none⟩

theorem run_coherent_avx2 :
    (initial.run id [.init ⟨none, mappingHost, none⟩, .patch 1 grantingHost]).activeHash =
      canonicalPatch .avx2 ∧
    ∃ width active,
      (initial.run id [.init ⟨none, mappingHost, none⟩, .patch 1 grantingHost]).snapshot =
        .ok (width, active) ∧
      (initial.run id [.init ⟨none, mappingHost, none⟩, .patch 1 grantingHost]).activeHash =
        (initial.run id [.init ⟨none, mappingHost, none⟩, .patch 1 grantingHost]).code active :=
  ⟨rfl, (run_coherent id [.init ⟨none, mappingHost, none⟩, .patch 1 grantingHost]).attested rfl⟩

theorem run_selfValidate_iff (sha256 calls env) :
    (initial.run sha256 calls).selfValidate env = .ok () ↔
      env.patchLock = none ∧ (initial.run sha256 calls).initialized = true ∧ env.rx = true := by
  obtain ⟨_, -, represents⟩ := (initial_represents sha256).run calls
  exact represents.selfValidate_iff env

end Patcher

end ThermalSimd
