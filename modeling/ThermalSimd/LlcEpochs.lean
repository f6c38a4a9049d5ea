import ThermalSimd.PerfWindows

/-!
# Epochs of the LLC counter

Opening, resetting and closing the LLC event each end an epoch of its counter; values read in
different epochs cannot be subtracted. When do the two values an evaluation subtracts belong to one
epoch?
-/

namespace ThermalSimd

/-- What happens to the LLC event and to `last_llc_value`. -/
inductive LlcOp
  | opened
  | reset
  | closed
  | read (value : UInt64)
  /-- `last_llc_value` becomes the value read last. -/
  | kept
  /-- `last_llc_value` becomes zero, which nothing has read. -/
  | cleared
  deriving DecidableEq

/-- A value with the epoch of its counter. -/
structure LlcReading where
  epoch : ℕ
  value : UInt64
  deriving DecidableEq

/-- The current epoch, the latest reading, and the one `last_llc_value` holds, if any. -/
structure LlcTrack where
  epoch : ℕ
  latest : Option LlcReading
  stored : Option LlcReading
  deriving DecidableEq

namespace LlcTrack

def apply (track : LlcTrack) : LlcOp → LlcTrack
  | .opened | .reset | .closed => { track with epoch := track.epoch + 1 }
  | .read value => { track with latest := some ⟨track.epoch, value⟩ }
  | .kept => { track with stored := track.latest }
  | .cleared => { track with stored := none }

def run (track : LlcTrack) (ops : List LlcOp) : LlcTrack := ops.foldl apply track

@[simp]
theorem run_append (track : LlcTrack) (left right) :
    track.run (left ++ right) = (track.run left).run right :=
  List.foldl_append

/-- `last_llc_value` and the latest value were both read in the current epoch. -/
structure SameEpoch (track : LlcTrack) (previous now : UInt64) : Prop where
  stored : track.stored = some ⟨track.epoch, previous⟩
  latest : track.latest = some ⟨track.epoch, now⟩

end LlcTrack

namespace PerfCtx

variable (ctx : PerfCtx) (input : EvalInput)

def closeLlcOps : List LlcOp := if ctx.fdLlcMisses < 0 then [] else [.closed]

/-- The operations of `close_perf_events`. -/
def closePerfEventsOps : List LlcOp := ctx.closeLlcOps ++ [.cleared]

/-- The operations of `open_llc_event`. -/
def openLlcEventOps (llc : Except Errno ℕ) : List LlcOp :=
  ctx.closeLlcOps ++
    match llc with
    | .error _ => []
    | .ok _ => [.opened]

/-- The operations of `open_perf_events`. -/
def openPerfEventsOps (input : OpenInput) : List LlcOp :=
  ctx.closePerfEventsOps ++
    match input.cycles, input.insns with
    | .error _, _ => []
    | .ok _, .error _ => ctx.closePerfEvents.closePerfEventsOps
    | .ok _, .ok _ => ctx.closePerfEvents.openLlcEventOps input.llc

/-- The operations of `enable_optional_llc`. -/
def enableOptionalLlcOps (reset enable : Bool) : List LlcOp :=
  if ctx.fdLlcMisses < 0 then []
  else if reset = false then [.closed]
  else if enable = false then [.reset, .closed]
  else [.reset]

/-- The operations of `enable_perf_events_strict`. -/
def enablePerfEventsStrictOps (input : EnableInput) : List LlcOp :=
  if ctx.fdCycles < 0 ∨ ctx.fdInsns < 0 then []
  else if input.reset = false ∨ input.enable = false then []
  else ctx.enableOptionalLlcOps input.llcReset input.llcEnable

/-- The operations of one `tsd_perf_read_exact` of the LLC event. -/
def readLlcOps (llc : Option UInt64) : List LlcOp :=
  match readExact ctx.fdLlcMisses llc with
  | none => []
  | some value => [.read value]

/-- `last_llc_value = llc_after` in `measure_hardware_baseline`: the later value read, or zero. -/
def baselineKeepOp (input : BaselineInput) : LlcOp :=
  match readExact ctx.fdLlcMisses input.llcBefore, readExact ctx.fdLlcMisses input.llcAfter with
  | none, none => .cleared
  | _, _ => .kept

/-- The operations of `measure_hardware_baseline`. -/
def baselineOps (input : BaselineInput) : List LlcOp :=
  match readExact ctx.fdCycles input.before with
  | none => []
  | some before =>
    if before.nr ≠ 2 then []
    else ctx.readLlcOps input.llcBefore ++
      match readExact ctx.fdCycles input.after with
      | none => []
      | some after =>
        if after.nr ≠ 2 ∨ ¬ GroupBaselineProgressValid before after then []
        else ctx.readLlcOps input.llcAfter ++
          if (scaledDeltas before after).1 = 0 ∨ (scaledDeltas before after).2 = 0 then []
          else [ctx.baselineKeepOp input]

def validateOps (cfg : RuntimeConfig) (events : EnableInput) (baseline : BaselineInput) :
    List LlcOp :=
  ctx.enablePerfEventsStrictOps events ++
    match ctx.enablePerfEventsStrict events with
    | (enabled, false) => enabled.closePerfEventsOps
    | (enabled, true) =>
      enabled.baselineOps baseline ++
        match enabled.measureHardwareBaseline cfg baseline with
        | none => enabled.closePerfEventsOps
        | some _ => []

/-- The operations of `tsd_perf_enable`. -/
def enableOps (input : EnableInput) : List LlcOp :=
  if ctx.mode ≠ .hardware then []
  else
    ctx.enablePerfEventsStrictOps input ++
      match ctx.enablePerfEventsStrict input with
      | (_, true) => []
      | (enabled, false) => enabled.closePerfEventsOps

/-- The operations of `tsd_perf_measure_baseline`. -/
def measureBaselineOps (cfg : RuntimeConfig) (input : MeasureInput) : List LlcOp :=
  match ctx.mode with
  | .software => [.cleared]
  | .none => []
  | .hardware => ctx.validateOps cfg input.events input.baseline

/-- The operations of `try_recover_hardware`. -/
def tryRecoverHardwareOps (input : RecoverInput) : List LlcOp :=
  if ctx.mode ≠ .software ∨ ¬ ctx.PerfRetryDue input.now then []
  else
    ctx.openPerfEventsOps input.opens ++
      match ctx.openPerfEvents input.opens with
      | (_, .error _) => []
      | (opened, .ok ()) => opened.validateOps input.snapshot input.events input.baseline

/-- The operations of `try_recover_llc`. -/
def tryRecoverLlcOps (input : LlcRecoverInput) : List LlcOp :=
  if ctx.mode ≠ .hardware ∨ 0 ≤ ctx.fdLlcMisses ∨ ¬ ctx.LlcRetryDue input.now then []
  else
    ctx.openLlcEventOps input.opens ++
      match ctx.openLlcEvent input.opens input.failedAt with
      | (_, false) => []
      | (opened, true) =>
        opened.enableOptionalLlcOps input.reset input.enable ++
          match opened.enableOptionalLlc input.reset input.enable input.failedAt with
          | (_, false) => []
          | (enabled, true) =>
            match readExact enabled.fdLlcMisses input.seed with
            | none => [.closed]
            | some seed => [.read seed, .kept]

def currentLlcOps : List LlcOp :=
  if ctx.fdLlcMisses < 0 then []
  else
    match readExact ctx.fdLlcMisses input.llc with
    | none => [.closed]
    | some value => [.read value]

def comparedOps : List LlcOp :=
  ctx.tryRecoverLlcOps input.llcRecover ++
    (ctx.tryRecoverLlc input.llcRecover).currentLlcOps input

/-- `last_llc_value = llc_now` where the cycle cursor moves; zero while the event is closed. -/
def judgedOps (path : EvalPath) : List LlcOp :=
  match path with
  | .first | .idle | .observed => if ctx.fdLlcMisses < 0 then [.cleared] else [.kept]
  | .failed => ctx.closePerfEventsOps
  | _ => []

/-- The operations of `tsd_perf_evaluate`. -/
def evaluateOps : List LlcOp :=
  match ctx.mode with
  | .software => ctx.tryRecoverHardwareOps input.recover
  | .none => []
  | .hardware =>
    if ctx.hardwareValidated then
      match readExact ctx.fdCycles input.group with
      | none =>
        ctx.tryRecoverLlcOps input.llcRecover ++
          (ctx.tryRecoverLlc input.llcRecover).closePerfEventsOps
      | some now =>
        if now.nr ≠ 2 then
          ctx.tryRecoverLlcOps input.llcRecover ++
            (ctx.tryRecoverLlc input.llcRecover).closePerfEventsOps
        else
          ctx.comparedOps input ++
            (ctx.readFor input).judgedOps ((ctx.readFor input).readingPath now)
    else []

def llcOps : PerfCall → List LlcOp
  | .enable input _ => ctx.enableOps input
  | .measureBaseline cfg input => ctx.measureBaselineOps cfg input
  | .evaluate _ input => ctx.evaluateOps input
  | .checkSoftwareTimeout _ _ => []

/-- While the event is open, `last_llc_value` was read in the current epoch. -/
def Current (track : LlcTrack) : Prop :=
  0 ≤ ctx.fdLlcMisses → track.stored = some ⟨track.epoch, ctx.lastLlcValue⟩

theorem Current.of_closed {ctx : PerfCtx} (closed : ctx.fdLlcMisses < 0) (track) :
    ctx.Current track :=
  fun opened => absurd closed (not_lt.mpr opened)

theorem dropLlc_closed (now) : (ctx.dropLlc now).fdLlcMisses < 0 := by
  unfold dropLlc scheduleLlcRetry
  split
  · exact Int.negSucc_lt_zero 0
  · exact Int.negSucc_lt_zero 0

theorem Current.tryRecoverLlc {ctx : PerfCtx} {track} (current : ctx.Current track) (input) :
    (ctx.tryRecoverLlc input).Current (track.run (ctx.tryRecoverLlcOps input)) := by
  unfold PerfCtx.tryRecoverLlc tryRecoverLlcOps
  split
  · exact current
  rw [LlcTrack.run_append]
  cases input.opens with
  | error e => exact .of_closed (ctx.dropLlc_closed _) _
  | ok fd =>
    dsimp only [openLlcEvent]
    generalize { ctx with fdLlcMisses := (fd : ℤ), llcRetry := .reset } = opened
    rw [LlcTrack.run_append]
    cases enables : opened.enableOptionalLlc input.reset input.enable input.failedAt with
    | mk enabled success =>
      cases success with
      | false =>
        unfold enableOptionalLlc at enables
        split at enables <;> cases enables
        exact .of_closed (opened.dropLlc_closed _) _
      | true =>
        dsimp only
        cases readExact enabled.fdLlcMisses input.seed with
        | none => exact .of_closed (dropLlc_closed _ _) _
        | some seed => exact fun _ => rfl

theorem Current.compared {ctx : PerfCtx} {track} (current : ctx.Current track)
    (input) (opened : 0 ≤ (ctx.readFor input).fdLlcMisses) :
    (track.run (ctx.comparedOps input)).SameEpoch (ctx.readFor input).lastLlcValue
      (ctx.llcNow input) := by
  have recovered := current.tryRecoverLlc input.llcRecover
  rw [comparedOps, LlcTrack.run_append]
  unfold readFor llcNow at *
  generalize ctx.tryRecoverLlc input.llcRecover = recovers at recovered opened ⊢
  unfold readLlc currentLlcOps at *
  by_cases closed : recovers.fdLlcMisses < 0
  · rw [if_pos closed] at opened
    exact absurd closed (not_lt.mpr opened)
  · rw [if_neg closed] at opened ⊢
    rw [if_neg closed]
    generalize readExact recovers.fdLlcMisses input.llc = res at opened ⊢
    cases res with
    | none => exact absurd (recovers.dropLlc_closed input.llcFailedAt) (not_lt.mpr opened)
    | some => exact ⟨recovered (not_lt.mp closed), rfl⟩

theorem failClosed_closed (reason input) : (ctx.failClosed reason input).fdLlcMisses < 0 := by
  have closed : (ctx.failClosed reason input).fdLlcMisses = -1 :=
    congrArg Cursors.fdLlcMisses (ctx.cursors_failClosed reason input)
  rw [closed]
  decide

theorem ReadingOutcome.current {ctx input now llcNow path handed} {track : LlcTrack}
    (out : ReadingOutcome ctx input now llcNow path handed)
    (same : 0 ≤ ctx.fdLlcMisses → track.SameEpoch ctx.lastLlcValue llcNow) :
    handed.1.Current (track.run (ctx.judgedOps path)) := by
  have keeps (opened : 0 ≤ ctx.fdLlcMisses) :
      (track.run (if ctx.fdLlcMisses < 0 then [.cleared] else [.kept])).stored =
        some ⟨track.epoch, llcNow⟩ := by
    rw [if_neg (not_lt.mpr opened)]
    exact (same opened).latest
  have stays : (track.run (if ctx.fdLlcMisses < 0 then [.cleared] else [.kept])).epoch =
      track.epoch := by
    split <;> rfl
  cases out with
  | failed => exact .of_closed (failClosed_closed _ _ _) _
  | stalled => exact fun opened => (same opened).stored
  | first | idle | unworked | measured =>
    intro opened
    rw [judgedOps, stays]
    exact keeps opened

theorem baselineReads_eq_some {ctx : PerfCtx} {input before after}
    (reads : ctx.baselineReads input = some (before, after)) :
    readExact ctx.fdCycles input.before = some before ∧ before.nr = 2 ∧
      readExact ctx.fdCycles input.after = some after ∧ after.nr = 2 ∧
      GroupBaselineProgressValid before after ∧
      (scaledDeltas before after).1 ≠ 0 ∧ (scaledDeltas before after).2 ≠ 0 := by
  simp only [baselineReads, Option.bind_eq_bind, Option.bind_eq_some_iff, guard, Option.pure_def,
    Option.ite_none_right_eq_some, Option.failure_eq_none, Option.some.injEq,
      Prod.mk.injEq] at reads
  obtain ⟨_, first, _, ⟨layout, -⟩, _, second, _, ⟨layout', -⟩, _, ⟨progress, -⟩, _, ⟨scaled, -⟩,
    rfl, rfl⟩ := reads
  exact ⟨first, layout, second, layout', progress, scaled⟩

theorem current_acceptBaseline {ctx : PerfCtx} {input before after} (cfg)
    (reads : ctx.baselineReads input = some (before, after))
    (sighted : 0 ≤ ctx.fdLlcMisses → input.llcBefore ≠ none ∨ input.llcAfter ≠ none)
    (track : LlcTrack) :
    (ctx.acceptBaseline cfg input before after).Current (track.run (ctx.baselineOps input)) := by
  obtain ⟨first, layout, second, layout', progress, scaled⟩ := baselineReads_eq_some reads
  intro opened
  have unclosed : ¬ ctx.fdLlcMisses < 0 := not_lt.mpr opened
  have sees := sighted opened
  rw [baselineOps, first]
  dsimp only
  rw [if_neg (not_not.mpr layout), second]
  dsimp only
  rw [if_neg (not_or.mpr ⟨not_not.mpr layout', not_not.mpr progress⟩), if_neg (not_or.mpr scaled)]
  simp only [acceptBaseline, record, readLlcOps, baselineKeepOp, readExact, unclosed, if_false]
  cases earlier : input.llcBefore with
  | none =>
    cases later : input.llcAfter with
    | none => simp [earlier, later] at sees
    | some v => rfl
  | some v =>
    cases input.llcAfter with
    | none | some later => rfl

/-- A hardware baseline that has the LLC event open reads it successfully at least once. -/
def Sighted : PerfCall → Prop
  | .measureBaseline _ input =>
    ctx.mode = .hardware → 0 ≤ (ctx.enablePerfEventsStrict input.events).1.fdLlcMisses →
      input.baseline.llcBefore ≠ none ∨ input.baseline.llcAfter ≠ none
  | .evaluate _ input =>
    ctx.mode = .software →
      0 ≤ ((ctx.openPerfEvents input.recover.opens).1.enablePerfEventsStrict
        input.recover.events).1.fdLlcMisses →
      input.recover.baseline.llcBefore ≠ none ∨ input.recover.baseline.llcAfter ≠ none
  | _ => True

section

variable {ctx : PerfCtx} {track : LlcTrack}

theorem validateOps_accepted {cfg events baseline enabled before after}
    (enables : ctx.enablePerfEventsStrict events = (enabled, true))
    (reads : enabled.baselineReads baseline = some (before, after)) :
    ctx.validateOps cfg events baseline =
      ctx.enablePerfEventsStrictOps events ++ enabled.baselineOps baseline := by
  rw [validateOps, enables]
  dsimp only
  rw [measureHardwareBaseline, reads]
  dsimp only [Option.map_some]
  rw [List.append_nil]

theorem Current.setMode (current : ctx.Current track) (mode reason input) :
    (ctx.setMode mode reason input).Current track := by
  have same := ctx.cursors_setMode mode reason input
  have fd := congrArg Cursors.fdLlcMisses same
  have v := congrArg Cursors.lastLlcValue same
  simp only [cursors] at fd v
  rw [Current, fd, v]
  exact current

theorem current_measureBaseline (hw : ctx.mode = .hardware) {cfg input}
    (sighted : ctx.Sighted (.measureBaseline cfg input)) :
    (ctx.measureBaseline cfg input).Current (track.run (ctx.measureBaselineOps cfg input)) := by
  have out := ctx.baseline_outcome hw cfg input
  generalize ctx.measureBaseline cfg input = left at out ⊢
  cases out with
  | rejected => exact .of_closed (failClosed_closed _ _ _) _
  | accepted enables reads =>
    have sees := sighted hw
    rw [enables] at sees
    rw [measureBaselineOps, hw]
    rw [validateOps_accepted enables reads, LlcTrack.run_append]
    exact current_acceptBaseline cfg reads sees _

theorem current_tryRecoverHardware (sw : ctx.mode = .software)
    (unvalidated : ctx.hardwareValidated = false) {cfg input}
    (sighted : ctx.Sighted (.evaluate cfg input)) :
    (ctx.tryRecoverHardware input.recover).1.hardwareValidated = true →
      (ctx.tryRecoverHardware input.recover).1.Current
        (track.run (ctx.tryRecoverHardwareOps input.recover)) := by
  have out := ctx.recovery_outcome input.recover
  generalize ctx.tryRecoverHardware input.recover = res at out ⊢
  intro validated
  cases out with
  | waits => exact absurd (unvalidated.symm.trans validated) nofun
  | rejected _ closed => exact .of_closed (by rw [closed]; decide) _
  | recovered _ due opens enables reads =>
    have sees := sighted sw
    rw [opens] at sees
    rw [enables] at sees
    have attempted := not_or.mpr ⟨not_not.mpr sw, not_not.mpr due⟩
    rw [tryRecoverHardwareOps, if_neg attempted, opens]
    dsimp only
    rw [validateOps_accepted enables reads, LlcTrack.run_append, LlcTrack.run_append]
    apply Current.setMode
    exact current_acceptBaseline input.recover.snapshot reads sees _

theorem current_evaluate_software (sw : ctx.mode = .software)
    (unvalidated : ctx.hardwareValidated = false) {cfg input}
    (sighted : ctx.Sighted (.evaluate cfg input)) :
    (ctx.sampled input).1.hardwareValidated = true →
      (ctx.sampled input).1.Current (track.run (ctx.evaluateOps input)) := by
  have probes := @current_tryRecoverHardware ctx track sw unvalidated cfg input sighted
  rw [sampled, evaluateOps, sw]
  unfold sampleSoftware
  generalize ctx.tryRecoverHardware input.recover = res at probes ⊢
  obtain ⟨_, recovers⟩ := res
  cases recovers with
  | true => exact probes
  | false =>
    dsimp only
    split
    · exact probes
    split <;> exact probes

theorem Current.evaluate_hardware (current : ctx.Current track) (hw : ctx.mode = .hardware)
    (validated : ctx.hardwareValidated = true) (input) :
    (ctx.sampled input).1.Current (track.run (ctx.evaluateOps input)) := by
  have sample := ctx.hardwareSample input hw validated
  generalize ctx.sampled input = handed at sample ⊢
  cases sample with
  | lost => exact .of_closed (failClosed_closed _ _ _) _
  | read reads out =>
    rw [evaluateOps, hw]
    rw [if_pos validated, reads.read]
    dsimp only
    rw [if_neg (not_not.mpr reads.layout), LlcTrack.run_append]
    exact out.current (current.compared input)

/-- Calls keep `last_llc_value` in the current epoch while the counters are validated, if baselines
read the LLC counter and events are enabled only before. -/
theorem current_perform {call} (sw : ctx.mode = .software → ctx.hardwareValidated = false)
    (enables : ∀ input failure, call = .enable input failure → ctx.hardwareValidated = false)
    (sighted : ctx.Sighted call) (current : ctx.hardwareValidated = true → ctx.Current track) :
    (ctx.perform call).hardwareValidated = true →
      (ctx.perform call).Current (track.run (ctx.llcOps call)) := by
  cases call with
  | enable input failure =>
    have unvalidated := enables input failure rfl
    have only := ctx.llcOnly_enablePerfEventsStrict input
    rw [perform, enable]
    split
    · exact fun validated => absurd (unvalidated.symm.trans validated) Bool.false_ne_true
    · generalize ctx.enablePerfEventsStrict input = res at only ⊢
      obtain ⟨_, success⟩ := res
      cases success with
      | true =>
        intro validated
        cases (only.validated.trans unvalidated).symm.trans validated
      | false => exact fun _ => .of_closed (failClosed_closed _ _ _) _
  | measureBaseline cfg input =>
    cases mode : ctx.mode with
    | none =>
      rw [perform, measureBaseline, llcOps, measureBaselineOps, mode]
      exact current
    | software =>
      rw [perform, measureBaseline, mode]
      exact fun validated => absurd ((sw mode).symm.trans validated) Bool.false_ne_true
    | hardware => exact fun _ => current_measureBaseline mode sighted
  | evaluate cfg input =>
    obtain ⟨_, _, left⟩ := ctx.evaluate_fst cfg input
    rw [perform, left]
    change (ctx.sampled input).1.hardwareValidated = true →
      (ctx.sampled input).1.Current (track.run (ctx.evaluateOps input))
    cases mode : ctx.mode with
    | none =>
      rw [sampled, evaluateOps, mode]
      exact current
    | software => exact current_evaluate_software mode (sw mode) sighted
    | hardware =>
      by_cases validated : ctx.hardwareValidated = true
      · exact fun _ => (current validated).evaluate_hardware mode validated input
      · rw [sampled, evaluateOps, mode]
        rw [if_neg validated]
        exact fun valid => absurd valid validated
  | checkSoftwareTimeout =>
    rw [perform, checkSoftwareTimeout]
    split
    · exact current
    split <;> exact current

end

def llcDelta : Option UInt64 :=
  if ctx.mode = .hardware ∧ (ctx.sampled input).2.isSome then
    some (if (ctx.readFor input).fdLlcMisses < 0 then 0
      else counterDelta (ctx.readFor input).lastLlcValue (ctx.llcNow input))
  else none

theorem mpkiMilli_of_llcDelta {ctx : PerfCtx} {input delta}
    (computes : ctx.llcDelta input = some delta) : ∃ now sample,
      ctx.Reads input now ∧ (ctx.sampled input).2 = some sample ∧
        sample.mpkiMilli = delta * mpkiScale / (scaledDeltas ctx.lastGroupRead now).2 := by
  unfold llcDelta at computes
  split at computes
  case isFalse => cases computes
  next measures =>
  obtain ⟨hw, measured⟩ := measures
  cases computes
  have out := ctx.sampled_outcome input
  generalize ctx.sampled input = handed at out measured ⊢
  cases out with
  | unvalidated => cases measured
  | software sw => exact absurd (hw.symm.trans sw) nofun
  | hardware _ _ sample =>
    cases sample with
    | lost => cases measured
    | @read now _ reads out =>
      have only := (ctx.llcOnly_readFor input).lastGroupRead
      generalize (ctx.readFor input).readingPath now = path at out
      cases out with
      | measured =>
        refine ⟨now, _, reads, rfl, ?_⟩
        rw [← only]
        rfl
      | _ => cases measured

end PerfCtx

theorem InitOutcome.unvalidated {input ctx}
    (out : InitOutcome input ctx) : ctx.hardwareValidated = false := by
  cases out with
  | @software before unset _ _ reason =>
    refine (congrArg ModeView.validated
      (before.modeView_setMode_software (by simp [unset]) reason input.failure.mode)).trans ?_
    unfold ModeView.enterSoftware
    split <;> rfl
  | @hardware before unset unvalidated =>
    exact (congrArg ModeView.validated
      (before.modeView_setMode_start unset unvalidated input.failure.mode)).trans unvalidated

/-- The calls on a context, with what they do to the LLC event; outside a baseline, events are
enabled only before one has validated them. -/
structure LlcRun (input : InitInput) (trace : ℕ → PerfCtx) (calls : ℕ → PerfCall)
    (tracks : ℕ → LlcTrack) (length : ℕ) : Prop where
  start : trace 0 = .init input
  performs : ∀ index < length, trace (index + 1) = (trace index).perform (calls index)
  tracked : ∀ index < length,
    tracks (index + 1) = (tracks index).run ((trace index).llcOps (calls index))
  enables : ∀ index < length, ∀ events failure, calls index = .enable events failure →
    (trace index).hardwareValidated = false

namespace LlcRun

variable {input : InitInput} {trace : ℕ → PerfCtx} {calls : ℕ → PerfCall} {tracks : ℕ → LlcTrack}
  {length : ℕ}

section

variable (run : LlcRun input trace calls tracks length)
include run

theorem perfRun : PerfRun input trace length where
  start := run.start
  calls := fun i lt => ⟨calls i, run.performs i lt⟩

theorem current
    (sighted : ∀ i < length, (trace i).Sighted (calls i)) :
    ∀ i ≤ length, (trace i).hardwareValidated = true →
      (trace i).Current (tracks i) := by
  intro i
  induction i with
  | zero =>
    intro _ validated
    rw [run.start, (PerfCtx.init_outcome input).unvalidated] at validated
    cases validated
  | succ i ih =>
    intro le
    have sw := ((run.perfRun.sound i (Nat.le_of_succ_le le)).1).software
    rw [run.performs i le, run.tracked i le]
    exact PerfCtx.current_perform (fun mode => (sw mode).1) (run.enables i le)
      (sighted i le) (ih (Nat.le_of_succ_le le))

end

/-- If baselines with the LLC event open read it, both values behind a non-zero LLC delta come from
one epoch of its counter. -/
theorem llc_delta_same_epoch (run : LlcRun input trace calls tracks length)
    (sighted : ∀ index < length, (trace index).Sighted (calls index)) {index : ℕ}
    (reached : index ≤ length) {eval : EvalInput} {delta : UInt64}
    (computes : (trace index).llcDelta eval = some delta) (nonzero : delta ≠ 0) :
    delta = counterDelta ((trace index).readFor eval).lastLlcValue ((trace index).llcNow eval) ∧
      ((tracks index).run ((trace index).comparedOps eval)).SameEpoch
        ((trace index).readFor eval).lastLlcValue ((trace index).llcNow eval) := by
  obtain ⟨_, _, reads, -, -⟩ := PerfCtx.mpkiMilli_of_llcDelta computes
  unfold PerfCtx.llcDelta at computes
  split at computes
  case isFalse => cases computes
  have opened := fun closed => by
    rw [if_pos closed] at computes
    exact nonzero (Option.some.inj computes).symm
  rw [if_neg opened] at computes
  have current := run.current sighted index reached reads.validated
  exact ⟨(Option.some.inj computes).symm, current.compared eval (not_lt.mp opened)⟩

end LlcRun

def blindMeasure : MeasureInput :=
  { steadyMeasure with
    baseline := { steadyMeasure.baseline with llcBefore := none, llcAfter := none } }

def secondReading : EvalInput := readingInput ⟨2, 2000, 2000, 1000, 800⟩ (some 9) 60

def baselineCalls (measure : MeasureInput) : ℕ → PerfCall
  | 0 => .measureBaseline .setDefaults measure
  | _ => .evaluate .setDefaults secondReading

def baselineTrace (measure : MeasureInput) : ℕ → PerfCtx
  | 0 => .init grantedInit
  | index + 1 => (baselineTrace measure index).perform (baselineCalls measure index)

def baselineTracks (measure : MeasureInput) : ℕ → LlcTrack
  | 0 => ⟨0, none, none⟩
  | index + 1 =>
    (baselineTracks measure index).run
      ((baselineTrace measure index).llcOps (baselineCalls measure index))

theorem llcRun_baseline (measure) :
    LlcRun grantedInit (baselineTrace measure) (baselineCalls measure) (baselineTracks measure)
      2 where
  start := rfl
  performs _ _ := rfl
  tracked _ _ := rfl
  enables i _ events failure call := by cases i <;> cases call

theorem sighted_llc_delta_same_epoch :
    (baselineTrace steadyMeasure 1).llcDelta secondReading = some 2 ∧
      ((baselineTracks steadyMeasure 1).run
        ((baselineTrace steadyMeasure 1).comparedOps secondReading)).SameEpoch 7 9 := by
  have computes : (baselineTrace steadyMeasure 1).llcDelta secondReading = some 2 := by decide
  refine ⟨computes, ((llcRun_baseline steadyMeasure).llc_delta_same_epoch ?_ (by decide) computes
    (by decide)).2⟩
  rintro (_ | _ | _) _
  · exact fun _ _ => .inl nofun
  · exact fun software => absurd software (by decide)
  · omega

/-- No read of the baseline succeeds, and an evaluation subtracts a zero nothing read. -/
theorem blind_baseline_mixes_epochs :
    LlcRun grantedInit (baselineTrace blindMeasure) (baselineCalls blindMeasure)
        (baselineTracks blindMeasure) 2 ∧
      (baselineTrace blindMeasure 1).llcDelta secondReading = some 9 ∧
      ((baselineTracks blindMeasure 1).run
        ((baselineTrace blindMeasure 1).comparedOps secondReading)).stored = none :=
  ⟨llcRun_baseline blindMeasure, by decide, by decide⟩

end ThermalSimd
