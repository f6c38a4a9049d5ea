import Mathlib.Tactic.IntervalCases
import ThermalSimd.BridgeChannels

/-!
# How old the filtered temperature can be

Every filtered value on the bus, in the worker and in the ring carries the times of the readings it
was made from. Publications and samples take it without a look at its age: it is fresh if a
temperature was published within the window and, for a sample, the worker has since run a whole
iteration (`filtered_fresh_of_recent`).
-/

namespace ThermalSimd.Bridge

open Relation (ReflTransGen)

variable {now clock time : ℕ} {call : Call}

/-- The reading was taken within the freshness window that ends at `now`. -/
def Fresh (cfg : RuntimeConfig) (time now : ℕ) : Prop :=
  time ≤ now ∧ now - time ≤ freshnessWindow cfg * nsPerMs
  deriving Decidable

/-- The service, and the times of the temperatures recorded for it, newest first. -/
structure Feed where
  service : Option Service
  times : List ℕ

/-- What the bridge holds of the service. -/
def Globals.feed (bridge : Globals) : Feed := ⟨bridge.service, bridge.tempTimes⟩

/-- A service that has just been started. -/
def Service.initial (window : ℕ) : Service := ⟨window, true, none, none, none, .idle⟩

/-- The call may replace the service. -/
def Call.Restarts : Call → Prop
  | .start _ _ | .stop _ => True
  | .publish _ _ | .sample _ | .worker _ | .workerStops => False

/-- One of the steps that a call is made of. -/
inductive FeedStep (call : Call) : Feed → Feed → Prop
  | cleared (restarts : call.Restarts) (feed : Feed) : FeedStep call feed ⟨none, []⟩
  | opened (restarts : call.Restarts) (feed : Feed) (window : ℕ) :
      FeedStep call feed ⟨some (.initial window), []⟩
  | recorded {now : ℕ} (at_ : now ∈ call.recordedAt) (service : Option Service) (times : List ℕ) :
      FeedStep call ⟨service, times⟩ ⟨service, now :: times⟩
  | moved (move : WorkerMove) (service : Service) (times : List ℕ) :
      FeedStep call ⟨some service, times⟩ ⟨some (service.move move), times⟩
  | temp {now : ℕ} (at_ : now ∈ call.recordedAt) (value : ℚ) (service : Service)
      (times : List ℕ) :
      FeedStep call ⟨some service, times⟩
        ⟨some { service with temp := some (busPublish ⟨value, now, times⟩ service.temp) }, times⟩
  | freq (freq : Option BusReading) (service : Service) (times : List ℕ) :
      FeedStep call ⟨some service, times⟩ ⟨some { service with freq }, times⟩
  | halted (service : Service) (times : List ℕ) :
      FeedStep call ⟨some service, times⟩ ⟨some { service with running := false }, times⟩

namespace Globals

variable (bridge : Globals) (cfg : RuntimeConfig)

theorem feed_work (moves) : ReflTransGen (FeedStep call) bridge.feed (bridge.work moves).feed := by
  cases found : bridge.service with
  | none =>
    rw [feed, feed, work, found]
    exact .refl
  | some service =>
    rw [feed, feed, work, found]
    change ReflTransGen (FeedStep call) _ ⟨some (moves.foldl Service.move service),
      bridge.tempTimes⟩
    clear found
    induction moves generalizing service with
    | nil => exact .refl
    | cons move moves steps => exact .head (.moved move service _) (steps _)

theorem feed_recordRawSample (sample) {now} (at_ : now ∈ call.recordedAt) :
    ReflTransGen (FeedStep call) bridge.feed (bridge.recordRawSample sample now).feed := by
  cases avail : sample.tempAvailable with
  | false =>
    simp only [feed, tempTimes, recordRawSample, avail]
    exact .refl
  | true =>
    simp only [feed, tempTimes, recordRawSample, avail]
    exact .single (.recorded at_ _ _)

theorem feed_publishSampleTemp (sample) {env} (at_ : env.now ∈ call.recordedAt) :
    ReflTransGen (FeedStep call) bridge.feed (bridge.publishSampleTemp cfg sample env).1.feed := by
  unfold publishSampleTemp
  split_ifs
  · exact .refl
  · exact .refl
  · cases found : bridge.service with
    | none =>
      simp only [feed, tempTimes, publishTemp, smoothTemp, found]
      exact .refl
    | some service =>
      simp only [feed, tempTimes, publishTemp, smoothTemp, found]
      exact .single (.temp at_ _ _ _)

theorem feed_publishSampleFreq (sample env) :
    ReflTransGen (FeedStep call) bridge.feed (bridge.publishSampleFreq cfg sample env).1.feed := by
  unfold publishSampleFreq
  split_ifs
  · exact .refl
  · exact .refl
  · cases found : bridge.service with
    | none =>
      simp only [feed, tempTimes, publishFreq, smoothFreq, found]
      exact .refl
    | some service =>
      simp only [feed, tempTimes, publishFreq, smoothFreq, found]
      exact .single (.freq _ _ _)

theorem feed_publishSample (sample) {env} (at_ : env.now ∈ call.recordedAt) :
    ReflTransGen (FeedStep call) bridge.feed (bridge.publishSample cfg sample env).1.feed := by
  have temp := (bridge.feed_recordRawSample sample at_).trans
    ((feed_work _ env.beforeTemp).trans (feed_publishSampleTemp _ cfg sample at_))
  unfold publishSample
  generalize ((bridge.recordRawSample sample env.now).work env.beforeTemp).publishSampleTemp
    cfg sample env = result at temp ⊢
  obtain ⟨_, _ | _⟩ := result
  · exact temp.trans ((feed_work _ env.beforeFreq).trans (feed_publishSampleFreq _ cfg sample env))
  · exact temp

theorem feed_publishInitial {input} (at_ : input.env.now ∈ call.recordedAt) :
    ReflTransGen (FeedStep call) bridge.feed (bridge.publishInitial cfg input).1.feed := by
  unfold publishInitial
  split
  · dsimp only
    split_ifs
    · exact @feed_publishSample _ bridge cfg _ { input.env with fault := .none } at_
    · exact .refl
  · exact .refl

theorem feed_publishDirect {input} (at_ : input.env.now ∈ call.recordedAt) :
    ReflTransGen (FeedStep call) bridge.feed (bridge.publishDirect cfg input).1.feed := by
  unfold publishDirect
  split
  · split_ifs
    · exact bridge.feed_publishSample cfg _ at_
    · exact .refl
  · exact .refl

/-- Every call is made of these steps. -/
theorem feed_perform (call) :
    ReflTransGen (FeedStep call) bridge.feed (bridge.perform cfg call).1.feed := by
  cases call with
  | start cpu input =>
    have outcome := bridge.startUnlocked_outcome cfg cpu input
    rw [perform]
    generalize bridge.startUnlocked cfg cpu input = result at outcome ⊢
    cases outcome with
    | refused | shared => exact .refl
    | failed => exact .single (.cleared (by trivial) _)
    | opened =>
      exact .head (.opened (by trivial) _ (freshnessWindow cfg))
        ((bridge.started cfg cpu input.helper).feed_publishInitial cfg rfl)
  | stop entered =>
    rw [perform, stop]
    split_ifs
    · exact .refl
    · exact .single (.cleared (by trivial) _)
  | publish sample input =>
    refine bridge.publishCall_rule cfg
      (fun after => ReflTransGen (FeedStep (.publish sample input)) bridge.feed after.feed) ?_ .refl
      (bridge.feed_publishSample cfg sample rfl)
    exact fun _ _ _ steps => steps
  | sample input =>
    refine bridge.sampleCall_rule cfg
      (fun after => ReflTransGen (FeedStep (.sample input)) bridge.feed after.feed) ?_ ?_ .refl
      (bridge.feed_publishDirect cfg rfl)
    · exact fun _ _ _ steps => steps
    · exact fun _ moves steps => steps.trans (feed_work _ moves)
  | worker move => exact bridge.feed_work [move]
  | workerStops =>
    cases found : bridge.service with
    | none =>
      simp only [perform, workerStops, feed, tempTimes, found]
      exact .refl
    | some service =>
      simp only [perform, workerStops, feed, tempTimes, found]
      exact .single (.halted service _)

end Globals

/-- No temperature on the bus is dated after `clock`. -/
def Feed.Dated (clock : ℕ) (feed : Feed) : Prop :=
  ∀ service ∈ feed.service, ∀ reading ∈ service.temp, reading.timestamp ≤ clock

/-- The temperature of `time` is in the filter, and in what the bus holds. -/
structure Feed.Offers (time : ℕ) (feed : Feed) : Prop where
  times : time ∈ feed.times
  slot : ∀ service ∈ feed.service, ∀ reading ∈ service.temp, time ∈ reading.contributors

/-- It is also in what the worker's iteration has found. -/
structure Feed.Reaches (time : ℕ) (feed : Feed) : Prop extends feed.Offers time where
  found : ∀ service ∈ feed.service, ∀ now temp, service.worker = .readingFreq now temp →
    ∀ reading ∈ temp, time ∈ reading.contributors
  fused : ∀ service ∈ feed.service, ∀ entry, service.worker = .publishing entry →
    entry.snapshot.tempAvailable = true → time ∈ entry.contributors

/-- It is also in the latest snapshot. -/
structure Feed.Shows (time : ℕ) (feed : Feed) : Prop extends feed.Reaches time where
  latest : ∀ service ∈ feed.service, ∀ entry ∈ service.latest,
    entry.snapshot.tempAvailable = true → time ∈ entry.contributors

@[simp]
theorem Service.temp_move (service : Service) (move) :
    (service.move move).temp = service.temp := by
  cases move <;> simp only [Service.move] <;> split <;> rfl

theorem busPublish_of {Good : BusReading → Prop} {reading slot} (new : Good reading)
    (old : ∀ reading ∈ slot, Good reading) : Good (busPublish reading slot) := by
  cases slot with
  | none => exact new
  | some slot =>
    simp only [busPublish]
    split_ifs
    · exact new
    · exact old slot rfl

theorem mem_of_mem_assignValue {window slot reading}
    (assigned : reading ∈ assignValue window now slot) : reading ∈ slot := by
  cases slot with
  | none => exact assigned
  | some slot =>
    simp only [assignValue] at assigned
    split_ifs at assigned
    · cases assigned
    · exact assigned

namespace Feed

variable {before after : Feed}

theorem Dated.next (dated : before.Dated clock) (past : ∀ now ∈ call.recordedAt, now ≤ clock)
    (step : FeedStep call before after) : after.Dated clock := by
  cases step with
  | cleared => rintro _ ⟨⟩
  | opened =>
    rintro _ ⟨⟩ _ absent
    cases absent
  | recorded => exact dated
  | moved move service =>
    rintro _ ⟨⟩
    rw [Service.temp_move]
    exact dated service rfl
  | temp at_ value service =>
    rintro _ ⟨⟩ _ ⟨⟩
    exact busPublish_of (past _ at_) (dated service rfl)
  | freq freq service | halted service =>
    rintro _ ⟨⟩
    exact dated service rfl

section

variable (stays : ¬ call.Restarts) (step : FeedStep call before after)
include stays step

theorem Offers.next (offers : before.Offers time) : after.Offers time := by
  obtain ⟨times, slot⟩ := offers
  cases step with
  | cleared restarts | opened restarts => exact absurd restarts stays
  | recorded => exact ⟨List.mem_cons_of_mem _ times, slot⟩
  | moved move service =>
    refine ⟨times, ?_⟩
    rintro _ ⟨⟩
    rw [Service.temp_move]
    exact slot service rfl
  | temp at_ value service =>
    refine ⟨times, ?_⟩
    rintro _ ⟨⟩ _ ⟨⟩
    exact @busPublish_of (time ∈ ·.contributors) _ _ times (slot service rfl)
  | freq freq service | halted service =>
    refine ⟨times, ?_⟩
    rintro _ ⟨⟩
    exact slot service rfl

end

/-- One move of the worker keeps what its iteration has found. -/
theorem Reaches.move {service : Service} {times} (reaches : Reaches time ⟨some service, times⟩)
    (move) : Reaches time ⟨some (service.move move), times⟩ := by
  obtain ⟨⟨recorded, slot⟩, found, fused⟩ := reaches
  have offers : Offers time ⟨some (service.move move), times⟩ := by
    refine ⟨recorded, ?_⟩
    rintro _ ⟨⟩
    rw [Service.temp_move]
    exact slot service rfl
  have here := found service rfl
  have read := fused service rfl
  have held := slot service rfl
  refine ⟨offers, ?_, ?_⟩
  · rintro _ ⟨⟩ now temp pc reading assigned
    cases move with
    | begins =>
      simp only [Service.move] at pc
      split at pc
      · cases pc
      · exact here now temp pc reading assigned
    | throws => cases pc
    | proceeds =>
      cases worker : service.worker with
      | readingTemp =>
        simp only [Service.move, worker] at pc
        cases pc
        exact held reading (mem_of_mem_assignValue assigned)
      | idle | readingFreq | publishing => simp [Service.move, worker] at pc
  · rintro _ ⟨⟩ entry pc avail
    cases move with
    | begins =>
      simp only [Service.move] at pc
      split at pc
      · cases pc
      · exact read entry pc avail
    | throws => cases pc
    | proceeds =>
      cases worker : service.worker with
      | readingFreq now temp =>
        simp only [Service.move, worker] at pc
        cases pc
        cases temp with
        | none => cases avail
        | some reading => exact here now _ worker reading rfl
      | idle | readingTemp | publishing => simp [Service.move, worker] at pc

theorem Reaches.next (stays : ¬ call.Restarts) (step : FeedStep call before after)
    (reaches : before.Reaches time) : after.Reaches time := by
  have offers := reaches.toOffers.next stays step
  cases step with
  | cleared restarts | opened restarts => exact absurd restarts stays
  | recorded => exact ⟨offers, reaches.found, reaches.fused⟩
  | moved move service => exact reaches.move move
  | temp at_ value service | freq freq service | halted service =>
    refine ⟨offers, ?_, ?_⟩
    · rintro _ ⟨⟩
      exact reaches.found service rfl
    · rintro _ ⟨⟩
      exact reaches.fused service rfl

theorem Shows.next (stays : ¬ call.Restarts) (step : FeedStep call before after)
    (shows : before.Shows time) : after.Shows time := by
  have reaches := shows.toReaches.next stays step
  refine ⟨reaches, ?_⟩
  cases step with
  | cleared restarts | opened restarts => exact absurd restarts stays
  | recorded => exact shows.latest
  | temp at_ value service | freq freq service | halted service =>
    rintro _ ⟨⟩
    exact shows.latest service rfl
  | moved move service =>
    rintro _ ⟨⟩ entry isLatest avail
    cases move with
    | begins =>
      simp only [Service.move] at isLatest
      split at isLatest <;> exact shows.latest service rfl entry isLatest avail
    | throws => exact shows.latest service rfl entry isLatest avail
    | proceeds =>
      cases worker : service.worker with
      | publishing =>
        simp only [Service.move, worker] at isLatest
        cases isLatest
        exact shows.fused service rfl entry worker avail
      | idle | readingTemp | readingFreq =>
        simp only [Service.move, worker] at isLatest
        exact shows.latest service rfl entry isLatest avail

/-- An iteration that begins now finds what the bus holds. -/
theorem Offers.reaches {service : Service} {times} (offers : Offers time ⟨some service, times⟩)
    (idle : service.worker = .idle) : Reaches time ⟨some service, times⟩ := by
  refine ⟨offers, ?_, ?_⟩
  · rintro _ ⟨⟩ _ _ pc
    cases idle.symm.trans pc
  · rintro _ ⟨⟩ _ pc
    cases idle.symm.trans pc

/-- An iteration that ends makes what it has found the latest snapshot. -/
theorem Reaches.shows {service : Service} {times entry}
    (reaches : Reaches time ⟨some service, times⟩) (ends : service.worker = .publishing entry) :
    Shows time ⟨some (service.move .proceeds), times⟩ := by
  refine ⟨reaches.move .proceeds, ?_⟩
  rintro _ ⟨⟩ latest isLatest avail
  simp only [Service.move, ends] at isLatest
  cases isLatest
  exact reaches.fused service rfl _ ends avail

end Feed

theorem FeedStep.invariant {Good : Feed → Prop} {before after}
    (next : ∀ before after, FeedStep call before after → Good before → Good after)
    (steps : ReflTransGen (FeedStep call) before after) (good : Good before) : Good after := by
  induction steps with
  | refl => exact good
  | tail _ last good => exact next _ _ last good

/-- When a call copies the caches out. -/
def Call.copiedAt : Call → Option ℕ
  | .start _ input => some input.env.now
  | .publish _ input => some input.copiedAt
  | .sample input => some input.copiedAt
  | .stop _ | .worker _ | .workerStops => none

theorem Call.isSome_copiedAt (call : Call) : call.copiedAt.isSome = call.recordedAt.isSome := by
  cases call <;> rfl

/-- Call `index` reads a clock between `clock index` and `clock (index + 1)`. -/
structure Clocked (calls : ℕ → Call) (clock : ℕ → ℕ) (length : ℕ) : Prop where
  monotone : ∀ index < length, clock index ≤ clock (index + 1)
  within : ∀ index < length, ∀ now ∈ (calls index).recordedAt, ∀ later ∈ (calls index).copiedAt,
    0 < now ∧ clock index ≤ now ∧ now ≤ later ∧ later ≤ clock (index + 1)

theorem Clocked.recorded {calls clock length} (clocked : Clocked calls clock length) {index}
    (within : index < length) {now} (at_ : now ∈ (calls index).recordedAt) :
    clock index ≤ now ∧ now ≤ clock (index + 1) := by
  have copies := (calls index).isSome_copiedAt.trans (Option.isSome_of_mem at_)
  obtain ⟨later, copied⟩ := Option.isSome_iff_exists.mp copies
  obtain ⟨_, since, past, ended⟩ := clocked.within index within now at_ later copied
  exact ⟨since, past.trans ended⟩

/-- The call puts a temperature of `time` on the bus. -/
def Globals.PublishesTemp (bridge : Globals) (time : ℕ) : Call → Prop
  | .publish sample input =>
    bridge.service.isSome = true ∧ sample.tempAvailable = true ∧ input.env.fault ≠ .temp ∧
      input.env.now = time
  | .sample input =>
    bridge.service.isSome = true ∧ bridge.signal.directHelperReady = true ∧
      input.direct.temp.isSome = true ∧ input.env.fault ≠ .temp ∧ input.env.now = time
  | .start _ _ | .stop _ | .worker _ | .workerStops => False

variable (trace : ℕ → Globals) (calls : ℕ → Call)

/-- Call `first` publishes a temperature of `time`, and no start or stop follows. -/
structure PublishedSince (first index time : ℕ) : Prop where
  publishes : (trace first).PublishesTemp time (calls first)
  stays : ∀ between, first < between → between ≤ index → ¬ (calls between).Restarts

/-- With call `index` the idle worker begins an iteration. -/
def BeginsAt (index : ℕ) : Prop :=
  (∃ now, calls index = .worker (.begins now)) ∧
    ∃ service, (trace index).service = some service ∧ service.worker = .idle

/-- With call `index` the worker ends an iteration. -/
def EndsAt (index : ℕ) : Prop :=
  calls index = .worker .proceeds ∧
    ∃ service entry, (trace index).service = some service ∧ service.worker = .publishing entry

/-- A temperature was published within the window, for a sample before a whole iteration of the
worker. -/
def Recent (cfg : RuntimeConfig) (index now : ℕ) : Prop :=
  match calls index with
  | .publish _ _ => ∃ first ≤ index, ∃ time, PublishedSince trace calls first index time ∧
      Fresh cfg time now
  | .sample _ => ∃ first begun ended time, first < begun ∧ begun < ended ∧ ended < index ∧
      PublishedSince trace calls first index time ∧ BeginsAt trace calls begun ∧
      EndsAt trace calls ended ∧ Fresh cfg time now
  | .start _ _ | .stop _ | .worker _ | .workerStops => True

namespace Globals

variable {bridge : Globals}

theorem offers_publishTemp (dated : bridge.feed.Dated now) (recorded : now ∈ bridge.tempTimes) :
    (bridge.publishTemp now).feed.Offers now := by
  refine ⟨recorded, fun service isService reading published => ?_⟩
  obtain ⟨before, found, rfl⟩ := Option.map_eq_some_iff.mp isService
  cases published
  cases slot : before.temp with
  | none => exact recorded
  | some old =>
    simp only [busPublish, if_pos (Or.inr (dated before found old slot))]
    exact recorded

theorem offers_publishSample (cfg) {sample env} (dated : bridge.feed.Dated env.now)
    (avail : sample.tempAvailable = true) (works : env.fault ≠ .temp) :
    (bridge.publishSample cfg sample env).1.feed.Offers env.now := by
  have at_ : env.now ∈ (Call.publish sample ⟨env, 0, true⟩).recordedAt := rfl
  have stays : ¬ (Call.publish sample ⟨env, 0, true⟩).Restarts := id
  have steps := (bridge.feed_recordRawSample sample at_).trans (feed_work _ env.beforeTemp)
  have past : ∀ now ∈ (Call.publish sample ⟨env, 0, true⟩).recordedAt, now ≤ env.now :=
    fun _ isNow => (Option.some.inj isNow).ge
  have stillDated := FeedStep.invariant (fun _ _ step dated => Feed.Dated.next dated past step)
    steps dated
  have recorded : env.now ∈
      ((bridge.recordRawSample sample env.now).work env.beforeTemp).tempTimes := by
    simp [tempTimes, work, recordRawSample, avail]
  simp only [publishSample, publishSampleTemp, avail, works, Bool.true_eq_false, if_false]
  refine FeedStep.invariant (fun _ _ step offers => Feed.Offers.next stays step offers)
    ((feed_work _ env.beforeFreq).trans (feed_publishSampleFreq _ cfg sample env)) ?_
  exact offers_publishTemp stillDated recorded

theorem PublishesTemp.recordedAt (publishes : bridge.PublishesTemp time call) :
    time ∈ call.recordedAt := by
  cases call with
  | publish =>
    obtain ⟨_, _, _, rfl⟩ := publishes
    rfl
  | sample =>
    obtain ⟨_, _, _, _, rfl⟩ := publishes
    rfl
  | start | stop | worker | workerStops => exact publishes.elim

theorem offers_perform (cfg) (dated : bridge.feed.Dated time)
    (publishes : bridge.PublishesTemp time call) :
    (bridge.perform cfg call).1.feed.Offers time := by
  cases call with
  | publish sample input =>
    obtain ⟨present, avail, works, rfl⟩ := publishes
    have offers := offers_publishSample cfg dated avail works
    rw [perform, publishCall, if_neg (Option.isSome_iff_ne_none.mp present)]
    split
    next publishes => rwa [publishes] at offers
    next publishes => rwa [publishes] at offers
  | sample input =>
    obtain ⟨present, helper, avail, works, rfl⟩ := publishes
    have signal : HasSignal input.direct.fill := .inl avail
    have direct : bridge.publishDirect cfg input =
        bridge.publishSample cfg input.direct.fill input.env := by
      simp only [publishDirect, helper, HelperReadings.sample, if_pos signal]
    have offers := @offers_publishSample _ cfg input.direct.fill _ dated avail works
    rw [perform, sampleCall, if_neg (Option.isSome_iff_ne_none.mp present), direct]
    split
    next publishes => rwa [publishes] at offers
    next publishes =>
      rw [publishes] at offers
      exact FeedStep.invariant (fun _ _ step offers => Feed.Offers.next id step offers)
        (@feed_work (.sample input) _ input.beforeSnapshot) offers
  | start | stop | worker | workerStops => exact publishes.elim

end Globals

section

variable {trace : ℕ → Globals} {configs : ℕ → RuntimeConfig} {calls : ℕ → Call} {length : ℕ}
  (run : CallRun trace configs calls length)
include run

theorem CallRun.dated {clock} (clocked : Clocked calls clock length) :
    ∀ index ≤ length, (trace index).feed.Dated (clock index) := by
  intro index within
  induction index with
  | zero =>
    rw [run.start]
    rintro _ ⟨⟩
  | succ index hypothesis =>
    have dated : (trace index).feed.Dated (clock (index + 1)) :=
      fun service isService reading published =>
        (hypothesis (Nat.le_of_succ_le within) service isService reading published).trans
          (clocked.monotone index within)
    rw [run.steps index within]
    exact FeedStep.invariant (fun _ _ step dated => Feed.Dated.next dated
      (fun _ at_ => (clocked.recorded within at_).2) step) (Globals.feed_perform _ _ _) dated

theorem CallRun.keeps {Good : Feed → Prop} {first index}
    (next : ∀ call before after, ¬ call.Restarts → FeedStep call before after → Good before →
      Good after)
    (le : first ≤ index) (within : index ≤ length)
    (stays : ∀ between, first ≤ between → between < index → ¬ (calls between).Restarts)
    (good : Good (trace first).feed) : Good (trace index).feed := by
  induction index, le using Nat.le_induction with
  | base => exact good
  | succ index le hypothesis =>
    have here := hypothesis (Nat.le_of_succ_le within) fun between since before =>
      stays between since (before.trans index.lt_succ_self)
    rw [run.steps index within]
    exact FeedStep.invariant (fun _ _ => next _ _ _ (stays index le index.lt_succ_self))
      (Globals.feed_perform _ _ _) here

theorem CallRun.offers {clock} (clocked : Clocked calls clock length) {first index time}
    (published : PublishedSince trace calls first index time) {last} (after : first < last)
    (le : last ≤ index + 1) (within : last ≤ length) : (trace last).feed.Offers time := by
  refine run.keeps (fun _ _ _ stays step => Feed.Offers.next stays step) after within
    (fun between since before => published.stays between since (by omega)) ?_
  have early : first < length := after.trans_le within
  have at_ := published.publishes.recordedAt
  rw [run.steps first early]
  refine Globals.offers_perform _ (fun service isService reading held => ?_) published.publishes
  exact (run.dated clocked first early.le service isService reading held).trans
    (clocked.recorded early at_).1

/-- A whole iteration later, the latest snapshot shows the temperature. -/
theorem CallRun.shows {clock} (clocked : Clocked calls clock length)
    {first begun ended index time} (since : first < begun) (iterates : begun < ended)
    (before : ended < index) (within : index < length)
    (published : PublishedSince trace calls first index time) (begins : BeginsAt trace calls begun)
    (ends : EndsAt trace calls ended) : (trace (index + 1)).feed.Shows time := by
  obtain ⟨-, service, isService, idle⟩ := begins
  have offers := run.offers clocked published since (by omega) (by omega)
  rw [Globals.feed, isService] at offers
  have reaches : (trace begun).feed.Reaches time := by
    rw [Globals.feed, isService]
    exact offers.reaches idle
  have found := run.keeps (fun _ _ _ stays step => Feed.Reaches.next stays step) iterates.le
    (by omega) (fun between _ _ => published.stays between (by omega) (by omega)) reaches
  obtain ⟨call, service, entry, isService, publishing⟩ := ends
  refine run.keeps (fun _ _ _ stays step => Feed.Shows.next stays step)
    (show ended + 1 ≤ index + 1 by omega) within
    (fun between _ _ => published.stays between (by omega) (by omega)) ?_
  rw [Globals.feed, isService] at found
  have moved : (trace (ended + 1)).feed =
      ⟨some (service.move .proceeds), (trace ended).tempTimes⟩ := by
    rw [run.steps ended (by omega), call, Globals.perform, Globals.work, isService]
    rfl
  rw [moved]
  exact found.shows publishing

end

/-- The filtered temperature is available in the output or in the channels sent on. -/
def Reply.Filtered (reply : Reply) : Prop :=
  reply.out.filteredTempAvailable = true ∨
    ∃ channels ∈ reply.channels, channels.filteredAvailable = true

/-- A reading behind the filtered temperature is fresh. -/
def Reply.Backed (reply : Reply) (cfg : RuntimeConfig) (now : ℕ) : Prop :=
  ∃ time ∈ reply.contributors, Fresh cfg time now

variable {bridge : Globals}

theorem fresh_of_tempAvailable {state : State} {cfg out} (absent : out.tempAvailable = false)
    (raw : (state.copyRawCache cfg out now).tempAvailable = true) :
    Fresh cfg state.rawTempAt now := by
  by_contra old
  have stale : ¬ (state.rawTempValid = true ∧ RawIsFresh cfg state.rawTempAt now) :=
    fun fresh => old ⟨fresh.2.2.1, fresh.2.2.2⟩
  simp only [State.copyRawCache, if_neg stale] at raw
  split_ifs at raw <;> simp [absent] at raw

theorem filtered_copyRawCache (state : State) (cfg out now) :
    (state.copyRawCache cfg out now).filteredTempAvailable = out.filteredTempAvailable := by
  simp only [State.copyRawCache]
  split_ifs <;> rfl

theorem Reply.not_filtered_bare (error) : ¬ (Reply.bare error none).Filtered := by
  rintro (out | ⟨_, absent, _⟩)
  · cases out
  · cases absent

theorem HelperReadings.filtered_sample {readings : HelperReadings} {sample}
    (read : readings.sample = some sample) : sample.filteredTempAvailable = false := by
  unfold HelperReadings.sample at read
  split_ifs at read
  obtain rfl := Option.some.inj read
  rfl

theorem Globals.backed_publishInitial (bridge : Globals) (cfg input)
    (filtered : (bridge.publishInitial cfg input).2.Filtered) :
    (bridge.publishInitial cfg input).2.Backed cfg input.env.now := by
  unfold publishInitial at filtered ⊢
  split at filtered
  next sample _ read =>
    have avail : sample.tempAvailable = true := by
      by_contra absent
      rcases filtered with out | ⟨channels, ⟨⟩, out⟩
      · cases out
      · have plain := HelperReadings.filtered_sample read
        simp only [temperatureChannels, if_neg absent] at out
        rw [plain] at out
        cases out
    have signal : HasSignal sample := Or.inl avail
    simp only [if_pos signal]
    refine ⟨input.env.now, ?_, le_rfl, ?_⟩
    · simp only [tempTimes, temps_publishSample, recordTemps, if_pos avail]
      exact List.mem_cons_self
    · rw [Nat.sub_self]
      exact Nat.zero_le _
  next => exact absurd filtered (Reply.not_filtered_bare _)

theorem filtered_fillFilteredFromRaw (out) :
    (fillFilteredFromRaw out).filteredTempAvailable =
      (out.filteredTempAvailable || out.tempAvailable) := by
  obtain ⟨temp, freq, _, _, filteredTemp, filteredFreq, _, _⟩ := out
  cases temp <;> cases freq <;> cases filteredTemp <;> cases filteredFreq <;> rfl

theorem Globals.filtered_copyFilteredSnapshot (bridge : Globals)
    (filtered : (copyFilteredSnapshot ((bridge.service.bind Service.latest).map RingEntry.snapshot)
      .zero).filteredTempAvailable = true) :
    ∃ entry ∈ bridge.usableSnapshot, entry.snapshot.tempAvailable = true := by
  unfold usableSnapshot
  cases latest : bridge.service.bind Service.latest with
  | none =>
    rw [latest] at filtered
    cases filtered
  | some entry =>
    rw [latest] at filtered
    have avail : entry.snapshot.tempAvailable = true := by
      by_contra absent
      rw [Bool.not_eq_true] at absent
      simp only [copyFilteredSnapshot, Option.map_some, absent] at filtered
      split_ifs at filtered
      cases filtered
    exact ⟨entry, by simp [avail], avail⟩

/-- What a sample reports is fresh if the latest snapshot is made from a fresh reading. -/
theorem Globals.backed_sample {cfg} (shows : bridge.feed.Shows time) (fresh : Fresh cfg time now)
    (filtered : (bridge.sampleOut cfg now).filteredTempAvailable = true) :
    ∃ time ∈ bridge.sampleContributors, Fresh cfg time now := by
  by_cases snapshot : ∃ entry ∈ bridge.usableSnapshot, entry.snapshot.tempAvailable = true
  · obtain ⟨entry, usable, avail⟩ := snapshot
    obtain ⟨found, _⟩ := Option.mem_filter_iff.mp usable
    obtain ⟨service, isService, isLatest⟩ := Option.bind_eq_some_iff.mp found
    rw [sampleContributors, Option.mem_def.mp usable]
    simp only [avail, if_true]
    exact ⟨time, shows.latest service isService entry isLatest avail, fresh⟩
  · -- then the filtered value is the raw one
    have own : bridge.sampleContributors = [bridge.signal.rawTempAt] := by
      unfold sampleContributors
      split
      next entry usable => exact if_neg fun avail => snapshot ⟨entry, usable, avail⟩
      next => rfl
    rw [sampleOut, filtered_fillFilteredFromRaw, filtered_copyRawCache, Bool.or_eq_true] at filtered
    rcases filtered with copied | raw
    · exact absurd (bridge.filtered_copyFilteredSnapshot copied) snapshot
    · rw [own]
      refine ⟨_, List.mem_singleton_self _, fresh_of_tempAvailable ?_ raw⟩
      exact congrArg RawSample.tempAvailable (rawSample_copyFilteredSnapshot _ _)

/-- A reported filtered temperature is made from a reading within the window, if one was published
within it and, for a sample, has reached the snapshot. -/
theorem filtered_fresh_of_recent {trace : ℕ → Globals} {configs : ℕ → RuntimeConfig}
    {calls : ℕ → Call} {clock : ℕ → ℕ} {length : ℕ} (run : CallRun trace configs calls length)
    (clocked : Clocked calls clock length) {index now : ℕ} (within : index < length)
    (copied : now ∈ (calls index).copiedAt) (recent : Recent trace calls (configs index) index now)
    (filtered : (replyAt trace configs calls index).Filtered) :
    (replyAt trace configs calls index).Backed (configs index) now := by
  have steps := run.steps index within
  unfold Recent at recent
  rw [replyAt] at filtered ⊢
  cases call : calls index with
  | start cpu input =>
    rw [call] at copied filtered
    obtain rfl : input.env.now = now := Option.some.inj copied
    have outcome := (trace index).startUnlocked_outcome (configs index) cpu input
    rw [Globals.perform] at filtered ⊢
    generalize (trace index).startUnlocked (configs index) cpu input = result at outcome filtered ⊢
    cases outcome with
    | refused error | shared live same => exact absurd filtered (Reply.not_filtered_bare _)
    | failed stopped error => rcases filtered with out | ⟨_, ⟨⟩, out⟩ <;> cases out
    | opened stopped => exact Globals.backed_publishInitial _ _ input filtered
  | publish sample input =>
    rw [call] at copied recent filtered steps
    obtain rfl : input.copiedAt = now := Option.some.inj copied
    obtain ⟨first, le, time, published, fresh⟩ := recent
    have offers := run.offers clocked published (Nat.lt_succ_of_le le) le_rfl within
    rw [steps] at offers
    have outcome := (trace index).publishCall_outcome (configs index) sample input
    rw [Globals.perform] at offers filtered ⊢
    generalize (trace index).publishCall (configs index) sample input = result
      at outcome offers filtered ⊢
    cases outcome with
    | absent | thrown after publishes => exact absurd filtered (Reply.not_filtered_bare _)
    | published after publishes => exact ⟨time, offers.times, fresh⟩
  | sample input =>
    rw [call] at copied recent filtered steps
    obtain rfl : input.copiedAt = now := Option.some.inj copied
    obtain ⟨first, begun, ended, time, since, iterates, before, published, begins, ends, fresh⟩ :=
      recent
    have shows := run.shows clocked since iterates before within published begins ends
    rw [steps] at shows
    have outcome := (trace index).sampleCall_outcome (configs index) input
    rw [Globals.perform] at shows filtered ⊢
    generalize (trace index).sampleCall (configs index) input = result at outcome shows filtered ⊢
    cases outcome with
    | absent | thrown after publishes => exact absurd filtered (Reply.not_filtered_bare _)
    | sampled _ after publishes =>
      have shown :
        (after.sampleOut (configs index) input.copiedAt).filteredTempAvailable = true := by
        rcases filtered with out | ⟨channels, ⟨⟩, out⟩ <;> exact out
      exact Globals.backed_sample shows fresh shown
  | stop entered | worker move | workerStops =>
    rw [call] at copied
    cases copied

def tempSample (millic : ℤ) : TelemetrySample :=
  { TelemetrySample.zero with tempAvailable := true, packageTempMillic := millic }

private def freqSample (milli : ℕ) : TelemetrySample :=
  { TelemetrySample.zero with freqRatioAvailable := true, freqRatioMilli := milli }

def publishAt (now : ℕ) (sample : TelemetrySample) : Call :=
  .publish sample ⟨⟨now, .none, [], []⟩, now, true⟩

def sampleAt (now : ℕ) (moves : List WorkerMove) : Call :=
  .sample ⟨⟨none, none⟩, ⟨now, .none, [], []⟩, moves, now, true⟩

variable (last : Call)

/-- A start, a temperature, an iteration of the worker, a sample, and a later call. -/
def coolingCalls : ℕ → Call
  | 0 => .start 0 ⟨none, false, ⟨none, none⟩, ⟨10, .none, [], []⟩, true⟩
  | 1 => publishAt 20 (tempSample 50000)
  | 2 => .worker (.begins 25)
  | 3 | 4 | 5 => .worker .proceeds
  | 6 => sampleAt 30 []
  | _ => last

private def coolingClock : ℕ → ℕ
  | 0 => 10
  | 1 => 20
  | 2 | 3 | 4 | 5 | 6 => 30
  | 7 => 40
  | _ => 1000000030

def coolingTrace : ℕ → Globals := follow (fun _ => .setDefaults) (coolingCalls last)

theorem coolingTrace_run :
    CallRun (coolingTrace last) (fun _ => .setDefaults) (coolingCalls last) 8 :=
  follow_run _ _ 8

theorem cooling_clocked {last : Call} (recorded : last.recordedAt = some 1000000030)
    (copied : last.copiedAt = some 1000000030) : Clocked (coolingCalls last) coolingClock 8 := by
  refine ⟨by decide, ?_⟩
  intro index _ _ recordedAt _ copiedAt
  interval_cases index
  case «7» =>
    obtain rfl := Option.some.inj (recorded.symm.trans recordedAt)
    obtain rfl := Option.some.inj (copied.symm.trans copiedAt)
    decide
  all_goals cases recordedAt
  all_goals cases copiedAt
  all_goals decide

theorem filtered_fresh_of_recent_cooling :
    let calls := coolingCalls (sampleAt 1000000030 [])
    let trace := coolingTrace (sampleAt 1000000030 [])
    Recent trace calls .setDefaults 6 30 ∧
      (replyAt trace (fun _ => .setDefaults) calls 6).Filtered ∧
      (replyAt trace (fun _ => .setDefaults) calls 6).Backed .setDefaults 30 := by
  intro calls trace
  have published : PublishedSince trace calls 1 6 20 := by
    refine ⟨⟨by decide +kernel, rfl, nofun, rfl⟩, fun between since until_ => ?_⟩
    interval_cases between <;> exact id
  have begins : BeginsAt trace calls 2 := ⟨⟨25, rfl⟩, _, rfl, by decide +kernel⟩
  have ends : EndsAt trace calls 5 := ⟨rfl, _, _, rfl, rfl⟩
  have recent : Recent trace calls .setDefaults 6 30 :=
    ⟨1, 2, 5, 20, by decide, by decide, by decide, published, begins, ends, by decide⟩
  have filtered : (replyAt trace (fun _ => .setDefaults) calls 6).Filtered :=
    Or.inl (by decide +kernel)
  exact ⟨recent, filtered, filtered_fresh_of_recent (coolingTrace_run (sampleAt 1000000030 []))
    (cooling_clocked rfl rfl) (by decide) rfl recent filtered⟩

/-- A frequency published a second after the last temperature makes its filtered value available
again; the window is 150 ms. -/
theorem filtered_temperature_stale :
    (∃ trace calls clock, CallRun trace (fun _ => .setDefaults) calls 8 ∧
      Clocked calls clock 8 ∧ ∃ now ∈ (calls 7).copiedAt,
        (∃ channels ∈ (replyAt trace (fun _ => .setDefaults) calls 7).channels,
          channels.filteredAvailable = true ∧ channels.rawAvailable = false) ∧
        ¬ (replyAt trace (fun _ => .setDefaults) calls 7).Backed .setDefaults now) ∧
    ∃ trace calls clock, CallRun trace (fun _ => .setDefaults) calls 8 ∧
      Clocked calls clock 8 ∧ ∃ now ∈ (calls 7).copiedAt,
        (replyAt trace (fun _ => .setDefaults) calls 7).out.filteredTempAvailable = true ∧
        (replyAt trace (fun _ => .setDefaults) calls 7).error = none ∧
        ¬ (replyAt trace (fun _ => .setDefaults) calls 7).Backed .setDefaults now := by
  constructor
  · refine ⟨_, _, coolingClock, coolingTrace_run (publishAt 1000000030 (freqSample 900)),
      cooling_clocked rfl rfl, 1000000030, rfl, ⟨_, rfl, ?_⟩, ?_⟩
    · decide +kernel
    · rw [Reply.Backed]
      decide +kernel
  · refine ⟨_, _, coolingClock, coolingTrace_run (sampleAt 1000000030 []),
      cooling_clocked rfl rfl, 1000000030, rfl, ?_, ?_, ?_⟩
    · decide +kernel
    · decide +kernel
    · rw [Reply.Backed]
      decide +kernel

end ThermalSimd.Bridge
