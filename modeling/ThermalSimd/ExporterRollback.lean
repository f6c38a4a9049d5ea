import Mathlib.Tactic.IntervalCases
import ThermalSimd.Exporter

/-!
# The exporter's threads run down

While `running_` is false no client is queued, and every worker that has not missed the notification
leaves its loop: what the rollback of a failed `start` and the end of `stop` wait for.
-/

namespace ThermalSimd.Exporter

open Interleaving

variable {Caller : Type} [DecidableEq Caller] {tls : ℕ → Bool} {trace : ℕ → System Caller}
  {pool : System Caller} {t other : Agent Caller} {s' : Shared Caller} {before after : Local}

variable {s : Shared Caller} {n : ℕ} {pc : StartPc}

/-- How long a worker goes on holding `client_mutex_`. -/
def Local.hold : Local → ℕ
  | .worker .testing => 2
  | .worker .committing | .worker .deciding => 1
  | _ => 0

theorem Invariant.clientMutex_kept (inv : Invariant pool)
    (held : pool.shared.clientMutex = some another)
    (moves : Moves tls t pool.shared (pool.locals t) s' after) (other : t ≠ another) :
    s'.clientMutex = some another := by
  cases moves.client with
  | keeps same => rw [same, held]
  | acquires free => rw [held] at free; cases free
  | releases inside =>
    have holder := (inv.client t).mp inside
    rw [held] at holder
    exact absurd (Option.some.inj holder).symm other

theorem Moves.hold (moves : Moves tls t s before s' after) (inside : before.HoldsClient) :
    s'.clientMutex = none ∨
      s'.clientMutex = s.clientMutex ∧ after.hold < before.hold := by
  cases moves with
  | testTrue | testFalse => exact .inr ⟨rfl, by decide⟩
  | block | exit | again | take => exact .inl rfl
  | _ => exact inside.elim

omit [DecidableEq Caller] in
theorem Invariant.able_of_holdsClient (inv : Invariant pool)
    (inside : (pool.locals t).HoldsClient) : Able pool t := by
  have fits := inv.fits t
  unfold Able
  generalize pool.locals t = l at *
  cases t <;> cases l with
  | worker pc => cases pc <;> first | exact fits.elim | exact inside.elim | trivial
  | _ => first | exact fits.elim | exact inside.elim

/-- In a fair run `client_mutex_` is free again and again. -/
theorem Execution.clientMutex_free (run : Execution tls trace) (fair : Fair (Moves tls) Able trace)
    (i) : ∃ later, i ≤ later ∧ (trace later).shared.clientMutex = none := by
  cases held : (trace i).shared.clientMutex with
  | none => exact ⟨i, le_rfl, held⟩
  | some another =>
    have inside : ∀ later, (trace later).shared.clientMutex = some another →
        ((trace later).locals another).HoldsClient := fun later =>
      ((run.invariant later).client another).mpr
    refine fair.descends run.runs 0 (fun pool => pool.shared.clientMutex = some another)
      (fun pool => pool.shared.clientMutex = none) (fun pool => (pool.locals another).hold) another
      ?_ ?_ ?_ i (Nat.zero_le _) held
    · intro later _ held
      rcases run.runs later with same | ⟨t, s', after, moves, next⟩
      · rw [same]
        exact .inr ⟨held, le_rfl⟩
      · rw [next]
        rcases eq_or_ne t another with rfl | other
        · rcases moves.hold (inside later held) with free | ⟨same, lower⟩
          · exact .inl free
          · exact .inr ⟨same.trans held, by simpa using lower.le⟩
        · refine .inr ⟨(run.invariant later).clientMutex_kept held moves other, ?_⟩
          rw [Pool.set_other _ other.symm]
    · rintro later _ held ⟨s', after, moves, next⟩
      rw [next]
      rcases moves.hold (inside later held) with free | ⟨-, lower⟩
      · exact .inl free
      · exact .inr (by simpa using lower)
    · intro later _ stays
      have held := (stays later le_rfl).1
      exact ⟨later, le_rfl, (run.invariant later).able_of_holdsClient (inside later held)⟩

def Local.Awake (s : Shared Caller) : Local → Prop
  | .worker .committing => False
  | .worker (.blocked seen) => seen ≠ s.clientCv
  | _ => True

private def Local.distance : Local → ℕ
  | .worker (.choosing _) => 8
  | .worker (.checking _) => 7
  | .worker (.opening _) => 6
  | .worker (.serving _ _) | .worker (.blocked _) | .absent => 5
  | .worker .acquiring => 4
  | .worker .testing => 3
  | .worker .deciding => 2
  | _ => 0

theorem Moves.clients_length (moves : Moves tls t s before s' after) (down : s.running = false) :
    s'.clients.length ≤ s.clients.length := by
  cases moves with
  | enqueue _ _ up => rw [down] at up; cases up
  | clearClients => exact Nat.zero_le _
  | take front => simp [front]
  | _ => exact le_rfl

theorem Moves.worker_descends {n k} (moves : Moves tls (.worker n k) s before s' after)
    (down : s.running = false) (awake : before.Awake s) :
    after.Awake s' ∧
      10 * s'.clients.length + after.distance < 10 * s.clients.length + before.distance := by
  cases moves with
  | testFalse up | again _ up => rw [down] at up; cases up
  | block => exact awake.elim
  | take front => exact ⟨trivial, by simp [front, Local.distance]; omega⟩
  | _ => exact ⟨trivial, by simp [Local.distance, Shared.leave]⟩

theorem Invariant.awake_kept (inv : Invariant pool)
    (moves : Moves tls t pool.shared (pool.locals t) s' after)
    (awake : (pool.locals other).Awake pool.shared) : (pool.locals other).Awake s' := by
  unfold Local.Awake at *
  split at awake
  · exact awake
  · next seen here =>
      have seen := inv.seen other _ here
      have grows := (inv.grows rfl moves).clientCv
      exact Nat.ne_of_lt (lt_of_lt_of_le (lt_of_le_of_ne seen awake) grows)
  · trivial

/-- A worker that will see the flag. -/
structure Attending (n k : ℕ) (pool : System Caller) : Prop where
  created : k < pool.shared.spawned n
  unended : pool.locals (.worker n k) ≠ .exited
  awake : (pool.locals (.worker n k)).Awake pool.shared

theorem Invariant.attending_move {n k} (inv : Invariant pool) (attending : Attending n k pool)
    (down : pool.shared.running = false)
    (moves : Moves tls t pool.shared (pool.locals t) s' after) :
    (pool.set t s' after).locals (.worker n k) = .exited ∨
      Attending n k (pool.set t s' after) ∧
        10 * s'.clients.length + ((pool.set t s' after).locals (.worker n k)).distance ≤
          10 * pool.shared.clients.length + (pool.locals (.worker n k)).distance := by
  obtain ⟨created, _, awake⟩ := attending
  have created := lt_of_lt_of_le created ((inv.grows rfl moves).spawned n)
  rcases eq_or_ne (.worker n k) t with rfl | other
  · have descends := moves.worker_descends down awake
    by_cases ended : after = .exited
    · exact .inl (by rw [Pool.set_self, ended])
    · refine .inr ⟨⟨created, ?_, ?_⟩, ?_⟩
      · rwa [Pool.set_self]
      · rw [Pool.set_self]
        exact descends.1
      · rw [Pool.set_self]
        exact descends.2.le
  · have fewer := moves.clients_length down
    refine .inr ⟨⟨created, ?_, ?_⟩, ?_⟩
    · rwa [Pool.set_other _ other]
    · rw [Pool.set_other _ other]
      exact inv.awake_kept moves awake
    · rw [Pool.set_other _ other]
      omega

omit [DecidableEq Caller] in
theorem Attending.able {n k : ℕ} (attending : Attending n k pool) (inv : Invariant pool)
    (busy : pool.locals (.worker n k) ≠ .worker .acquiring) : Able pool (.worker n k) := by
  obtain ⟨created, unended, awake⟩ := attending
  have fits := inv.fits (.worker n k)
  unfold Able
  generalize pool.locals (.worker n k) = l at *
  cases l with
  | absent => exact created
  | exited => exact absurd rfl unended
  | worker pc =>
    cases pc with
    | acquiring => exact absurd rfl busy
    | blocked => exact awake
    | _ => trivial
  | _ => exact fits.elim

theorem Execution.worker_ends (run : Execution tls trace) (fair : Fair (Moves tls) Able trace)
    {first n k} (down : ∀ later, first ≤ later → (trace later).shared.running = false)
    (attending : Attending n k (trace first)) :
    ∃ later, first ≤ later ∧ (trace later).locals (.worker n k) = .exited := by
  refine fair.descends run.runs first (Attending n k)
    (fun pool => pool.locals (.worker n k) = .exited)
    (fun pool => 10 * pool.shared.clients.length + (pool.locals (.worker n k)).distance)
    (.worker n k) ?_ ?_ ?_ first le_rfl attending
  · intro i since attending
    rcases run.runs i with same | ⟨t, s', after, moves, next⟩
    · rw [same]
      exact .inr ⟨attending, le_rfl⟩
    · rw [next]
      exact (run.invariant i).attending_move attending (down i since) moves
  · rintro i since attending ⟨s', after, moves, next⟩
    rw [next]
    right
    rw [Pool.set_self]
    exact (moves.worker_descends (down i since) attending.awake).2
  · intro i since stays
    by_cases acquiring : (trace i).locals (.worker n k) = .worker .acquiring
    · obtain ⟨later, le, free⟩ := run.clientMutex_free fair i
      refine ⟨later, le, ?_⟩
      unfold Able
      rw [(stays later le).2, acquiring]
      exact free
    · exact ⟨i, le_rfl, (stays i le_rfl).1.able (run.invariant i) acquiring⟩

theorem Execution.worker_returned (run : Execution tls trace) (fair : Fair (Moves tls) Able trace)
    {first n k} (down : ∀ later, first ≤ later → (trace later).shared.running = false)
    (created : k < (trace first).shared.spawned n)
    (awake : ((trace first).locals (.worker n k)).Awake (trace first).shared) :
    ∃ later, first ≤ later ∧ (trace later).shared.returned (.worker n k) = true := by
  by_cases ended : (trace first).locals (.worker n k) = .exited
  · exact ⟨first, le_rfl, ((run.invariant first).returned _).mpr ended⟩
  · obtain ⟨later, le, ended⟩ := run.worker_ends fair down ⟨created, ended, awake⟩
    exact ⟨later, le, ((run.invariant later).returned _).mpr ended⟩

/-- In the rollback of `start`. -/
def StartPc.RollsBack : StartPc → Prop
  | .unsetting | .shutting | .notifying | .joining _ | .dropping | .disarming => True
  | _ => False

/-- About to notify the waiters of `client_cv_`. -/
def Local.Notifies : Local → Prop
  | .start _ .unsetting | .start _ .shutting | .start _ .notifying => True
  | .stop _ _ .shutting | .stop _ _ .clearing | .stop _ _ .notifying => True
  | .accept .signalling => True
  | _ => False

/-- A worker waits although the exporter is down, no client is queued and nobody will notify. -/
structure Stranded (pool : System Caller) (n k : ℕ) : Prop where
  waits : pool.locals (.worker n k) = .worker (.blocked pool.shared.clientCv)
  down : pool.shared.running = false
  empty : pool.shared.clients = []
  silent : ∀ t, ¬ (pool.locals t).Notifies

/-- The `notify_all` of a rollback finds none of its workers between predicate and wait. -/
def Noticed (pool next : System Caller) : Prop :=
  ∀ c n, pool.locals (.caller c) = .start n .notifying →
    next.locals (.caller c) = .start n (.joining 0) →
      ∀ k, pool.locals (.worker n k) ≠ .worker .committing

/-- After the `notify_all` of the rollback. -/
def StartPc.HasNotified : StartPc → Prop
  | .joining _ | .dropping | .disarming => True
  | _ => False

private def Roused (pool : System Caller) : Prop :=
  ∀ c n (pc : StartPc), pool.locals (.caller c) = .start n pc → pc.HasNotified →
    ∀ k, (pool.locals (.worker n k)).Awake pool.shared

theorem Invariant.awake_move (inv : Invariant pool) (down : pool.shared.running = false)
    (moves : Moves tls t pool.shared (pool.locals t) s' after) {n k}
    (awake : (pool.locals (.worker n k)).Awake pool.shared) :
    ((pool.set t s' after).locals (.worker n k)).Awake s' := by
  rcases eq_or_ne (.worker n k) t with rfl | other
  · rw [Pool.set_self]
    exact (moves.worker_descends down awake).1
  · rw [Pool.set_other _ other]
    exact inv.awake_kept moves awake

theorem Moves.hasNotified (moves : Moves tls t s before s' (.start n pc))
    (notified : pc.HasNotified) :
    (∃ pc : StartPc, before = .start n pc ∧ pc.HasNotified) ∨
      before = .start n .notifying ∧ pc = .joining 0 ∧
        s' = { s with clientCv := s.clientCv + 1 } := by
  cases moves with
  | notify => exact .inr ⟨rfl, rfl, rfl⟩
  | join | joined | drop => exact .inl ⟨_, rfl, trivial⟩
  | clear => split at notified <;> exact notified.elim
  | _ => exact notified.elim

omit [DecidableEq Caller] in
theorem StartPc.HasNotified.down (notified : pc.HasNotified) (holds : pc.Holds s n) :
    s.running = false := by
  cases pc <;> first | exact holds | exact notified.elim

theorem Roused.move (roused : Roused pool) (inv : Invariant pool)
    (moves : Moves tls t pool.shared (pool.locals t) s' after)
    (noticed : Noticed pool (pool.set t s' after)) : Roused (pool.set t s' after) := by
  intro c n pc here notified k
  by_cases already : ∃ pc : StartPc, pool.locals (.caller c) = .start n pc ∧ pc.HasNotified
  · obtain ⟨pc, there, notified⟩ := already
    have down := notified.down (inv.starting c n _ there).2.2
    exact inv.awake_move down moves (roused c n pc there notified k)
  · -- The caller has just notified.
    rcases eq_or_ne (.caller c) t with rfl | other
    · have there := here
      rw [Pool.set_self] at there
      subst there
      rcases moves.hasNotified notified with before | ⟨before, rfl, rfl⟩
      · exact absurd before already
      · have ready := noticed c n before here k
        unfold Local.Awake
        split
        · next committing => exact ready committing
        · next seen blocked => exact Nat.ne_of_lt (Nat.lt_succ_of_le (inv.seen _ _ blocked))
        · trivial
    · rw [Pool.set_other _ other] at here
      exact absurd ⟨pc, here, notified⟩ already

theorem Execution.roused (run : Execution tls trace)
    (noticed : ∀ i, Noticed (trace i) (trace (i + 1))) : ∀ i, Roused (trace i) := by
  refine run.runs.invariant Roused ?_ ?_
  · rw [run.start]
    exact fun _ _ _ => nofun
  · rintro i t ⟨_, _, moves, next⟩ roused
    have noticed := noticed i
    rw [next] at noticed ⊢
    exact roused.move (run.invariant i) moves noticed

/-- How far a rollback is from its end, with `workers` to join. -/
def StartPc.remaining (workers : ℕ) : StartPc → ℕ
  | .unsetting => workers + 5
  | .shutting => workers + 4
  | .notifying => workers + 3
  | .joining k => workers - k + 2
  | .dropping => 1
  | _ => 0

/-- A call of `start` is in the rollback of run `n`. -/
def RollingBack (c : Caller) (n : ℕ) (pool : System Caller) : Prop :=
  ∃ pc : StartPc, pool.locals (.caller c) = .start n pc ∧ pc.RollsBack

private def Local.remaining (s : Shared Caller) : Local → ℕ
  | .start n pc => pc.remaining (s.spawned n)
  | _ => 0

theorem Moves.rollback {c} (moves : Moves tls (.caller c) s (.start n pc) s' after)
    (rollsBack : pc.RollsBack) :
    after = .idle ∨ ∃ pc' : StartPc, after = .start n pc' ∧ pc'.RollsBack ∧
      s'.spawned = s.spawned ∧ pc'.remaining (s.spawned n) < pc.remaining (s.spawned n) := by
  cases moves with
  | disarm => exact .inl rfl
  | join more | unset | shut | notify | joined | drop =>
    exact .inr ⟨_, rfl, trivial, rfl, by simp only [StartPc.remaining]; omega⟩
  | _ => exact rollsBack.elim

/-- The members under `server_mutex_` are left alone by everybody but the holder. -/
theorem Invariant.guarded_kept (inv : Invariant pool)
    (moves : Moves tls t pool.shared (pool.locals t) s' after)
    (holds : (pool.locals another).HoldsServer) (other : another ≠ t) :
      s'.guarded = pool.shared.guarded := by
  refine moves.guarded_eq (fun inside => other (inv.server.exclusive holds inside)) fun inside => ?_
  have moved := inv.server.set rfl moves.server
  exact other (moved.exclusive (by rwa [Pool.set_other _ other]) (by rwa [Pool.set_self]))

theorem Invariant.rollingBack_move {c} (inv : Invariant pool)
    (rolling : RollingBack c n pool) (moves : Moves tls t pool.shared (pool.locals t) s' after) :
    (pool.set t s' after).locals (.caller c) = .idle ∨
      RollingBack c n (pool.set t s' after) ∧
        ((pool.set t s' after).locals (.caller c)).remaining s' ≤
          (pool.locals (.caller c)).remaining pool.shared := by
  obtain ⟨pc, here, rollsBack⟩ := rolling
  rcases eq_or_ne (.caller c) t with rfl | other
  · rw [here] at moves
    rcases moves.rollback rollsBack with rfl | ⟨pc', rfl, still, same, lower⟩
    · exact .inl (Pool.set_self ..)
    · refine .inr ⟨⟨pc', Pool.set_self .., still⟩, ?_⟩
      rw [Pool.set_self, here, Local.remaining, same]
      exact lower.le
  · have spawned : s'.spawned = pool.shared.spawned := by
      have same := inv.guarded_kept moves (by rw [here]; trivial) other
      exact congrArg (·.2.2.1) same
    refine .inr ⟨⟨pc, by rwa [Pool.set_other _ other], rollsBack⟩, ?_⟩
    rw [Pool.set_other _ other, here, Local.remaining, spawned]
    exact le_rfl

theorem Execution.rollback_ends (run : Execution tls trace) (fair : Fair (Moves tls) Able trace)
    (roused : ∀ i, Roused (trace i)) {c n first} (rolling : RollingBack c n (trace first)) :
    ∃ later, first ≤ later ∧ (trace later).locals (.caller c) = .idle := by
  refine fair.descends run.runs 0 (RollingBack c n) (fun pool => pool.locals (.caller c) = .idle)
    (fun pool => (pool.locals (.caller c)).remaining pool.shared) (.caller c) ?_ ?_ ?_ first
    (Nat.zero_le _) rolling
  · intro i _ rolling
    rcases run.runs i with same | ⟨t, s', after, moves, next⟩
    · rw [same]
      exact .inr ⟨rolling, le_rfl⟩
    · rw [next]
      exact (run.invariant i).rollingBack_move rolling moves
  · rintro i _ ⟨pc, here, rollsBack⟩ ⟨s', after, moves, next⟩
    rw [here] at moves
    rw [next, here, Pool.set_self]
    rcases moves.rollback rollsBack with rfl | ⟨pc', rfl, -, same, lower⟩
    · exact .inl rfl
    · right
      rw [Local.remaining, Pool.set_shared, same]
      exact lower
  · intro i _ stays
    obtain ⟨pc, here, rollsBack⟩ := (stays i le_rfl).1
    have stays : ∀ later, i ≤ later → (trace later).locals (.caller c) = .start n pc :=
      fun later le => (stays later le).2.trans here
    -- Only a join waits, for a worker that ends by and by.
    suffices ready : ∃ later, i ≤ later ∧ pc.Able (trace later).shared n by
      obtain ⟨later, le, able⟩ := ready
      refine ⟨later, le, ?_⟩
      unfold Able
      rw [stays later le]
      exact able
    cases pc with
    | joining k =>
      by_cases created : k < (trace i).shared.spawned n
      · have down : ∀ later, i ≤ later → (trace later).shared.running = false :=
          fun later le => ((run.invariant later).starting c n _ (stays later le)).2.2
        obtain ⟨later, le, returned⟩ :=
          run.worker_returned fair down created (roused i c n _ here trivial k)
        exact ⟨later, le, fun _ => returned⟩
      · exact ⟨i, le_rfl, fun more => absurd more created⟩
    | _ => exact ⟨i, le_rfl, trivial⟩

/-- If no `notify_all` of a rollback meets a worker between predicate and wait, no worker is
stranded, and in a fair run every rollback returns. -/
theorem rollback_returns (run : Execution tls trace)
    (noticed : ∀ index, Noticed (trace index) (trace (index + 1))) :
    (∀ index c n k, RollingBack c n (trace index) → ¬ Stranded (trace index) n k) ∧
      (Fair (Moves tls) Able trace → ∀ index c n, RollingBack c n (trace index) →
        ∃ later, index ≤ later ∧ (trace later).locals (.caller c) = .idle) := by
  have roused := run.roused noticed
  refine ⟨?_, fun fair index c n rolling => run.rollback_ends fair roused rolling⟩
  rintro index c n k ⟨pc, here, rollsBack⟩ stranded
  have silent := stranded.silent (.caller c)
  rw [here] at silent
  cases pc with
  | joining | dropping | disarming =>
    have awake := roused index c n _ here trivial k
    rw [stranded.waits] at awake
    exact awake rfl
  | unsetting | shutting | notifying => exact silent trivial
  | _ => exact rollsBack

/-- A start without TLS that creates one worker and fails to create the second. -/
def failingStart : Path (Step (Moves fun _ => false)) (initial Unit) :=
  .act (.caller ()) rfl (.begin rfl rfl) <| .act (.caller ()) rfl .destroy <|
  .act (.caller ()) rfl .clear <| .act (.caller ()) rfl .arm <|
  .act (.caller ()) rfl (.create (by decide)) <| .act (.caller ()) rfl .createFails .done

/-- The rollback as far as its `notify_all`. -/
def rollback {pool : System Unit} (here : pool.locals (.caller ()) = .start 0 .unsetting) :
    Path (Step (Moves fun _ => false)) pool :=
  .act (.caller ()) here .unset <| .act (.caller ()) rfl .shut <|
  .act (.caller ()) rfl .notify .done

/-- The worker comes to its loop after the rollback has notified. -/
def lateWorker : Path (Step (Moves fun _ => false)) (initial Unit) :=
  failingStart.append <| (rollback rfl).append <|
  .act (.worker 0 0) rfl (.workerBorn (by decide)) <| .act (.worker 0 0) rfl (.acquire rfl) <|
  .act (.worker 0 0) rfl (.testTrue (.inl rfl)) <| .act (.worker 0 0) rfl (.exit rfl rfl) <|
  .act (.caller ()) rfl (.join (by decide) rfl) <| .act (.caller ()) rfl (.joined (by decide)) <|
  .act (.caller ()) rfl .drop <| .act (.caller ()) rfl .disarm .done

theorem lateWorker_never_commits (index n k) :
    (lateWorker.trace index).locals (.worker n k) ≠ .worker .committing := by
  rcases lt_or_ge index 17 with below | le
  · interval_cases index <;> rcases n with _ | n <;> rcases k with _ | k <;> nofun
  · rw [lateWorker.trace_of_length_le le]
    rcases n with _ | n <;> rcases k with _ | k <;> nofun

theorem rollback_returns_late_worker :
    ∃ later, 6 ≤ later ∧ (lateWorker.trace later).locals (.caller ()) = .idle := by
  refine (rollback_returns ⟨rfl, lateWorker.runs⟩ ?_).2 (lateWorker.fair ?_) 6 () 0
    ⟨_, rfl, trivial⟩
  · exact fun index c n _ _ k => lateWorker_never_commits index n k
  · rintro (_ | n | ⟨_ | n, _ | k⟩) able
    · exact able
    · exact Bool.noConfusion able
    · exact able
    · exact Nat.not_lt_zero k (Nat.lt_of_succ_lt_succ able)
    all_goals exact Nat.not_lt_zero _ able

/-- The worker finds its predicate false before the rollback and waits after it. -/
def hastyWorker : Path (Step (Moves fun _ => false)) (initial Unit) :=
  failingStart.append <| .act (.worker 0 0) rfl (.workerBorn (by decide)) <|
  .act (.worker 0 0) rfl (.acquire rfl) <| .act (.worker 0 0) rfl (.testFalse rfl rfl) <|
  (rollback rfl).append <| .act (.worker 0 0) rfl .block .done

/-- A worker that finds its predicate false before the flag is cleared, and waits after the
notification, is never woken. -/
theorem rollback_strands_worker :
    ∃ trace : ℕ → System Unit, Execution (fun _ => false) trace ∧
      ∃ index, RollingBack () 0 (trace index) ∧ Stranded (trace index) 0 0 ∧
        ∀ t, ¬ Able (trace index) t := by
  refine ⟨hastyWorker.trace, ⟨rfl, hastyWorker.runs⟩, 13, ⟨_, rfl, trivial⟩, ⟨rfl, rfl, rfl, ?_⟩,
    ?_⟩
  · rintro (_ | n | ⟨_ | n, _ | k⟩) <;> exact id
  · rintro (_ | n | ⟨_ | n, _ | k⟩) able
    · exact absurd (able (by decide)) (by decide)
    · exact Bool.noConfusion able
    · exact able rfl
    · exact Nat.not_lt_zero k (Nat.lt_of_succ_lt_succ able)
    all_goals exact Nat.not_lt_zero _ able

end ThermalSimd.Exporter
