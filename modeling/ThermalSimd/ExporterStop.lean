import ThermalSimd.ExporterRollback

/-!
# TLS and the end of a run

If no run begins while an earlier `stop` is unfinished, the threads of one run never meet the TLS
context of another, and every `stop` comes to its end.
-/

namespace ThermalSimd.Exporter

open Interleaving

variable {Caller : Type} {tls : ℕ → Bool}

variable {pc : StopPc} {c : Caller}

/-- A thread of run `n` has been created and has not ended. -/
def Shared.Alive (s : Shared Caller) (n : ℕ) : Prop :=
  (∃ k < s.spawned n, s.returned (.worker n k) = false) ∨
    s.accepting n = true ∧ s.returned (.accept n) = false

/-- No client, and no thread of a run. -/
structure Shared.Quiet (s : Shared Caller) : Prop where
  clients : s.clients = []
  ended : ∀ n, ¬ s.Alive n

/-- The TLS members are those of run `n`, if it is configured with TLS. -/
def Shared.Ready (tls : ℕ → Bool) (s : Shared Caller) (n : ℕ) : Prop :=
  tls n = true → s.useTls = true ∧ s.sslCtx = some n

/-- Run `n` is the newest, and threads and clients are its own. -/
structure Shared.Settled (tls : ℕ → Bool) (s : Shared Caller) (n : ℕ) : Prop where
  newest : n + 1 = s.runs
  ready : s.Ready tls n
  alive : ∀ m, s.Alive m → m = n
  clients : ∀ client ∈ s.clients, client = n

/-- All threads of run `n` have been created. -/
structure Shared.Launched (s : Shared Caller) (n : ℕ) : Prop where
  accept : s.accepting n = true
  workers : s.spawned n = kWorkerCount

/-- Run `n` is up. -/
structure Shared.Up (tls : ℕ → Bool) (s : Shared Caller) (n : ℕ) : Prop where
  settled : s.Settled tls n
  launched : s.Launched n
  listenFd : s.listenFd = some n
  threads : s.threads = some n

private def Shared.Rests (tls : ℕ → Bool) (s : Shared Caller) : Prop :=
  s.running = false ∧ s.Quiet ∨ s.running = true ∧ ∃ n, s.Up tls n

/-- What a call of `start` finds at each point. -/
def StartPc.Phase (tls : ℕ → Bool) (s : Shared Caller) (n : ℕ) : StartPc → Prop
  | .destroying | .clearing | .installing | .dropping | .disarming => s.Quiet
  | .enabling => s.Quiet ∧ s.sslCtx = some n
  | .arming => s.Quiet ∧ s.Ready tls n
  | .creating _ => s.Settled tls n ∧ s.clients = [] ∧ s.listenFd = some n
  | .unsetting | .shutting | .notifying => s.Settled tls n ∧ s.clients = []
  | .joining k =>
    s.Settled tls n ∧ s.clients = [] ∧ ∀ i < k, s.returned (.worker n i) = true

/-- Run `n` has been stopped and its listener shut. -/
structure Shared.Down (tls : ℕ → Bool) (s : Shared Caller) (n : ℕ) : Prop where
  settled : s.Settled tls n
  shut : s.shut n = true

/-- What a call of `stop` finds at each point. -/
def StopPc.Phase (tls : ℕ → Bool) (s : Shared Caller) (n : ℕ) : StopPc → Prop
  | .shutting => s.Settled tls n
  | .clearing => s.Down tls n
  | .notifying | .joiningAccept => s.Down tls n ∧ s.clients = []
  | .closing => s.Down tls n ∧ s.clients = [] ∧ s.returned (.accept n) = true
  | .joining k =>
    s.Down tls n ∧ s.clients = [] ∧ s.returned (.accept n) = true ∧
      ∀ i < k, s.returned (.worker n i) = true
  | .destroying | .disarming => s.Quiet

private def Local.Phase (tls : ℕ → Bool) (s : Shared Caller) : Local → Prop
  | .start n pc => pc.Phase tls s n
  | .stop l taken pc =>
    s.running = false ∧ ∃ n, l = some n ∧ taken = some n ∧ s.Launched n ∧ pc.Phase tls s n
  | _ => True

private def Local.Occupied : Local → Prop
  | .start _ _ | .stop _ _ _ => True
  | _ => False

/-- A client was accepted by its worker's run, and over TLS is served over that run's context. -/
def WorkerPc.Carries (tls : ℕ → Bool) (n : ℕ) : WorkerPc → Prop
  | .choosing client | .checking client | .opening client => client = n
  | .serving client ctx => client = n ∧ (tls n = true → ctx = some n)
  | _ => True

/-- What orderly runs keep: one caller at a time, in the phase of its run. -/
structure Ordered (tls : ℕ → Bool) (pool : System Caller) : Prop where
  alone : ∀ c d, (pool.locals (.caller c)).Occupied → (pool.locals (.caller d)).Occupied → c = d
  phase : ∀ c, (pool.locals (.caller c)).Phase tls pool.shared
  free : (∀ c, ¬ (pool.locals (.caller c)).Occupied) → pool.shared.Rests tls
  carries : ∀ n k (pc : WorkerPc), pool.locals (.worker n k) = .worker pc → pc.Carries tls n

/-- Inside a `stop` that has observed `running_`. -/
def Local.Stopping : Local → Prop
  | .stop _ _ _ => True
  | _ => False

/-- If the step is the beginning of a run, no `stop` is unfinished. -/
def Orderly (pool next : System Caller) : Prop :=
  pool.shared.runs < next.shared.runs → ∀ c, ¬ (pool.locals (.caller c)).Stopping

section

variable {t : Agent Caller} {s s' : Shared Caller} {before after : Local} {pool : System Caller}

private def Shared.control (s : Shared Caller) : Shared Caller :=
  { s with clientMutex := none, clients := [], returned := fun _ => false }

/-- What a move of an accept thread or a worker of run `n` does to the shared state. -/
structure ThreadStep (n : ℕ) (s s' : Shared Caller) : Prop where
  control : s'.control = s.control
  returned : ∀ other, s.returned other = true → s'.returned other = true
  clients : s'.clients ⊆ s.clients ∨
    s.running = true ∧ s.accepting n = true ∧ s'.clients = s.clients ++ [n]

namespace ThreadStep

variable {n m : ℕ} (step : ThreadStep n s s')
include step

theorem alive (alive : s'.Alive m) : s.Alive m := by
  have spawned : s'.spawned = s.spawned := (congrArg Shared.spawned step.control :)
  have accepting : s'.accepting = s.accepting := (congrArg Shared.accepting step.control :)
  have unended : ∀ other, s'.returned other = false → s.returned other = false := by
    intro other unended
    by_contra ended
    rw [step.returned other (by simpa using ended)] at unended
    cases unended
  rcases alive with ⟨k, created, alive⟩ | ⟨created, alive⟩
  · exact .inl ⟨k, spawned ▸ created, unended _ alive⟩
  · exact .inr ⟨accepting ▸ created, unended _ alive⟩

theorem settled (settled : s.Settled tls m) (alive : s.Alive n) : s'.Settled tls m := by
  have runs : s'.runs = s.runs := (congrArg Shared.runs step.control :)
  have useTls : s'.useTls = s.useTls := (congrArg Shared.useTls step.control :)
  have sslCtx : s'.sslCtx = s.sslCtx := (congrArg Shared.sslCtx step.control :)
  refine ⟨by rw [runs, settled.newest], ?_, fun k alive => settled.alive k (step.alive alive), ?_⟩
  · unfold Shared.Ready
    rw [useTls, sslCtx]
    exact settled.ready
  · intro client mem
    rcases step.clients with fewer | ⟨-, -, clients⟩
    · exact settled.clients client (fewer mem)
    · rw [clients] at mem
      rcases List.mem_append.mp mem with old | new
      · exact settled.clients client old
      · rw [List.mem_singleton.mp new, settled.alive n alive]

theorem clients_nil (nil : s.clients = []) (closed : s.running = false ∨ s.accepting n = false) :
    s'.clients = [] := by
  rcases step.clients with fewer | ⟨up, created, -⟩
  · rw [nil] at fewer
    exact List.subset_nil.mp fewer
  · rcases closed with down | unborn
    · rw [down] at up; cases up
    · rw [unborn] at created; cases created

theorem launched (launched : s.Launched m) : s'.Launched m :=
  ⟨(congrFun (congrArg Shared.accepting step.control) m).trans launched.accept,
    (congrFun (congrArg Shared.spawned step.control) m).trans launched.workers⟩

theorem down (down : s.Down tls m) (alive : s.Alive n) : s'.Down tls m :=
  ⟨step.settled down.settled alive,
    (congrFun (congrArg Shared.shut step.control) m).trans down.shut⟩

theorem start (alive : s.Alive n) {pc : StartPc} (phase : pc.Phase tls s m)
    (unborn : s.accepting m = false) : pc.Phase tls s' m := by
  have clients (settled : s.Settled tls m) (nil) : s'.clients = [] :=
    step.clients_nil nil (.inr (settled.alive n alive ▸ unborn))
  cases pc with
  | destroying | clearing | dropping | disarming | installing =>
    exact absurd alive (Shared.Quiet.ended phase n)
  | enabling | arming => exact absurd alive (phase.1.ended n)
  | creating =>
    obtain ⟨settled, nil, listenFd⟩ := phase
    exact ⟨step.settled settled alive, clients settled nil,
      (congrArg Shared.listenFd step.control).trans listenFd⟩
  | unsetting | shutting | notifying =>
    exact ⟨step.settled phase.1 alive, clients phase.1 phase.2⟩
  | joining k =>
    obtain ⟨settled, nil, joined⟩ := phase
    exact ⟨step.settled settled alive, clients settled nil,
      fun i lt => step.returned _ (joined i lt)⟩

theorem stop (alive : s.Alive n) (phase : pc.Phase tls s m) (down : s.running = false) :
    pc.Phase tls s' m := by
  have clients (nil) : s'.clients = [] := step.clients_nil nil (.inl down)
  cases pc with
  | shutting => exact step.settled phase alive
  | clearing => exact step.down phase alive
  | notifying | joiningAccept => exact ⟨step.down phase.1 alive, clients phase.2⟩
  | closing => exact ⟨step.down phase.1 alive, clients phase.2.1, step.returned _ phase.2.2⟩
  | joining k =>
    obtain ⟨settled, nil, joined, all⟩ := phase
    exact ⟨step.down settled alive, clients nil, step.returned _ joined,
      fun i lt => step.returned _ (all i lt)⟩
  | destroying | disarming => exact absurd alive (Shared.Quiet.ended phase n)

theorem phase (alive : s.Alive n) {l : Local} (phase : l.Phase tls s)
    (unborn : ∀ m pc, l = .start m pc → s.accepting m = false) : l.Phase tls s' := by
  cases l with
  | start m pc => exact step.start alive phase (unborn m pc rfl)
  | stop l taken pc =>
    obtain ⟨down, m, listener, joins, launched, phase⟩ := phase
    have running : s'.running = s.running := (congrArg Shared.running step.control :)
    exact ⟨running.trans down, m, listener, joins, step.launched launched,
      step.stop alive phase down⟩
  | _ => trivial

theorem up (alive : s.Alive n) (up : s.Up tls m) : s'.Up tls m :=
  ⟨step.settled up.settled alive, step.launched up.launched,
    (congrArg Shared.listenFd step.control).trans up.listenFd,
    (congrArg Shared.threads step.control).trans up.threads⟩

end ThreadStep

theorem Shared.Quiet.settled {n} (quiet : s.Quiet) (newest : n + 1 = s.runs)
    (ready : s.Ready tls n) : s.Settled tls n :=
  ⟨newest, ready, fun m alive => absurd alive (quiet.ended m), by simp [quiet.clients]⟩

theorem Shared.Settled.quiet {n k} (settled : s.Settled tls n) (nil : s.clients = [])
    (accept : s.accepting n = true → s.returned (.accept n) = true)
    (joined : ∀ i < k, s.returned (.worker n i) = true) (all : s.spawned n ≤ k) : s.Quiet := by
  refine ⟨nil, fun m alive => ?_⟩
  obtain rfl := settled.alive m alive
  rcases alive with ⟨i, created, unended⟩ | ⟨created, unended⟩
  · rw [joined i (created.trans_le all)] at unended
    cases unended
  · rw [accept created] at unended
    cases unended

theorem Local.HoldsServer.occupied {l : Local} (holds : l.HoldsServer) : l.Occupied := by
  unfold Local.HoldsServer at holds
  split at holds <;> trivial

/-- While `server_mutex_` is free and no `stop` is unfinished, no call is under way. -/
theorem Invariant.unoccupied (inv : Invariant pool) (free : pool.shared.serverMutex = none)
    (unstopped : ∀ c, ¬ (pool.locals (.caller c)).Stopping) (c) :
    ¬ (pool.locals (.caller c)).Occupied := by
  intro occupied
  have unlocked : ¬ (pool.locals (.caller c)).HoldsServer := by
    rw [inv.server, free]
    exact nofun
  have running := unstopped c
  unfold Local.Occupied at occupied
  split at occupied
  · next here => exact unlocked (here ▸ trivial)
  · next here => exact running (here ▸ trivial)
  · exact occupied

theorem Local.phase_of_not_occupied {l : Local} (out : ¬ l.Occupied) : l.Phase tls s := by
  cases l with
  | start | stop => exact absurd trivial out
  | _ => trivial

theorem Ordered.settled {n} (ordered : Ordered tls pool) (alive : pool.shared.Alive n) :
    pool.shared.Settled tls n := by
  have settled {m} (settled : pool.shared.Settled tls m) : pool.shared.Settled tls n :=
    settled.alive n alive ▸ settled
  by_cases occupied : ∃ c, (pool.locals (.caller c)).Occupied
  · obtain ⟨c, occupied⟩ := occupied
    have phase := ordered.phase c
    generalize pool.locals (.caller c) = l at *
    cases l with
    | start m pc =>
      cases pc with
      | creating | unsetting | shutting | notifying | joining => exact settled phase.1
      | enabling | arming => exact absurd alive (phase.1.ended n)
      | destroying | clearing | installing | dropping | disarming =>
        exact absurd alive (Shared.Quiet.ended phase n)
    | stop l taken pc =>
      obtain ⟨-, m, -, -, -, phase⟩ := phase
      cases pc with
      | shutting => exact settled phase
      | clearing => exact settled phase.settled
      | notifying | joiningAccept | closing | joining => exact settled phase.1.settled
      | destroying | disarming => exact absurd alive (Shared.Quiet.ended phase n)
    | _ => exact occupied.elim
  · push Not at occupied
    rcases ordered.free occupied with ⟨-, quiet⟩ | ⟨-, m, up⟩
    · exact absurd alive (quiet.ended n)
    · exact settled up.settled

/-- Nobody holds `server_mutex_` when a `stop` is about to close its listener. -/
theorem Ordered.serverMutex_free {l taken} (ordered : Ordered tls pool) (inv : Invariant pool)
    (here : pool.locals (.caller c) = .stop l taken .closing) : pool.shared.serverMutex = none := by
  cases held : pool.shared.serverMutex with
  | none => rfl
  | some other =>
    have holds := (inv.server other).mpr held
    have fits := inv.fits other
    cases other with
    | caller d =>
      obtain rfl := ordered.alone d c holds.occupied (by rw [here]; trivial)
      rw [here] at holds
      exact holds.elim
    | accept n =>
      generalize pool.locals (.accept n) = l at *
      cases l <;> first | exact holds.elim | exact fits.elim
    | worker n k =>
      generalize pool.locals (.worker n k) = l at *
      cases l <;> first | exact holds.elim | exact fits.elim

theorem initial_ordered : Ordered tls (initial Caller) where
  alone := fun _ _ => False.elim
  phase := fun _ => trivial
  free := fun _ => .inl ⟨rfl, rfl, by rintro n (⟨_, lt, -⟩ | ⟨created, -⟩) <;> cases ‹_›⟩
  carries := fun _ _ _ => nofun

/-- All threads of run `n` have been created and have ended. -/
structure Shared.Ended (s : Shared Caller) (n : ℕ) : Prop where
  launched : s.Launched n
  accept : s.returned (.accept n) = true
  workers : ∀ k < kWorkerCount, s.returned (.worker n k) = true

theorem Shared.Quiet.ended_of_launched {n} (quiet : s.Quiet) (launched : s.Launched n) :
    s.Ended n := by
  refine ⟨launched, ?_, fun k lt => ?_⟩
  · by_contra unended
    exact quiet.ended n (.inr ⟨launched.accept, by simpa using unended⟩)
  · by_contra unended
    exact quiet.ended n (.inl ⟨k, launched.workers ▸ lt, by simpa using unended⟩)

variable [DecidableEq Caller]

theorem Shared.leave_returned (s : Shared Caller) (t another)
    (ended : s.returned another = true) : (s.leave t).returned another = true := by
  unfold Shared.leave
  dsimp only
  rcases eq_or_ne another t with rfl | other
  · exact Function.update_self ..
  · rwa [Function.update_of_ne other]

theorem Moves.threadStep_accept {n} (moves : Moves tls (.accept n) s before s' after)
    (created : s.accepting n = true) : ThreadStep n s s' := by
  cases moves with
  | enqueue _ _ up => exact ⟨rfl, fun _ => id, .inr ⟨up, created, rfl⟩⟩
  | loadDown | giveUp =>
    exact ⟨rfl, fun other => s.leave_returned _ other, .inl (List.Subset.refl _)⟩
  | _ => exact ⟨rfl, fun _ => id, .inl (List.Subset.refl _)⟩

theorem Moves.threadStep_worker {n k} (moves : Moves tls (.worker n k) s before s' after) :
    ThreadStep n s s' := by
  cases moves with
  | exit => exact ⟨rfl, fun other => s.leave_returned _ other, .inl (List.Subset.refl _)⟩
  | take front => exact ⟨rfl, fun _ => id, .inl (front ▸ List.subset_cons_self _ _)⟩
  | _ => exact ⟨rfl, fun _ => id, .inl (List.Subset.refl _)⟩

theorem Invariant.unended (inv : Invariant pool)
    (moves : Moves tls t pool.shared (pool.locals t) s' after) :
    pool.shared.returned t = false := by
  have unended := (not_congr (inv.returned t)).mpr moves.returned.1
  simpa using unended

theorem Invariant.accept_created {n} (inv : Invariant pool)
    (moves : Moves tls (.accept n) pool.shared (pool.locals (.accept n)) s' after) :
    pool.shared.accepting n = true := by
  generalize here : pool.locals (.accept n) = l at moves
  cases moves with
  | acceptBorn created => exact created
  | _ => exact inv.accept n _ here

theorem Invariant.worker_alive {n k} (inv : Invariant pool)
    (moves : Moves tls (.worker n k) pool.shared (pool.locals (.worker n k)) s' after) :
    pool.shared.Alive n := by
  refine .inl ⟨k, ?_, inv.unended moves⟩
  generalize here : pool.locals (.worker n k) = l at moves
  cases moves with
  | workerBorn created => exact created
  | _ => exact inv.worker n k _ here

theorem Invariant.threadStep (inv : Invariant pool)
    (moves : Moves tls t pool.shared (pool.locals t) s' after) (own : ∀ c, t ≠ .caller c) :
    ∃ n, pool.shared.Alive n ∧ ThreadStep n pool.shared s' := by
  cases t with
  | caller c => exact absurd rfl (own c)
  | accept n =>
    have created := inv.accept_created moves
    exact ⟨n, .inr ⟨created, inv.unended moves⟩, moves.threadStep_accept created⟩
  | worker n k => exact ⟨n, inv.worker_alive moves, moves.threadStep_worker⟩

theorem Moves.start_phase {n pc} (moves : Moves tls (.caller c) s (.start n pc) s' after)
    (phase : pc.Phase tls s n) (holds : n + 1 = s.runs ∧ s.accepting n = false ∧ pc.Holds s n) :
    after.Phase tls s' ∧ (¬ after.Occupied → s'.Rests tls) := by
  obtain ⟨newest, unborn, holds⟩ := holds
  have stage {pc} (phase) :
      (Local.start n pc).Phase tls s' ∧ (¬ (Local.start n pc).Occupied → s'.Rests tls) :=
    ⟨phase, fun out => absurd trivial out⟩
  cases moves with
  | destroy | drop => exact stage { phase with }
  | clear =>
    refine stage ?_
    have quiet : Shared.Quiet { s with useTls := false } := { phase with }
    split
    · exact quiet
    · next off => exact ⟨quiet, fun on => absurd on off⟩
  | install => exact stage ⟨{ phase with }, rfl⟩
  | enable =>
    obtain ⟨quiet, ctx⟩ := phase
    exact stage ⟨{ quiet with }, fun _ => ⟨rfl, ctx⟩⟩
  | armFails =>
    obtain ⟨quiet, ready⟩ := phase
    exact stage ⟨quiet.settled newest ready, quiet.clients⟩
  | arm =>
    obtain ⟨quiet, ready⟩ := phase
    have settled := quiet.settled newest ready
    refine stage ⟨?_, quiet.clients, rfl⟩
    exact { settled with }
  | @create _ _ _ k =>
    obtain ⟨settled, nil, listenFd⟩ := phase
    refine stage
      ⟨⟨settled.newest, settled.ready, fun m alive => ?_, settled.clients⟩, nil, listenFd⟩
    by_contra other
    refine other (settled.alive m ?_)
    simpa [Shared.Alive, other] using alive
  | createFails => exact stage ⟨phase.1, phase.2.1⟩
  | launch =>
    obtain ⟨settled, nil, listenFd⟩ := phase
    refine ⟨trivial, fun _ => .inr ⟨holds.1, n, ⟨settled.newest, settled.ready, ?_, ?_⟩, ?_,
      listenFd, rfl⟩⟩
    · intro m alive
      by_contra other
      refine other (settled.alive m ?_)
      simpa [Shared.Alive, other] using alive
    · exact settled.clients
    · exact ⟨Function.update_self .., holds.2⟩
  | unset | shut =>
    obtain ⟨settled, nil⟩ := phase
    exact stage ⟨{ settled with }, nil⟩
  | notify =>
    obtain ⟨settled, nil⟩ := phase
    exact stage ⟨{ settled with }, nil,
      fun i lt => absurd lt (Nat.not_lt_zero i)⟩
  | join _ done =>
    obtain ⟨settled, nil, joined⟩ := phase
    refine stage ⟨settled, nil, fun i lt => ?_⟩
    rcases Nat.lt_succ_iff_lt_or_eq.mp lt with lt | rfl
    · exact joined i lt
    · exact done
  | joined all =>
    obtain ⟨settled, nil, joined⟩ := phase
    have quiet := settled.quiet nil (fun created => by rw [unborn] at created; cases created)
      joined all
    exact stage { quiet with }
  | disarm => exact ⟨trivial, fun _ => .inl ⟨holds, phase.clients, phase.ended⟩⟩

theorem Moves.stop_phase {l taken} (moves : Moves tls (.caller c) s (.stop l taken pc) s' after)
    (phase : (Local.stop l taken pc).Phase tls s) :
    after.Phase tls s' ∧ (¬ after.Occupied → s'.Rests tls) := by
  obtain ⟨down, n, listener, joins, launched, phase⟩ := phase
  have launched' : s'.Launched n := by
    cases moves <;> exact { launched with }
  have down' : s'.running = false := by
    cases moves <;> exact down
  have stage {pc} (phase) :
      (Local.stop l taken pc).Phase tls s' ∧ (¬ (Local.stop l taken pc).Occupied → s'.Rests tls) :=
    ⟨⟨down', n, listener, joins, launched', phase⟩, fun out => absurd trivial out⟩
  cases moves with
  | shutListener =>
    refine stage ⟨{ phase with }, ?_⟩
    simp [Shared.shutDown, listener]
  | clearClients =>
    obtain ⟨settled, shut⟩ := phase
    exact stage ⟨⟨⟨settled.newest, settled.ready, settled.alive, by simp⟩, shut⟩, rfl⟩
  | notifyAll =>
    obtain ⟨⟨settled, shut⟩, nil⟩ := phase
    exact stage ⟨⟨{ settled with }, shut⟩, nil⟩
  | joinAccept done => exact stage ⟨phase.1, phase.2, done n (by rw [joins]; rfl)⟩
  | closeListener =>
    obtain ⟨⟨settled, shut⟩, nil, ended⟩ := phase
    exact stage ⟨⟨{ settled with }, shut⟩, nil,
      ended, fun i lt => absurd lt (Nat.not_lt_zero i)⟩
  | joinWorker _ done =>
    cases joins
    obtain ⟨settled, nil, ended, joined⟩ := phase
    refine stage ⟨settled, nil, ended, fun i lt => ?_⟩
    rcases Nat.lt_succ_iff_lt_or_eq.mp lt with lt | rfl
    · exact joined i lt
    · exact done
  | joinedAll all =>
    obtain ⟨⟨settled, -⟩, nil, ended, joined⟩ := phase
    exact stage (settled.quiet nil (fun _ => ended) joined (all n (by rw [joins]; rfl)))
  | destroyTls => exact stage { phase with }
  | disarmTls => exact ⟨trivial, fun _ => .inl ⟨down, phase.clients, phase.ended⟩⟩

theorem Ordered.caller_move (ordered : Ordered tls pool) (inv : Invariant pool)
    (moves : Moves tls (.caller c) pool.shared (pool.locals (.caller c)) s' after)
    (orderly : Orderly pool (pool.set (.caller c) s' after)) :
    after.Phase tls s' ∧
      (∀ d, d ≠ c → (pool.locals (.caller d)).Occupied → ¬ after.Occupied ∧ s' = pool.shared) ∧
        ((∀ d, d ≠ c → ¬ (pool.locals (.caller d)).Occupied) → ¬ after.Occupied →
          s'.Rests tls) := by
  generalize here : pool.locals (.caller c) = before at moves
  cases before with
  | start n pc =>
    have phase := ordered.phase c
    rw [here] at phase
    obtain ⟨phase, rests⟩ := moves.start_phase phase (inv.starting c n pc here)
    refine ⟨phase, fun d other occupied => absurd ?_ other, fun _ => rests⟩
    exact ordered.alone d c occupied (here ▸ trivial)
  | stop l taken pc =>
    obtain ⟨phase, rests⟩ := moves.stop_phase (here ▸ ordered.phase c)
    refine ⟨phase, fun d other occupied => absurd ?_ other, fun _ => rests⟩
    exact ordered.alone d c occupied (here ▸ trivial)
  | idle =>
    have idle : ¬ (pool.locals (.caller c)).Occupied := here ▸ id
    cases moves with
    | refuse =>
      refine ⟨trivial, fun d _ _ => ⟨id, rfl⟩, fun others _ => ordered.free fun d => ?_⟩
      rcases eq_or_ne d c with rfl | other
      · exact idle
      · exact others d other
    | begin free down =>
      have unoccupied := inv.unoccupied free (orderly (Nat.lt_succ_self _))
      rcases ordered.free unoccupied with ⟨-, quiet⟩ | ⟨up, -⟩
      · exact ⟨{ quiet with }, fun d _ occupied => absurd occupied (unoccupied d),
          fun _ out => absurd trivial out⟩
      · rw [down] at up
        cases up
    | exchange free up =>
      have unstopped : ∀ d, ¬ (pool.locals (.caller d)).Stopping := by
        intro d stopping
        have phase := ordered.phase d
        unfold Local.Stopping at stopping
        split at stopping
        · next there =>
            rw [there] at phase
            rw [phase.1] at up
            cases up
        · exact stopping
      have unoccupied := inv.unoccupied free unstopped
      rcases ordered.free unoccupied with ⟨down, -⟩ | ⟨-, n, run⟩
      · rw [down] at up
        cases up
      · obtain ⟨settled, launched, listenFd, threads⟩ := run
        refine ⟨⟨rfl, n, listenFd, threads, { launched with }, ?_⟩,
          fun d _ occupied => absurd occupied (unoccupied d), fun _ out => absurd trivial out⟩
        exact { settled with }
  | _ =>
    have fits := inv.fits (.caller c)
    rw [here] at fits
    exact fits.elim

theorem Moves.carries {n k pc}
    (moves : Moves tls (.worker n k) s before s' (.worker pc)) (settled : s.Settled tls n)
    (carries : ∀ pc : WorkerPc, before = .worker pc → pc.Carries tls n) : pc.Carries tls n := by
  cases moves with
  | take front => exact settled.clients _ (by simp [front])
  | chooseTls | checkSet =>
    have own := carries _ rfl
    exact own
  | choosePlain off =>
    refine ⟨carries _ rfl, fun on => ?_⟩
    rw [(settled.ready on).1] at off
    cases off
  | checkNull null =>
    refine ⟨carries _ rfl, fun on => ?_⟩
    rw [(settled.ready on).2] at null
    cases null
  | openTls set => exact ⟨carries _ rfl, fun on => set ▸ (settled.ready on).2⟩
  | _ => trivial

theorem Ordered.move (ordered : Ordered tls pool) (inv : Invariant pool)
    (moves : Moves tls t pool.shared (pool.locals t) s' after)
    (orderly : Orderly pool (pool.set t s' after)) : Ordered tls (pool.set t s' after) := by
  by_cases own : ∃ c, t = .caller c
  · obtain ⟨c, rfl⟩ := own
    obtain ⟨phase, others, rests⟩ := ordered.caller_move inv moves orderly
    have kept : ∀ d, d ≠ c →
        (pool.set (.caller c) s' after).locals (.caller d) = pool.locals (.caller d) :=
      fun d other => Pool.set_other _ (by simpa using other) _ _
    have alone : ∀ d, d ≠ c → after.Occupied →
        ¬ ((pool.set (.caller c) s' after).locals (.caller d)).Occupied := by
      intro d other occupied also
      rw [kept d other] at also
      exact (others d other also).1 occupied
    refine ⟨fun d e first second => ?_, fun d => ?_, fun free => ?_, fun n k pc here => ?_⟩
    · by_cases dMoved : d = c <;> by_cases eMoved : e = c
      · rw [dMoved, eMoved]
      · subst dMoved
        exact absurd second (alone e eMoved (by simpa using first))
      · subst eMoved
        exact absurd first (alone d dMoved (by simpa using second))
      · rw [kept d dMoved] at first
        rw [kept e eMoved] at second
        exact ordered.alone d e first second
    · rcases eq_or_ne d c with rfl | other
      · rwa [Pool.set_self]
      · rw [kept d other]
        by_cases occupied : (pool.locals (.caller d)).Occupied
        · rw [Pool.set_shared, (others d other occupied).2]
          exact ordered.phase d
        · exact Local.phase_of_not_occupied occupied
    · refine rests (fun d other => ?_) ?_
      · rw [← kept d other]
        exact free d
      · simpa using free c
    · rw [Pool.set_other _ (by simp)] at here
      exact ordered.carries n k pc here
  · push Not at own
    obtain ⟨n, alive, step⟩ := inv.threadStep moves own
    have kept : ∀ d, (pool.set t s' after).locals (.caller d) = pool.locals (.caller d) :=
      fun d => Pool.set_other _ (own d).symm _ _
    refine ⟨fun d e => ?_, fun d => ?_, fun free => ?_, fun m k pc here => ?_⟩
    · rw [kept d, kept e]
      exact ordered.alone d e
    · rw [kept d]
      exact step.phase alive (ordered.phase d) fun m pc here => (inv.starting d m pc here).2.1
    · simp only [kept] at free
      have running : s'.running = pool.shared.running := (congrArg Shared.running step.control :)
      rcases ordered.free free with ⟨-, quiet⟩ | ⟨up, m, settled⟩
      · exact absurd alive (quiet.ended n)
      · exact .inr ⟨running.trans up, m, step.up alive settled⟩
    · rcases eq_or_ne (.worker m k) t with rfl | other
      · rw [Pool.set_self] at here
        subst here
        exact moves.carries (ordered.settled (inv.worker_alive moves)) (ordered.carries m k)
      · rw [Pool.set_other _ other] at here
        exact ordered.carries m k pc here

/-- After `client_mutex_` no worker is about to wait, after the notification all are awake. -/
def StopPc.Alerts (pool : System Caller) : StopPc → Prop
  | .shutting | .clearing => True
  | .notifying => ∀ n k, pool.locals (.worker n k) ≠ .worker .committing
  | _ => ∀ n k, (pool.locals (.worker n k)).Awake pool.shared

/-- Every unfinished `stop` keeps the workers alert. -/
def Alerted (pool : System Caller) : Prop :=
  ∀ c l taken (pc : StopPc), pool.locals (.caller c) = .stop l taken pc → pc.Alerts pool

theorem Moves.not_committing (moves : Moves tls t s before s' after) (down : s.running = false) :
    after ≠ .worker .committing := by
  rintro rfl
  cases moves with
  | testFalse up => rw [down] at up; cases up

theorem StopPc.Alerts.move (alerts : pc.Alerts pool) (inv : Invariant pool)
    (down : pool.shared.running = false)
    (moves : Moves tls t pool.shared (pool.locals t) s' after) :
    pc.Alerts (pool.set t s' after) := by
  cases pc with
  | shutting | clearing => trivial
  | notifying =>
    intro n k committing
    exact alerts n k (Pool.locals_of_set (moves.not_committing down) committing)
  | _ => exact fun n k => inv.awake_move down moves (alerts n k)

theorem Alerted.move (alerted : Alerted pool) (inv : Invariant pool) (ordered : Ordered tls pool)
    (moves : Moves tls t pool.shared (pool.locals t) s' after) : Alerted (pool.set t s' after) := by
  intro c l taken pc here
  rcases eq_or_ne (.caller c) t with rfl | other
  · rw [Pool.set_self] at here
    subst here
    have alerts := alerted c l taken
    have others : ∀ n k, (pool.set (.caller c) s' (.stop l taken pc)).locals (.worker n k) =
        pool.locals (.worker n k) := fun n k => Pool.set_other _ (by simp) _ _
    generalize here : pool.locals (.caller c) = l' at *
    cases moves with
    | exchange | shutListener => trivial
    | clearClients free =>
      intro n k committing
      rw [others] at committing
      have holds := (inv.client (.worker n k)).mp (by rw [committing]; trivial)
      rw [free] at holds
      cases holds
    | notifyAll =>
      intro n k
      have settled := alerts .notifying rfl n k
      unfold Local.Awake
      split
      · next committing => exact settled committing
      · next seen blocked => exact Nat.ne_of_lt (Nat.lt_succ_of_le (inv.seen _ _ blocked))
      · trivial
    | _ =>
      intro n k
      exact alerts _ rfl n k
  · rw [Pool.set_other _ other] at here
    have phase := ordered.phase c
    rw [here] at phase
    exact (alerted c l taken pc here).move inv phase.1 moves

theorem Moves.shut_kept (moves : Moves tls t s before s' after) {n} (shut : s.shut n = true) :
    s'.shut n = true := by
  cases moves with
  | shut | shutListener => simp [Shared.shutDown, shut]
  | _ => exact shut

private def Local.acceptDistance : Local → ℕ
  | .absent | .accept .accepting | .accept .queueing | .accept .signalling => 2
  | .accept .loading | .accept .failed => 1
  | _ => 0

theorem Moves.accept_descends {n} (moves : Moves tls (.accept n) s before s' after)
    (down : s.running = false) (shut : s.shut n = true) :
    after.acceptDistance < before.acceptDistance := by
  cases moves with
  | load up | retry up | enqueue _ _ up => rw [down] at up; cases up
  | accepts listening => rw [shut] at listening; cases listening
  | _ => decide

/-- An accept thread whose listener is shut. -/
structure Refusing (n : ℕ) (pool : System Caller) : Prop where
  created : pool.shared.accepting n = true
  shut : pool.shared.shut n = true
  unended : pool.locals (.accept n) ≠ .exited

theorem Invariant.refusing_move {n} (inv : Invariant pool) (refusing : Refusing n pool)
    (down : pool.shared.running = false)
    (moves : Moves tls t pool.shared (pool.locals t) s' after) :
    (pool.set t s' after).locals (.accept n) = .exited ∨
      Refusing n (pool.set t s' after) ∧
        ((pool.set t s' after).locals (.accept n)).acceptDistance ≤
          (pool.locals (.accept n)).acceptDistance := by
  obtain ⟨created, shut, _⟩ := refusing
  have created := (inv.grows rfl moves).accepting n created
  rcases eq_or_ne (.accept n) t with rfl | other
  · rw [Pool.set_self]
    by_cases ended : after = .exited
    · exact .inl ended
    · refine .inr ⟨⟨created, moves.shut_kept shut, ?_⟩, (moves.accept_descends down shut).le⟩
      rwa [Pool.set_self]
  · rw [Pool.set_other _ other]
    refine .inr ⟨⟨created, moves.shut_kept shut, ?_⟩, le_rfl⟩
    rwa [Pool.set_other _ other]

omit [DecidableEq Caller] in
theorem Refusing.able {n : ℕ} (refusing : Refusing n pool) (inv : Invariant pool)
    (busy : pool.locals (.accept n) ≠ .accept .queueing) : Able pool (.accept n) := by
  obtain ⟨created, shut, unended⟩ := refusing
  have fits := inv.fits (.accept n)
  unfold Able
  generalize pool.locals (.accept n) = l at *
  cases l with
  | absent => exact created
  | exited => exact absurd rfl unended
  | accept pc =>
    cases pc with
    | queueing => exact absurd rfl busy
    | accepting => exact shut
    | _ => trivial
  | _ => exact fits.elim

end

section

variable [DecidableEq Caller] {trace : ℕ → System Caller}

theorem Execution.accept_returned (run : Execution tls trace) (fair : Fair (Moves tls) Able trace)
    {first n} (down : ∀ later, first ≤ later → (trace later).shared.running = false)
    (created : (trace first).shared.accepting n = true)
    (shut : (trace first).shared.shut n = true) :
    ∃ later, first ≤ later ∧ (trace later).shared.returned (.accept n) = true := by
  suffices ended : ∃ later, first ≤ later ∧ (trace later).locals (.accept n) = .exited by
    obtain ⟨later, le, ended⟩ := ended
    exact ⟨later, le, ((run.invariant later).returned _).mpr ended⟩
  by_cases ended : (trace first).locals (.accept n) = .exited
  · exact ⟨first, le_rfl, ended⟩
  refine fair.descends run.runs first (Refusing n) (fun pool => pool.locals (.accept n) = .exited)
    (fun pool => (pool.locals (.accept n)).acceptDistance) (.accept n) ?_ ?_ ?_ first le_rfl
    ⟨created, shut, ended⟩
  · intro i since refusing
    rcases run.runs i with same | ⟨t, s', after, moves, next⟩
    · rw [same]
      exact .inr ⟨refusing, le_rfl⟩
    · rw [next]
      exact (run.invariant i).refusing_move refusing (down i since) moves
  · rintro i since refusing ⟨s', after, moves, next⟩
    rw [next, Pool.set_self]
    exact .inr (moves.accept_descends (down i since) refusing.shut)
  · intro i since stays
    by_cases queueing : (trace i).locals (.accept n) = .accept .queueing
    · obtain ⟨later, le, free⟩ := run.clientMutex_free fair i
      refine ⟨later, le, ?_⟩
      unfold Able
      rw [(stays later le).2, queueing]
      exact free
    · exact ⟨i, le_rfl, (stays i le_rfl).1.able (run.invariant i) queueing⟩

theorem Execution.ordered (run : Execution tls trace)
    (orderly : ∀ i, Orderly (trace i) (trace (i + 1))) :
    ∀ i, Ordered tls (trace i) ∧ Alerted (trace i) := by
  refine run.runs.invariant (fun pool => Ordered tls pool ∧ Alerted pool) ?_ ?_
  · rw [run.start]
    exact ⟨initial_ordered, fun _ _ _ _ => nofun⟩
  · rintro i t ⟨_, _, moves, next⟩ ⟨ordered, alerted⟩
    have orderly := orderly i
    rw [next] at orderly ⊢
    have inv := run.invariant i
    exact ⟨ordered.move inv moves orderly, alerted.move inv ordered moves⟩

/-- How far a call of `stop` is from its end. -/
def StopPc.remaining : StopPc → ℕ
  | .shutting => kWorkerCount + 8
  | .clearing => kWorkerCount + 7
  | .notifying => kWorkerCount + 6
  | .joiningAccept => kWorkerCount + 5
  | .closing => kWorkerCount + 4
  | .joining k => kWorkerCount - k + 3
  | .destroying => 2
  | .disarming => 1

/-- How far a caller is from the end of its `stop`. -/
def Local.stopRemaining : Local → ℕ
  | .stop _ _ pc => pc.remaining
  | _ => 0

theorem Moves.stop_descends {s s' n after}
    (moves : Moves tls (.caller c) s (.stop (some n) (some n) pc) s' after)
    (phase : (Local.stop (some n) (some n) pc).Phase tls s) :
    after = .idle ∧ s'.Ended n ∨
      (∃ pc, after = .stop (some n) (some n) pc) ∧ after.stopRemaining < pc.remaining := by
  obtain ⟨-, m, same, -, launched, phase⟩ := phase
  cases same
  cases moves with
  | disarmTls =>
    have quiet : Shared.Quiet { s with useTls := false } := { phase with }
    exact .inl ⟨rfl, quiet.ended_of_launched { launched with }⟩
  | joinWorker more =>
    rw [launched.workers] at more
    exact .inr ⟨⟨_, rfl⟩, by simp only [Local.stopRemaining, StopPc.remaining]; omega⟩
  | _ => exact .inr ⟨⟨_, rfl⟩, by simp only [Local.stopRemaining, StopPc.remaining]; omega⟩

/-- In a fair orderly run every `stop` of a run returns after its threads have ended. -/
theorem Execution.stop_ends (run : Execution tls trace)
    (ordered : ∀ i, Ordered tls (trace i) ∧ Alerted (trace i)) (fair : Fair (Moves tls) Able trace)
    {first n} (stopping : ∃ pc, (trace first).locals (.caller c) = .stop (some n) (some n) pc) :
    ∃ later, first ≤ later ∧ (trace later).locals (.caller c) = .idle ∧
      (trace later).shared.Ended n := by
  refine fair.descends run.runs 0
    (fun pool => ∃ pc, pool.locals (.caller c) = .stop (some n) (some n) pc)
    (fun pool => pool.locals (.caller c) = .idle ∧ pool.shared.Ended n)
    (fun pool => (pool.locals (.caller c)).stopRemaining) (.caller c) ?_ ?_ ?_ first
    (Nat.zero_le _) stopping
  · rintro i - ⟨pc, here⟩
    rcases run.runs i with same | ⟨t, s', after, moves, next⟩
    · rw [same]
      exact .inr ⟨⟨pc, here⟩, le_rfl⟩
    · rw [next]
      rcases eq_or_ne (.caller c) t with rfl | other
      · rw [Pool.set_self, here]
        rw [here] at moves
        have phase := here ▸ (ordered i).1.phase c
        rcases moves.stop_descends phase with ended | ⟨still, lower⟩
        · exact .inl ended
        · exact .inr ⟨still, lower.le⟩
      · rw [Pool.set_other _ other]
        exact .inr ⟨⟨pc, here⟩, le_rfl⟩
  · rintro i - ⟨pc, here⟩ ⟨s', after, moves, next⟩
    rw [next, Pool.set_self, here]
    rw [here] at moves
    exact (moves.stop_descends (here ▸ (ordered i).1.phase c)).imp id And.right
  · intro i _ stays
    obtain ⟨pc, here⟩ := (stays i le_rfl).1
    have stays : ∀ later, i ≤ later →
        (trace later).locals (.caller c) = .stop (some n) (some n) pc :=
      fun later le => (stays later le).2.trans here
    have phase : ∀ later, i ≤ later →
        (Local.stop (some n) (some n) pc).Phase tls (trace later).shared :=
      fun later le => stays later le ▸ (ordered later).1.phase c
    have down : ∀ later, i ≤ later → (trace later).shared.running = false :=
      fun later le => (phase later le).1
    suffices ready : ∃ later, i ≤ later ∧ pc.Able (trace later).shared (some n) by
      obtain ⟨later, le, able⟩ := ready
      refine ⟨later, le, ?_⟩
      unfold Able
      rw [stays later le]
      exact able
    obtain ⟨-, m, same, -, launched, phase⟩ := phase i le_rfl
    cases same
    cases pc with
    | clearing => exact run.clientMutex_free fair i
    | joiningAccept =>
      obtain ⟨later, le, returned⟩ :=
        run.accept_returned fair down launched.accept phase.1.shut
      refine ⟨later, le, ?_⟩
      rintro _ ⟨⟩
      exact returned
    | closing =>
      exact ⟨i, le_rfl, (ordered i).1.serverMutex_free (run.invariant i) here⟩
    | joining k =>
      by_cases more : k < (trace i).shared.spawned n
      · obtain ⟨later, le, returned⟩ :=
          run.worker_returned fair down more ((ordered i).2 c _ _ _ here n k)
        refine ⟨later, le, ?_⟩
        rintro _ ⟨⟩ -
        exact returned
      · refine ⟨i, le_rfl, ?_⟩
        rintro _ ⟨⟩ lt
        exact absurd lt more
    | _ => exact ⟨i, le_rfl, trivial⟩

/-- If no run begins during a `stop`, clients of a TLS run are served over its context, and in a
fair run every `stop` of a run returns with its threads ended. -/
theorem tls_and_stop (run : Execution tls trace)
    (orderly : ∀ index, Orderly (trace index) (trace (index + 1))) :
    (∀ index n k client ctx,
      (trace index).locals (.worker n k) = .worker (.serving client ctx) → tls client = true →
        ctx = some client) ∧
      (Fair (Moves tls) Able trace → ∀ index c l taken pc,
        (trace index).locals (.caller c) = .stop l taken pc → ∃ n, taken = some n ∧
          ∃ later, index ≤ later ∧ (trace later).locals (.caller c) = .idle ∧
            (trace later).shared.Ended n) := by
  have ordered := run.ordered orderly
  constructor
  · intro index n k client ctx here on
    obtain ⟨rfl, served⟩ := (ordered index).1.carries n k _ here
    exact served on
  · intro fair index c l taken pc here
    have phase := (ordered index).1.phase c
    rw [here] at phase
    obtain ⟨-, n, rfl, rfl, -⟩ := phase
    exact ⟨n, rfl, run.stop_ends ordered fair ⟨pc, here⟩⟩

end

/-- A start of the next run, with TLS. -/
def startUp {pool : System (Fin 2)} (c) (idle : pool.locals (.caller c) = .idle)
    (free : pool.shared.serverMutex = none) (down : pool.shared.running = false) :
    Path (Step (Moves fun _ => true)) pool :=
  .act (.caller c) idle (.begin free down) <| .act (.caller c) (Pool.set_self ..) .destroy <|
  .act (.caller c) (Pool.set_self ..) .clear <| .act (.caller c) (Pool.set_self ..) .install <|
  .act (.caller c) (Pool.set_self ..) .enable <| .act (.caller c) (Pool.set_self ..) .arm <|
  .act (.caller c) (Pool.set_self ..) (.create (by decide)) <|
  .act (.caller c) (Pool.set_self ..) (.create (by decide)) <|
  .act (.caller c) (Pool.set_self ..) (.create (by decide)) <|
  .act (.caller c) (Pool.set_self ..) (.create (by decide)) <|
  .act (.caller c) (Pool.set_self ..) .launch .done

/-- The first worker of run `n` takes a client that run has accepted. -/
def takeClient {pool : System (Fin 2)} (n) (absent : pool.locals (.accept n) = .absent)
    (unborn : pool.locals (.worker n 0) = .absent) (created : pool.shared.accepting n = true)
    (spawned : 0 < pool.shared.spawned n) (up : pool.shared.running = true)
    (listening : pool.shared.shut n = false) (free : pool.shared.clientMutex = none)
    (empty : pool.shared.clients = []) : Path (Step (Moves fun _ => true)) pool :=
  .act (.accept n) absent (.acceptBorn created) <| .act (.accept n) (Pool.set_self ..) (.load up) <|
  .act (.accept n) (Pool.set_self ..) (.accepts listening) <|
  .act (.accept n) (Pool.set_self ..) (.enqueue free (by simp [empty, kClientQueueLimit]) up) <|
  .act (.worker n 0) (by simp [Pool.set, unborn]) (.workerBorn spawned) <|
  .act (.worker n 0) (Pool.set_self ..) (.acquire free) <|
  .act (.worker n 0) (Pool.set_self ..) (.testTrue (.inr (by simp))) <|
  .act (.worker n 0) (Pool.set_self ..) (.take (by simp [empty]; exact ⟨rfl, rfl⟩)) .done

/-- A worker that finds the exporter stopped leaves its loop. -/
def leaveLoop {pool : System (Fin 2)} (n k) (here : pool.locals (.worker n k) = .worker .acquiring)
    (free : pool.shared.clientMutex = none) (down : pool.shared.running = false)
    (empty : pool.shared.clients = []) : Path (Step (Moves fun _ => true)) pool :=
  .act (.worker n k) here (.acquire free) <|
  .act (.worker n k) (Pool.set_self ..) (.testTrue (.inl down)) <|
  .act (.worker n k) (Pool.set_self ..) (.exit empty down) .done

/-- Run `0` serves a client over TLS and is stopped, up to the end of the accept thread. -/
def servingRun : Path (Step (Moves fun _ => true)) (initial (Fin 2)) :=
  (startUp 0 rfl rfl rfl).append <|
  (takeClient 0 rfl rfl rfl (by decide) rfl rfl rfl rfl).append <|
  .act (.worker 0 0) rfl (.chooseTls rfl) <| .act (.worker 0 0) rfl (.checkSet rfl) <|
  .act (.worker 0 0) rfl (.openTls rfl) <| .act (.worker 0 0) rfl .served <|
  .act (.caller 0) rfl (.exchange rfl rfl) <| .act (.caller 0) rfl .shutListener <|
  .act (.caller 0) rfl (.clearClients rfl) <| .act (.caller 0) rfl .notifyAll <|
  .act (.accept 0) rfl .signal <| .act (.accept 0) rfl (.loadDown rfl) <|
  .act (.caller 0) rfl (.joinAccept (by rintro _ ⟨⟩; rfl)) <|
  .act (.caller 0) rfl (.closeListener rfl) .done

def leavingWorkers : Path (Step (Moves fun _ => true)) servingRun.final :=
  (leaveLoop 0 0 rfl rfl rfl rfl).append <|
  .act (.worker 0 1) rfl (.workerBorn (by decide)) <| (leaveLoop 0 1 rfl rfl rfl rfl).append <|
  .act (.worker 0 2) rfl (.workerBorn (by decide)) <| (leaveLoop 0 2 rfl rfl rfl rfl).append <|
  .act (.worker 0 3) rfl (.workerBorn (by decide)) <| leaveLoop 0 3 rfl rfl rfl rfl

/-- Run `0` up to the last join of its stop. -/
def firstRun : Path (Step (Moves fun _ => true)) (initial (Fin 2)) :=
  (servingRun.append leavingWorkers).append <|
  .act (.caller 0) rfl (.joinWorker (by decide) rfl) <|
  .act (.caller 0) rfl (.joinWorker (by decide) rfl) <|
  .act (.caller 0) rfl (.joinWorker (by decide) rfl) <|
  .act (.caller 0) rfl (.joinWorker (by decide) rfl) <|
  .act (.caller 0) rfl (.joinedAll (by rintro _ ⟨⟩; decide)) .done

def oneRun : Path (Step (Moves fun _ => true)) (initial (Fin 2)) :=
  firstRun.append <| .act (.caller 0) rfl .destroyTls <| .act (.caller 0) rfl .disarmTls .done

set_option maxRecDepth 1000 in
theorem tls_and_stop_one_run :
    (oneRun.trace 22).locals (.worker 0 0) = .worker (.serving 0 (some 0)) ∧
      (oneRun.trace 24).locals (.caller 0) = .stop (some 0) (some 0) .shutting ∧
      ∃ later, 24 ≤ later ∧ (oneRun.trace later).locals (.caller 0) = .idle ∧
        (oneRun.trace later).shared.Ended 0 := by
  have runs : ∀ index, 0 < index → (oneRun.trace index).shared.runs = 1 := by
    intro index begun
    rcases lt_or_ge index 53 with below | le
    · interval_cases index <;> rfl
    · rw [oneRun.trace_of_length_le le]
      rfl
  have orderly : ∀ index, Orderly (oneRun.trace index) (oneRun.trace (index + 1)) := by
    intro index begins c
    rcases Nat.eq_zero_or_pos index with rfl | begun
    · exact id
    · rw [runs index begun, runs (index + 1) (Nat.succ_pos _)] at begins
      exact absurd begins (lt_irrefl 1)
  have fair : Fair (Moves fun _ => true) Able oneRun.trace := by
    apply oneRun.fair
    rintro (⟨_ | _ | c, below⟩ | ⟨_ | n⟩ | ⟨_ | n, k⟩) able
    · exact able
    · exact able
    · omega
    · exact able
    · exact Bool.noConfusion able
    · obtain rfl | rfl | rfl | rfl | above : k = 0 ∨ k = 1 ∨ k = 2 ∨ k = 3 ∨ 4 ≤ k := by omega
      · exact able
      · exact able
      · exact able
      · exact able
      · obtain ⟨m, rfl⟩ := Nat.exists_eq_add_of_le' above
        exact absurd able (Nat.not_lt.mpr (Nat.le_add_left 4 m))
    · exact Nat.not_lt_zero _ able
  obtain ⟨served, stops⟩ := tls_and_stop ⟨rfl, oneRun.runs⟩ orderly
  obtain ⟨n, same, stopped⟩ := stops fair 24 0 (some 0) (some 0) .shutting rfl
  cases same
  have context := served 22 0 0 0 (some 0) rfl rfl
  exact ⟨context ▸ rfl, rfl, stopped⟩

/-- Run `1` starts before the stop of run `0` destroys the TLS context, which is then the new one; a
client of run `1` is served in plaintext. -/
def secondRun : Path (Step (Moves fun _ => true)) (initial (Fin 2)) :=
  firstRun.append <| (startUp 1 rfl rfl rfl).append <|
  (takeClient 1 rfl rfl rfl (by decide) rfl rfl rfl rfl).append <|
  .act (.caller 0) rfl .destroyTls <| .act (.worker 1 0) rfl (.chooseTls rfl) <|
  .act (.worker 1 0) rfl (.checkNull rfl) .done

theorem plaintext_beside_stop :
    ∃ trace : ℕ → System (Fin 2), Execution (fun _ => true) trace ∧ ∃ index,
      (trace index).shared.running = true ∧
        (trace index).locals (.worker 1 0) = .worker (.serving 1 none) :=
  ⟨secondRun.trace, ⟨rfl, secondRun.runs⟩, 73, rfl, rfl⟩

end ThermalSimd.Exporter
