import ThermalSimd.Fairness

/-!
# The metrics exporter and its threads

`PrometheusExporter` in `observability/metrics.cpp`: threads that call `start` and `stop`, and for
every run an accept thread and its workers. Runs are numbered; a client is known by the run that
accepted it, and a TLS context by the run it was created for. What only the holder of
`server_mutex_` touches is one step with the locking around it.
-/

namespace ThermalSimd.Exporter

open Interleaving

/-- `kWorkerCount`. -/
def kWorkerCount : ℕ := 4

/-- `kClientQueueLimit`. -/
def kClientQueueLimit : ℕ := 32

/-- A thread: one that calls the exporter, or the accept thread or a worker of run `n`. -/
inductive Agent (Caller : Type)
  | caller (c : Caller)
  | accept (n : ℕ)
  | worker (n k : ℕ)
  deriving DecidableEq

/-- The members of `PrometheusExporter` the lifecycle reads, with the threads around it. -/
structure Shared (Caller : Type) where
  running : Bool
  serverMutex : Option (Agent Caller)
  clientMutex : Option (Agent Caller)
  clients : List ℕ
  sslCtx : Option ℕ
  useTls : Bool
  /-- `listen_fd_`: the run whose listener it is. -/
  listenFd : Option ℕ
  /-- `server_thread_` and `workers_`: the run whose threads they are. -/
  threads : Option ℕ
  shut : ℕ → Bool
  /-- How often all waiters of `client_cv_` have been notified. -/
  clientCv : ℕ
  runs : ℕ
  spawned : ℕ → ℕ
  accepting : ℕ → Bool
  returned : Agent Caller → Bool

/-- Where a call of `start` is, from `initialize_tls` on. -/
inductive StartPc
  | destroying | clearing | installing | enabling
  | arming
  | creating (k : ℕ)
  -- The rollback
  | unsetting | shutting | notifying
  | joining (k : ℕ)
  | dropping | disarming
  deriving DecidableEq

/-- Where a call of `stop` is that has observed `running_`. -/
inductive StopPc
  | shutting | clearing | notifying | joiningAccept | closing
  | joining (k : ℕ)
  | destroying | disarming
  deriving DecidableEq

/-- Where an accept thread is in `serve`. -/
inductive AcceptPc
  | loading | accepting | failed | queueing | signalling
  deriving DecidableEq

/-- Where a worker is in `worker_loop` and `serve_client`. -/
inductive WorkerPc
  | acquiring
  -- Holding client_mutex_: before the predicate, after it was false, after it was true
  | testing | committing | deciding
  /-- Waiting on `client_cv_`, which had been notified so often. -/
  | blocked (seen : ℕ)
  -- The two loads of `use_tls_ && ssl_ctx_` and the one of `SSL_new(ssl_ctx_)`
  | choosing (client : ℕ) | checking (client : ℕ) | opening (client : ℕ)
  /-- In `handle_client`, over a context or in plaintext. -/
  | serving (client : ℕ) (ctx : Option ℕ)
  deriving DecidableEq

/-- Where a thread is. -/
inductive Local
  | absent | exited
  | idle
  | start (n : ℕ) (pc : StartPc)
  | stop (listener taken : Option ℕ) (pc : StopPc)
  | accept (pc : AcceptPc)
  | worker (pc : WorkerPc)
  deriving DecidableEq

abbrev System (Caller : Type) := Pool (Agent Caller) (Shared Caller) Local

variable {Caller : Type} [DecidableEq Caller]

variable (s : Shared Caller)

def Shared.leave (t : Agent Caller) : Shared Caller :=
  { s with returned := Function.update s.returned t true }

/-- `shutdown` of a listener. -/
def Shared.shutDown (listener : Option ℕ) : Shared Caller :=
  { s with shut := fun n => if listener = some n then true else s.shut n }

/-- `if (listen_fd_ == fd) listen_fd_ = -1`. -/
def Shared.forget (listener : Option ℕ) : Shared Caller :=
  { s with listenFd := if s.listenFd = listener then none else s.listenFd }

section

variable (tls : ℕ → Bool)

/-- What the threads do; `tls n` says whether run `n` is configured with TLS. -/
inductive Moves : Program (Agent Caller) (Shared Caller) Local
  -- A start that fails before it has changed anything, and a stop that finds nothing to stop.
  | refuse {c s} (free : s.serverMutex = none) : Moves (.caller c) s .idle s .idle
  -- start: not running, the socket is listening and the TLS context, if any, has been created.
  | begin {c s} (free : s.serverMutex = none) (down : s.running = false) :
      Moves (.caller c) s .idle { s with serverMutex := some (.caller c), runs := s.runs + 1 }
        (.start s.runs .destroying)
  | destroy {c s n} :
      Moves (.caller c) s (.start n .destroying) { s with sslCtx := none } (.start n .clearing)
  | clear {c s n} :
      Moves (.caller c) s (.start n .clearing) { s with useTls := false }
        (.start n (if tls n then .installing else .arming))
  | install {c s n} :
      Moves (.caller c) s (.start n .installing) { s with sslCtx := some n } (.start n .enabling)
  | enable {c s n} :
      Moves (.caller c) s (.start n .enabling) { s with useTls := true } (.start n .arming)
  | armFails {c s n} : Moves (.caller c) s (.start n .arming) s (.start n .unsetting)
  | arm {c s n} :
      Moves (.caller c) s (.start n .arming) { s with listenFd := some n, running := true }
        (.start n (.creating 0))
  | create {c s n k} (more : k < kWorkerCount) :
      Moves (.caller c) s (.start n (.creating k))
        { s with spawned := Function.update s.spawned n (k + 1) } (.start n (.creating (k + 1)))
  | createFails {c s n k} : Moves (.caller c) s (.start n (.creating k)) s (.start n .unsetting)
  | launch {c s n} :
      Moves (.caller c) s (.start n (.creating kWorkerCount))
        { s with
          accepting := Function.update s.accepting n true
          threads := some n
          serverMutex := none }
        .idle
  -- The rollback of start
  | unset {c s n} :
      Moves (.caller c) s (.start n .unsetting) { s with running := false } (.start n .shutting)
  | shut {c s n} :
      Moves (.caller c) s (.start n .shutting) (s.shutDown (some n)) (.start n .notifying)
  | notify {c s n} :
      Moves (.caller c) s (.start n .notifying) { s with clientCv := s.clientCv + 1 }
        (.start n (.joining 0))
  | join {c s n k} (more : k < s.spawned n) (done : s.returned (.worker n k) = true) :
      Moves (.caller c) s (.start n (.joining k)) s (.start n (.joining (k + 1)))
  | joined {c s n k} (all : s.spawned n ≤ k) :
      Moves (.caller c) s (.start n (.joining k)) (s.forget (some n)) (.start n .dropping)
  | drop {c s n} :
      Moves (.caller c) s (.start n .dropping) { s with sslCtx := none } (.start n .disarming)
  | disarm {c s n} :
      Moves (.caller c) s (.start n .disarming) { s with useTls := false, serverMutex := none }
        .idle
  -- stop
  | exchange {c s} (free : s.serverMutex = none) (up : s.running = true) :
      Moves (.caller c) s .idle { s with serverMutex := some (.caller c), running := false }
        (.stop s.listenFd s.threads .shutting)
  | shutListener {c s l taken} :
      Moves (.caller c) s (.stop l taken .shutting)
        { s.shutDown l with threads := none, serverMutex := none } (.stop l taken .clearing)
  | clearClients {c s l taken} (free : s.clientMutex = none) :
      Moves (.caller c) s (.stop l taken .clearing) { s with clients := [] }
        (.stop l taken .notifying)
  | notifyAll {c s l taken} :
      Moves (.caller c) s (.stop l taken .notifying) { s with clientCv := s.clientCv + 1 }
        (.stop l taken .joiningAccept)
  | joinAccept {c s l taken} (done : ∀ n ∈ taken, s.returned (.accept n) = true) :
      Moves (.caller c) s (.stop l taken .joiningAccept) s (.stop l taken .closing)
  | closeListener {c s l taken} (free : s.serverMutex = none) :
      Moves (.caller c) s (.stop l taken .closing) (s.forget l) (.stop l taken (.joining 0))
  | joinWorker {c s l n k} (more : k < s.spawned n) (done : s.returned (.worker n k) = true) :
      Moves (.caller c) s (.stop l (some n) (.joining k)) s (.stop l (some n) (.joining (k + 1)))
  | joinedAll {c s l taken k} (all : ∀ n ∈ taken, s.spawned n ≤ k) :
      Moves (.caller c) s (.stop l taken (.joining k)) s (.stop l taken .destroying)
  | destroyTls {c s l taken} :
      Moves (.caller c) s (.stop l taken .destroying) { s with sslCtx := none }
        (.stop l taken .disarming)
  | disarmTls {c s l taken} :
      Moves (.caller c) s (.stop l taken .disarming) { s with useTls := false } .idle
  -- serve
  | acceptBorn {s n} (created : s.accepting n = true) :
      Moves (.accept n) s .absent s (.accept .loading)
  | load {s n} (up : s.running = true) :
      Moves (.accept n) s (.accept .loading) s (.accept .accepting)
  | loadDown {s n} (down : s.running = false) :
      Moves (.accept n) s (.accept .loading) (s.leave (.accept n)) .exited
  | accepts {s n} (listening : s.shut n = false) :
      Moves (.accept n) s (.accept .accepting) s (.accept .queueing)
  | acceptFails {s n} : Moves (.accept n) s (.accept .accepting) s (.accept .failed)
  | retry {s n} (up : s.running = true) : Moves (.accept n) s (.accept .failed) s (.accept .loading)
  | giveUp {s n} (down : s.running = false) :
      Moves (.accept n) s (.accept .failed) (s.leave (.accept n)) .exited
  | enqueue {s n} (free : s.clientMutex = none) (room : s.clients.length < kClientQueueLimit)
      (up : s.running = true) :
      Moves (.accept n) s (.accept .queueing) { s with clients := s.clients ++ [n] }
        (.accept .signalling)
  | reject {s n} (free : s.clientMutex = none)
      (refused : ¬ (s.clients.length < kClientQueueLimit ∧ s.running = true)) :
      Moves (.accept n) s (.accept .queueing) s (.accept .loading)
  -- A single notification does no more than a worker's waking up for no reason.
  | signal {s n} : Moves (.accept n) s (.accept .signalling) s (.accept .loading)
  -- worker_loop
  | workerBorn {s n k} (created : k < s.spawned n) :
      Moves (.worker n k) s .absent s (.worker .acquiring)
  | acquire {s n k} (free : s.clientMutex = none) :
      Moves (.worker n k) s (.worker .acquiring) { s with clientMutex := some (.worker n k) }
        (.worker .testing)
  | testTrue {s n k} (ready : s.running = false ∨ s.clients ≠ []) :
      Moves (.worker n k) s (.worker .testing) s (.worker .deciding)
  | testFalse {s n k} (up : s.running = true) (empty : s.clients = []) :
      Moves (.worker n k) s (.worker .testing) s (.worker .committing)
  | block {s n k} :
      Moves (.worker n k) s (.worker .committing) { s with clientMutex := none }
        (.worker (.blocked s.clientCv))
  | wake {s n k seen} : Moves (.worker n k) s (.worker (.blocked seen)) s (.worker .acquiring)
  | exit {s n k} (empty : s.clients = []) (down : s.running = false) :
      Moves (.worker n k) s (.worker .deciding) { s.leave (.worker n k) with clientMutex := none }
        .exited
  | again {s n k} (empty : s.clients = []) (up : s.running = true) :
      Moves (.worker n k) s (.worker .deciding) { s with clientMutex := none } (.worker .acquiring)
  | take {s n k client rest} (front : s.clients = client :: rest) :
      Moves (.worker n k) s (.worker .deciding) { s with clientMutex := none, clients := rest }
        (.worker (.choosing client))
  -- serve_client
  | chooseTls {s n k client} (on : s.useTls = true) :
      Moves (.worker n k) s (.worker (.choosing client)) s (.worker (.checking client))
  | choosePlain {s n k client} (off : s.useTls = false) :
      Moves (.worker n k) s (.worker (.choosing client)) s (.worker (.serving client none))
  | checkSet {s n k client ctx} (set : s.sslCtx = some ctx) :
      Moves (.worker n k) s (.worker (.checking client)) s (.worker (.opening client))
  | checkNull {s n k client} (null : s.sslCtx = none) :
      Moves (.worker n k) s (.worker (.checking client)) s (.worker (.serving client none))
  | openTls {s n k client ctx} (set : s.sslCtx = some ctx) :
      Moves (.worker n k) s (.worker (.opening client)) s (.worker (.serving client (some ctx)))
  | openFails {s n k client} :
      Moves (.worker n k) s (.worker (.opening client)) s (.worker .acquiring)
  | served {s n k client ctx} :
      Moves (.worker n k) s (.worker (.serving client ctx)) s (.worker .acquiring)

end

def initial (Caller : Type) : System Caller where
  shared :=
    { running := false
      serverMutex := none
      clientMutex := none
      clients := []
      sslCtx := none
      useTls := false
      listenFd := none
      threads := none
      shut := fun _ => false
      clientCv := 0
      runs := 0
      spawned := fun _ => 0
      accepting := fun _ => false
      returned := fun _ => false }
  locals
    | .caller _ => .idle
    | .accept _ => .absent
    | .worker _ _ => .absent

/-- What a call of `start` waits for. -/
def StartPc.Able (n : ℕ) : StartPc → Prop
  | .joining k => k < s.spawned n → s.returned (.worker n k) = true
  | _ => True

/-- What a call of `stop` waits for. -/
def StopPc.Able (taken : Option ℕ) : StopPc → Prop
  | .clearing => s.clientMutex = none
  | .joiningAccept => ∀ n ∈ taken, s.returned (.accept n) = true
  | .closing => s.serverMutex = none
  | .joining k => ∀ n ∈ taken, k < s.spawned n → s.returned (.worker n k) = true
  | _ => True

/-- What an accept thread waits for; on a shut listener `accept` does not block. -/
def AcceptPc.Able (n : ℕ) : AcceptPc → Prop
  | .accepting => s.shut n = true
  | .queueing => s.clientMutex = none
  | _ => True

def WorkerPc.Able : WorkerPc → Prop
  | .acquiring => s.clientMutex = none
  | .blocked seen => seen ≠ s.clientCv
  | _ => True

/-- The threads a scheduler has to run: inside a call, or created, and not waiting. -/
def Able (pool : System Caller) (t : Agent Caller) : Prop :=
  match t, pool.locals t with
  | _, .start n pc => pc.Able pool.shared n
  | _, .stop _ taken pc => pc.Able pool.shared taken
  | .accept n, .absent => pool.shared.accepting n = true
  | .accept n, .accept pc => pc.Able pool.shared n
  | .worker n k, .absent => k < pool.shared.spawned n
  | .worker _ _, .worker pc => pc.Able pool.shared
  | _, _ => False

/-- Holding `server_mutex_`. -/
def Local.HoldsServer : Local → Prop
  | .start _ _ | .stop _ _ .shutting => True
  | _ => False

/-- Holding `client_mutex_`. -/
def Local.HoldsClient : Local → Prop
  | .worker .testing | .worker .committing | .worker .deciding => True
  | _ => False

def Local.Fits : Agent Caller → Local → Prop
  | .caller _, .idle | .caller _, .start _ _ | .caller _, .stop _ _ _ => True
  | .accept _, .absent | .accept _, .exited | .accept _, .accept _ => True
  | .worker _ _, .absent | .worker _ _, .exited | .worker _ _, .worker _ => True
  | _, _ => False

/-- What holds in a call of `start`, for what only the holder of `server_mutex_` changes. -/
def StartPc.Holds (n : ℕ) : StartPc → Prop
  | .destroying | .clearing | .installing | .enabling | .arming =>
    s.running = false ∧ s.spawned n = 0
  | .creating k => s.running = true ∧ s.spawned n = k
  | .unsetting => True
  | _ => s.running = false

/-- What holds in every reachable state. -/
structure Invariant (pool : System Caller) : Prop where
  server : Guards Shared.serverMutex Local.HoldsServer pool
  client : Guards Shared.clientMutex Local.HoldsClient pool
  fits : ∀ t, (pool.locals t).Fits t
  returned : ∀ t, pool.shared.returned t = true ↔ pool.locals t = .exited
  worker : ∀ n k pc, pool.locals (.worker n k) = .worker pc → k < pool.shared.spawned n
  accept : ∀ n pc, pool.locals (.accept n) = .accept pc → pool.shared.accepting n = true
  fresh : ∀ n, pool.shared.runs ≤ n → pool.shared.spawned n = 0 ∧ pool.shared.accepting n = false
  seen : ∀ t seen, pool.locals t = .worker (.blocked seen) → seen ≤ pool.shared.clientCv
  starting : ∀ c n pc, pool.locals (.caller c) = .start n pc →
    n + 1 = pool.shared.runs ∧ pool.shared.accepting n = false ∧ pc.Holds pool.shared n

section

variable {tls : ℕ → Bool} {t : Agent Caller} {s s' : Shared Caller} {before after : Local}
  {pool : System Caller}

/-- The members that only the holder of `server_mutex_` changes. -/
def Shared.guarded (s : Shared Caller) : Bool × ℕ × (ℕ → ℕ) × (ℕ → Bool) × Option ℕ :=
  (s.running, s.runs, s.spawned, s.accepting, s.threads)

section

variable (moves : Moves tls t s before s' after)
include moves

theorem Moves.server : LockStep Shared.serverMutex Local.HoldsServer t s before s' after := by
  cases moves with
  | begin free | exchange free => exact .acquires free rfl trivial
  | launch | disarm | shutListener => exact .releases trivial rfl id
  | _ => exact .keeps rfl Iff.rfl

theorem Moves.client : LockStep Shared.clientMutex Local.HoldsClient t s before s' after := by
  cases moves with
  | acquire free => exact .acquires free rfl trivial
  | block | exit | again | take => exact .releases trivial rfl id
  | _ => exact .keeps rfl Iff.rfl

theorem Moves.guarded_eq (out : ¬ before.HoldsServer) (still : ¬ after.HoldsServer) :
    s'.guarded = s.guarded := by
  cases moves with
  | begin | exchange => exact absurd trivial still
  | arm | create | launch | unset | shutListener => exact absurd trivial out
  | _ => rfl

theorem Moves.fits : after.Fits t := by
  cases moves <;> trivial

theorem Moves.returned :
    before ≠ .exited ∧ (after = .exited ∧ s'.returned = Function.update s.returned t true ∨
      after ≠ .exited ∧ s'.returned = s.returned) := by
  cases moves with
  | loadDown | giveUp | exit => exact ⟨Local.noConfusion, .inl ⟨rfl, rfl⟩⟩
  | _ => exact ⟨Local.noConfusion, .inr ⟨Local.noConfusion, rfl⟩⟩

end

/-- What no move takes back. -/
structure Shared.Grows (s s' : Shared Caller) : Prop where
  spawned : ∀ n, s.spawned n ≤ s'.spawned n
  accepting : ∀ n, s.accepting n = true → s'.accepting n = true
  clientCv : s.clientCv ≤ s'.clientCv

theorem Moves.worker {n k pc} (moves : Moves tls (.worker n k) s before s' (.worker pc)) :
    k < s.spawned n ∨ ∃ pc, before = .worker pc := by
  cases moves with
  | workerBorn created => exact .inl created
  | _ => exact .inr ⟨_, rfl⟩

theorem Moves.accept {n pc} (moves : Moves tls (.accept n) s before s' (.accept pc)) :
    s.accepting n = true ∨ ∃ pc, before = .accept pc := by
  cases moves with
  | acceptBorn created => exact .inl created
  | _ => exact .inr ⟨_, rfl⟩

omit [DecidableEq Caller] in
theorem StartPc.Holds.of_guarded {n : ℕ} {pc : StartPc} (same : s'.guarded = s.guarded)
    (holds : n + 1 = s.runs ∧ s.accepting n = false ∧ pc.Holds s n) :
    n + 1 = s'.runs ∧ s'.accepting n = false ∧ pc.Holds s' n := by
  obtain ⟨running, runs, spawned, accepting, -⟩ :
      s'.running = s.running ∧ s'.runs = s.runs ∧ s'.spawned = s.spawned ∧
        s'.accepting = s.accepting ∧ s'.threads = s.threads := by
    simpa [Shared.guarded] using same
  unfold StartPc.Holds
  rw [running, runs, spawned, accepting]
  exact holds

variable (inv : Invariant pool) (here : pool.locals t = before)
  (moves : Moves tls t pool.shared before s' after)
include inv here moves

theorem Invariant.grows : pool.shared.Grows s' := by
  cases moves with
  | @create c _ n k more =>
    have spawned := (inv.starting c n _ here).2.2.2
    refine ⟨fun m => ?_, fun _ => id, le_rfl⟩
    rcases eq_or_ne m n with rfl | other
    · simp [spawned]
    · simp [other]
  | @launch c _ n =>
    refine ⟨fun _ => le_rfl, fun m created => ?_, le_rfl⟩
    rcases eq_or_ne m n with rfl | other
    · simp
    · simpa [other] using created
  | notify | notifyAll => exact ⟨fun _ => le_rfl, fun _ => id, Nat.le_succ _⟩
  | _ => exact ⟨fun _ => le_rfl, fun _ => id, le_rfl⟩

theorem Invariant.returned_move (another) :
    s'.returned another = true ↔ (pool.set t s' after).locals another = .exited := by
  obtain ⟨-, ⟨rfl, returned⟩ | ⟨other, returned⟩⟩ := moves.returned
  · rcases eq_or_ne another t with rfl | ne
    · simp [returned]
    · rw [returned, Function.update_of_ne ne, Pool.set_other _ ne]
      exact inv.returned another
  · rw [returned]
    rcases eq_or_ne another t with rfl | ne
    · have absent := (not_congr (inv.returned another)).mpr (here ▸ moves.returned.1)
      simp [absent, other]
    · rw [Pool.set_other _ ne]
      exact inv.returned another

theorem Invariant.worker_move (n k pc)
    (there : (pool.set t s' after).locals (.worker n k) = .worker pc) : k < s'.spawned n := by
  refine lt_of_lt_of_le ?_ ((inv.grows here moves).spawned n)
  rcases eq_or_ne (.worker n k) t with rfl | ne
  · rw [Pool.set_self] at there
    subst there
    rcases moves.worker with created | ⟨pc, rfl⟩
    · exact created
    · exact inv.worker n k pc here
  · rw [Pool.set_other _ ne] at there
    exact inv.worker n k pc there

theorem Invariant.accept_move (n pc)
    (there : (pool.set t s' after).locals (.accept n) = .accept pc) : s'.accepting n = true := by
  refine (inv.grows here moves).accepting n ?_
  rcases eq_or_ne (.accept n) t with rfl | ne
  · rw [Pool.set_self] at there
    subst there
    rcases moves.accept with created | ⟨pc, rfl⟩
    · exact created
    · exact inv.accept n pc here
  · rw [Pool.set_other _ ne] at there
    exact inv.accept n pc there

theorem Invariant.seen_move (other seen)
    (there : (pool.set t s' after).locals other = .worker (.blocked seen)) :
      seen ≤ s'.clientCv := by
  rcases eq_or_ne other t with rfl | ne
  · rw [Pool.set_self] at there
    subst there
    cases moves with
    | block => exact le_rfl
  · rw [Pool.set_other _ ne] at there
    exact (inv.seen other seen there).trans (inv.grows here moves).clientCv

theorem Invariant.fresh_move (n) (unborn : s'.runs ≤ n) :
    s'.spawned n = 0 ∧ s'.accepting n = false := by
  cases moves with
  | begin => exact inv.fresh n (Nat.le_of_succ_le unborn)
  | @create c _ m k more | @launch c _ m =>
    have newest := (inv.starting c m _ here).1
    have other : n ≠ m := by rintro rfl; dsimp only at unborn; omega
    simpa [other] using inv.fresh n unborn
  | _ => exact inv.fresh n unborn

theorem Invariant.starting_move (c n pc)
    (there : (pool.set t s' after).locals (.caller c) = .start n pc) :
    n + 1 = s'.runs ∧ s'.accepting n = false ∧ pc.Holds s' n := by
  rcases eq_or_ne (.caller c) t with rfl | ne
  · rw [Pool.set_self] at there
    subst there
    cases moves with
    | begin _ down => exact ⟨rfl, (inv.fresh _ le_rfl).2, down, (inv.fresh _ le_rfl).1⟩
    | clear =>
      obtain ⟨newest, unborn, holds⟩ := inv.starting c n _ here
      refine ⟨newest, unborn, ?_⟩
      split <;> exact holds
    | arm =>
      obtain ⟨newest, unborn, -, unstarted⟩ := inv.starting c n _ here
      exact ⟨newest, unborn, rfl, unstarted⟩
    | create =>
      obtain ⟨newest, unborn, up, -⟩ := inv.starting c n _ here
      exact ⟨newest, unborn, up, Function.update_self ..⟩
    | unset =>
      obtain ⟨newest, unborn, -⟩ := inv.starting c n _ here
      exact ⟨newest, unborn, rfl⟩
    | createFails | armFails =>
      obtain ⟨newest, unborn, -⟩ := inv.starting c n _ here
      exact ⟨newest, unborn, trivial⟩
    | _ =>
      have holds := inv.starting c n _ here
      exact ⟨holds.1, holds.2.1, holds.2.2⟩
  · rw [Pool.set_other _ ne] at there
    have holder : (pool.locals (.caller c)).HoldsServer := by rw [there]; trivial
    have moved := inv.server.set here moves.server
    refine StartPc.Holds.of_guarded (moves.guarded_eq ?_ ?_) (inv.starting c n pc there)
    · intro inside
      exact ne (inv.server.exclusive holder (here ▸ inside))
    · intro inside
      refine ne (moved.exclusive ?_ (by rwa [Pool.set_self]))
      rwa [Pool.set_other _ ne]

theorem Invariant.move : Invariant (pool.set t s' after) where
  server := inv.server.set here moves.server
  client := inv.client.set here moves.client
  fits := Pool.forall_set (fun other (l : Local) => l.Fits other) moves.fits fun other _ =>
    inv.fits other
  returned := inv.returned_move here moves
  worker := inv.worker_move here moves
  accept := inv.accept_move here moves
  fresh := inv.fresh_move here moves
  seen := inv.seen_move here moves
  starting := inv.starting_move here moves

end

omit [DecidableEq Caller] in
theorem initial_invariant : Invariant (initial Caller) where
  server := by rintro (_ | _ | _) <;> simp [initial, Local.HoldsServer]
  client := by rintro (_ | _ | _) <;> simp [initial, Local.HoldsClient]
  fits := by rintro (_ | _ | _) <;> trivial
  returned := by rintro (_ | _ | _) <;> simp [initial]
  worker := fun _ _ _ => nofun
  accept := fun _ _ => nofun
  fresh := fun _ _ => ⟨rfl, rfl⟩
  seen := by rintro (_ | _ | _) _ <;> nofun
  starting := fun _ _ _ => nofun

theorem Able.moves {tls} {pool : System Caller} {t} (able : Able pool t)
    (inv : Invariant pool) : ∃ s' after, Moves tls t pool.shared (pool.locals t) s' after := by
  have fits := inv.fits t
  unfold Able at able
  generalize pool.locals t = l at *
  cases t with
  | caller c =>
    cases l with
    | start n pc =>
      cases pc with
      | joining k =>
        by_cases more : k < pool.shared.spawned n
        · exact ⟨_, _, .join more (able more)⟩
        · exact ⟨_, _, .joined (Nat.le_of_not_lt more)⟩
      | creating k => exact ⟨_, _, .createFails⟩
      | _ => exact ⟨_, _, by constructor⟩
    | stop l taken pc =>
      cases pc with
      | joining k =>
        by_cases more : ∃ n ∈ taken, k < pool.shared.spawned n
        · obtain ⟨n, rfl, more⟩ := more
          exact ⟨_, _, .joinWorker more (able n rfl more)⟩
        · push Not at more
          exact ⟨_, _, .joinedAll more⟩
      | clearing => exact ⟨_, _, .clearClients able⟩
      | joiningAccept => exact ⟨_, _, .joinAccept able⟩
      | closing => exact ⟨_, _, .closeListener able⟩
      | _ => exact ⟨_, _, by constructor⟩
    | _ => exact able.elim
  | accept n =>
    cases l with
    | absent => exact ⟨_, _, .acceptBorn able⟩
    | accept pc =>
      cases pc with
      | loading =>
        cases running : pool.shared.running with
        | true => exact ⟨_, _, .load running⟩
        | false => exact ⟨_, _, .loadDown running⟩
      | accepting => exact ⟨_, _, .acceptFails⟩
      | failed =>
        cases running : pool.shared.running with
        | true => exact ⟨_, _, .retry running⟩
        | false => exact ⟨_, _, .giveUp running⟩
      | queueing =>
        by_cases room : pool.shared.clients.length < kClientQueueLimit ∧
            pool.shared.running = true
        · exact ⟨_, _, .enqueue able room.1 room.2⟩
        · exact ⟨_, _, .reject able room⟩
      | signalling => exact ⟨_, _, .signal⟩
    | exited => exact able.elim
    | _ => exact fits.elim
  | worker n k =>
    cases l with
    | absent => exact ⟨_, _, .workerBorn able⟩
    | worker pc =>
      cases pc with
      | acquiring => exact ⟨_, _, .acquire able⟩
      | testing =>
        by_cases ready : pool.shared.running = false ∨ pool.shared.clients ≠ []
        · exact ⟨_, _, .testTrue ready⟩
        · push Not at ready
          exact ⟨_, _, .testFalse (by simpa using ready.1) ready.2⟩
      | committing => exact ⟨_, _, .block⟩
      | deciding =>
        cases front : pool.shared.clients with
        | cons => exact ⟨_, _, .take front⟩
        | nil =>
          cases running : pool.shared.running with
          | true => exact ⟨_, _, .again front running⟩
          | false => exact ⟨_, _, .exit front running⟩
      | blocked => exact ⟨_, _, .wake⟩
      | choosing =>
        cases useTls : pool.shared.useTls with
        | true => exact ⟨_, _, .chooseTls useTls⟩
        | false => exact ⟨_, _, .choosePlain useTls⟩
      | checking =>
        cases ctx : pool.shared.sslCtx with
        | some ctx => exact ⟨_, _, .checkSet ‹_›⟩
        | none => exact ⟨_, _, .checkNull ctx⟩
      | opening => exact ⟨_, _, .openFails⟩
      | serving => exact ⟨_, _, .served⟩
    | exited => exact able.elim
    | _ => exact fits.elim

/-- An unending run from the initial state. -/
structure Execution (tls : ℕ → Bool) (trace : ℕ → System Caller) : Prop where
  start : trace 0 = initial Caller
  runs : Runs (Moves tls) trace

theorem Execution.invariant {tls} {trace : ℕ → System Caller}
    (run : Execution tls trace) : ∀ i, Invariant (trace i) := by
  refine run.runs.invariant Invariant (run.start ▸ initial_invariant) ?_
  rintro i _ ⟨_, _, moves, next⟩ inv
  rw [next]
  exact inv.move rfl moves

end ThermalSimd.Exporter
