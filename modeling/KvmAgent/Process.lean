import KvmAgent.Clock
import KvmAgent.Threads

/-! What the tasks of the process share through the `AppContext`, and the atomic steps in
which they read and change it. -/
namespace KvmAgent

inductive AppState
  | starting | running | shuttingDown | stopped
  deriving DecidableEq

inductive ShutdownResult
  | clean | timedOut
  deriving DecidableEq

/-- `main` and the tasks it spawns in `ctx.tasks`. -/
inductive ProcessTask
  | main | grpc | dispatcher | connect
  deriving DecidableEq

/-- The `AtomicBool`s: `WorkerDispatcher.polling`, `WorkerPool.accepting`,
`GrpcServer.accepting`, `GrpcServer.running`; and whether the shutdown token is cancelled. -/
inductive Flag
  | polling | accepting | serving | running | cancelled
  deriving DecidableEq

/-- The `Notify`s: `WorkerPool.idle_notify` and `GrpcServer.drained_notify`. -/
inductive Signal
  | idle | drained
  deriving DecidableEq

/-- What is awaited under a deadline: a `notified()` future made after `seen` calls of
`notify_waiters`, the same against a sleep, a sleep, and `ctx.tasks.wait()`. -/
inductive Wait
  | notified (signal : Signal) (seen : ℕ)
  | notifiedOrSleep (signal : Signal) (seen wakeAt : ℕ)
  | sleep (wakeAt : ℕ)
  | tasks
  deriving DecidableEq

inductive ProcessOp
  | load (flag : Flag)
  | store (flag : Flag) (value : Bool)
  | loadInFlight
  | compareExchange (current new : ℕ)
  | notifyWaiters (signal : Signal)
  | notified (signal : Signal)
  | await (wait : Wait) (deadline : ℕ)
  | now
  | sleepUntil (wakeAt : ℕ)
  | cancelledOrSleep (wakeAt : ℕ)
  | spawn (task : ProcessTask)
  | exit (task : ProcessTask)
  | closeTasks
  | putShutdownTx
  | serve
  | spawnRelease
  | connectHypervisor
  | waitForShutdownSignal
  | setState (state : AppState)
  | closed (ok : Bool)
  | finished (result : ShutdownResult)
  | halt
  deriving DecidableEq

/-- `await` answers whether the awaited came before the deadline, `cancelledOrSleep` whether
the token was cancelled, and `serve` whether the server shut down without an error. -/
abbrev ProcessAns : ProcessOp → Type
  | .load _ | .compareExchange .. | .await .. | .cancelledOrSleep _ | .serve => Bool
  | .loadInFlight | .notified _ | .now => ℕ
  | .halt => Empty
  | _ => Unit

/-- The state behind the handles of the `AppContext`, and the clock. -/
structure AppContext where
  clock : ℕ := 0
  state : AppState := .starting
  flags : Flag → Bool
  inFlight : ℕ := 0
  calls : Signal → ℕ := fun _ => 0
  /-- The `TaskTracker`. -/
  tasksClosed : Bool := false
  tasksCount : ℕ := 0
  /-- The sender in `shutdown_tx` is there; it has sent. -/
  shutdownTx : Bool := false
  shutdownSent : Bool := false
  /-- The tasks of `stop_accepting` that have yet to take the sender. -/
  releases : ℕ := 0

namespace AppContext

def new : AppContext where
  flags
    | .polling | .accepting | .serving => true
    | .running | .cancelled => false

def ready (p : AppContext) : Wait → Bool
  | .notified signal seen => decide (seen < p.calls signal)
  | .notifiedOrSleep signal seen wakeAt => decide (seen < p.calls signal) || decide (wakeAt ≤ p.clock)
  | .sleep wakeAt => decide (wakeAt ≤ p.clock)
  | .tasks => p.tasksClosed && decide (p.tasksCount = 0)

def store (p : AppContext) (flag : Flag) (value : Bool) : AppContext :=
  { p with flags := Function.update p.flags flag value }

def notify (p : AppContext) (signal : Signal) : AppContext :=
  { p with calls := Function.update p.calls signal (p.calls signal + 1) }

end AppContext

/-- What each step does; the choice decides where two branches of a `select!` are ready, and
when the server fails. A future is polled before its deadline is looked at. -/
def processHandler : Handler ProcessAns Bool AppContext := fun o choice p =>
  match o with
  | .load flag => some (p.flags flag,p)
  | .store flag value => some ((),p.store flag value)
  | .loadInFlight => some (p.inFlight,p)
  | .compareExchange current new =>
    if p.inFlight = current then some (true,{ p with inFlight := new }) else some (false,p)
  | .notifyWaiters signal => some ((),p.notify signal)
  | .notified signal => some (p.calls signal,p)
  | .await wait deadline =>
    if p.ready wait then some (true,p)
    else if deadline ≤ p.clock then some (false,p)
    else none
  | .now => some (p.clock,p)
  | .sleepUntil wakeAt => if wakeAt ≤ p.clock then some ((),p) else none
  | .cancelledOrSleep wakeAt =>
    if p.flags .cancelled && (choice || decide (p.clock < wakeAt)) then some (true,p)
    else if wakeAt ≤ p.clock then some (false,p)
    else none
  | .spawn _ => some ((),{ p with tasksCount := p.tasksCount + 1 })
  | .exit _ => some ((),{ p with tasksCount := p.tasksCount - 1 })
  | .closeTasks => some ((),{ p with tasksClosed := true })
  | .putShutdownTx => some ((),{ p with shutdownTx := true, shutdownSent := false })
  | .serve =>
    if choice then some (false,p)
    else if p.flags .cancelled || p.shutdownSent then some (true,p)
    else none
  | .spawnRelease => some ((),{ p with releases := p.releases + 1 })
  | .connectHypervisor => some ((),p)
  | .waitForShutdownSignal => some ((),p)
  | .setState state => some ((),{ p with state := state })
  | .closed _ => some ((),p)
  | .finished _ => some ((),p)
  | .halt => none

/-- Time passes, a task of `stop_accepting` takes the sender and sends, or a holder of the
shutdown token cancels it. -/
inductive ProcessEvent
  | tick (d : Duration)
  | release
  | cancel

def processEvent : ProcessEvent → AppContext → AppContext
  | .tick d, p => { p with clock := p.clock + d }
  | .release, p =>
    if p.releases = 0 then p
    else { p with
      releases := p.releases - 1
      shutdownTx := false
      shutdownSent := p.shutdownSent || p.shutdownTx }
  | .cancel, p => p.store .cancelled true

section Steps

variable {choice : Bool} {p q : AppContext}

theorem await_cases {wait : Wait} {deadline : ℕ} {x : Bool}
    (h : processHandler (.await wait deadline) choice p = some (x,q)) :
    q = p ∧ (x = true ∧ p.ready wait = true ∨
      x = false ∧ p.ready wait = false ∧ deadline ≤ p.clock) := by
  cases hready : p.ready wait with
  | true =>
    simp only [processHandler,hready,if_true] at h
    cases h
    exact ⟨rfl,.inl ⟨rfl,rfl⟩⟩
  | false =>
    by_cases hdue : deadline ≤ p.clock
    · simp only [processHandler,hready,if_pos hdue] at h
      cases h
      exact ⟨rfl,.inr ⟨rfl,rfl,hdue⟩⟩
    · simp [processHandler,hready,hdue] at h

theorem serve_eq {x : Bool} (h : processHandler .serve choice p = some (x,q)) : q = p := by
  cases choice with
  | true =>
    cases h
    rfl
  | false =>
    by_cases hstop : (p.flags .cancelled || p.shutdownSent) = true
    · simp only [processHandler,if_pos hstop] at h
      cases h
      rfl
    · simp [processHandler,hstop] at h

theorem compareExchange_cases {current new : ℕ} {x : Bool}
    (h : processHandler (.compareExchange current new) choice p = some (x,q)) :
    x = true ∧ p.inFlight = current ∧ q = { p with inFlight := new } ∨ x = false ∧ q = p := by
  by_cases hcurrent : p.inFlight = current
  · simp only [processHandler,if_pos hcurrent] at h
    cases h
    exact .inl ⟨rfl,hcurrent,rfl⟩
  · simp only [processHandler,if_neg hcurrent] at h
    cases h
    exact .inr ⟨rfl,rfl⟩

variable {o : ProcessOp} {x : ProcessAns o}

/-- Only a `compare_exchange` changes `in_flight`, and only a store the flag of the pool. -/
theorem handler_pool (h : processHandler o choice p = some (x,q)) :
    (q.inFlight = p.inFlight ∨
      ∃ current, p.inFlight = current ∧ o = .compareExchange current q.inFlight) ∧
    (q.flags .accepting = p.flags .accepting ∨ o = .store .accepting (q.flags .accepting)) := by
  cases o with
  | compareExchange current new =>
    rcases compareExchange_cases h with ⟨-,hcurrent,rfl⟩ | ⟨-,rfl⟩
    · exact ⟨.inr ⟨current,hcurrent,rfl⟩,.inl rfl⟩
    · exact ⟨.inl rfl,.inl rfl⟩
  | store flag value =>
    cases h
    refine ⟨.inl rfl,?_⟩
    by_cases hflag : flag = .accepting
    · subst hflag
      exact .inr (by simp [AppContext.store])
    · exact .inl (by simp [AppContext.store,Ne.symm hflag])
  | await wait deadline =>
    obtain ⟨rfl,-⟩ := await_cases h
    exact ⟨.inl rfl,.inl rfl⟩
  | serve =>
    obtain rfl := serve_eq h
    exact ⟨.inl rfl,.inl rfl⟩
  | sleepUntil wakeAt =>
    simp only [processHandler] at h
    split at h <;> cases h
    exact ⟨.inl rfl,.inl rfl⟩
  | cancelledOrSleep wakeAt =>
    simp only [processHandler] at h
    split at h
    · cases h; exact ⟨.inl rfl,.inl rfl⟩
    · split at h <;> cases h
      exact ⟨.inl rfl,.inl rfl⟩
  | halt => exact x.elim
  | _ =>
    cases h
    exact ⟨.inl rfl,.inl rfl⟩

theorem handler_clock (h : processHandler o choice p = some (x,q)) : q.clock = p.clock := by
  cases o with
  | compareExchange current new => rcases compareExchange_cases h with ⟨-,-,rfl⟩ | ⟨-,rfl⟩ <;> rfl
  | await wait deadline =>
    obtain ⟨rfl,-⟩ := await_cases h
    rfl
  | serve => rw [serve_eq h]
  | sleepUntil wakeAt =>
    simp only [processHandler] at h
    split at h <;> cases h
    rfl
  | cancelledOrSleep wakeAt =>
    simp only [processHandler] at h
    split at h
    · cases h; rfl
    · split at h <;> cases h
      rfl
  | halt => exact x.elim
  | _ =>
    cases h
    rfl

theorem event_clock (e : ProcessEvent) (p : AppContext) : p.clock ≤ (processEvent e p).clock := by
  cases e with
  | tick d => exact Nat.le_add_right _ d
  | release => by_cases hnone : p.releases = 0 <;> simp [processEvent,hnone]
  | cancel => exact Nat.le_refl _

theorem event_pool (e : ProcessEvent) (p : AppContext) :
    (processEvent e p).inFlight = p.inFlight ∧
      (processEvent e p).flags .accepting = p.flags .accepting := by
  cases e with
  | tick d => exact ⟨rfl,rfl⟩
  | release =>
    by_cases hnone : p.releases = 0 <;> simp [processEvent,hnone]
  | cancel => exact ⟨rfl,rfl⟩

end Steps

end KvmAgent
