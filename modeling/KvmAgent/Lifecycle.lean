import KvmAgent.Process

/-! The tasks of the process: the server, the dispatcher with its worker pool, and `main`,
which starts them and shuts them down. -/
namespace KvmAgent
namespace Lifecycle

/-- A loop that is cut short after `n` rounds goes on no further. -/
def loop {S R : Type} (body : S → Prog ProcessAns (S ⊕ R)) (n : ℕ) (s : S) : Prog ProcessAns R :=
  Prog.loop body n s >>= fun
    | .inl _ => Prog.op ProcessOp.halt >>= Empty.elim
    | .inr r => .ret r

theorem uses_loop {S R : Type} {P : ProcessOp → Prop} (hhalt : P .halt)
    {body : S → Prog ProcessAns (S ⊕ R)} (hbody : ∀ s, (body s).Uses P) (n : ℕ) (s : S) :
    (loop body n s).Uses P := by
  refine Prog.uses_bind (Prog.uses_loop hbody n s) fun o => ?_
  cases o with
  | inl t => exact .call hhalt fun x => x.elim
  | inr r => exact .ret r

namespace GrpcServer

def stopAccepting : Prog ProcessAns Unit := do
  Prog.op (ProcessOp.store .serving false)
  Prog.op ProcessOp.spawnRelease

/-- `run`; `parsed` says whether the bind address is one. -/
def run (parsed : Bool) : Prog ProcessAns Unit := do
  match parsed with
  | false => Prog.op (ProcessOp.notifyWaiters .drained)
  | true =>
    Prog.op ProcessOp.putShutdownTx
    Prog.op (ProcessOp.store .running true)
    let _ ← Prog.op ProcessOp.serve
    Prog.op (ProcessOp.store .running false)
    Prog.op (ProcessOp.notifyWaiters .drained)

/-- One round of the loop in `shutdown`, whose future has a deadline. -/
def waitRunning (deadline : ℕ) : Unit → Prog ProcessAns (Unit ⊕ Bool) := fun _ => do
  match ← Prog.op (ProcessOp.load .running) with
  | false => return .inr true
  | true =>
    let seen ← Prog.op (ProcessOp.notified .drained)
    match ← Prog.op (ProcessOp.await (.notified .drained seen) deadline) with
    | true => return .inl ()
    | false => return .inr false

def shutdown (timeout : Duration) (n : ℕ) : Prog ProcessAns Bool := do
  stopAccepting
  let now ← Prog.op ProcessOp.now
  loop (waitRunning (now + timeout)) n ()

end GrpcServer

structure WorkerPool where
  maxWorkers : ℕ

namespace WorkerPool

def new (maxWorkers : ℕ) : WorkerPool := ⟨max maxWorkers 1⟩

variable (pool : WorkerPool)

/-- One round of the loop in `try_start_job`. -/
def tryStart : Unit → Prog ProcessAns (Unit ⊕ Bool) := fun _ => do
  let current ← Prog.op ProcessOp.loadInFlight
  if pool.maxWorkers ≤ current then return .inr false
  else
    match ← Prog.op (ProcessOp.compareExchange current (current+1)) with
    | true => return .inr true
    | false => return .inl ()

def tryStartJob (n : ℕ) : Prog ProcessAns Bool := do
  match ← Prog.op (ProcessOp.load .accepting) with
  | false => return false
  | true => loop pool.tryStart n ()

/-- One round of the loop in `finish_job`. -/
def tryFinish : Unit → Prog ProcessAns (Unit ⊕ Unit) := fun _ => do
  let current ← Prog.op ProcessOp.loadInFlight
  if current = 0 then
    Prog.op (ProcessOp.notifyWaiters .idle)
    return .inr ()
  else
    match ← Prog.op (ProcessOp.compareExchange current (current-1)) with
    | false => return .inl ()
    | true =>
      if current ≤ 1 then Prog.op (ProcessOp.notifyWaiters .idle)
      return .inr ()

def finishJob (n : ℕ) : Prog ProcessAns Unit := loop tryFinish n ()

def stopAccepting : Prog ProcessAns Unit := Prog.op (ProcessOp.store .accepting false)

/-- One round of the loop in `drain`, whose future has a deadline. -/
def waitIdle (deadline : ℕ) : Unit → Prog ProcessAns (Unit ⊕ Unit) := fun _ => do
  let current ← Prog.op ProcessOp.loadInFlight
  if current = 0 then return .inr ()
  else
    let seen ← Prog.op (ProcessOp.notified .idle)
    let now ← Prog.op ProcessOp.now
    match ← Prog.op (ProcessOp.await
        (.notifiedOrSleep .idle seen (now + Duration.fromMillis 100)) deadline) with
    | true => return .inl ()
    | false => return .inr ()

def drain (timeout : Duration) (n : ℕ) : Prog ProcessAns Unit := do
  let now ← Prog.op ProcessOp.now
  loop (waitIdle (now + timeout)) n ()

end WorkerPool

namespace WorkerDispatcher

def stopPolling : Prog ProcessAns Unit := Prog.op (ProcessOp.store .polling false)

/-- One round of the loop in `run`. -/
def poll (pool : WorkerPool) (n : ℕ) : Unit → Prog ProcessAns (Unit ⊕ Unit) := fun _ => do
  let now ← Prog.op ProcessOp.now
  match ← Prog.op (ProcessOp.cancelledOrSleep (now + Duration.fromMillis 500)) with
  | true =>
    stopPolling
    return .inr ()
  | false =>
    match ← Prog.op (ProcessOp.load .polling) with
    | false => return .inr ()
    | true =>
      match ← pool.tryStartJob n with
      | false => return .inl ()
      | true =>
        let now ← Prog.op ProcessOp.now
        Prog.op (ProcessOp.sleepUntil (now + Duration.fromMillis 150))
        WorkerPool.finishJob n
        return .inl ()

def run (pool : WorkerPool) (n : ℕ) : Prog ProcessAns Unit := loop (poll pool n) n ()

end WorkerDispatcher

def drainTasks (timeout : Duration) (n : ℕ) : Prog ProcessAns Bool := do
  let started ← Prog.op ProcessOp.now
  Prog.op ProcessOp.closeTasks
  WorkerPool.drain timeout n
  let now ← Prog.op ProcessOp.now
  let remaining := timeout - (now - started)
  if remaining = 0 then return false
  else
    let now ← Prog.op ProcessOp.now
    Prog.op (ProcessOp.await .tasks (now + remaining))

def closeTransports (timeout : Duration) (n : ℕ) : Prog ProcessAns Bool := do
  if timeout = 0 then return false
  else
    let ok ← GrpcServer.shutdown timeout n
    Prog.op (ProcessOp.closed ok)
    return ok

def closeDependencies (timeout : Duration) : Prog ProcessAns Bool := do
  let now ← Prog.op ProcessOp.now
  let polled ← Prog.op ProcessOp.now
  Prog.op (ProcessOp.await (.sleep (polled + Duration.fromMillis 20)) (now + timeout))

def shutdown (timeout : Duration) (n : ℕ) : Prog ProcessAns ShutdownResult := do
  let startedAt ← Prog.op ProcessOp.now
  Prog.op (ProcessOp.setState .shuttingDown)
  GrpcServer.stopAccepting
  WorkerPool.stopAccepting
  WorkerDispatcher.stopPolling
  Prog.op (ProcessOp.store .cancelled true)
  let now ← Prog.op ProcessOp.now
  let drained ← drainTasks (timeout - (now - startedAt)) n
  let now ← Prog.op ProcessOp.now
  let transportsClosed ← closeTransports (timeout - (now - startedAt)) n
  let now ← Prog.op ProcessOp.now
  let dependenciesClosed ← closeDependencies (timeout - (now - startedAt))
  let now ← Prog.op ProcessOp.now
  let clean := drained && transportsClosed && dependenciesClosed &&
    decide (Duration.asMillisU64 (now - startedAt) ≤ Duration.asMillisU64 timeout)
  Prog.op (ProcessOp.setState .stopped)
  return if clean then .clean else .timedOut

/-- What of the configuration the tasks depend on. -/
structure Settings where
  parsed : Bool
  maxWorkers : ℕ
  shutdownTimeout : Duration

variable (config : Settings) (n : ℕ)

def main : Prog ProcessAns Unit := do
  Prog.op (ProcessOp.setState .running)
  Prog.op (ProcessOp.spawn .grpc)
  Prog.op (ProcessOp.spawn .dispatcher)
  Prog.op (ProcessOp.spawn .connect)
  Prog.op ProcessOp.waitForShutdownSignal
  let result ← shutdown config.shutdownTimeout n
  Prog.op (ProcessOp.finished result)

/-- The future of each task, which the tracker counts until it is done. -/
def future : ProcessTask → Prog ProcessAns Unit
  | .main => .ret ()
  | .grpc => GrpcServer.run config.parsed >>= fun _ => Prog.op (ProcessOp.exit .grpc)
  | .dispatcher =>
    WorkerDispatcher.run (.new config.maxWorkers) n >>= fun _ => Prog.op (ProcessOp.exit .dispatcher)
  | .connect =>
    Prog.op ProcessOp.connectHypervisor >>= fun _ => Prog.op (ProcessOp.exit .connect)

def spawns : ProcessOp → Option (ProcessTask × Prog ProcessAns Unit)
  | .spawn task => some (task,future config n task)
  | _ => none

def process : Threads ProcessTask ProcessAns Bool ProcessEvent AppContext where
  handler _ := processHandler
  env := processEvent
  spawns := spawns config n

abbrev State := Threads.Config ProcessTask ProcessAns AppContext

abbrev Action := Threads.Action ProcessTask Bool ProcessEvent

def starting : State where
  pool
    | .main => ⟨main config n,[]⟩
    | _ => Threads.idle
  shared := .new

end Lifecycle
end KvmAgent
