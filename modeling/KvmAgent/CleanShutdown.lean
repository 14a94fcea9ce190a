import KvmAgent.Lifecycle
import Mathlib.Data.List.Basic

/-! The jobs of the worker pool over a shutdown: `in_flight` counts the job the dispatcher
has in hand, the tracker counts the tasks that are not done, and a clean shutdown has seen
the tracker empty. -/
namespace KvmAgent
namespace CleanShutdown

open Lifecycle

inductive Status
  | unborn | live | working | gone
  deriving DecidableEq

namespace Status

def tracked : Status → ℕ
  | .live | .working => 1
  | .unborn | .gone => 0

def jobs : Status → ℕ
  | .working => 1
  | _ => 0

end Status

/-- The operations that start or finish no task and no job, and tell nothing of them. -/
def Calm : ProcessOp → Prop
  | .exit _ | .spawn _ | .compareExchange .. | .await .tasks _ | .finished _ => False
  | _ => True

/-- What is left of a task in each state: it works off the job it starts before it starts
another or exits, and then it is done. -/
inductive Runs {α : Type} (task : ProcessTask) (post : α → Status) : Status → Prog ProcessAns α → Prop
  | ret {status : Status} {a : α} (h : status = post a) : Runs task post status (.ret a)
  | calm {status : Status} {o : ProcessOp} {k : ProcessAns o → Prog ProcessAns α} (ho : Calm o)
    (hk : ∀ x, Runs task post status (k x)) : Runs task post status (.call o k)
  | start {current : ℕ} {k : Bool → Prog ProcessAns α} (ht : task = .dispatcher)
    (hwon : Runs task post .working (k true)) (hlost : Runs task post .live (k false)) :
    Runs task post .live (.call (.compareExchange current (current+1)) k)
  | load {k : ℕ → Prog ProcessAns α} (ht : task = .dispatcher)
    (hk : ∀ current, 0 < current → Runs task post .working (k current)) :
    Runs task post .working (.call .loadInFlight k)
  | finish {current : ℕ} {k : Bool → Prog ProcessAns α} (ht : task = .dispatcher)
    (hcurrent : 0 < current) (hwon : Runs task post .live (k true))
    (hlost : Runs task post .working (k false)) :
    Runs task post .working (.call (.compareExchange current (current-1)) k)
  | exit {k : Unit → Prog ProcessAns α} (hk : Runs task post .gone (k ())) :
    Runs task post .live (.call (.exit task) k)

/-- What is left of `main`: it starts the tasks of `todo`, and `waited` says whether it has
seen the tracker empty. -/
inductive Leads {α : Type} (post : α → Bool → Prop) :
    (todo : List ProcessTask) → (waited : Bool) → Prog ProcessAns α → Prop
  | ret {waited : Bool} {a : α} (h : post a waited) : Leads post [] waited (.ret a)
  | calm {todo : List ProcessTask} {waited : Bool} {o : ProcessOp}
    {k : ProcessAns o → Prog ProcessAns α} (ho : Calm o) (hk : ∀ x, Leads post todo waited (k x)) :
    Leads post todo waited (.call o k)
  | spawn {task : ProcessTask} {todo : List ProcessTask} {k : Unit → Prog ProcessAns α}
    (hk : Leads post todo false (k ())) : Leads post (task::todo) false (.call (.spawn task) k)
  | wait {t : ℕ} {waited : Bool} {k : Bool → Prog ProcessAns α} (hempty : Leads post [] true (k true))
    (hlate : Leads post [] waited (k false)) : Leads post [] waited (.call (.await .tasks t) k)
  | finish {result : ShutdownResult} {waited : Bool} {k : Unit → Prog ProcessAns α}
    (hclean : result = .clean → waited = true) (hk : Leads post [] waited (k ())) :
    Leads post [] waited (.call (.finished result) k)

section Programs

variable {task : ProcessTask} {α β S R : Type} {status : Status} {waited : Bool}

theorem runs_bind {mid : β → Status} {post : α → Status} {p : Prog ProcessAns β}
    {f : β → Prog ProcessAns α} (hp : Runs task mid status p)
    (hf : ∀ b, Runs task post (mid b) (f b)) : Runs task post status (p >>= f) := by
  induction hp with
  | @ret status b h =>
    subst h
    exact hf b
  | calm ho _ ih => exact .calm ho ih
  | start ht _ _ ihwon ihlost => exact .start ht ihwon ihlost
  | load ht _ ih => exact .load ht ih
  | finish ht hcurrent _ _ ihwon ihlost => exact .finish ht hcurrent ihwon ihlost
  | exit _ ih => exact .exit ih

theorem runs_calm {p : Prog ProcessAns α} (hp : p.Uses Calm) (status : Status) :
    Runs task (fun _ => status) status p := by
  induction hp with
  | ret a => exact .ret rfl
  | call ho _ ih => exact .calm ho ih

theorem runs_loop {post : R → Status} {body : S → Prog ProcessAns (S ⊕ R)}
    (hbody : ∀ s, Runs task (Sum.elim (fun _ => status) post) status (body s)) (n : ℕ) (s : S) :
    Runs task post status (loop body n s) := by
  have hrounds : Runs task (Sum.elim (fun _ => status) post) status (Prog.loop body n s) := by
    induction n generalizing s with
    | zero => exact .ret rfl
    | succ n ih =>
      refine runs_bind (hbody s) fun o => ?_
      cases o with
      | inl t => exact ih t
      | inr r => exact .ret rfl
  refine runs_bind hrounds fun o => ?_
  cases o with
  | inl t => exact .calm trivial fun x => x.elim
  | inr r => exact .ret rfl

theorem leads_bind {mid : β → Bool → Prop} {post : α → Bool → Prop} {todo : List ProcessTask}
    {p : Prog ProcessAns β} {f : β → Prog ProcessAns α} (hp : Leads mid todo waited p)
    (hf : ∀ b waited, mid b waited → Leads post [] waited (f b)) :
    Leads post todo waited (p >>= f) := by
  induction hp with
  | ret h => exact hf _ _ h
  | calm ho _ ih => exact .calm ho ih
  | spawn _ ih => exact .spawn ih
  | wait _ _ ihempty ihlate => exact .wait ihempty ihlate
  | finish hclean _ ih => exact .finish hclean ih

theorem leads_calm {p : Prog ProcessAns α} (hp : p.Uses Calm) (waited : Bool) :
    Leads (fun _ w => w = waited) [] waited p := by
  induction hp with
  | ret a => exact .ret rfl
  | call ho _ ih => exact .calm ho ih

theorem run_runs (parsed : Bool) : (GrpcServer.run parsed).Uses Calm := by
  cases parsed with
  | false => exact .call trivial .ret
  | true =>
    exact .call trivial fun _ => .call trivial fun _ => .call trivial fun _ => .call trivial fun _ =>
      .call trivial .ret

theorem tryStart_runs (pool : WorkerPool) :
    Runs .dispatcher (Sum.elim (fun _ => .live) fun started => if started then .working else .live)
      .live (pool.tryStart ()) := by
  refine .calm trivial fun (current : ℕ) => ?_
  change Runs _ _ _ (if pool.maxWorkers ≤ current then _ else _)
  by_cases hfull : pool.maxWorkers ≤ current
  · rw [if_pos hfull]
    exact .ret rfl
  · rw [if_neg hfull]
    exact .start rfl (.ret rfl) (.ret rfl)

theorem tryStartJob_runs (pool : WorkerPool) (n : ℕ) :
    Runs .dispatcher (fun started => if started then .working else .live) .live
      (pool.tryStartJob n) := by
  refine .calm trivial fun accepting => ?_
  cases accepting with
  | false => exact .ret rfl
  | true => exact runs_loop (fun _ => tryStart_runs pool) n ()

theorem tryFinish_runs :
    Runs .dispatcher (Sum.elim (fun _ => .working) fun _ => .live) .working
      (WorkerPool.tryFinish ()) := by
  refine .load rfl fun (current : ℕ) hcurrent => ?_
  have hne : current ≠ 0 := Nat.ne_of_gt hcurrent
  change Runs _ _ _ (if current = 0 then _ else _)
  rw [if_neg hne]
  refine .finish rfl hcurrent ?_ (.ret rfl)
  by_cases hlast : current ≤ 1
  · simp only [if_pos hlast]
    exact .calm trivial fun _ => .ret rfl
  · simp only [if_neg hlast]
    exact .ret rfl

theorem finishJob_runs (n : ℕ) :
    Runs .dispatcher (fun _ => .live) .working (WorkerPool.finishJob n) :=
  runs_loop (fun _ => tryFinish_runs) n ()

theorem poll_runs (pool : WorkerPool) (n : ℕ) :
    Runs .dispatcher (Sum.elim (fun _ => .live) fun _ => .live) .live
      (WorkerDispatcher.poll pool n ()) := by
  refine .calm trivial fun _ => .calm trivial fun cancelled => ?_
  cases cancelled with
  | true => exact .calm trivial fun _ => .ret rfl
  | false =>
    refine .calm trivial fun polling => ?_
    cases polling with
    | false => exact .ret rfl
    | true =>
      refine runs_bind (p := pool.tryStartJob n) (tryStartJob_runs pool n) fun started => ?_
      cases started with
      | false => exact .ret rfl
      | true =>
        exact .calm trivial fun _ => .calm trivial fun _ =>
          runs_bind (p := WorkerPool.finishJob n) (finishJob_runs n) fun _ => .ret rfl

theorem future_runs (config : Settings) (n : ℕ) (ht : task ≠ .main) :
    Runs task (fun _ => .gone) .live (future config n task) := by
  cases task with
  | main => exact absurd rfl ht
  | grpc => exact runs_bind (runs_calm (run_runs config.parsed) .live) fun _ => .exit (.ret rfl)
  | dispatcher =>
    exact runs_bind (runs_loop (fun _ => poll_runs _ n) n ()) fun _ => .exit (.ret rfl)
  | connect => exact .calm trivial fun _ => .exit (.ret rfl)

theorem waitIdle_calm (deadline : ℕ) : (WorkerPool.waitIdle deadline ()).Uses Calm := by
  refine .call trivial fun (current : ℕ) => ?_
  change Prog.Uses _ (if current = 0 then _ else _)
  by_cases hidle : current = 0
  · rw [if_pos hidle]
    exact .ret _
  · rw [if_neg hidle]
    refine .call trivial fun _ => .call trivial fun _ => .call trivial fun woken => ?_
    cases woken <;> exact .ret _

theorem drain_calm (timeout : Duration) (n : ℕ) : (WorkerPool.drain timeout n).Uses Calm :=
  .call trivial fun (now : ℕ) => uses_loop trivial (fun _ => waitIdle_calm (now + timeout)) n ()

/-- `drain_tasks` returns `true` only if it has seen the tracker empty. -/
theorem drainTasks_leads (timeout : Duration) (n : ℕ) :
    Leads (fun drained waited => drained = true → waited = true) [] false
      (drainTasks timeout n) := by
  refine .calm trivial fun (started : ℕ) => .calm trivial fun _ =>
    leads_bind (p := WorkerPool.drain timeout n) (leads_calm (drain_calm timeout n) false)
      fun _ waited hwaited => ?_
  subst hwaited
  refine .calm trivial fun (now : ℕ) => ?_
  change Leads _ _ _ (if timeout - (now - started) = 0 then _ else _)
  by_cases hover : timeout - (now - started) = 0
  · rw [if_pos hover]
    exact .ret (by simp)
  · rw [if_neg hover]
    exact .calm trivial fun _ => .wait (.ret fun _ => rfl) (.ret (by simp))

theorem waitRunning_calm (deadline : ℕ) : (GrpcServer.waitRunning deadline ()).Uses Calm := by
  refine .call trivial fun running => ?_
  cases running with
  | false => exact .ret _
  | true =>
    refine .call trivial fun _ => .call trivial fun woken => ?_
    cases woken <;> exact .ret _

theorem closeTransports_calm (timeout : Duration) (n : ℕ) :
    (closeTransports timeout n).Uses Calm := by
  unfold closeTransports
  by_cases hover : timeout = 0
  · simp only [if_pos hover]
    exact .ret _
  · simp only [if_neg hover]
    have hshutdown : (GrpcServer.shutdown timeout n).Uses Calm :=
      .call trivial fun _ => .call trivial fun _ => .call trivial fun (now : ℕ) =>
        uses_loop trivial (fun _ => waitRunning_calm (now + timeout)) n ()
    exact Prog.uses_bind hshutdown fun _ => .call trivial fun _ => .ret _

theorem shutdown_leads (timeout : Duration) (n : ℕ) :
    Leads (fun result waited => result = .clean → waited = true) [] false
      (shutdown timeout n) := by
  refine .calm trivial fun (startedAt : ℕ) => .calm trivial fun _ => .calm trivial fun _ =>
    .calm trivial fun _ => .calm trivial fun _ => .calm trivial fun _ => .calm trivial fun _ =>
    .calm trivial fun (now : ℕ) => leads_bind (p := drainTasks (timeout - (now - startedAt)) n)
      (drainTasks_leads _ n) fun drained waited hdrained => ?_
  refine .calm trivial fun (now : ℕ) =>
    leads_bind (p := closeTransports (timeout - (now - startedAt)) n)
      (leads_calm (closeTransports_calm _ n) waited) fun closed waited' hwaited => ?_
  subst hwaited
  refine .calm trivial fun _ => .calm trivial fun _ => .calm trivial fun _ =>
    .calm trivial fun _ => .calm trivial fun _ => .calm trivial fun _ => .ret fun hclean => ?_
  apply hdrained
  cases drained with
  | true => rfl
  | false => simp at hclean

theorem main_leads (config : Settings) (n : ℕ) :
    Leads (fun _ _ => True) [.grpc,.dispatcher,.connect] false (main config n) :=
  .calm trivial fun _ => .spawn (.spawn (.spawn (.calm trivial fun _ =>
    leads_bind (p := shutdown config.shutdownTimeout n) (shutdown_leads config.shutdownTimeout n)
      fun _ _ hclean => .finish hclean (.ret trivial))))

end Programs

def started : Trace ProcessAns → ℕ
  | [] => 0
  | ⟨.compareExchange current new,true⟩::s => if current < new then started s + 1 else started s
  | _::s => started s

section Answers

variable {config : Settings} {n : ℕ} {task : ProcessTask} {o : ProcessOp}
  {k : ProcessAns o → Prog ProcessAns Unit} {c : Bool} {p q : AppContext} {x : ProcessAns o}
  {status : Status}

theorem calm_eq (ho : Calm o) (h : processHandler o c p = some (x,q)) :
    q.inFlight = p.inFlight ∧ q.tasksCount = p.tasksCount := by
  cases o with
  | exit | spawn | compareExchange | finished => exact ho.elim
  | await wait deadline =>
    obtain ⟨rfl,-⟩ := await_cases h
    exact ⟨rfl,rfl⟩
  | serve =>
    obtain rfl := serve_eq h
    exact ⟨rfl,rfl⟩
  | sleepUntil wakeAt =>
    simp only [processHandler] at h
    split at h <;> cases h
    exact ⟨rfl,rfl⟩
  | cancelledOrSleep wakeAt =>
    simp only [processHandler] at h
    split at h
    · cases h; exact ⟨rfl,rfl⟩
    · split at h <;> cases h
      exact ⟨rfl,rfl⟩
  | halt => exact x.elim
  | _ =>
    cases h
    exact ⟨rfl,rfl⟩

theorem calm_started (ho : Calm o) (past : Trace ProcessAns) : started (⟨o,x⟩::past) = started past := by
  cases o with
  | compareExchange => exact ho.elim
  | _ => rfl

theorem calm_spawns (ho : Calm o) : (process config n).spawns o = none := by
  cases o with
  | spawn => exact ho.elim
  | _ => rfl

theorem Runs.spawns {post : Unit → Status} (h : Runs task post status (.call o k)) :
    (process config n).spawns o = none := by
  cases h with
  | calm ho hk => exact calm_spawns ho
  | _ => rfl

inductive Turns (task : ProcessTask) : Status → Status → Prop
  | same {status : Status} : Turns task status status
  | started (ht : task = .dispatcher) : Turns task .live .working
  | finished : Turns task .working .live
  | exited : Turns task .live .gone

theorem Runs.answered {post : Unit → Status} (hp : Runs task post status (.call o k))
    (h : processHandler o c p = some (x,q))
    (hjobs : task = .dispatcher → p.inFlight = status.jobs) (hcount : status.tracked ≤ p.tasksCount)
    (past : Trace ProcessAns) : ∃ status', Turns task status status' ∧ Runs task post status' (k x) ∧
      q.tasksCount + status.tracked = p.tasksCount + status'.tracked ∧
      q.inFlight + status.jobs = p.inFlight + status'.jobs ∧
      (status = .gone → started (⟨o,x⟩::past) = started past) := by
  cases hp with
  | calm ho hk =>
    obtain ⟨hinFlight,htasks⟩ := calm_eq ho h
    exact ⟨status,.same,hk x,by rw [htasks],by rw [hinFlight],fun _ => calm_started ho past⟩
  | start ht hwon hlost =>
    rcases compareExchange_cases h with ⟨rfl,rfl,rfl⟩ | ⟨rfl,rfl⟩
    · have hnone := hjobs ht
      exact ⟨.working,.started ht,hwon,rfl,by simp [Status.jobs],by simp⟩
    · exact ⟨.live,.same,hlost,rfl,rfl,by simp⟩
  | load ht hk =>
    cases h
    have hone : 0 < p.inFlight := by simp [hjobs ht,Status.jobs]
    exact ⟨.working,.same,hk _ hone,rfl,rfl,by simp⟩
  | finish ht hcurrent hwon hlost =>
    rcases compareExchange_cases h with ⟨rfl,rfl,rfl⟩ | ⟨rfl,rfl⟩
    · refine ⟨.live,.finished,hwon,rfl,?_,by simp⟩
      simp only [Status.jobs]
      omega
    · exact ⟨.working,.same,hlost,rfl,rfl,by simp⟩
  | exit hk =>
    cases h
    refine ⟨.gone,.exited,hk,?_,rfl,by simp⟩
    simp only [Status.tracked] at hcount ⊢
    omega

end Answers

section States

variable (config : Settings) (n : ℕ)

def after (actions : List Action) : State := (process config n).after (starting config n) actions

variable {config n} {w : State}

/-- The states of the tasks agree with what is left of them and with the counters. -/
structure Accounted (w : State) (status : ProcessTask → Status) (todo : List ProcessTask)
    (waited : Bool) : Prop where
  leads : Leads (fun _ _ => True) todo waited (w.pool .main).rest
  runs : ∀ t, status t ≠ .unborn → Runs t (fun _ => .gone) (status t) (w.pool t).rest
  asleep : ∀ t, t ≠ .main → status t = .unborn → (w.pool t).rest = .ret ()
  main : status .main = .unborn
  pending : ∀ t, t ∈ todo ↔ t ≠ .main ∧ status t = .unborn
  distinct : todo.Nodup
  count : w.shared.tasksCount =
    (status .grpc).tracked + (status .dispatcher).tracked + (status .connect).tracked
  jobs : ∀ t, t ≠ .dispatcher → (status t).jobs = 0
  inFlight : w.shared.inFlight = (status .dispatcher).jobs
  empty : waited = true → todo = [] ∧ w.shared.tasksCount = 0
  clean : ⟨.finished .clean,()⟩ ∈ (w.pool .main).past → waited = true

theorem starting_accounted :
    Accounted (starting config n) (fun _ => .unborn) [.grpc,.dispatcher,.connect] false where
  leads := main_leads config n
  runs t ht := absurd rfl ht
  asleep t ht _ := by cases t <;> first | exact absurd rfl ht | rfl
  main := rfl
  pending t := by cases t <;> simp
  distinct := by decide
  count := rfl
  jobs t _ := rfl
  inFlight := rfl
  empty := by simp
  clean h := by simp [starting] at h

variable {status : ProcessTask → Status} {todo : List ProcessTask} {waited waited' : Bool}
  {task : ProcessTask} {o : ProcessOp} {k : ProcessAns o → Prog ProcessAns Unit} {c : Bool}
  {q : AppContext} {x : ProcessAns o}

theorem Accounted.main_moved (hw : Accounted w status todo waited) {rest : Prog ProcessAns Unit}
    {call : Call ProcessAns} (hleads : Leads (fun _ _ => True) todo waited' rest)
    (hinFlight : q.inFlight = w.shared.inFlight) (hcount : q.tasksCount = w.shared.tasksCount)
    (hwaited : waited' = true → todo = [] ∧ w.shared.tasksCount = 0)
    (hkeep : waited = true → waited' = true) (hclean : call = ⟨.finished .clean,()⟩ → waited' = true) :
    Accounted ⟨Function.update w.pool .main ⟨rest,call::(w.pool .main).past⟩,q⟩ status todo waited' where
  leads := by simpa using hleads
  runs t ht := by
    have hne : t ≠ .main := by
      rintro rfl
      exact ht hw.main
    simpa [hne] using hw.runs t ht
  asleep t hne ht := by simpa [hne] using hw.asleep t hne ht
  main := hw.main
  pending := hw.pending
  distinct := hw.distinct
  count := hcount.trans hw.count
  jobs := hw.jobs
  inFlight := hinFlight.trans hw.inFlight
  empty h := by
    rw [hcount]
    exact hwaited h
  clean h := by
    simp only [Function.update_self,List.mem_cons] at h
    rcases h with h | h
    · exact hclean h.symm
    · exact hkeep (hw.clean h)

theorem Accounted.spawned (hw : Accounted w status (task::todo) false) {k : Unit → Prog ProcessAns Unit}
    (hleads : Leads (fun _ _ => True) todo false (k ())) :
    Accounted ⟨(process config n).answered w.pool .main (.spawn task) () (k ()),
      { w.shared with tasksCount := w.shared.tasksCount + 1 }⟩
      (Function.update status task .live) todo false := by
  obtain ⟨hne,hunborn⟩ := (hw.pending task).mp (by simp)
  obtain ⟨hfirst,hdistinct⟩ := List.nodup_cons.mp hw.distinct
  have hpool : (process config n).answered w.pool .main (.spawn task) () (k ()) =
      Function.update (Function.update w.pool .main ⟨k (),⟨.spawn task,()⟩::(w.pool .main).past⟩) task
        ⟨future config n task,[]⟩ := rfl
  rw [hpool]
  refine ⟨by simpa [hne.symm] using hleads,fun t ht => ?_,fun t hmain ht => ?_,
    by simpa [hne.symm] using hw.main,fun t => ?_,hdistinct,?_,fun t ht => ?_,?_,by simp,?_⟩
  · by_cases htask : t = task
    · subst htask
      simpa using future_runs config n hne
    · have hmain : t ≠ .main := by
        rintro rfl
        exact ht (by simpa [htask] using hw.main)
      simpa [htask,hmain] using hw.runs t (by simpa [htask] using ht)
  · have htask : t ≠ task := by
      rintro rfl
      simp at ht
    simpa [htask,hmain] using hw.asleep t hmain (by simpa [htask] using ht)
  · by_cases htask : t = task
    · subst htask
      simpa using hfirst
    · simpa [htask] using hw.pending t
  · have hcount := hw.count
    cases task with
    | main => exact absurd rfl hne
    | grpc | dispatcher | connect =>
      simp only [hunborn,Status.tracked] at hcount
      simp [Status.tracked]
      omega
  · by_cases htask : t = task
    · subst htask
      simp [Status.jobs]
    · simpa [htask] using hw.jobs t ht
  · by_cases htask : ProcessTask.dispatcher = task
    · subst htask
      simpa [hunborn,Status.jobs] using hw.inFlight
    · simpa [htask] using hw.inFlight
  · intro h
    simp only [Function.update_of_ne hne.symm,Function.update_self,List.mem_cons] at h
    rcases h with h | h
    · cases h
    · exact hw.clean h

theorem Turns.jobs_eq {before after : Status} (h : Turns task before after) (ht : task ≠ .dispatcher)
    (hjobs : before.jobs = 0) : after.jobs = 0 := by
  cases h with
  | same => exact hjobs
  | started hd => exact absurd hd ht
  | finished => rfl
  | exited => rfl

theorem Turns.born {before after : Status} (h : Turns task before after) (hborn : before ≠ .unborn) :
    after ≠ .unborn := by
  cases h with
  | same => exact hborn
  | _ => simp

theorem Accounted.task_moved (hw : Accounted w status todo waited) (ht : task ≠ .main)
    {status' : Status} (hturns : Turns task (status task) status') {rest : Prog ProcessAns Unit}
    {call : Call ProcessAns} (hruns : Runs task (fun _ => .gone) status' rest)
    (hborn : status task ≠ .unborn)
    (hcount : q.tasksCount + (status task).tracked = w.shared.tasksCount + status'.tracked)
    (hinFlight : q.inFlight + (status task).jobs = w.shared.inFlight + status'.jobs) :
    Accounted ⟨Function.update w.pool task ⟨rest,call::(w.pool task).past⟩,q⟩
      (Function.update status task status') todo waited := by
  have hborn' := hturns.born hborn
  refine ⟨by simpa [ht.symm] using hw.leads,fun t hother => ?_,fun t hmain hother => ?_,
    by simpa [ht.symm] using hw.main,fun t => ?_,hw.distinct,?_,fun t hd => ?_,?_,fun h => ?_,?_⟩
  · by_cases htask : t = task
    · subst htask
      simpa using hruns
    · simpa [htask] using hw.runs t (by simpa [htask] using hother)
  · have htask : t ≠ task := by
      rintro rfl
      exact hborn' (by simpa using hother)
    simpa [htask] using hw.asleep t hmain (by simpa [htask] using hother)
  · by_cases htask : t = task
    · subst htask
      simp [hw.pending,hborn,hborn']
    · simpa [htask] using hw.pending t
  · have htotal := hw.count
    cases task with
    | main => exact absurd rfl ht
    | grpc | dispatcher | connect =>
      simp
      omega
  · by_cases htask : t = task
    · subst htask
      simpa using hturns.jobs_eq hd (hw.jobs t hd)
    · simpa [htask] using hw.jobs t hd
  · have htotal := hw.inFlight
    by_cases htask : ProcessTask.dispatcher = task
    · subst htask
      simp
      omega
    · have hbefore := hw.jobs task (Ne.symm htask)
      have hafter := hturns.jobs_eq (Ne.symm htask) hbefore
      simp [htask]
      omega
  · obtain ⟨htodo,hzero⟩ := hw.empty h
    have htracked : (status task).tracked = 0 := by
      have htotal := hw.count
      cases task with
      | main => exact absurd rfl ht
      | grpc | dispatcher | connect => omega
    have hstay : status'.tracked = 0 := by
      generalize status task = before at hturns htracked
      cases hturns with
      | same => exact htracked
      | exited => rfl
      | _ => simp [Status.tracked] at htracked
    exact ⟨htodo,by simp only; omega⟩
  · intro h
    exact hw.clean (by simpa [ht.symm] using h)

theorem Accounted.outside (hw : Accounted w status todo waited) (e : ProcessEvent) :
    Accounted { w with shared := processEvent e w.shared } status todo waited := by
  have hsame : (processEvent e w.shared).inFlight = w.shared.inFlight ∧
      (processEvent e w.shared).tasksCount = w.shared.tasksCount := by
    cases e with
    | release => by_cases hr : w.shared.releases = 0 <;> simp [processEvent,hr]
    | _ => exact ⟨rfl,rfl⟩
  exact ⟨hw.leads,hw.runs,hw.asleep,hw.main,hw.pending,hw.distinct,hsame.2.trans hw.count,hw.jobs,
    hsame.1.trans hw.inFlight,fun h => by simpa [hsame.2] using hw.empty h,hw.clean⟩

theorem Accounted.tracked_le (hw : Accounted w status todo waited) (ht : task ≠ .main) :
    (status task).tracked ≤ w.shared.tasksCount := by
  have htotal := hw.count
  cases task with
  | main => exact absurd rfl ht
  | grpc | dispatcher | connect => omega

/-- Once the tracker was seen empty, every task is done. -/
theorem Accounted.gone (hw : Accounted w status todo true) (ht : task ≠ .main) :
    status task = .gone := by
  obtain ⟨rfl,hzero⟩ := hw.empty rfl
  have htracked := hw.tracked_le ht
  have hborn : status task ≠ .unborn := fun h => by simpa using (hw.pending task).mpr ⟨ht,h⟩
  cases hstatus : status task with
  | gone => rfl
  | unborn => exact absurd hstatus hborn
  | _ =>
    simp only [hstatus,Status.tracked] at htracked
    omega

def NoJobs (w w' : State) : Prop := ∀ t, started (w'.pool t).past = started (w.pool t).past

theorem noJobs_update {rest : Prog ProcessAns Unit} {call : Call ProcessAns} {t : ProcessTask}
    (h : started (call::(w.pool t).past) = started (w.pool t).past) :
    NoJobs w ⟨Function.update w.pool t ⟨rest,call::(w.pool t).past⟩,q⟩ := by
  intro t'
  by_cases ht : t' = t
  · subst ht
    simpa using h
  · simp [ht]

theorem Accounted.main_answered (hw : Accounted w status todo waited)
    (hrest : (w.pool .main).rest = .call o k) (h : processHandler o c w.shared = some (x,q)) :
    ∃ status' todo' waited', Accounted ⟨(process config n).answered w.pool .main o x (k x),q⟩
        status' todo' waited' ∧ (waited = true → waited' = true ∧
          NoJobs w ⟨(process config n).answered w.pool .main o x (k x),q⟩) := by
  have hleads := hrest ▸ hw.leads
  cases hleads with
  | calm ho hk =>
    obtain ⟨hinFlight,hcount⟩ := calm_eq ho h
    rw [Threads.answered_none (calm_spawns ho)]
    refine ⟨status,todo,waited,hw.main_moved (hk x) hinFlight hcount hw.empty id fun hcall => ?_,
      fun hwaited => ⟨hwaited,noJobs_update (calm_started ho _)⟩⟩
    cases hcall
    exact ho.elim
  | spawn hk =>
    cases h
    exact ⟨_,_,_,hw.spawned hk,by simp⟩
  | wait hempty hlate =>
    rw [Threads.answered_none rfl]
    obtain ⟨rfl,⟨rfl,hready⟩ | ⟨rfl,-,-⟩⟩ := await_cases h
    · have hzero : w.shared.tasksClosed = true ∧ w.shared.tasksCount = 0 := by
        simpa [AppContext.ready] using hready
      exact ⟨status,_,true,hw.main_moved hempty rfl rfl (fun _ => ⟨rfl,hzero.2⟩) (fun _ => rfl)
        (fun _ => rfl),fun _ => ⟨rfl,noJobs_update rfl⟩⟩
    · exact ⟨status,_,waited,hw.main_moved hlate rfl rfl hw.empty id (by simp),
        fun hwaited => ⟨hwaited,noJobs_update rfl⟩⟩
  | finish hclean hk =>
    cases h
    rw [Threads.answered_none rfl]
    refine ⟨status,_,waited,hw.main_moved hk rfl rfl hw.empty id fun hcall => ?_,
      fun hwaited => ⟨hwaited,noJobs_update rfl⟩⟩
    cases hcall
    exact hclean rfl

theorem Accounted.task_answered (hw : Accounted w status todo waited) (config : Settings) (n : ℕ) (ht : task ≠ .main)
    (hrest : (w.pool task).rest = .call o k) (h : processHandler o c w.shared = some (x,q)) :
    ∃ status', Accounted ⟨(process config n).answered w.pool task o x (k x),q⟩ status' todo waited ∧
      (waited = true → NoJobs w ⟨(process config n).answered w.pool task o x (k x),q⟩) := by
  have hborn : status task ≠ .unborn := by
    intro hunborn
    simp [hw.asleep task ht hunborn] at hrest
  have hruns := hrest ▸ hw.runs task hborn
  obtain ⟨status',hturns,hruns',hcount,hinFlight,hstarted⟩ := hruns.answered h
    (fun hd => by rw [hw.inFlight,hd]) (hw.tracked_le ht) (w.pool task).past
  rw [Threads.answered_none hruns.spawns]
  refine ⟨_,hw.task_moved ht hturns hruns' hborn hcount hinFlight,?_⟩
  rintro rfl
  exact noJobs_update (hstarted (hw.gone ht))

/-- A step keeps the account, and once the tracker was seen empty it starts no job. -/
theorem step_accounted (config : Settings) (n : ℕ) (hw : Accounted w status todo waited) (a : Action) :
    ∃ status' todo' waited', Accounted ((process config n).step w a) status' todo' waited' ∧
      (waited = true → waited' = true ∧ NoJobs w ((process config n).step w a)) := by
  rcases (process config n).step_cases w a with hstep | ⟨e,hstep⟩ | ⟨i,c,o,k,x,q,hrest,hh,hstep⟩
  · rw [hstep]
    exact ⟨status,todo,waited,hw,fun h => ⟨h,fun _ => rfl⟩⟩
  · rw [hstep]
    exact ⟨status,todo,waited,hw.outside e,fun h => ⟨h,fun _ => rfl⟩⟩
  · rw [hstep]
    by_cases hi : i = .main
    · subst hi
      exact hw.main_answered hrest hh
    · obtain ⟨status',hw',hjobs⟩ := hw.task_answered config n hi hrest hh
      exact ⟨status',todo,waited,hw',fun h => ⟨h,hjobs h⟩⟩

theorem run_accounted (config : Settings) (n : ℕ) (hw : Accounted w status todo waited) (actions : List Action) :
    ∃ status' todo' waited', Accounted ((process config n).after w actions) status' todo' waited' ∧
      (waited = true → waited' = true ∧ NoJobs w ((process config n).after w actions)) := by
  induction actions generalizing w status todo waited with
  | nil => exact ⟨status,todo,waited,hw,fun h => ⟨h,fun _ => rfl⟩⟩
  | cons a actions ih =>
    obtain ⟨status',todo',waited',hw',hjobs⟩ := step_accounted config n hw a
    obtain ⟨status'',todo'',waited'',hw'',hjobs'⟩ := ih hw'
    refine ⟨status'',todo'',waited'',hw'',fun h => ?_⟩
    obtain ⟨hwaited,hfirst⟩ := hjobs h
    obtain ⟨hwaited',hrest⟩ := hjobs' hwaited
    exact ⟨hwaited',fun t => (hrest t).trans (hfirst t)⟩

/-- `shutdown` has returned `ShutdownResult::Clean` to `main`. -/
def ReturnedClean (w : State) : Prop :=
  (∃ k, (w.pool .main).rest = .call (.finished .clean) k) ∨
    ⟨.finished .clean,()⟩ ∈ (w.pool .main).past

theorem Accounted.waited_of_clean (hw : Accounted w status todo waited) (h : ReturnedClean w) :
    waited = true := by
  rcases h with ⟨k,hrest⟩ | hpast
  · have hleads := hrest ▸ hw.leads
    cases hleads with
    | calm ho hk => exact ho.elim
    | finish hclean hk => exact hclean rfl
  · exact hw.clean hpast

end States

/-- In every run of the process, once `shutdown` has returned `Clean`, no job is in flight
and none is started any more. -/
theorem clean_leaves_no_job (config : Settings) (n : ℕ) (actions : List Action)
    (h : ReturnedClean (after config n actions)) :
    (after config n actions).shared.inFlight = 0 ∧ ∀ more : List Action,
      (after config n (actions ++ more)).shared.inFlight = 0 ∧
        NoJobs (after config n actions) (after config n (actions ++ more)) := by
  have hsplit (more : List Action) : after config n (actions ++ more) =
      (process config n).after (after config n actions) more :=
    (process config n).after_append _ actions more
  obtain ⟨status,todo,waited,hw,-⟩ := run_accounted config n starting_accounted actions
  obtain rfl := hw.waited_of_clean h
  have hall (more : List Action) : (after config n (actions ++ more)).shared.inFlight = 0 ∧
      NoJobs (after config n actions) (after config n (actions ++ more)) := by
    obtain ⟨status',todo',waited',hw',hjobs⟩ := run_accounted config n hw more
    obtain ⟨rfl,hnone⟩ := hjobs rfl
    rw [hsplit]
    refine ⟨hw'.inFlight.trans ?_,hnone⟩
    rw [hw'.gone (by simp)]
    rfl
  refine ⟨?_,hall⟩
  have hnow := (hall []).1
  rwa [List.append_nil] at hnow

def sample : Settings := ⟨true,1,Duration.fromSecs 1⟩

def steps (task : ProcessTask) (count : ℕ) : List Action := List.replicate count (.run task false)

def draining : List Action :=
  steps .main 5 ++ steps .grpc 2 ++ steps .dispatcher 1 ++
    [.env (.tick (Duration.fromMillis 500))] ++ steps .dispatcher 5 ++ steps .main 14 ++
    steps .dispatcher 1 ++ [.env (.tick (Duration.fromMillis 150))] ++ steps .dispatcher 8 ++
    steps .connect 2 ++ steps .grpc 4 ++ steps .main 15 ++
    [.env (.tick (Duration.fromMillis 20))] ++ steps .main 3

set_option maxRecDepth 2000 in
theorem draining_leaves_no_job :
    started ((after sample 3 draining).pool .dispatcher).past = 1 ∧
      (after sample 3 draining).shared.inFlight = 0 :=
  ⟨by decide,(clean_leaves_no_job sample 3 draining (.inl ⟨_,rfl⟩)).1⟩

end CleanShutdown
end KvmAgent
