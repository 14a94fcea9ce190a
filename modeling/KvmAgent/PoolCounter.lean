import KvmAgent.Admission

/-! The counter of the worker pool, over any number of threads that start and finish jobs
and may be interrupted between any two of their atomic steps. -/
namespace KvmAgent
namespace PoolCounter

open Lifecycle Admission

variable {W : Type}

/-- A `compare_exchange` as `try_start_job` makes it. -/
def Raise (pool : WorkerPool) (current new : ℕ) : Prop :=
  new = current + 1 ∧ current < pool.maxWorkers

/-- A `compare_exchange` as `finish_job` makes it. -/
def Lower (current new : ℕ) : Prop := 0 < current ∧ new = current - 1

def Only (kind : ℕ → ℕ → Prop) : ProcessOp → Prop
  | .compareExchange current new => kind current new
  | _ => True

def Steady (pool : WorkerPool) : ProcessOp → Prop :=
  Only fun current new => Raise pool current new ∨ Lower current new

/-- One if the operation is a `compare_exchange` that succeeds and raises the counter. -/
def raises (p : AppContext) : ProcessOp → ℕ
  | .compareExchange current new => if p.inFlight = current ∧ current < new then 1 else 0
  | _ => 0

def lowers (p : AppContext) : ProcessOp → ℕ
  | .compareExchange current new => if p.inFlight = current ∧ new < current then 1 else 0
  | _ => 0

def inStep (counts : AppContext → ProcessOp → ℕ) (w : State W) : Action W → ℕ
  | .env _ => 0
  | .run i _ =>
    match (w.pool i).rest with
    | .ret _ => 0
    | .call o _ => counts w.shared o

section Definitions

variable [DecidableEq W]

def inRun (counts : AppContext → ProcessOp → ℕ) : State W → List (Action W) → ℕ
  | _, [] => 0
  | w, a::as => inStep counts w a + inRun counts (threads.step w a) as

variable (workerMax : USize) (workers : W → Calls) (timeout : Duration) (n : ℕ)

def pool : WorkerPool := .new workerMax.toNat

/-- The exchanges of `try_start_job` raise the counter and those of `finish_job` lower it. After a
run it is within its limit and what was raised less what was lowered, and no exchange that a
thread is about to try leaves `usize`. -/
structure Exact (actions : List (Action W)) : Prop where
  raising : ∀ n, ((pool workerMax).tryStartJob n).Uses (Only (Raise (pool workerMax)))
  lowering : ∀ n, (WorkerPool.finishJob n).Uses (Only Lower)
  bounded : (after (pool workerMax) workers timeout n actions).shared.inFlight ≤
    max workerMax.toNat 1
  counted : (after (pool workerMax) workers timeout n actions).shared.inFlight +
    inRun lowers (starting (pool workerMax) workers timeout n) actions =
      inRun raises (starting (pool workerMax) workers timeout n) actions
  representable : ∀ thread current new k,
    ((after (pool workerMax) workers timeout n actions).pool thread).rest =
      .call (.compareExchange current new) k →
    (new = current + 1 ∧ new < USize.size) ∨ (0 < current ∧ new = current - 1)

end Definitions

section Programs

variable {pool : WorkerPool}

theorem tryStartJob_raises (n : ℕ) : (pool.tryStartJob n).Uses (Only (Raise pool)) := by
  refine .call trivial fun (accepting : Bool) => ?_
  cases accepting with
  | false => exact .ret _
  | true =>
    refine uses_loop trivial (fun _ => .call trivial fun (current : ℕ) => ?_) n ()
    change Prog.Uses _ (if pool.maxWorkers ≤ current then _ else _)
    by_cases hfull : pool.maxWorkers ≤ current
    · rw [if_pos hfull]
      exact .ret _
    · rw [if_neg hfull]
      have hraise : Raise pool current (current+1) := ⟨rfl,Nat.lt_of_not_le hfull⟩
      refine .call hraise fun (won : Bool) => ?_
      cases won <;> exact .ret _

theorem finishJob_lowers (n : ℕ) : (WorkerPool.finishJob n).Uses (Only Lower) := by
  refine uses_loop trivial (fun _ => .call trivial fun (current : ℕ) => ?_) n ()
  change Prog.Uses _ (if current = 0 then _ else _)
  by_cases hzero : current = 0
  · rw [if_pos hzero]
    exact .call trivial fun _ => .ret _
  · rw [if_neg hzero]
    have hlower : Lower current (current-1) := ⟨Nat.pos_of_ne_zero hzero,rfl⟩
    refine .call hlower fun (won : Bool) => ?_
    cases won with
    | false => exact .ret _
    | true =>
      by_cases hlast : current ≤ 1
      · simp only [if_pos hlast]
        exact .call trivial fun _ => .ret _
      · simp only [if_neg hlast]
        exact .ret _

theorem only_steady {kind : ℕ → ℕ → Prop} {α : Type} {p : Prog ProcessAns α} (hp : p.Uses (Only kind))
    (hkind : ∀ current new, kind current new → Raise pool current new ∨ Lower current new) :
    p.Uses (Steady pool) :=
  hp.mono fun o ho => by
    cases o with
    | compareExchange current new => exact hkind current new ho
    | _ => trivial

theorem prog_steady (calls : Calls) : (calls.prog pool).Uses (Steady pool) := by
  induction calls with
  | done => exact .ret _
  | tryStartJob n next ih =>
    exact Prog.uses_bind (only_steady (tryStartJob_raises n) fun _ _ h => .inl h) fun started =>
      ih started
  | finishJob n next ih =>
    exact Prog.uses_bind (only_steady (finishJob_lowers n) fun _ _ h => .inr h) fun _ => ih

theorem closing_steady (timeout : Duration) (n : ℕ) : (closing timeout n).Uses (Steady pool) := by
  refine .call trivial fun _ => .call trivial fun (now : ℕ) => ?_
  refine uses_loop trivial (fun _ => .call trivial fun (current : ℕ) => ?_) n ()
  change Prog.Uses _ (if current = 0 then _ else _)
  by_cases hidle : current = 0
  · rw [if_pos hidle]
    exact .ret _
  · rw [if_neg hidle]
    refine .call trivial fun _ => .call trivial fun _ => .call trivial fun (woken : Bool) => ?_
    cases woken <;> exact .ret _

end Programs

section Runs

variable {pool : WorkerPool}

def Tame (pool : WorkerPool) (w : State W) : Prop := ∀ i, (w.pool i).rest.Uses (Steady pool)

theorem handler_counts {o : ProcessOp} {choice : Bool} {p q : AppContext} {x : ProcessAns o}
    (ho : Steady pool o) (h : processHandler o choice p = some (x,q)) :
    q.inFlight + lowers p o = p.inFlight + raises p o ∧
      (p.inFlight ≤ pool.maxWorkers → q.inFlight ≤ pool.maxWorkers) := by
  by_cases hexchange : ∃ current new, o = .compareExchange current new
  · obtain ⟨current,new,rfl⟩ := hexchange
    rcases compareExchange_cases h with ⟨-,hcurrent,rfl⟩ | ⟨hlost,rfl⟩
    · rcases ho with ⟨rfl,hroom⟩ | ⟨hpos,rfl⟩
      · simp only [lowers,raises,hcurrent]
        simp
        omega
      · have hless : ¬current < current - 1 := by omega
        have hmore : current - 1 < current := by omega
        simp only [lowers,raises,hcurrent,hless,hmore]
        simp
        omega
    · have hne : q.inFlight ≠ current := by
        intro hsame
        simp only [processHandler,if_pos hsame] at h
        obtain ⟨hwon,-⟩ := Prod.mk.inj (Option.some.inj h)
        have hboth : true = false := hwon.trans hlost
        cases hboth
      simp [lowers,raises,hne]
  · have hnone : lowers p o = 0 ∧ raises p o = 0 := by
      cases o <;> simp_all [lowers,raises]
    rcases (handler_pool h).1 with hsame | ⟨current,-,ho⟩
    · rw [hnone.1,hnone.2,hsame]
      exact ⟨rfl,id⟩
    · exact absurd ⟨_,_,ho⟩ hexchange

theorem waits_counts {o : ProcessOp} {choice : Bool} {p : AppContext}
    (h : processHandler o choice p = none) : lowers p o = 0 ∧ raises p o = 0 := by
  cases o with
  | compareExchange current new =>
    simp only [processHandler] at h
    split at h <;> cases h
  | _ => exact ⟨rfl,rfl⟩

theorem starting_tame (workers : W → Calls) (timeout : Duration) (n : ℕ) :
    Tame pool (starting pool workers timeout n) := by
  intro thread
  cases thread with
  | none => exact closing_steady timeout n
  | some i => exact prog_steady (workers i)

variable [DecidableEq W]

theorem tame_answered {w : State W} (hw : Tame pool w) {i : Option W} {o : ProcessOp}
    {k : ProcessAns o → Prog ProcessAns Unit} (hrest : (w.pool i).rest = .call o k)
    (x : ProcessAns o) (p : AppContext) :
    Tame pool ⟨threads.answered w.pool i o x (k x),p⟩ := by
  intro j
  rw [Threads.answered_none rfl]
  by_cases hj : j = i
  · subst hj
    have hthread := hw j
    rw [hrest] at hthread
    cases hthread with
    | call _ hk => simpa using hk x
  · simpa [hj] using hw j

theorem step_counts {w : State W} (hw : Tame pool w) (a : Action W) :
    Tame pool (threads.step w a) ∧
      (threads.step w a).shared.inFlight + inStep lowers w a =
        w.shared.inFlight + inStep raises w a ∧
      (w.shared.inFlight ≤ pool.maxWorkers →
        (threads.step w a).shared.inFlight ≤ pool.maxWorkers) := by
  cases a with
  | env e =>
    have hsame := (event_pool e w.shared).1
    simp only [Threads.step,inStep]
    exact ⟨hw,by simp [threads,hsame],fun h => hsame ▸ h⟩
  | run i c =>
    have hthread := hw i
    simp only [Threads.step,inStep]
    cases hrest : (w.pool i).rest with
    | ret _ => exact ⟨hw,rfl,id⟩
    | call o k =>
      rw [hrest] at hthread
      cases hthread with
      | call ho _ =>
        cases hh : processHandler o c w.shared with
        | none =>
          have hnone := waits_counts hh
          have hstep : threads.handler i o c w.shared = none := hh
          simp only [hstep,hnone.1,hnone.2]
          exact ⟨hw,trivial,id⟩
        | some answer =>
          obtain ⟨x,q⟩ := answer
          have hstep : threads.handler i o c w.shared = some (x,q) := hh
          simp only [hstep]
          exact ⟨tame_answered hw hrest x q,handler_counts ho hh⟩

/-- Over a run the counter changes by what was raised and lowered. -/
theorem run_counts {w : State W} (hw : Tame pool w) (hmax : w.shared.inFlight ≤ pool.maxWorkers)
    (actions : List (Action W)) :
    Tame pool (threads.after w actions) ∧
      (threads.after w actions).shared.inFlight ≤ pool.maxWorkers ∧
      (threads.after w actions).shared.inFlight + inRun lowers w actions =
        w.shared.inFlight + inRun raises w actions := by
  induction actions generalizing w with
  | nil => exact ⟨hw,hmax,rfl⟩
  | cons a as ih =>
    obtain ⟨hnext,hcounts,hbound⟩ := step_counts hw a
    obtain ⟨htame,hle,hrun⟩ := ih hnext (hbound hmax)
    refine ⟨htame,hle,?_⟩
    have hafter : threads.after w (a::as) = threads.after (threads.step w a) as := rfl
    rw [hafter,inRun,inRun]
    omega

end Runs

/-- For every limit, every number of threads and every interleaving, whether or not each job
that is finished had been started, the counter is exact. -/
theorem counter_exact (workerMax : USize) {W : Type} [DecidableEq W] (workers : W → Calls)
    (timeout : Duration) (n : ℕ) (actions : List (Action W)) :
    Exact workerMax workers timeout n actions := by
  have hsize : max workerMax.toNat 1 < USize.size := by
    have hlt := workerMax.toNat_lt_size
    have hone : 1 < USize.size := by
      rcases USize.size_eq with h | h <;> rw [h] <;> decide
    omega
  have hstart : Tame (pool workerMax) (starting (pool workerMax) workers timeout n) :=
    starting_tame workers timeout n
  obtain ⟨htame,hbounded,hcounted⟩ := run_counts hstart (Nat.zero_le _) actions
  refine ⟨tryStartJob_raises,finishJob_lowers,hbounded,?_,?_⟩
  · have hzero : (starting (pool workerMax) workers timeout n).shared.inFlight = 0 := rfl
    rw [hzero,Nat.zero_add] at hcounted
    exact hcounted
  · intro thread current new k hrest
    have hthread := htame thread
    unfold after at hrest
    rw [hrest] at hthread
    cases hthread with
    | call ho _ =>
      rcases ho with ⟨hnew,hroom⟩ | hlower
      · have hmax : (pool workerMax).maxWorkers = max workerMax.toNat 1 := rfl
        exact .inl ⟨hnew,by omega⟩
      · exact .inr hlower

end PoolCounter
end KvmAgent
