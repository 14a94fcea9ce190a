import KvmAgent.Lifecycle
import KvmAgent.Milestones
import Mathlib.Data.List.Infix

/-! The state of the process over its whole life: what it says of the flags that let work in
and of the tracker, and that none of it is ever taken back. -/
namespace KvmAgent
namespace AppPhases

open Lifecycle

/-- What `main` does that the others can see, in order. -/
def milestones : List ProcessOp :=
  [.setState .running,.setState .shuttingDown,.store .serving false,.store .accepting false,
    .store .polling false,.store .cancelled true,.closeTasks,.setState .stopped]

def Unseen : ProcessOp → Prop
  | .setState _ | .store .. | .closeTasks | .spawn .main => False
  | _ => True

/-- What `main` calls between milestones; it stops the server from accepting once more when
it closes the transports. -/
def Between (todo : List ProcessOp) (o : ProcessOp) : Prop :=
  Unseen o ∨ o = .store .serving false ∧ ProcessOp.store .serving false ∉ todo

def Bystands : ProcessOp → Prop
  | .setState _ | .closeTasks | .spawn _ => False
  | .store .polling value => value = false
  | .store .running _ => True
  | .store .. => False
  | _ => True

def stateOf (todo : List ProcessOp) : AppState :=
  if .setState .running ∈ todo then .starting
  else if .setState .shuttingDown ∈ todo then .running
  else if .setState .stopped ∈ todo then .shuttingDown
  else .stopped

def rank : AppState → ℕ
  | .starting => 0
  | .running => 1
  | .shuttingDown => 2
  | .stopped => 3

/-- What a state tells of the flags and the tracker: before the shutdown work is let in, then it
is shut out step by step, and once the process has stopped all of it is. Whether the work that
was let in is done is not said. -/
structure Truthful (p : AppContext) : Prop where
  working : rank p.state < rank .shuttingDown →
    p.flags .serving = true ∧ p.flags .accepting = true ∧ p.tasksClosed = false
  ordered : (p.flags .accepting = false → p.flags .serving = false) ∧
    (p.tasksClosed = true → p.flags .accepting = false ∧ p.flags .polling = false ∧
      p.flags .cancelled = true)
  stopped : p.state = .stopped →
    p.flags .serving = false ∧ p.flags .accepting = false ∧ p.flags .polling = false ∧
      p.flags .cancelled = true ∧ p.tasksClosed = true

structure Onward (p q : AppContext) : Prop where
  state : rank p.state ≤ rank q.state
  serving : q.flags .serving = true → p.flags .serving = true
  accepting : q.flags .accepting = true → p.flags .accepting = true
  polling : q.flags .polling = true → p.flags .polling = true
  cancelled : p.flags .cancelled = true → q.flags .cancelled = true
  closed : p.tasksClosed = true → q.tasksClosed = true

structure Shows (todo : List ProcessOp) (p : AppContext) : Prop where
  state : p.state = stateOf todo
  serving : p.flags .serving = decide (ProcessOp.store .serving false ∈ todo)
  accepting : p.flags .accepting = decide (ProcessOp.store .accepting false ∈ todo)
  closed : p.tasksClosed = decide (ProcessOp.closeTasks ∉ todo)
  polling : ProcessOp.store .polling false ∉ todo → p.flags .polling = false
  cancelled : ProcessOp.store .cancelled true ∉ todo → p.flags .cancelled = true

section Programs

variable {config : Settings} {n : ℕ}

theorem waitIdle_unseen (deadline : ℕ) : (WorkerPool.waitIdle deadline ()).Uses Unseen := by
  refine .call trivial fun (current : ℕ) => ?_
  change Prog.Uses _ (if current = 0 then _ else _)
  by_cases hidle : current = 0
  · rw [if_pos hidle]
    exact .ret _
  · rw [if_neg hidle]
    refine .call trivial fun _ => .call trivial fun _ => .call trivial fun woken => ?_
    cases woken <;> exact .ret _

theorem drain_unseen (timeout : Duration) (n : ℕ) : (WorkerPool.drain timeout n).Uses Unseen :=
  .call trivial fun (now : ℕ) => uses_loop trivial (fun _ => waitIdle_unseen (now + timeout)) n ()

theorem waitRunning_unseen (deadline : ℕ) : (GrpcServer.waitRunning deadline ()).Uses Unseen := by
  refine .call trivial fun running => ?_
  cases running with
  | false => exact .ret _
  | true =>
    refine .call trivial fun _ => .call trivial fun woken => ?_
    cases woken <;> exact .ret _

theorem drainTasks_marches (timeout : Duration) (n : ℕ) {todo : List ProcessOp} :
    Marches Between todo (.closeTasks::todo) (drainTasks timeout n) := by
  refine .call (.inl trivial) fun (started : ℕ) => .milestone fun _ => ?_
  refine (Marches.of_uses ((drain_unseen timeout n).mono fun _ ho => .inl ho)).bind fun _ => ?_
  refine .call (.inl trivial) fun (now : ℕ) => ?_
  change Marches _ _ _ (if timeout - (now - started) = 0 then _ else _)
  by_cases hover : timeout - (now - started) = 0
  · rw [if_pos hover]
    exact .ret _
  · rw [if_neg hover]
    exact .call (.inl trivial) fun _ => .call (.inl trivial) fun _ => .ret _

theorem closeTransports_marches (timeout : Duration) (n : ℕ) {todo : List ProcessOp}
    (hserving : ProcessOp.store .serving false ∉ todo) :
    Marches Between todo todo (closeTransports timeout n) := by
  refine .of_uses ?_
  unfold closeTransports
  by_cases hover : timeout = 0
  · simp only [if_pos hover]
    exact .ret _
  · simp only [if_neg hover]
    have hshutdown : (GrpcServer.shutdown timeout n).Uses (Between todo) :=
      .call (.inr ⟨rfl,hserving⟩) fun _ => .call (.inl trivial) fun _ =>
        .call (.inl trivial) fun (now : ℕ) => uses_loop (.inl trivial)
          (fun _ => (waitRunning_unseen (now + timeout)).mono fun _ ho => .inl ho) n ()
    exact Prog.uses_bind hshutdown fun _ => .call (.inl trivial) fun _ => .ret _

theorem closeDependencies_unseen (timeout : Duration) : (closeDependencies timeout).Uses Unseen :=
  .call trivial fun _ => .call trivial fun _ => .call trivial fun _ => .ret _

theorem shutdown_marches (timeout : Duration) (n : ℕ) :
    Marches Between [] (milestones.drop 1) (shutdown timeout n) := by
  refine .call (.inl trivial) fun (startedAt : ℕ) => .milestone fun _ => .milestone fun _ =>
    .call (.inl trivial) fun _ => .milestone fun _ => .milestone fun _ => .milestone fun _ =>
    .call (.inl trivial) fun (now : ℕ) => ?_
  refine (drainTasks_marches (timeout - (now - startedAt)) n).bind fun drained => ?_
  refine .call (.inl trivial) fun (now : ℕ) => ?_
  refine (closeTransports_marches (timeout - (now - startedAt)) n (by decide)).bind fun closed => ?_
  refine .call (.inl trivial) fun (now : ℕ) => ?_
  refine (Marches.of_uses ((closeDependencies_unseen (timeout - (now - startedAt))).mono
    fun _ ho => .inl ho)).bind fun _ => ?_
  exact .call (.inl trivial) fun _ => .milestone fun _ => .ret _

theorem main_marches (config : Settings) (n : ℕ) :
    Marches Between [] milestones (main config n) :=
  .milestone fun _ => .call (.inl trivial) fun _ => .call (.inl trivial) fun _ =>
    .call (.inl trivial) fun _ => .call (.inl trivial) fun _ =>
      (shutdown_marches config.shutdownTimeout n).bind fun _ => .call (.inl trivial) fun _ => .ret _

theorem tryStart_bystands (pool : WorkerPool) : (pool.tryStart ()).Uses Bystands := by
  refine .call trivial fun (current : ℕ) => ?_
  change Prog.Uses _ (if pool.maxWorkers ≤ current then _ else _)
  by_cases hfull : pool.maxWorkers ≤ current
  · rw [if_pos hfull]
    exact .ret _
  · rw [if_neg hfull]
    refine .call trivial fun won => ?_
    cases won <;> exact .ret _

theorem tryFinish_bystands : (WorkerPool.tryFinish ()).Uses Bystands := by
  refine .call trivial fun (current : ℕ) => ?_
  change Prog.Uses _ (if current = 0 then _ else _)
  by_cases hidle : current = 0
  · rw [if_pos hidle]
    exact .call trivial fun _ => .ret _
  · rw [if_neg hidle]
    refine .call trivial fun won => ?_
    cases won with
    | false => exact .ret _
    | true =>
      by_cases hlast : current ≤ 1
      · simp only [if_pos hlast]
        exact .call trivial fun _ => .ret _
      · simp only [if_neg hlast]
        exact .ret _

theorem poll_bystands (pool : WorkerPool) (n : ℕ) :
    (WorkerDispatcher.poll pool n ()).Uses Bystands := by
  refine .call trivial fun _ => .call trivial fun cancelled => ?_
  cases cancelled with
  | true => exact .call rfl fun _ => .ret _
  | false =>
    refine .call trivial fun polling => ?_
    cases polling with
    | false => exact .ret _
    | true =>
      have hstart : (pool.tryStartJob n).Uses Bystands := by
        refine .call trivial fun accepting => ?_
        cases accepting with
        | false => exact .ret _
        | true => exact uses_loop trivial (fun _ => tryStart_bystands pool) n ()
      refine Prog.uses_bind (p := pool.tryStartJob n) hstart fun started => ?_
      cases started with
      | false => exact .ret _
      | true =>
        exact .call trivial fun _ => .call trivial fun _ =>
          Prog.uses_bind (p := WorkerPool.finishJob n)
            (uses_loop trivial (fun _ => tryFinish_bystands) n ()) fun _ => .ret _

theorem future_bystands (config : Settings) (n : ℕ) (task : ProcessTask) :
    (future config n task).Uses Bystands := by
  cases task with
  | main => exact .ret _
  | grpc =>
    refine Prog.uses_bind ?_ fun _ => .call trivial fun _ => .ret _
    cases config.parsed with
    | false => exact .call trivial fun _ => .ret _
    | true =>
      exact .call trivial fun _ => .call trivial fun _ => .call trivial fun _ =>
        .call trivial fun _ => .call trivial fun _ => .ret _
  | dispatcher =>
    exact Prog.uses_bind (uses_loop trivial (fun _ => poll_bystands _ n) n ()) fun _ =>
      .call trivial fun _ => .ret _
  | connect => exact .call trivial fun _ => .call trivial fun _ => .ret _

end Programs

section Steps

variable {o : ProcessOp} {choice : Bool} {p q : AppContext} {x : ProcessAns o}
  {todo : List ProcessOp}

/-- Only its own operations change the state, the closing of the tracker and each flag. -/
theorem handler_shown (h : processHandler o choice p = some (x,q)) :
    (q.state = p.state ∨ o = .setState q.state) ∧
    (q.tasksClosed = p.tasksClosed ∨ o = .closeTasks ∧ q.tasksClosed = true) ∧
    ∀ flag, q.flags flag = p.flags flag ∨ o = .store flag (q.flags flag) := by
  cases o with
  | store flag value =>
    cases h
    refine ⟨.inl rfl,.inl rfl,fun flag' => ?_⟩
    by_cases hflag : flag' = flag
    · subst hflag
      exact .inr (by simp [AppContext.store])
    · exact .inl (by simp [AppContext.store,hflag])
  | setState state =>
    cases h
    exact ⟨.inr rfl,.inl rfl,fun _ => .inl rfl⟩
  | closeTasks =>
    cases h
    exact ⟨.inl rfl,.inr ⟨rfl,rfl⟩,fun _ => .inl rfl⟩
  | compareExchange current new =>
    rcases compareExchange_cases h with ⟨-,-,rfl⟩ | ⟨-,rfl⟩ <;>
      exact ⟨.inl rfl,.inl rfl,fun _ => .inl rfl⟩
  | await wait deadline =>
    obtain ⟨rfl,-⟩ := await_cases h
    exact ⟨.inl rfl,.inl rfl,fun _ => .inl rfl⟩
  | serve =>
    obtain rfl := serve_eq h
    exact ⟨.inl rfl,.inl rfl,fun _ => .inl rfl⟩
  | sleepUntil wakeAt =>
    simp only [processHandler] at h
    split at h <;> cases h
    exact ⟨.inl rfl,.inl rfl,fun _ => .inl rfl⟩
  | cancelledOrSleep wakeAt =>
    simp only [processHandler] at h
    split at h
    · cases h
      exact ⟨.inl rfl,.inl rfl,fun _ => .inl rfl⟩
    · split at h <;> cases h
      exact ⟨.inl rfl,.inl rfl,fun _ => .inl rfl⟩
  | halt => exact x.elim
  | _ =>
    cases h
    exact ⟨.inl rfl,.inl rfl,fun _ => .inl rfl⟩

structure Undisturbed (p q : AppContext) : Prop where
  state : q.state = p.state
  serving : q.flags .serving = p.flags .serving
  accepting : q.flags .accepting = p.flags .accepting
  closed : q.tasksClosed = p.tasksClosed
  polling : q.flags .polling = true → p.flags .polling = true
  cancelled : p.flags .cancelled = true → q.flags .cancelled = true

theorem Shows.undisturbed (hp : Shows todo p) (h : Undisturbed p q) : Shows todo q where
  state := h.state.trans hp.state
  serving := h.serving.trans hp.serving
  accepting := h.accepting.trans hp.accepting
  closed := h.closed.trans hp.closed
  polling hdone := Bool.eq_false_iff.mpr fun hup => by
    have hdown := hp.polling hdone
    simp [h.polling hup] at hdown
  cancelled hdone := h.cancelled (hp.cancelled hdone)

theorem undisturbed_of (h : processHandler o choice p = some (x,q))
    (hstate : ∀ state, o ≠ .setState state) (hclose : o ≠ .closeTasks)
    (hstore : ∀ flag value, o = .store flag value → flag = .polling ∧ value = false ∨ flag = .running) :
    Undisturbed p q := by
  obtain ⟨hs,hc,hf⟩ := handler_shown h
  have hkeep {flag : Flag} (hpolling : flag ≠ .polling) (hrunning : flag ≠ .running) :
      q.flags flag = p.flags flag := by
    rcases hf flag with hsame | hset
    · exact hsame
    · rcases hstore _ _ hset with ⟨hflag,-⟩ | hflag
      · exact absurd hflag hpolling
      · exact absurd hflag hrunning
  refine ⟨hs.resolve_right (hstate _),hkeep (by decide) (by decide),hkeep (by decide) (by decide),
    hc.resolve_right fun hclosed => hclose hclosed.1,fun hup => ?_,fun hup => ?_⟩
  · rcases hf .polling with hsame | hset
    · exact hsame ▸ hup
    · rcases hstore _ _ hset with ⟨-,hvalue⟩ | hflag
      · rw [hup] at hvalue
        cases hvalue
      · cases hflag
  · rw [hkeep (by decide) (by decide)]
    exact hup

theorem unseen_undisturbed (ho : Unseen o) (h : processHandler o choice p = some (x,q)) :
    Undisturbed p q :=
  undisturbed_of h (by rintro state rfl; exact ho) (by rintro rfl; exact ho)
    (by rintro flag value rfl; exact ho.elim)

theorem bystands_undisturbed (ho : Bystands o) (h : processHandler o choice p = some (x,q)) :
    Undisturbed p q := by
  refine undisturbed_of h (by rintro state rfl; exact ho) (by rintro rfl; exact ho) ?_
  rintro flag value rfl
  cases flag with
  | polling => exact .inl ⟨rfl,ho⟩
  | running => exact .inr rfl
  | _ => exact ho.elim

theorem again_undisturbed (hp : Shows todo p) (hdone : ProcessOp.store .serving false ∉ todo) :
    Undisturbed p (p.store .serving false) := by
  have hserving : p.flags .serving = false := by rw [hp.serving,decide_eq_false hdone]
  have hsame : p.store .serving false = p := by
    simp [AppContext.store,← hserving]
  rw [hsame]
  exact ⟨rfl,rfl,rfl,rfl,id,id⟩

theorem event_undisturbed (e : ProcessEvent) (p : AppContext) : Undisturbed p (processEvent e p) := by
  cases e with
  | tick d => exact ⟨rfl,rfl,rfl,rfl,id,id⟩
  | release =>
    by_cases hnone : p.releases = 0
    · simp only [processEvent,if_pos hnone]
      exact ⟨rfl,rfl,rfl,rfl,id,id⟩
    · simp only [processEvent,if_neg hnone]
      exact ⟨rfl,rfl,rfl,rfl,id,id⟩
  | cancel => exact ⟨rfl,rfl,rfl,rfl,id,fun _ => rfl⟩

theorem shows_milestone (hpassed : o::todo <:+ milestones) (hp : Shows (o::todo) p)
    (h : processHandler o choice p = some (x,q)) : Shows todo q := by
  have htails : o::todo ∈ milestones.tails := (List.mem_tails _ _).mpr hpassed
  simp only [milestones,List.tails,List.mem_cons,List.cons.injEq,List.not_mem_nil,or_false,
    reduceCtorEq] at htails
  rcases htails with ⟨rfl,rfl⟩ | ⟨rfl,rfl⟩ | ⟨rfl,rfl⟩ | ⟨rfl,rfl⟩ | ⟨rfl,rfl⟩ | ⟨rfl,rfl⟩ |
    ⟨rfl,rfl⟩ | ⟨rfl,rfl⟩
  all_goals
    cases h
    obtain ⟨hstate,hserving,haccepting,hclosed,hpolling,hcancelled⟩ := hp
    constructor <;> simp_all [AppContext.store,stateOf]

theorem Shows.truthful (hp : Shows todo p) (hpassed : todo <:+ milestones) : Truthful p := by
  obtain ⟨hstate,hserving,haccepting,hclosed,hpolling,hcancelled⟩ := hp
  have htails : todo ∈ milestones.tails := (List.mem_tails _ _).mpr hpassed
  simp only [milestones,List.tails,List.mem_cons,List.not_mem_nil,or_false] at htails
  rcases htails with rfl | rfl | rfl | rfl | rfl | rfl | rfl | rfl | rfl
  all_goals constructor <;> simp_all [stateOf,rank]

theorem Onward.refl (p : AppContext) : Onward p p := ⟨le_rfl,id,id,id,id,id⟩

theorem Onward.trans {r : AppContext} (hpq : Onward p q) (hqr : Onward q r) : Onward p r where
  state := hpq.state.trans hqr.state
  serving h := hpq.serving (hqr.serving h)
  accepting h := hpq.accepting (hqr.accepting h)
  polling h := hpq.polling (hqr.polling h)
  cancelled h := hqr.cancelled (hpq.cancelled h)
  closed h := hqr.closed (hpq.closed h)

theorem Undisturbed.onward (h : Undisturbed p q) : Onward p q where
  state := (congrArg rank h.state).ge
  serving hup := h.serving.symm.trans hup
  accepting hup := h.accepting.symm.trans hup
  polling := h.polling
  cancelled := h.cancelled
  closed hup := h.closed.trans hup

theorem milestone_onward (hpassed : o::todo <:+ milestones) (hp : Shows (o::todo) p)
    (h : processHandler o choice p = some (x,q)) :
    Onward p q ∧ rank q.state ≤ rank p.state + 1 := by
  have htails : o::todo ∈ milestones.tails := (List.mem_tails _ _).mpr hpassed
  have hstate := hp.state
  simp only [milestones,List.tails,List.mem_cons,List.cons.injEq,List.not_mem_nil,or_false,
    reduceCtorEq] at htails
  rcases htails with ⟨rfl,rfl⟩ | ⟨rfl,rfl⟩ | ⟨rfl,rfl⟩ | ⟨rfl,rfl⟩ | ⟨rfl,rfl⟩ | ⟨rfl,rfl⟩ |
    ⟨rfl,rfl⟩ | ⟨rfl,rfl⟩
  all_goals
    cases h
    refine ⟨?_,?_⟩
    · constructor <;> simp_all [AppContext.store,stateOf,rank]
    · simp_all [AppContext.store,stateOf,rank]

end Steps

section Runs

variable {config : Settings} {n : ℕ} {w : State} {todo : List ProcessOp}

/-- What `main` has left to do, against what the process shows. -/
structure Phased (todo : List ProcessOp) (w : State) : Prop where
  passed : todo <:+ milestones
  main : Marches Between [] todo (w.pool .main).rest
  others : ∀ task ≠ .main, (w.pool task).rest.Uses Bystands
  shows : Shows todo w.shared

theorem starting_phased (config : Settings) (n : ℕ) : Phased milestones (starting config n) where
  passed := List.suffix_rfl
  main := main_marches config n
  others task htask := by
    cases task with
    | main => exact absurd rfl htask
    | _ => exact .ret _
  shows := by constructor <;> simp [starting,AppContext.new,stateOf,milestones]

theorem others_answered (hothers : ∀ task ≠ .main, (w.pool task).rest.Uses Bystands)
    {i : ProcessTask} {o : ProcessOp} {x : ProcessAns o} {rest : Prog ProcessAns Unit}
    (hrest : i ≠ .main → rest.Uses Bystands) (task : ProcessTask) (htask : task ≠ .main) :
    (((process config n).answered w.pool i o x rest task).rest).Uses Bystands := by
  have hmoved : ((Function.update w.pool i ⟨rest,⟨o,x⟩::(w.pool i).past⟩ task).rest).Uses
      Bystands := by
    by_cases hi : task = i
    · subst hi
      simpa using hrest htask
    · simpa [hi] using hothers task htask
  unfold Threads.answered
  cases hs : (process config n).spawns o with
  | none => exact hmoved
  | some jp =>
    by_cases hj : task = jp.1
    · have hfuture : jp.2.Uses Bystands := by
        cases o <;> cases hs
        exact future_bystands config n _
      simpa [hj] using hfuture
    · simpa [hj] using hmoved

theorem main_answered {i : ProcessTask} {o : ProcessOp} (ho : o ≠ .spawn .main) (x : ProcessAns o)
    (rest : Prog ProcessAns Unit) : ((process config n).answered w.pool i o x rest .main).rest =
      if i = .main then rest else (w.pool .main).rest := by
  rw [Threads.answered_unspawned (T := process config n) (i := .main) (o := o)]
  · by_cases hi : i = .main
    · subst hi
      simp
    · simp [hi,Ne.symm hi]
  · rintro l q hs rfl
    cases o <;> cases hs
    exact ho rfl

theorem step_phased (config : Settings) (n : ℕ) (hw : Phased todo w) (a : Action) : ∃ later,
    Phased later ((process config n).step w a) ∧
    Onward w.shared ((process config n).step w a).shared ∧
    rank ((process config n).step w a).shared.state ≤ rank w.shared.state + 1 := by
  have hstill {q : AppContext} (h : Undisturbed w.shared q) :
      Onward w.shared q ∧ rank q.state ≤ rank w.shared.state + 1 :=
    ⟨h.onward,h.state ▸ Nat.le_succ _⟩
  rcases (process config n).step_cases w a with h | ⟨e,h⟩ | ⟨i,c,o,k,x,t,hrest,hh,h⟩
  · rw [h]
    exact ⟨todo,hw,Onward.refl _,Nat.le_succ _⟩
  · rw [h]
    have hquiet : Undisturbed w.shared ((process config n).env e w.shared) := event_undisturbed e _
    exact ⟨todo,⟨hw.passed,hw.main,hw.others,hw.shows.undisturbed hquiet⟩,hstill hquiet⟩
  have hh' : processHandler o c w.shared = some (x,t) := hh
  rw [h]
  by_cases hi : i = .main
  · subst hi
    rcases (hrest ▸ hw.main).next with ⟨ho,hk⟩ | ⟨later,rfl,hk⟩
    · have hspawn : o ≠ .spawn .main := by
        rintro rfl
        rcases ho with ho | ⟨ho,-⟩
        · exact ho
        · cases ho
      have hquiet : Undisturbed w.shared t := by
        rcases ho with ho | ⟨rfl,hdone⟩
        · exact unseen_undisturbed ho hh'
        · cases hh'
          exact again_undisturbed hw.shows hdone
      refine ⟨todo,⟨hw.passed,?_,others_answered hw.others (fun hne => absurd rfl hne),
        hw.shows.undisturbed hquiet⟩,hstill hquiet⟩
      rw [main_answered hspawn,if_pos rfl]
      exact hk x
    · have hspawn : o ≠ .spawn .main := by
        rintro rfl
        have hmem : ProcessOp.spawn .main ∈ milestones := hw.passed.subset List.mem_cons_self
        exact absurd hmem (by decide)
      have hlater : later <:+ milestones := (List.suffix_cons _ _).trans hw.passed
      refine ⟨later,⟨hlater,?_,others_answered hw.others (fun hne => absurd rfl hne),
        shows_milestone hw.passed hw.shows hh'⟩,milestone_onward hw.passed hw.shows hh'⟩
      rw [main_answered hspawn,if_pos rfl]
      exact hk x
  · have hbystands := hw.others i hi
    rw [hrest] at hbystands
    cases hbystands with
    | call ho hk =>
      have hspawn : o ≠ .spawn .main := by
        rintro rfl
        exact ho
      have hquiet := bystands_undisturbed ho hh'
      refine ⟨todo,⟨hw.passed,?_,others_answered hw.others (fun _ => hk x),
        hw.shows.undisturbed hquiet⟩,hstill hquiet⟩
      rw [main_answered hspawn,if_neg hi]
      exact hw.main

theorem run_phased (config : Settings) (n : ℕ) (hw : Phased todo w) (actions : List Action) : ∃ later,
    Phased later ((process config n).after w actions) ∧
    Onward w.shared ((process config n).after w actions).shared := by
  induction actions generalizing w todo with
  | nil => exact ⟨todo,hw,Onward.refl _⟩
  | cons a actions ih =>
    obtain ⟨later,hnext,honward,-⟩ := step_phased config n hw a
    obtain ⟨last,hlast,honward'⟩ := ih hnext
    exact ⟨last,hlast,honward.trans honward'⟩

/-- However the tasks of the process are scheduled, and whenever the shutdown comes: at every
moment the state tells what the flags and the tracker are, no state is skipped, and none of
what was closed is ever opened again. -/
theorem process_onward (config : Settings) (n : ℕ) (earlier later : List Action) :
    let w := (process config n).after (starting config n) earlier
    let w' := (process config n).after (starting config n) (earlier ++ later)
    Truthful w.shared ∧ Onward w.shared w'.shared ∧
      ∀ a, rank ((process config n).step w a).shared.state ≤ rank w.shared.state + 1 := by
  intro w w'
  obtain ⟨todo,hw,-⟩ := run_phased config n (starting_phased config n) earlier
  have hw' : w' = (process config n).after w later := (process config n).after_append _ _ _
  obtain ⟨-,-,honward⟩ := run_phased config n hw later
  refine ⟨hw.shows.truthful hw.passed,hw' ▸ honward,fun a => ?_⟩
  obtain ⟨-,-,-,hrank⟩ := step_phased config n hw a
  exact hrank

end Runs
end AppPhases
end KvmAgent
