import KvmAgent.ShutdownDeadline

/-! The timeouts for which the verdict of `shutdown` is right, and the run that shows it wrong
for the others: one in which every phase succeeds and the dependencies alone take time. -/
namespace KvmAgent
namespace ShutdownVerdict

open Lifecycle Trace CleanShutdown Threads ShutdownDeadline

section Quiet

variable {config : Settings} {n : ℕ} {p : AppContext} {budget : ℕ}

/-- No job is in hand, every task is done and the server does not run. -/
structure Quiet (p : AppContext) : Prop where
  inFlight : p.inFlight = 0
  tasks : p.tasksCount = 0
  running : p.flags .running = false

theorem drainTasks_quiet (hp : Quiet p) (hbudget : 0 < budget) :
    Alone (process config n) .main (drainTasks budget 1) p true { p with tasksClosed := true } := by
  have hleft : ¬budget - (p.clock - p.clock) = 0 := by omega
  have hjobs : processHandler .loadInFlight false { p with tasksClosed := true } =
      some (0,{ p with tasksClosed := true }) := by simp [processHandler,hp.inFlight]
  have htasks : processHandler (.await .tasks (p.clock + (budget - (p.clock - p.clock)))) false
      { p with tasksClosed := true } = some (true,{ p with tasksClosed := true }) := by
    simp [processHandler,AppContext.ready,hp.tasks]
  refine .call (c := false) rfl rfl (.call (c := false) rfl rfl (.call (c := false) rfl rfl
    (.call (c := false) rfl hjobs (.call (c := false) rfl rfl ?_))))
  change Alone _ _ (if budget - (p.clock - p.clock) = 0 then _ else _) _ _ _
  rw [if_neg hleft]
  exact .call (c := false) rfl rfl (.call (c := false) rfl htasks .ret)

theorem closeTransports_quiet (hp : Quiet p) (hbudget : 0 < budget) :
    Alone (process config n) .main (closeTransports budget 1) p true
      { p.store .serving false with releases := p.releases + 1 } := by
  have hrunning : processHandler (.load .running) false
      { p.store .serving false with releases := p.releases + 1 } =
      some (false,{ p.store .serving false with releases := p.releases + 1 }) := by
    simp [processHandler,AppContext.store,hp.running]
  unfold closeTransports
  rw [if_neg hbudget.ne']
  exact .call (c := false) rfl rfl (.call (c := false) rfl rfl (.call (c := false) rfl rfl
    (.call (c := false) rfl hrunning (.call (c := false) rfl rfl .ret))))

theorem closeDependencies_quiet {d : ℕ} (hd : Duration.fromMillis 20 ≤ d) :
    Alone (process config n) .main (closeDependencies budget) p true
      { p with clock := p.clock + d } := by
  have hslept : processHandler (.await (.sleep (p.clock + Duration.fromMillis 20)) (p.clock + budget))
      false { p with clock := p.clock + d } = some (true,{ p with clock := p.clock + d }) := by
    simp [processHandler,AppContext.ready,hd]
  exact .call (c := false) rfl rfl (.call (c := false) rfl rfl
    (.env (.tick d) (.call (c := false) rfl hslept .ret)))

def shut (p : AppContext) (d : ℕ) : AppContext :=
  { p.store .serving false with
    clock := p.clock + d
    tasksClosed := true
    releases := p.releases + 1 }

/-- A shutdown that waits for nothing but the dependencies. -/
theorem drainAndClose_quiet (hp : Quiet p) {timeout startedAt d : ℕ}
    (htimeout : 0 < timeout - (p.clock - startedAt)) (hd : Duration.fromMillis 20 ≤ d) :
    Alone (process config n) .main (drainAndClose timeout 1 startedAt) p
      ⟨startedAt,p.clock,timeout - (p.clock - startedAt),true,p.clock,timeout - (p.clock - startedAt),
        true,p.clock,timeout - (p.clock - startedAt),true,p.clock + d⟩ (shut p d) := by
  have hdrained : Quiet { p with tasksClosed := true } := ⟨hp.inFlight,hp.tasks,hp.running⟩
  refine .call (c := false) rfl rfl ((drainTasks_quiet hp htimeout).bind ?_)
  refine .call (c := false) rfl rfl ((closeTransports_quiet hdrained htimeout).bind ?_)
  refine .call (c := false) rfl rfl ((closeDependencies_quiet hd).bind ?_)
  exact .call (c := false) rfl rfl .ret

end Quiet

section Winding

def running : AppContext := { AppContext.new with state := .running, tasksCount := 3 }

def announced : AppContext :=
  (((({ running with state := .shuttingDown, releases := 1 } : AppContext).store .serving
    false).store .accepting false).store .polling false).store .cancelled true

theorem announce_alone {config : Settings} {n : ℕ} :
    Alone (process config n) .main announce running 0 announced :=
  .call (c := false) rfl rfl (.call (c := false) rfl rfl (.call (c := false) rfl rfl
    (.call (c := false) rfl rfl (.call (c := false) rfl rfl (.call (c := false) rfl rfl
    (.call (c := false) rfl rfl .ret))))))

def served : AppContext :=
  { (({ announced with shutdownTx := true } : AppContext).store .running true).store .running false
    with calls := Function.update announced.calls .drained 1, tasksCount := 2 }

theorem grpc_alone {timeout : Duration} {n : ℕ} :
    Alone (process ⟨true,1,timeout⟩ n) .grpc (future ⟨true,1,timeout⟩ n .grpc) announced () served :=
  .call (c := false) rfl rfl (.call (c := false) rfl rfl (.call (c := false) rfl rfl
    (.call (c := false) rfl rfl (.call (c := false) rfl rfl (.call (c := false) rfl rfl .ret)))))

def dispatched : AppContext := { served.store .polling false with tasksCount := 1 }

theorem dispatcher_alone {timeout : Duration} :
    Alone (process ⟨true,1,timeout⟩ 1) .dispatcher (future ⟨true,1,timeout⟩ 1 .dispatcher) served ()
      dispatched :=
  .call (c := false) rfl rfl (.call (c := false) rfl rfl (.call (c := false) rfl rfl
    (.call (c := false) rfl rfl .ret)))

def ended : AppContext := { dispatched with tasksCount := 0 }

theorem connect_alone {timeout : Duration} {n : ℕ} :
    Alone (process ⟨true,1,timeout⟩ n) .connect (future ⟨true,1,timeout⟩ n .connect) dispatched ()
      ended :=
  .call (c := false) rfl rfl (.call (c := false) rfl rfl .ret)

/-- `main` has come to `p`, and the tasks of `left` have yet to begin. -/
structure Midway (timeout : Duration) (p : Prog ProcessAns Report) (s : AppContext)
    (left : List ProcessTask) (w : State) : Prop where
  reaches : Reaches (mainPhases ⟨true,1,timeout⟩ 1) (w.pool .main).past p
  rest : (w.pool .main).rest = p >>= fun r => Prog.op (ProcessOp.setState .stopped) >>= fun _ =>
    Prog.op (ProcessOp.finished (r.result timeout))
  left : ∀ task ∈ left, (w.pool task).rest = future ⟨true,1,timeout⟩ 1 task
  shared : w.shared = s

theorem after_append (config : Settings) (n : ℕ) (earlier later : List Action) :
    after config n (earlier ++ later) = (process config n).after (after config n earlier) later :=
  (process config n).after_append _ earlier later

variable {timeout : Duration} {s t : AppContext} {left : List ProcessTask} {earlier : List Action}

theorem Midway.main {α : Type} {p : Prog ProcessAns α} {f : α → Prog ProcessAns Report} {a : α}
    (h : Midway timeout (p >>= f) s left (after ⟨true,1,timeout⟩ 1 earlier)) (hmain : .main ∉ left)
    (hp : Alone (process ⟨true,1,timeout⟩ 1) .main p s a t) :
    ∃ actions, Midway timeout (f a) t left (after ⟨true,1,timeout⟩ 1 actions) := by
  obtain ⟨calls,hcalls,hrun⟩ := hp.run
  obtain ⟨actions,hafter⟩ := hrun _ _ (h.rest.trans (Prog.bind_assoc p f _)) h.shared
  refine ⟨earlier ++ actions,?_⟩
  rw [after_append,hafter]
  refine ⟨?_,?_,fun task htask => ?_,rfl⟩
  · simp only [Function.update_self]
    exact h.reaches.trans (hcalls.bind f)
  · simp only [Function.update_self]
  · have hne : task ≠ .main := ne_of_mem_of_not_mem htask hmain
    simp only [Function.update_of_ne hne]
    exact h.left task htask

theorem Midway.task {p : Prog ProcessAns Report} {task : ProcessTask}
    (h : Midway timeout p s (task::left) (after ⟨true,1,timeout⟩ 1 earlier)) (hmain : task ≠ .main)
    (hleft : task ∉ left)
    (hp : Alone (process ⟨true,1,timeout⟩ 1) task (future ⟨true,1,timeout⟩ 1 task) s () t) :
    ∃ actions, Midway timeout p t left (after ⟨true,1,timeout⟩ 1 actions) := by
  obtain ⟨calls,-,hrun⟩ := hp.run
  have hrest := h.left task List.mem_cons_self
  rw [← Prog.bind_ret (future ⟨true,1,timeout⟩ 1 task)] at hrest
  obtain ⟨actions,hafter⟩ := hrun _ .ret hrest h.shared
  refine ⟨earlier ++ actions,?_⟩
  rw [after_append,hafter]
  refine ⟨?_,?_,fun other hother => ?_,rfl⟩
  · simp only [Function.update_of_ne hmain.symm]
    exact h.reaches
  · simp only [Function.update_of_ne hmain.symm]
    exact h.rest
  · have hne : other ≠ task := ne_of_mem_of_not_mem hother hleft
    simp only [Function.update_of_ne hne]
    exact h.left other (List.mem_cons_of_mem _ hother)

theorem Midway.returned {r : Report}
    (h : Midway timeout (.ret r) s left (after ⟨true,1,timeout⟩ 1 earlier)) :
    ∃ actions, Returned ⟨true,1,timeout⟩ 1 (after ⟨true,1,timeout⟩ 1 actions) r (r.result timeout) := by
  refine ⟨earlier ++ steps .main 2,_,h.reaches,?_⟩
  rw [after_append]
  generalize after ⟨true,1,timeout⟩ 1 earlier = w at h ⊢
  have hrest : (w.pool .main).rest =
      .call (.setState .stopped) fun _ => .call (.finished (r.result timeout)) .ret := h.rest
  change _ <:+ ((Threads.step _ (Threads.step _ w (.run .main false)) (.run .main false)).pool .main).past
  have hstopped : (process ⟨true,1,timeout⟩ 1).step w (.run .main false) =
      ⟨Function.update w.pool .main
        ⟨.call (.finished (r.result timeout)) .ret,⟨.setState .stopped,()⟩::(w.pool .main).past⟩,
        { w.shared with state := .stopped }⟩ := by
    simp only [Threads.step,hrest]
    rfl
  rw [hstopped]
  simp only [Threads.step,Function.update_self]
  exact List.suffix_rfl

theorem signalled (timeout : Duration) : Midway timeout (phases timeout 1) running
    [.grpc,.dispatcher,.connect] (after ⟨true,1,timeout⟩ 1 (steps .main 5)) := by
  refine ⟨?_,?_,?_,rfl⟩
  · have hpast : ((after ⟨true,1,timeout⟩ 1 (steps .main 5)).pool .main).past =
        [⟨.waitForShutdownSignal,()⟩,⟨.spawn .connect,()⟩,⟨.spawn .dispatcher,()⟩,
          ⟨.spawn .grpc,()⟩,⟨.setState .running,()⟩] := rfl
    rw [hpast]
    have hset := (Reaches.start (p := mainPhases ⟨true,1,timeout⟩ 1)).answer
      (o := ProcessOp.setState .running) ()
    have hspawned := ((hset.answer (o := ProcessOp.spawn .grpc) ()).answer
      (o := ProcessOp.spawn .dispatcher) ()).answer (o := ProcessOp.spawn .connect) ()
    exact hspawned.answer (o := ProcessOp.waitForShutdownSignal) ()
  · have hrest : ((after ⟨true,1,timeout⟩ 1 (steps .main 5)).pool .main).rest =
        shutdown timeout 1 >>= fun result => Prog.op (ProcessOp.finished result) := rfl
    rw [hrest,shutdown_eq]
    simp only [Prog.bind_assoc,Prog.ret_bind]
  · simp only [List.forall_mem_cons]
    exact ⟨rfl,rfl,rfl,List.forall_mem_nil _⟩

/-- Nothing has to be waited for but the dependencies, which take `d`. -/
def quick (timeout d : ℕ) : Report := ⟨0,0,timeout,true,0,timeout,true,0,timeout,true,d⟩

theorem quick_punctual {timeout d : ℕ} (hle : d ≤ timeout) : (quick timeout d).Punctual :=
  ⟨Nat.zero_le _,Nat.zero_le _,by simpa [Report.InBudget,quick] using hle⟩

theorem exists_returned {timeout d : ℕ} (hd : Duration.fromMillis 20 ≤ d) (hle : d ≤ timeout) :
    ∃ actions, Returned ⟨true,1,timeout⟩ 1 (after ⟨true,1,timeout⟩ 1 actions) (quick timeout d)
      ((quick timeout d).result timeout) := by
  have htimeout : 0 < timeout := Nat.lt_of_lt_of_le (by decide) (hd.trans hle)
  have hstart := signalled timeout
  obtain ⟨announcing,h1⟩ := hstart.main (by decide) announce_alone
  obtain ⟨serving,h2⟩ := h1.task (by decide) (by decide) grpc_alone
  obtain ⟨dispatching,h3⟩ := h2.task (by decide) (by decide) dispatcher_alone
  obtain ⟨connecting,h4⟩ := h3.task (by decide) (by decide) connect_alone
  rw [← Prog.bind_ret (drainAndClose timeout 1 0)] at h4
  have hquiet : Quiet ended := ⟨rfl,rfl,rfl⟩
  have hclosing : Alone (process ⟨true,1,timeout⟩ 1) .main (drainAndClose timeout 1 0) ended
      (quick timeout (0 + d)) (shut ended d) := drainAndClose_quiet hquiet htimeout hd
  rw [Nat.zero_add] at hclosing
  obtain ⟨closing,h5⟩ := h4.main (by decide) hclosing
  exact h5.returned

end Winding

section Accepted

open RustText AppSection

theorem asMillis_fromMillis (m : ℕ) : (Duration.fromMillis m).asMillis = m :=
  Nat.mul_div_cancel m (by decide)

theorem asMillis_fromSecs (secs : ℕ) : (Duration.fromSecs secs).asMillis = secs * 1000 := by
  unfold Duration.fromSecs Duration.asMillis
  omega

/-- With a timeout in seconds whose milliseconds do not fit 64 bits, a shutdown that takes one
millisecond more than they wrap to has timed out, though its phases have not. -/
theorem not_keeps {secs : ℕ} (hover : 18446744073709551616 ≤ (Duration.fromSecs secs).asMillis) :
    ¬Keeps (Duration.fromSecs secs) := by
  intro hkeeps
  rw [asMillis_fromSecs] at hover
  -- The milliseconds of whole seconds wrap to a multiple of eight, which leaves room for one.
  obtain ⟨millis,hwrap,htime,hfits,hmost⟩ : ∃ millis, secs * 1000 % 18446744073709551616 < millis ∧
      20 ≤ millis ∧ millis < 18446744073709551616 ∧ millis ≤ secs * 1000 :=
    ⟨max (secs * 1000 % 18446744073709551616 + 1) 20,by omega,by omega,by omega,by omega⟩
  have hwithin : Duration.fromMillis millis ≤ Duration.fromSecs secs := by
    change millis * 1000000 ≤ secs * 1000000000
    omega
  have hslept : Duration.fromMillis 20 ≤ Duration.fromMillis millis :=
    Nat.mul_le_mul_right 1000000 htime
  obtain ⟨actions,hreturned⟩ := exists_returned hslept hwithin
  have hsound := hkeeps _ _ _ _ _ rfl hreturned (quick_punctual hwithin)
  have hclean := hsound.verdict.mpr ⟨⟨rfl,rfl,rfl⟩,hwithin⟩
  have hcompared := ((result_clean_iff _ _).mp hclean).2
  have helapsed : (quick (Duration.fromSecs secs) (Duration.fromMillis millis)).endedAt -
      (quick (Duration.fromSecs secs) (Duration.fromMillis millis)).startedAt = Duration.fromMillis millis := Nat.sub_zero _
  rw [helapsed,asMillis_fromMillis,asMillis_fromSecs,Nat.mod_eq_of_lt hfits] at hcompared
  exact absurd hcompared (Nat.not_le_of_lt hwrap)

/-- `shutdown` tells rightly whether the timeout was kept just when its milliseconds, which
are compared in 64 bits, fit them. -/
theorem verdict_iff (env : EnvVars) (app : AppSection) (h : loadFromEnv env = .ok app) :
    Keeps app.shutdownTimeout ↔ app.shutdownTimeout.asMillis < 18446744073709551616 := by
  obtain ⟨secs,-,htimeout⟩ := loadFromEnv_timeout h
  refine ⟨fun hkeeps => ?_,keeps_of_fits⟩
  by_contra hover
  rw [htimeout] at hkeeps hover
  exact not_keeps (Nat.le_of_not_lt hover) hkeeps

/-- Fifteen seconds, the default, are such a timeout, and there is a shutdown that keeps it. -/
theorem verdict_fifteen : Keeps (Duration.fromSecs 15) ∧ ∃ actions r,
    Returned ⟨true,1,Duration.fromSecs 15⟩ 1 (after ⟨true,1,Duration.fromSecs 15⟩ 1 actions) r .clean ∧
    r.Punctual := by
  have hparse : parseU64 "15" = some 15 := by decide
  have hload := loadFromEnv_withTimeout (by decide) (by decide) hparse (by decide)
  have hwithin : Duration.fromMillis 20 ≤ Duration.fromSecs 15 := by decide
  obtain ⟨actions,hreturned⟩ := exists_returned (Nat.le_refl _) hwithin
  exact ⟨(verdict_iff _ _ hload).mpr (by decide),actions,_,hreturned,quick_punctual hwithin⟩

/-- The milliseconds of `2^61` seconds wrap to none: all phases succeed within 20 ms, and the
shutdown has timed out. -/
theorem verdict_wraps : ∃ app, loadFromEnv (withTimeout "2305843009213693952" (by decide)) = .ok app ∧
    ¬Keeps app.shutdownTimeout ∧ ∃ actions r,
      Returned ⟨true,1,app.shutdownTimeout⟩ 1 (after ⟨true,1,app.shutdownTimeout⟩ 1 actions) r .timedOut ∧
      r.Punctual ∧ r.AllSucceed ∧ r.endedAt - r.startedAt = Duration.fromMillis 20 := by
  have hparse : parseU64 "2305843009213693952" = some 2305843009213693952 := by decide
  have hload := loadFromEnv_withTimeout (by decide) (by decide) hparse (by decide)
  have hwithin : Duration.fromMillis 20 ≤ Duration.fromSecs 2305843009213693952 := by decide
  obtain ⟨actions,hreturned⟩ := exists_returned (Nat.le_refl _) hwithin
  exact ⟨_,hload,not_keeps (by decide),actions,_,hreturned,quick_punctual hwithin,⟨rfl,rfl,rfl⟩,rfl⟩

end Accepted

end ShutdownVerdict
end KvmAgent
