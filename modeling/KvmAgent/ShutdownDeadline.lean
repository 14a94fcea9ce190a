import KvmAgent.AppSection
import KvmAgent.CleanShutdown

/-! The verdict of `shutdown` against its timeout: the budgets of the three phases, and the
elapsed time at the end of them. -/
namespace KvmAgent
namespace ShutdownDeadline

open Lifecycle Trace CleanShutdown

/-- What `shutdown` reads of the clock, the budgets it hands to its phases, and what these
return. -/
structure Report where
  startedAt : ℕ
  drainAt : ℕ
  drainBudget : Duration
  drained : Bool
  transportAt : ℕ
  transportBudget : Duration
  transportsClosed : Bool
  dependenciesAt : ℕ
  dependenciesBudget : Duration
  dependenciesClosed : Bool
  endedAt : ℕ

/-- `shutdown` up to the first of its phases. -/
def announce : Prog ProcessAns ℕ := do
  let startedAt ← Prog.op ProcessOp.now
  Prog.op (ProcessOp.setState .shuttingDown)
  GrpcServer.stopAccepting
  WorkerPool.stopAccepting
  WorkerDispatcher.stopPolling
  Prog.op (ProcessOp.store .cancelled true)
  return startedAt

def drainAndClose (timeout : Duration) (n startedAt : ℕ) : Prog ProcessAns Report := do
  let drainAt ← Prog.op ProcessOp.now
  let drainBudget := timeout - (drainAt - startedAt)
  let drained ← drainTasks drainBudget n
  let transportAt ← Prog.op ProcessOp.now
  let transportBudget := timeout - (transportAt - startedAt)
  let transportsClosed ← closeTransports transportBudget n
  let dependenciesAt ← Prog.op ProcessOp.now
  let dependenciesBudget := timeout - (dependenciesAt - startedAt)
  let dependenciesClosed ← closeDependencies dependenciesBudget
  let endedAt ← Prog.op ProcessOp.now
  return {
    startedAt,drainAt,drainBudget,drained,transportAt,transportBudget,transportsClosed
    dependenciesAt,dependenciesBudget,dependenciesClosed,endedAt }

def phases (timeout : Duration) (n : ℕ) : Prog ProcessAns Report :=
  announce >>= drainAndClose timeout n

def mainPhases (config : Settings) (n : ℕ) : Prog ProcessAns Report := do
  Prog.op (ProcessOp.setState .running)
  Prog.op (ProcessOp.spawn .grpc)
  Prog.op (ProcessOp.spawn .dispatcher)
  Prog.op (ProcessOp.spawn .connect)
  Prog.op ProcessOp.waitForShutdownSignal
  phases config.shutdownTimeout n

namespace Report

variable (timeout : Duration) (r : Report)

/-- What `shutdown` makes of its phases. -/
def result : ShutdownResult :=
  if r.drained && r.transportsClosed && r.dependenciesClosed &&
    decide (Duration.asMillisU64 (r.endedAt - r.startedAt) ≤ Duration.asMillisU64 timeout)
  then .clean else .timedOut

def AllSucceed : Prop :=
  r.drained = true ∧ r.transportsClosed = true ∧ r.dependenciesClosed = true

/-- A phase succeeds within its budget or reports failure at the end of it. -/
def InBudget (budget begun ended : ℕ) (ok : Bool) : Prop :=
  if ok then ended ≤ begun + budget else ended = begun + budget

structure Punctual : Prop where
  drain : InBudget r.drainBudget r.drainAt r.transportAt r.drained
  transports : InBudget r.transportBudget r.transportAt r.dependenciesAt r.transportsClosed
  dependencies : InBudget r.dependenciesBudget r.dependenciesAt r.endedAt r.dependenciesClosed

/-- The phases do not take the total over the timeout, if the steps before them have not, and
the result is clean exactly when all of them succeed within it. -/
structure Sound (result : ShutdownResult) : Prop where
  total : r.endedAt - r.startedAt ≤ max timeout (r.drainAt - r.startedAt)
  verdict : result = .clean ↔ r.AllSucceed ∧ r.endedAt - r.startedAt ≤ timeout

end Report

/-- `shutdown` went through its phases as reported and returned the result to `main`. -/
def Returned (config : Settings) (n : ℕ) (w : State) (r : Report) (result : ShutdownResult) : Prop :=
  ∃ calls, Reaches (mainPhases config n) calls (.ret r) ∧
    ⟨.finished result,()⟩::⟨.setState .stopped,()⟩::calls <:+ (w.pool .main).past

/-- With this timeout, every shutdown of every run whose phases are punctual is sound. -/
def Keeps (timeout : Duration) : Prop :=
  ∀ (config : Settings) (n : ℕ) (actions : List Action) (r : Report) (result : ShutdownResult),
    config.shutdownTimeout = timeout → Returned config n (after config n actions) r result →
      r.Punctual → r.Sound timeout result

section Programs

theorem shutdown_eq (timeout : Duration) (n : ℕ) : shutdown timeout n =
    phases timeout n >>= fun r => Prog.op (ProcessOp.setState .stopped) >>= fun _ =>
      .ret (r.result timeout) := by
  simp only [shutdown,phases,announce,drainAndClose,Prog.bind_assoc,Report.result]
  rfl

theorem main_eq (config : Settings) (n : ℕ) : main config n =
    mainPhases config n >>= fun r => Prog.op (ProcessOp.setState .stopped) >>= fun _ =>
      Prog.op (ProcessOp.finished (r.result config.shutdownTimeout)) := by
  simp only [main,mainPhases,shutdown_eq,Prog.bind_assoc]
  rfl

end Programs

section Readings

variable {α : Type} {timeout : Duration} {n : ℕ} {s : Trace ProcessAns}

def latest : Trace ProcessAns → ℕ
  | [] => 0
  | ⟨.now,t⟩::_ => t
  | _::s => latest s

def InOrder : Trace ProcessAns → Prop
  | [] => True
  | ⟨.now,t⟩::s => latest s ≤ t ∧ InOrder s
  | _::s => InOrder s

theorem inOrder_cons {o : ProcessOp} {x : ProcessAns o} (h : InOrder (⟨o,x⟩::s)) :
    latest s ≤ latest (⟨o,x⟩::s) ∧ InOrder s := by
  cases o with
  | now => exact h
  | _ => exact ⟨Nat.le_refl _,h⟩

theorem inOrder_suffix {later : Trace ProcessAns} (h : InOrder (later ++ s)) : InOrder s := by
  induction later with
  | nil => exact h
  | cons c later ih => exact ih (inOrder_cons h).2

theorem keeps_latest (p : Prog ProcessAns α) (t : ℕ) :
    p.Keeps (Prog.within recorder InOrder) (fun s => t ≤ latest s) := by
  induction p with
  | ret a => exact Prog.keeps_ret a
  | call o k ih =>
    refine fun s hs => ⟨hs,fun c x u hc => ih x u ?_⟩
    obtain ⟨hrecorded,hu⟩ := Prog.within_iff.mp hc
    obtain ⟨-,rfl⟩ := recorder_eq_some.mp hrecorded
    exact Nat.le_trans hs (inOrder_cons hu).1

/-- `drain_tasks` returns `true` only with some time to spend. -/
theorem drainTasks_budget (timeout : Duration) (n : ℕ) (s : Trace ProcessAns) :
    (drainTasks timeout n).Always (Prog.within recorder InOrder) (fun _ => True)
      (fun drained _ => drained = true → 0 < timeout) s := by
  refine ⟨trivial,fun _ started _ _ => ⟨trivial,fun _ _ t _ => ?_⟩⟩
  change Prog.Always _ _ _ (WorkerPool.drain timeout n >>= _) t
  rw [Prog.always_bind]
  refine (Prog.always_true _ t).mono (fun _ h => h) fun _ u _ _ => ⟨trivial,fun _ now v _ => ?_⟩
  change Prog.Always _ _ _ (if timeout - (now - started) = 0 then _ else _) v
  by_cases hover : timeout - (now - started) = 0
  · rw [if_pos hover]
    exact ⟨trivial,by simp⟩
  · rw [if_neg hover]
    exact (Prog.always_true _ v).mono (fun _ h => h) fun _ _ _ _ _ =>
      Nat.pos_of_ne_zero fun hzero => hover (by rw [hzero,Nat.zero_sub])

structure Report.Ordered (r : Report) : Prop where
  started : r.startedAt ≤ r.drainAt
  drain : r.drainAt ≤ r.transportAt
  transports : r.transportAt ≤ r.dependenciesAt
  dependencies : r.dependenciesAt ≤ r.endedAt

/-- Each phase is handed what is left of the timeout when it begins, and draining succeeds only
with something left. -/
structure Report.Budgeted (timeout : Duration) (r : Report) : Prop where
  drain : r.drainBudget = timeout - (r.drainAt - r.startedAt)
  transports : r.transportBudget = timeout - (r.transportAt - r.startedAt)
  dependencies : r.dependenciesBudget = timeout - (r.dependenciesAt - r.startedAt)
  drained : r.drained = true → 0 < r.drainBudget

theorem announce_always (s : Trace ProcessAns) :
    announce.Always (Prog.within recorder InOrder) (fun _ => True)
      (fun startedAt t => startedAt ≤ latest t) s := by
  refine always_ask_within.mpr ⟨trivial,fun startedAt _ => ?_⟩
  refine always_ask_within.mpr ⟨trivial,fun _ _ => always_ask_within.mpr ⟨trivial,fun _ _ =>
    always_ask_within.mpr ⟨trivial,fun _ _ => always_ask_within.mpr ⟨trivial,fun _ _ =>
    always_ask_within.mpr ⟨trivial,fun _ _ => always_ask_within.mpr ⟨trivial,fun _ _ => ?_⟩⟩⟩⟩⟩⟩
  exact ⟨trivial,Nat.le_refl startedAt⟩

theorem drainAndClose_always (timeout : Duration) (n : ℕ) {startedAt : ℕ} (hs : startedAt ≤ latest s) :
    (drainAndClose timeout n startedAt).Always (Prog.within recorder InOrder) (fun _ => True)
      (fun r _ => r.Ordered ∧ r.Budgeted timeout) s := by
  refine always_ask_within.mpr ⟨trivial,fun drainAt hdrain => ?_⟩
  have hstarted : startedAt ≤ drainAt := hs.trans hdrain.1
  change Prog.Always _ _ _ (drainTasks (timeout - (drainAt - startedAt)) n >>= _) _
  rw [Prog.always_bind]
  refine ((drainTasks_budget _ n _).and (keeps_latest _ drainAt _ (Nat.le_refl _))).mono
    (fun _ _ => trivial) fun drained t ht hdrained => ?_
  refine always_ask_within.mpr ⟨trivial,fun transportAt htransport => ?_⟩
  rw [Prog.always_bind]
  refine (keeps_latest _ transportAt _ (Nat.le_refl _)).mono (fun _ _ => trivial)
    fun closed u hu _ => ?_
  refine always_ask_within.mpr ⟨trivial,fun dependenciesAt hdependencies => ?_⟩
  rw [Prog.always_bind]
  refine (keeps_latest _ dependenciesAt _ (Nat.le_refl _)).mono (fun _ _ => trivial)
    fun dependencies v hv _ => ?_
  refine always_ask_within.mpr ⟨trivial,fun endedAt hended => ?_⟩
  exact ⟨trivial,⟨hstarted,ht.2.trans htransport.1,hu.trans hdependencies.1,hv.trans hended.1⟩,
    ⟨rfl,rfl,rfl,hdrained.1⟩⟩

theorem phases_always (timeout : Duration) (n : ℕ) (s : Trace ProcessAns) :
    (phases timeout n).Always (Prog.within recorder InOrder) (fun _ => True)
      (fun r _ => r.Ordered ∧ r.Budgeted timeout) s := by
  unfold phases
  rw [Prog.always_bind]
  exact (announce_always s).mono (fun _ h => h) fun _ _ _ ht => drainAndClose_always timeout n ht

theorem report_ordered {config : Settings} {r : Report} {calls : Trace ProcessAns}
    (h : Reaches (mainPhases config n) calls (.ret r)) (horder : InOrder calls) :
    r.Ordered ∧ r.Budgeted config.shutdownTimeout := by
  have hsuffix (u : Trace ProcessAns) (hu : u <:+ calls) : InOrder u := by
    obtain ⟨later,rfl⟩ := hu
    exact inOrder_suffix horder
  have hmain : (mainPhases config n).Always (Prog.within recorder InOrder) (fun _ => True)
      (fun r _ => r.Ordered ∧ r.Budgeted config.shutdownTimeout) [] :=
    always_ask_within.mpr ⟨trivial,fun _ _ => always_ask_within.mpr ⟨trivial,fun _ _ =>
      always_ask_within.mpr ⟨trivial,fun _ _ => always_ask_within.mpr ⟨trivial,fun _ _ =>
      always_ask_within.mpr ⟨trivial,fun _ _ => phases_always config.shutdownTimeout n _⟩⟩⟩⟩⟩
  exact (h.always hsuffix hmain).2

end Readings

section States

variable {config : Settings} {n : ℕ} {w : State} {status : ProcessTask → CleanShutdown.Status}
  {todo : List ProcessTask} {waited : Bool} {timeout : Duration}

/-- The calls of `main` are those of its program, and they read a clock that goes on. -/
structure Followed (config : Settings) (n : ℕ) (w : State) : Prop where
  reaches : Reaches (main config n) (w.pool .main).past (w.pool .main).rest
  ordered : InOrder (w.pool .main).past
  read : latest (w.pool .main).past ≤ w.shared.clock

theorem starting_followed (config : Settings) (n : ℕ) : Followed config n (starting config n) :=
  ⟨.start,trivial,Nat.le_refl _⟩

theorem main_unspawned (hacc : Accounted w status todo waited) {i : ProcessTask} {o : ProcessOp}
    {k : ProcessAns o → Prog ProcessAns Unit} (hrest : (w.pool i).rest = .call o k) :
    ∀ l q, (process config n).spawns o = some (l,q) → l ≠ .main := by
  intro l q hspawn
  by_cases hi : i = .main
  · subst hi
    have hleads := hrest ▸ hacc.leads
    cases hleads with
    | calm ho hk =>
      rw [calm_spawns ho] at hspawn
      cases hspawn
    | spawn hk =>
      cases hspawn
      exact ((hacc.pending _).mp (by simp)).1
    | wait hempty hlate => cases hspawn
    | finish hclean hk => cases hspawn
  · have hborn : status i ≠ .unborn := by
      intro hunborn
      simp [hacc.asleep i hi hunborn] at hrest
    have hruns := hrest ▸ hacc.runs i hborn
    rw [hruns.spawns] at hspawn
    cases hspawn

theorem step_followed (hw : Followed config n w) (hacc : Accounted w status todo waited) (a : Action) :
    Followed config n ((process config n).step w a) := by
  rcases (process config n).step_cases w a with hstep | ⟨e,hstep⟩ | ⟨i,c,o,k,x,q,hrest,hh,hstep⟩
  · rwa [hstep]
  · rw [hstep]
    exact ⟨hw.reaches,hw.ordered,hw.read.trans (event_clock e w.shared)⟩
  · rw [hstep]
    have hspawn : ∀ l q, (process config n).spawns o = some (l,q) → l ≠ .main :=
      main_unspawned hacc hrest
    have hclock : q.clock = w.shared.clock := handler_clock hh
    refine ⟨Threads.reaches_answered hw.reaches hrest hspawn x,?_,?_⟩
    all_goals simp only
    all_goals rw [Threads.answered_unspawned hspawn]
    · by_cases hi : i = .main
      · subst hi
        simp only [Function.update_self]
        cases o with
        | now =>
          cases hh
          exact ⟨hw.read,hw.ordered⟩
        | _ => exact hw.ordered
      · simpa [Ne.symm hi] using hw.ordered
    · rw [hclock]
      by_cases hi : i = .main
      · subst hi
        simp only [Function.update_self]
        cases o with
        | now =>
          cases hh
          exact Nat.le_refl _
        | _ => exact hw.read
      · simpa [Ne.symm hi] using hw.read

def Tracked (config : Settings) (n : ℕ) (w : State) : Prop :=
  (∃ status todo waited, Accounted w status todo waited) ∧ Followed config n w

theorem step_tracked (w : State) (a : Action) (hw : Tracked config n w) :
    Tracked config n ((process config n).step w a) := by
  obtain ⟨⟨status,todo,waited,hacc⟩,hfollowed⟩ := hw
  obtain ⟨status',todo',waited',hacc',-⟩ := step_accounted config n hacc a
  exact ⟨⟨status',todo',waited',hacc'⟩,step_followed hfollowed hacc a⟩

theorem run_followed (config : Settings) (n : ℕ) (actions : List Action) :
    Followed config n (after config n actions) := by
  have hstart : Tracked config n (starting config n) :=
    ⟨⟨_,_,_,starting_accounted⟩,starting_followed config n⟩
  exact ((process config n).after_invariant step_tracked hstart actions).2

theorem Returned.result_eq {r : Report} {result : ShutdownResult} (hw : Followed config n w)
    (h : Returned config n w r result) : result = r.result config.shutdownTimeout := by
  obtain ⟨calls,hcalls,hpast⟩ := h
  obtain ⟨rest,hrest⟩ := hw.reaches.of_suffix hpast
  obtain ⟨k,hfinished,-⟩ := hrest.last
  obtain ⟨k',hstopped,hk'⟩ := hfinished.last
  have hmain := hcalls.bind fun r => Prog.op (ProcessOp.setState .stopped) >>= fun _ =>
    Prog.op (ProcessOp.finished (r.result config.shutdownTimeout))
  rw [← main_eq] at hmain
  have hsame := hmain.unique hstopped
  simp only [Prog.ret_bind,Prog.op_eq,Prog.call_bind,Prog.call.injEq,heq_eq_eq,true_and] at hsame
  subst hsame
  simp only [Prog.call.injEq,ProcessOp.finished.injEq] at hk'
  exact hk'.1

end States

section Verdicts

variable {timeout : Duration} {r : Report}

theorem Report.InBudget.le {budget begun ended : ℕ} {ok : Bool}
    (h : Report.InBudget budget begun ended ok) : ended ≤ begun + budget := by
  cases ok with
  | true => exact h
  | false => exact Nat.le_of_eq h

theorem total_le (hr : r.Ordered) (hb : r.Budgeted timeout) (hp : r.Punctual) :
    r.endedAt - r.startedAt ≤ max timeout (r.drainAt - r.startedAt) := by
  have hdrain := hp.drain.le
  have htransports := hp.transports.le
  have hdependencies := hp.dependencies.le
  obtain ⟨hstarted,hdrained,hclosed,hended⟩ := hr
  rw [hb.drain] at hdrain
  rw [hb.transports] at htransports
  rw [hb.dependencies] at hdependencies
  omega

theorem result_clean_iff (timeout : Duration) (r : Report) :
    r.result timeout = .clean ↔ r.AllSucceed ∧
      Duration.asMillis (r.endedAt - r.startedAt) % 18446744073709551616 ≤
        Duration.asMillis timeout % 18446744073709551616 := by
  have hle : Duration.asMillisU64 (r.endedAt - r.startedAt) ≤ Duration.asMillisU64 timeout ↔
      Duration.asMillis (r.endedAt - r.startedAt) % 18446744073709551616 ≤
        Duration.asMillis timeout % 18446744073709551616 := by
    rw [UInt64.le_iff_toNat_le]
    rfl
  unfold Report.result Report.AllSucceed
  rw [← hle]
  simp [and_assoc]

theorem time_le (hr : r.Ordered) (hb : r.Budgeted timeout) (hp : r.Punctual) (hall : r.AllSucceed) :
    r.endedAt - r.startedAt ≤ timeout := by
  have htotal := total_le hr hb hp
  have hpos := hb.drained hall.1
  rw [hb.drain] at hpos
  have hleft : r.drainAt - r.startedAt ≤ timeout := (Nat.lt_of_sub_pos hpos).le
  exact htotal.trans (max_le (Nat.le_refl _) hleft)

/-- The result is right but where the milliseconds of the timeout wrap below those that
have passed. -/
theorem sound_iff (hr : r.Ordered) (hb : r.Budgeted timeout) (hp : r.Punctual) :
    r.Sound timeout (r.result timeout) ↔ (r.AllSucceed →
      Duration.asMillis (r.endedAt - r.startedAt) % 18446744073709551616 ≤
        Duration.asMillis timeout % 18446744073709551616) := by
  have htotal := total_le hr hb hp
  have htime := time_le hr hb hp
  constructor
  · rintro ⟨-,hverdict⟩ hall
    exact ((result_clean_iff timeout r).mp (hverdict.mpr ⟨hall,htime hall⟩)).2
  · intro hmillis
    refine ⟨htotal,?_⟩
    rw [result_clean_iff]
    constructor
    · rintro ⟨hall,-⟩
      exact ⟨hall,htime hall⟩
    · rintro ⟨hall,-⟩
      exact ⟨hall,hmillis hall⟩

theorem keeps_of_fits (hfits : timeout.asMillis < 18446744073709551616) : Keeps timeout := by
  rintro config n actions r result rfl hreturned hp
  have hw := run_followed config n actions
  obtain rfl := hreturned.result_eq hw
  obtain ⟨calls,hcalls,hpast⟩ := hreturned
  obtain ⟨later,hlater⟩ := hpast
  have horder : InOrder calls := by
    have hall := hw.ordered
    rw [← hlater] at hall
    exact (inOrder_cons (inOrder_cons (inOrder_suffix hall)).2).2
  obtain ⟨hr,hb⟩ := report_ordered hcalls horder
  refine (sound_iff hr hb hp).mpr fun hall => ?_
  have hle := time_le hr hb hp hall
  have hmillis : Duration.asMillis (r.endedAt - r.startedAt) ≤ config.shutdownTimeout.asMillis :=
    Nat.div_le_div_right hle
  rwa [Nat.mod_eq_of_lt hfits,Nat.mod_eq_of_lt (hmillis.trans_lt hfits)]

end Verdicts

end ShutdownDeadline
end KvmAgent
