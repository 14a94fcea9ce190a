import KvmAgent.Lifecycle
import Mathlib.Data.List.Induction
import Mathlib.Order.Nat

/-! `GrpcServer::shutdown` against `GrpcServer::run`: the wait for the server to stop, and
when the notification that it has stopped is missed. -/
namespace KvmAgent
namespace ServerShutdown

open Lifecycle

variable (config : Settings) (timeout : Duration) (n : ℕ)

/-- A call of `shutdown`, which tells its caller what it returns. -/
def caller : Prog ProcessAns Unit :=
  GrpcServer.shutdown timeout n >>= fun ok => Prog.op (ProcessOp.closed ok)

def opening : State where
  pool
    | .main => ⟨caller timeout n,[]⟩
    | .grpc => ⟨GrpcServer.run config.parsed,[]⟩
    | _ => Threads.idle
  shared := .new

def after (actions : List Action) : State :=
  (process config n).after (opening config timeout n) actions

def told : Trace ProcessAns → Option Bool
  | [] => none
  | ⟨.closed ok,_⟩::_ => some ok
  | _::s => told s

def returned (t : Thread ProcessAns) : Option Bool :=
  match t.rest with
  | .call (.closed ok) _ => some ok
  | _ => told t.past

def deadline : Trace ProcessAns → Option ℕ
  | [] => none
  | ⟨.now,now⟩::s => (deadline s).or (some (now + timeout))
  | _::s => deadline s

/-- `run` has cleared `running` and called `notify_waiters`. -/
def Stopped (w : State) : Prop := w.shared.flags .running = false ∧ 0 < w.shared.calls .drained

/-- `shutdown` waits on a notification made after `notify_waiters` was called. -/
def Stranded (w : State) : Prop :=
  Stopped w ∧ ∃ seen by' k, (w.pool .main).rest = .call (.await (.notified .drained seen) by') k ∧
    w.shared.calls .drained ≤ seen

/-- The server has stopped and the deadline has not passed. -/
def StoppedInTime (w : State) : Prop :=
  Stopped w ∧ ∀ t, deadline timeout (w.pool .main).past = some t → w.shared.clock < t

/-- In no state of the run is the wakeup lost, nor is it when `shutdown` takes its next step;
once the server has stopped in time `shutdown` returns `true`, in four steps at most. -/
def Heard (actions : List Action) : Prop :=
  ∀ earlier later, actions = earlier ++ later →
    ¬Stranded (after config timeout n earlier) ∧
    (∀ c, ¬Stranded (after config timeout n (earlier ++ [.run .main c]))) ∧
    (StoppedInTime timeout (after config timeout n earlier) →
      returned ((after config timeout n actions).pool .main) ≠ some false ∧
      ∀ choices : List Bool, 4 ≤ choices.length →
        returned ((after config timeout n (earlier ++ choices.map (.run .main))).pool .main) =
          some true)

/-- The server notifies while `shutdown` has seen it run and not yet made its notification. -/
def Overtakes (w : State) : Action → Prop
  | .run .grpc _ => (∃ k, (w.pool .grpc).rest = .call (.notifyWaiters .drained) k) ∧
      ∃ k, (w.pool .main).rest = .call (.notified .drained) k
  | _ => False


/-- How far `shutdown` has come, with the rounds that are left to its loop. -/
inductive Phase
  | opening (rounds steps : ℕ)
  | checking (rounds : ℕ)
  | passed (rounds : ℕ)
  | waiting (rounds seen : ℕ)
  | closing (ok : Bool)
  | closed (ok : Bool)

namespace Phase

def result : Phase → Option Bool
  | .closing ok | .closed ok => some ok
  | _ => none

def told : Phase → Option Bool
  | .closed ok => some ok
  | _ => none

def left : Phase → ℕ
  | .opening _ steps => steps + 2
  | .checking _ => 1
  | .passed _ | .waiting .. => 2
  | .closing _ | .closed _ => 0

end Phase

inductive Closes (timeout : Duration) : Option ℕ → Phase → Prog ProcessAns Unit → Prop
  | opened {rounds steps : ℕ} {o : ProcessOp} {k : ProcessAns o → Prog ProcessAns Unit}
    (ho : o = .store .serving false ∨ o = .spawnRelease)
    (hk : ∀ x, Closes timeout none (.opening rounds steps) (k x)) :
    Closes timeout none (.opening rounds (steps+1)) (.call o k)
  | timed {rounds : ℕ} {k : ℕ → Prog ProcessAns Unit}
    (hk : ∀ now, Closes timeout (some (now + timeout)) (.checking rounds) (k now)) :
    Closes timeout none (.opening rounds 0) (.call .now k)
  | check {t rounds : ℕ} {k : Bool → Prog ProcessAns Unit}
    (hup : Closes timeout (some t) (.passed rounds) (k true))
    (hdown : Closes timeout (some t) (.closing true) (k false)) :
    Closes timeout (some t) (.checking (rounds+1)) (.call (.load .running) k)
  | exhausted {t : ℕ} {k : Empty → Prog ProcessAns Unit} :
    Closes timeout (some t) (.checking 0) (.call .halt k)
  | create {t rounds : ℕ} {k : ℕ → Prog ProcessAns Unit}
    (hk : ∀ seen, Closes timeout (some t) (.waiting rounds seen) (k seen)) :
    Closes timeout (some t) (.passed rounds) (.call (.notified .drained) k)
  | wait {t rounds seen : ℕ} {k : Bool → Prog ProcessAns Unit}
    (hwoken : Closes timeout (some t) (.checking rounds) (k true))
    (hlate : Closes timeout (some t) (.closing false) (k false)) :
    Closes timeout (some t) (.waiting rounds seen) (.call (.await (.notified .drained seen) t) k)
  | close {t : ℕ} {ok : Bool} {k : Unit → Prog ProcessAns Unit}
    (hk : Closes timeout (some t) (.closed ok) (k ())) :
    Closes timeout (some t) (.closing ok) (.call (.closed ok) k)
  | ret {t : ℕ} {ok : Bool} : Closes timeout (some t) (.closed ok) (.ret ())

/-- What is left of the server while `running` and the calls of `notify_waiters` are these. -/
inductive Serves : (running : Bool) → (calls : ℕ) → Prog ProcessAns Unit → Prop
  | aside {running : Bool} {o : ProcessOp} {k : ProcessAns o → Prog ProcessAns Unit}
    (ho : o = .putShutdownTx ∨ o = .serve) (hk : ∀ x, Serves running 0 (k x)) :
    Serves running 0 (.call o k)
  | start {k : Unit → Prog ProcessAns Unit} (hk : Serves true 0 (k ())) :
    Serves false 0 (.call (.store .running true) k)
  | stop {k : Unit → Prog ProcessAns Unit} (hk : Serves false 0 (k ())) :
    Serves true 0 (.call (.store .running false) k)
  | notify {k : Unit → Prog ProcessAns Unit} (hk : Serves false 1 (k ())) :
    Serves false 0 (.call (.notifyWaiters .drained) k)
  | ret : Serves false 1 (.ret ())

section Programs

variable {timeout : Duration}

theorem run_serves (parsed : Bool) : Serves false 0 (GrpcServer.run parsed) := by
  cases parsed with
  | false => exact .notify .ret
  | true =>
    exact .aside (.inl rfl) fun _ => .start (.aside (.inr rfl) fun _ => .stop (.notify .ret))

theorem waitRunning_closes (t rounds : ℕ) :
    Closes timeout (some t) (.checking rounds)
      (loop (GrpcServer.waitRunning t) rounds () >>= fun ok => Prog.op (ProcessOp.closed ok)) := by
  induction rounds with
  | zero => exact .exhausted
  | succ rounds ih => exact .check (.create fun seen => .wait ih (.close .ret)) (.close .ret)

theorem caller_closes (rounds : ℕ) :
    Closes timeout none (.opening rounds 2) (caller timeout rounds) :=
  .opened (.inl rfl) fun _ => .opened (.inr rfl) fun _ => .timed fun now =>
    waitRunning_closes (now + timeout) rounds

end Programs

section Answers

inductive Moves (p : AppContext) : Option ℕ → Phase → Phase → Prop
  | opened {rounds steps : ℕ} : Moves p none (.opening rounds (steps+1)) (.opening rounds steps)
  | timed {rounds : ℕ} : Moves p none (.opening rounds 0) (.checking rounds)
  | up {t rounds : ℕ} (h : p.flags .running = true) :
    Moves p (some t) (.checking (rounds+1)) (.passed rounds)
  | down {t rounds : ℕ} : Moves p (some t) (.checking (rounds+1)) (.closing true)
  | created {t rounds : ℕ} :
    Moves p (some t) (.passed rounds) (.waiting rounds (p.calls .drained))
  | woken {t rounds seen : ℕ} (h : seen < p.calls .drained) :
    Moves p (some t) (.waiting rounds seen) (.checking rounds)
  | late {t rounds seen : ℕ} (h : p.calls .drained ≤ seen) (hlate : t ≤ p.clock) :
    Moves p (some t) (.waiting rounds seen) (.closing false)
  | told {t : ℕ} {ok : Bool} : Moves p (some t) (.closing ok) (.closed ok)

variable {timeout : Duration} {config : Settings} {n : ℕ} {past : Trace ProcessAns} {ph : Phase}
  {o : ProcessOp} {k : ProcessAns o → Prog ProcessAns Unit} {c : Bool} {p q : AppContext}
  {x : ProcessAns o}

theorem Closes.spawns (h : Closes timeout (deadline timeout past) ph (.call o k)) :
    (process config n).spawns o = none := by
  generalize deadline timeout past = d at h
  cases h with
  | opened ho hk => rcases ho with rfl | rfl <;> rfl
  | _ => rfl

theorem Serves.spawns {running : Bool} {calls : ℕ} (h : Serves running calls (.call o k)) :
    (process config n).spawns o = none := by
  cases h with
  | aside ho hk => rcases ho with rfl | rfl <;> rfl
  | _ => rfl

theorem Closes.answered (hp : Closes timeout (deadline timeout past) ph (.call o k))
    (htold : told past = ph.told) (h : processHandler o c p = some (x,q)) :
    ∃ ph', Moves p (deadline timeout past) ph ph' ∧
      Closes timeout (deadline timeout (⟨o,x⟩::past)) ph' (k x) ∧
      told (⟨o,x⟩::past) = ph'.told ∧
      q.flags .running = p.flags .running ∧ q.calls = p.calls ∧ q.clock = p.clock := by
  generalize hd : deadline timeout past = d at hp
  cases hp with
  | opened ho hk =>
    rcases ho with rfl | rfl
    · cases h
      exact ⟨_,.opened,by simpa [deadline,hd] using hk (),htold,by simp [AppContext.store],rfl,rfl⟩
    · cases h
      exact ⟨_,.opened,by simpa [deadline,hd] using hk (),htold,rfl,rfl,rfl⟩
  | timed hk =>
    cases h
    exact ⟨_,.timed,by simpa [deadline,hd] using hk p.clock,htold,rfl,rfl,rfl⟩
  | check hup hdown =>
    cases h
    cases hrunning : p.flags .running with
    | true => exact ⟨_,.up hrunning,by simpa [deadline,hd] using hup,htold,rfl,rfl,rfl⟩
    | false => exact ⟨_,.down,by simpa [deadline,hd] using hdown,htold,rfl,rfl,rfl⟩
  | exhausted => cases h
  | create hk =>
    cases h
    exact ⟨_,.created,by simpa [deadline,hd] using hk _,htold,rfl,rfl,rfl⟩
  | wait hwoken hlate =>
    obtain ⟨rfl,⟨rfl,hready⟩ | ⟨rfl,hready,hdue⟩⟩ := await_cases h
    · exact ⟨_,.woken (by simpa [AppContext.ready] using hready),by simpa [deadline,hd] using hwoken,
        htold,rfl,rfl,rfl⟩
    · exact ⟨_,.late (by simpa [AppContext.ready] using hready) hdue,
        by simpa [deadline,hd] using hlate,htold,rfl,rfl,rfl⟩
  | close hk =>
    cases h
    exact ⟨_,.told,by simpa [deadline,hd] using hk,rfl,rfl,rfl,rfl⟩

theorem Serves.answered
    (hp : Serves (p.flags .running) (p.calls .drained) (.call o k))
    (h : processHandler o c p = some (x,q)) :
    Serves (q.flags .running) (q.calls .drained) (k x) ∧ q.clock = p.clock ∧
      (q.calls .drained = p.calls .drained ∨
        o = .notifyWaiters .drained ∧ p.calls .drained = 0 ∧ q.calls .drained = 1) := by
  generalize hrunning : p.flags .running = running at hp
  generalize hcalls : p.calls .drained = calls at hp
  cases hp with
  | aside ho hk =>
    rcases ho with rfl | rfl
    · cases h
      exact ⟨by simpa [hrunning,hcalls] using hk (),rfl,.inl (by simpa using hcalls)⟩
    · obtain rfl := serve_eq h
      exact ⟨by simpa [hrunning,hcalls] using hk x,rfl,.inl hcalls⟩
  | start hk =>
    cases h
    exact ⟨by simpa [AppContext.store,hcalls] using hk,rfl,.inl (by simpa [AppContext.store] using hcalls)⟩
  | stop hk =>
    cases h
    exact ⟨by simpa [AppContext.store,hcalls] using hk,rfl,.inl (by simpa [AppContext.store] using hcalls)⟩
  | notify hk =>
    cases h
    exact ⟨by simpa [AppContext.notify,hrunning,hcalls] using hk,rfl,
      .inr ⟨rfl,rfl,by simp [AppContext.notify,hcalls]⟩⟩

end Answers

section States

variable (config : Settings) {timeout : Duration} (n : ℕ) {w : State} {ph ph' : Phase} {a : Action}

structure Serving (timeout : Duration) (w : State) (ph : Phase) : Prop where
  closes : Closes timeout (deadline timeout (w.pool .main).past) ph (w.pool .main).rest
  told : told (w.pool .main).past = ph.told
  serves : Serves (w.shared.flags .running) (w.shared.calls .drained) (w.pool .grpc).rest
  idle : (w.pool .dispatcher).rest = .ret () ∧ (w.pool .connect).rest = .ret ()

theorem opening_serving : Serving timeout (opening config timeout n) (.opening n 2) :=
  ⟨caller_closes n,rfl,run_serves config.parsed,rfl,rfl⟩

theorem Serving.returned (hw : Serving timeout w ph) : returned (w.pool .main) = ph.result := by
  obtain ⟨hcloses,htold,-,-⟩ := hw
  unfold ServerShutdown.returned
  generalize (w.pool .main).rest = rest at hcloses ⊢
  generalize deadline timeout (w.pool .main).past = d at hcloses
  cases hcloses with
  | opened ho hk => rcases ho with rfl | rfl <;> exact htold
  | close hk => rfl
  | _ => exact htold

def Blocked (w : State) (c : Bool) : Prop :=
  ∀ o k, (w.pool .main).rest = .call o k → processHandler o c w.shared = none

inductive Changes (timeout : Duration) (w : State) (a : Action) (w' : State) : Phase → Phase → Prop
  | aside {ph : Phase} (hpast : (w'.pool .main).past = (w.pool .main).past)
    (hcalls : w'.shared.calls .drained = w.shared.calls .drained)
    (hclock : w.shared.clock ≤ w'.shared.clock)
    (hblocked : ∀ c, a = .run .main c → Blocked w c) : Changes timeout w a w' ph ph
  | notified {ph : Phase} {c : Bool} (ha : a = .run .grpc c)
    (hrest : ∃ k, (w.pool .grpc).rest = .call (.notifyWaiters .drained) k)
    (hmain : w'.pool .main = w.pool .main) (hbefore : w.shared.calls .drained = 0)
    (hafter : w'.shared.calls .drained = 1) (hclock : w.shared.clock = w'.shared.clock) :
    Changes timeout w a w' ph ph
  | moved {ph ph' : Phase}
    (hm : Moves w.shared (deadline timeout (w.pool .main).past) ph ph')
    (hpast : ∃ c, (w'.pool .main).past = c::(w.pool .main).past)
    (hcalls : w'.shared.calls = w.shared.calls) (hclock : w'.shared.clock = w.shared.clock) :
    Changes timeout w a w' ph ph'

theorem outside_serving (hw : Serving timeout w ph) (e : ProcessEvent) :
    Serving timeout { w with shared := processEvent e w.shared } ph ∧
      (processEvent e w.shared).calls .drained = w.shared.calls .drained ∧
      w.shared.clock ≤ (processEvent e w.shared).clock := by
  cases e with
  | tick d => exact ⟨⟨hw.closes,hw.told,hw.serves,hw.idle⟩,rfl,Nat.le_add_right _ d⟩
  | cancel =>
    exact ⟨⟨hw.closes,hw.told,by simpa [processEvent,AppContext.store] using hw.serves,hw.idle⟩,rfl,
      Nat.le_refl _⟩
  | release =>
    by_cases hr : w.shared.releases = 0
    · have hsame : processEvent .release w.shared = w.shared := if_pos hr
      rw [hsame]
      exact ⟨hw,rfl,Nat.le_refl _⟩
    · have hsent : processEvent .release w.shared = _ := if_neg hr
      rw [hsent]
      exact ⟨⟨hw.closes,hw.told,hw.serves,hw.idle⟩,rfl,Nat.le_refl _⟩

theorem step_serving (hw : Serving timeout w ph) (a : Action) :
    ∃ ph', Serving timeout ((process config n).step w a) ph' ∧
      Changes timeout w a ((process config n).step w a) ph ph' := by
  cases a with
  | env e =>
    obtain ⟨hserving,hcalls,hclock⟩ := outside_serving hw e
    exact ⟨ph,hserving,.aside rfl hcalls hclock (by simp)⟩
  | run i c =>
    cases hrest : (w.pool i).rest with
    | ret _ =>
      have hstep : (process config n).step w (.run i c) = w := by simp only [Threads.step,hrest]
      rw [hstep]
      refine ⟨ph,hw,.aside rfl rfl (Nat.le_refl _) fun c' hc o k hcall => ?_⟩
      cases hc
      simp [hrest] at hcall
    | call o k =>
      cases hh : processHandler o c w.shared with
      | none =>
        have hstep : (process config n).step w (.run i c) = w := by
          simp only [Threads.step,hrest,process,hh]
        rw [hstep]
        refine ⟨ph,hw,.aside rfl rfl (Nat.le_refl _) fun c' hc o' k' hcall => ?_⟩
        cases hc
        cases hrest.symm.trans hcall
        exact hh
      | some xq =>
        obtain ⟨x,q⟩ := xq
        have hstep : (process config n).step w (.run i c) =
            ⟨(process config n).answered w.pool i o x (k x),q⟩ := by
          simp only [Threads.step,hrest,process,hh]
        rw [hstep]
        cases i with
        | main =>
          have hcloses := hrest ▸ hw.closes
          obtain ⟨ph',hmoves,hcloses',htold,hrunning,hcalls,hclock⟩ := hcloses.answered hw.told hh
          rw [Threads.answered_none hcloses.spawns]
          exact ⟨ph',⟨by simpa using hcloses',by simpa using htold,
            by simpa [hrunning,hcalls] using hw.serves,by simpa using hw.idle⟩,
            .moved hmoves ⟨⟨o,x⟩,by simp⟩ hcalls hclock⟩
        | grpc =>
          have hserves := hrest ▸ hw.serves
          obtain ⟨hserves',hclock,hcalls⟩ := hserves.answered hh
          rw [Threads.answered_none hserves.spawns]
          refine ⟨ph,⟨by simpa using hw.closes,by simpa using hw.told,by simpa using hserves',
            by simpa using hw.idle⟩,?_⟩
          rcases hcalls with hcalls | ⟨rfl,hbefore,hafter⟩
          · exact .aside (by simp) hcalls hclock.symm.le (by simp)
          · exact .notified rfl ⟨k,hrest⟩ (by simp) hbefore hafter hclock.symm
        | dispatcher => simp [hw.idle.1] at hrest
        | connect => simp [hw.idle.2] at hrest

theorem deadline_cons {past : Trace ProcessAns} {t : ℕ} (h : deadline timeout past = some t)
    (c : Call ProcessAns) : deadline timeout (c::past) = some t := by
  obtain ⟨o,x⟩ := c
  cases o <;> simp [deadline,h]

/-- What holds in each phase while no notification overtook `shutdown`. -/
def Fit (calls clock : ℕ) (due : Option ℕ) : Phase → Prop
  | .opening rounds steps => 2 ≤ rounds ∧ steps ≤ 2
  | .checking rounds => 1 ≤ rounds ∧ (calls = 0 → 2 ≤ rounds)
  | .passed rounds => calls = 0 ∧ 1 ≤ rounds
  | .waiting rounds seen => seen = 0 ∧ 1 ≤ rounds
  | .closing ok | .closed ok => ok = false → ∃ t, due = some t ∧ t ≤ clock

structure Attentive (timeout : Duration) (w : State) (ph : Phase) : Prop extends
    Serving timeout w ph where
  fit : Fit (w.shared.calls .drained) w.shared.clock (deadline timeout (w.pool .main).past) ph

theorem opening_attentive :
    Attentive timeout (opening config timeout (n+2)) (.opening (n+2) 2) :=
  ⟨opening_serving config (n+2),Nat.le_add_left 2 n,Nat.le_refl 2⟩

theorem Serving.calls_of_running (hw : Serving timeout w ph)
    (h : w.shared.flags .running = true) : w.shared.calls .drained = 0 := by
  have hserves := hw.serves
  rw [h] at hserves
  generalize w.shared.calls .drained = calls at hserves
  generalize (w.pool .grpc).rest = rest at hserves
  cases hserves <;> rfl

theorem step_attentive (hw : Attentive timeout w ph) (ha : ¬Overtakes w a) :
    ∃ ph', Attentive timeout ((process config n).step w a) ph' ∧
      Changes timeout w a ((process config n).step w a) ph ph' := by
  obtain ⟨ph',hserving,hchange⟩ := step_serving config n hw.toServing a
  refine ⟨ph',⟨hserving,?_⟩,hchange⟩
  have hfit := hw.fit
  generalize (process config n).step w a = w' at hserving hchange ⊢
  cases hchange with
  | aside hpast hcalls hclock hblocked =>
    rw [hpast,hcalls]
    cases ph with
    | closing ok | closed ok =>
      intro hok
      obtain ⟨t,ht,hle⟩ := hfit hok
      exact ⟨t,ht,hle.trans hclock⟩
    | _ => exact hfit
  | notified hrun hrest hmain hbefore hafter hclock =>
    rw [hmain,hafter,← hclock]
    cases ph with
    | opening | waiting | closing | closed => exact hfit
    | checking rounds => exact ⟨hfit.1,by simp⟩
    | passed rounds =>
      subst hrun
      refine absurd ⟨hrest,?_⟩ ha
      have hcloses := hw.closes
      generalize deadline timeout (w.pool .main).past = d at hcloses
      generalize (w.pool .main).rest = rest at hcloses ⊢
      cases hcloses with
      | create hk => exact ⟨_,rfl⟩
  | moved hm hpast hcalls hclock =>
    obtain ⟨c,hpast⟩ := hpast
    rw [hpast,hcalls,hclock]
    generalize hd : deadline timeout (w.pool .main).past = d at hm hfit
    cases hm with
    | opened => exact ⟨hfit.1,(Nat.le_succ _).trans hfit.2⟩
    | timed => exact ⟨Nat.le_of_succ_le hfit.1,fun _ => hfit.1⟩
    | up hrunning =>
      have hcalls := hw.calls_of_running hrunning
      have hrounds := hfit.2 hcalls
      exact ⟨hcalls,by omega⟩
    | down => simp [Fit]
    | created => exact ⟨hfit.1,hfit.2⟩
    | woken hcalled =>
      obtain ⟨rfl,hrounds⟩ := hfit
      exact ⟨hrounds,by omega⟩
    | late hseen hlate => exact fun _ => ⟨_,deadline_cons hd c,hlate⟩
    | told =>
      intro hok
      obtain ⟨t,ht,hle⟩ := hfit hok
      exact ⟨t,deadline_cons (hd.trans ht) c,hle⟩

theorem Attentive.not_stranded (hw : Attentive timeout w ph) : ¬Stranded w := by
  rintro ⟨⟨-,hcalls⟩,seen,t,k,hrest,hseen⟩
  have hcloses := hw.closes
  have hfit := hw.fit
  rw [hrest] at hcloses
  generalize deadline timeout (w.pool .main).past = d at hcloses hfit
  cases hcloses with
  | opened ho hk => simp at ho
  | wait hwoken hlate =>
    obtain ⟨rfl,-⟩ := hfit
    omega

/-- The server has stopped, and the call of `shutdown` will not return `false`. -/
structure Ends (timeout : Duration) (w : State) (ph : Phase) : Prop extends
    Attentive timeout w ph where
  stopped : 0 < w.shared.calls .drained
  result : ph.result ≠ some false

theorem Serving.over (hw : Serving timeout w ph) (h : 0 < w.shared.calls .drained) :
    (w.pool .grpc).rest = .ret () := by
  have hserves := hw.serves
  generalize w.shared.flags .running = running at hserves
  generalize w.shared.calls .drained = calls at hserves h
  generalize (w.pool .grpc).rest = rest at hserves ⊢
  cases hserves with
  | ret => rfl
  | _ => simp at h

theorem Attentive.ends (hw : Attentive timeout w ph) (h : StoppedInTime timeout w) :
    Ends timeout w ph := by
  refine ⟨hw,h.1.2,fun hresult => ?_⟩
  have hfit := hw.fit
  have hlate : ∃ t, deadline timeout (w.pool .main).past = some t ∧ t ≤ w.shared.clock := by
    cases ph with
    | closing ok | closed ok => exact hfit (by simpa [Phase.result] using hresult)
    | _ => simp [Phase.result] at hresult
  obtain ⟨t,ht,hle⟩ := hlate
  exact absurd (h.2 t ht) (not_lt.mpr hle)

theorem step_ends (hw : Ends timeout w ph) (a : Action) :
    ∃ ph', Ends timeout ((process config n).step w a) ph' ∧
      Changes timeout w a ((process config n).step w a) ph ph' := by
  have hover := hw.over hw.stopped
  have hkeeps : ¬Overtakes w a := by
    cases a with
    | env e => exact id
    | run i c => cases i <;> simp [Overtakes,hover]
  obtain ⟨ph',hattentive,hchange⟩ := step_attentive config n hw.toAttentive hkeeps
  have hcalls := hw.stopped
  have hresult := hw.result
  have hfit := hw.fit
  refine ⟨ph',⟨hattentive,?_,?_⟩,hchange⟩
  · cases hchange with
    | aside hpast hsame hclock hblocked => rwa [hsame]
    | notified hrun hrest hmain hbefore hafter hclock =>
      rw [hafter]
      exact Nat.one_pos
    | moved hm hpast hsame hclock => rwa [hsame]
  · cases hchange with
    | moved hm hpast hsame hclock =>
      generalize deadline timeout (w.pool .main).past = d at hm hfit
      cases hm with
      | late hseen hlate =>
        obtain ⟨rfl,-⟩ := hfit
        omega
      | told => exact hresult
      | _ => simp [Phase.result]
    | _ => exact hresult

theorem Ends.blocked (hw : Ends timeout w ph) {c : Bool} (hblocked : Blocked w c) : ph.left = 0 := by
  have hcloses := hw.closes
  have hfit := hw.fit
  have hcalls := hw.stopped
  unfold Blocked at hblocked
  generalize deadline timeout (w.pool .main).past = d at hcloses hfit
  generalize (w.pool .main).rest = rest at hcloses hblocked
  cases hcloses with
  | opened ho hk => rcases ho with rfl | rfl <;> exact absurd (hblocked _ _ rfl) (by simp [processHandler])
  | wait hwoken hlate =>
    obtain ⟨rfl,-⟩ := hfit
    have hready : w.shared.ready (.notified .drained 0) = true := by simpa [AppContext.ready] using hcalls
    exact absurd (hblocked _ _ rfl) (by simp [processHandler,hready])
  | exhausted => simp [Fit] at hfit
  | close hk => rfl
  | ret => rfl
  | _ => exact absurd (hblocked _ _ rfl) (by simp [processHandler])

theorem step_left (hw : Ends timeout w ph) (c : Bool) :
    ∃ ph', Ends timeout ((process config n).step w (.run .main c)) ph' ∧ ph'.left ≤ ph.left - 1 := by
  obtain ⟨ph',hends,hchange⟩ := step_ends config n hw (.run .main c)
  have hfit := hw.fit
  refine ⟨ph',hends,?_⟩
  cases hchange with
  | aside hpast hsame hclock hblocked => rw [hw.blocked (hblocked c rfl)]
  | notified hrun => cases hrun
  | moved hm hpast hsame hclock =>
    generalize deadline timeout (w.pool .main).past = d at hm hfit
    cases hm with
    | created =>
      have hcalls := hw.stopped
      have hnone := hfit.1
      omega
    | up hrunning =>
      have hcalls := hw.stopped
      have hnone := hw.calls_of_running hrunning
      omega
    | _ => simp [Phase.left]

theorem run_ends (hw : Ends timeout w ph) (actions : List Action) :
    ∃ ph', Ends timeout ((process config n).after w actions) ph' := by
  induction actions generalizing w ph with
  | nil => exact ⟨ph,hw⟩
  | cons a actions ih =>
    obtain ⟨ph',hends,-⟩ := step_ends config n hw a
    exact ih hends

/-- Once the server has stopped, `shutdown` returns `true` by its own steps. -/
theorem run_left (hw : Ends timeout w ph) {choices : List Bool} (h : ph.left ≤ choices.length) :
    ∃ ph', Ends timeout ((process config n).after w (choices.map (.run .main))) ph' ∧
      ph'.result = some true := by
  induction choices generalizing w ph with
  | nil =>
    refine ⟨ph,hw,?_⟩
    have hresult := hw.result
    cases ph with
    | closing ok | closed ok => simpa [Phase.result] using hresult
    | _ => simp [Phase.left] at h
  | cons c choices ih =>
    obtain ⟨ph',hends,hleft⟩ := step_left config n hw c
    exact ih hends (by simp at h; omega)

theorem after_append (earlier later : List Action) :
    after config timeout n (earlier ++ later) =
      (process config n).after (after config timeout n earlier) later :=
  (process config n).after_append _ earlier later

theorem run_serving (timeout : Duration) (actions : List Action) :
    ∃ ph, Serving timeout (after config timeout n actions) ph := by
  induction actions using List.reverseRecOn with
  | nil => exact ⟨_,opening_serving config n⟩
  | append_singleton actions a ih =>
    obtain ⟨ph,hw⟩ := ih
    obtain ⟨ph',hw',-⟩ := step_serving config n hw a
    rw [after_append]
    exact ⟨ph',hw'⟩

theorem run_attentive (timeout : Duration) (actions : List Action)
    (h : ∀ earlier a later, actions = earlier ++ a::later →
      ¬Overtakes (after config timeout (n+2) earlier) a) :
    ∃ ph, Attentive timeout (after config timeout (n+2) actions) ph := by
  induction actions using List.reverseRecOn with
  | nil => exact ⟨_,opening_attentive config n⟩
  | append_singleton actions a ih =>
    obtain ⟨ph,hw⟩ := ih fun earlier b later hsplit => h earlier b (later ++ [a]) (by simp [hsplit])
    obtain ⟨ph',hw',-⟩ := step_attentive config (n+2) hw (h actions a [] rfl)
    rw [after_append]
    exact ⟨ph',hw'⟩

theorem Closes.waits {d : Option ℕ} {k : ℕ → Prog ProcessAns Unit}
    (h : Closes timeout d ph (.call (.notified .drained) k)) (seen : ℕ) :
    ∃ t k', k seen = .call (.await (.notified .drained seen) t) k' := by
  cases h with
  | opened ho hk => simp at ho
  | create hk =>
    have hcloses := hk seen
    generalize k seen = rest at hcloses ⊢
    cases hcloses with
    | wait hwoken hlate => exact ⟨_,_,rfl⟩

theorem Serves.notifies {running : Bool} {calls : ℕ} {k : Unit → Prog ProcessAns Unit}
    (h : Serves running calls (.call (.notifyWaiters .drained) k)) : running = false ∧ calls = 0 := by
  cases h with
  | aside ho hk => simp at ho
  | notify hk => exact ⟨rfl,rfl⟩

/-- After a step that overtakes, the next step of `shutdown` loses the wakeup. -/
theorem stranded_of_overtakes (hw : Serving timeout w ph) (h : Overtakes w a) (c : Bool) :
    Stranded ((process config n).after w [a,.run .main c]) := by
  rcases a with ⟨i,c'⟩ | e
  swap
  · exact h.elim
  cases i with
  | grpc =>
    obtain ⟨⟨k,hgrpc⟩,k',hmain⟩ := h
    obtain ⟨hrunning,hcalls⟩ := (hgrpc ▸ hw.serves).notifies
    obtain ⟨t,k'',hwait⟩ := (hmain ▸ hw.closes).waits 1
    have hnotified : (process config n).step w (.run .grpc c') =
        ⟨Function.update w.pool .grpc ⟨k (),⟨.notifyWaiters .drained,()⟩::(w.pool .grpc).past⟩,
          w.shared.notify .drained⟩ := by
      simp only [Threads.step,hgrpc,process,processHandler]
      exact congrArg (Threads.Config.mk · _) (Threads.answered_none rfl ..)
    have hcreated : (((process config n).step ((process config n).step w (.run .grpc c'))
        (.run .main c)).pool .main).rest = k' 1 ∧
        ((process config n).step ((process config n).step w (.run .grpc c'))
          (.run .main c)).shared = w.shared.notify .drained := by
      rw [hnotified]
      simp [Threads.step,hmain,process,processHandler,Threads.answered,spawns,AppContext.notify,hcalls]
    refine ⟨?_,1,t,k'',hcreated.1.trans hwait,?_⟩
    · simp [Threads.after,Stopped,hcreated.2,AppContext.notify,hrunning]
    · simp [Threads.after,hcreated.2,AppContext.notify,hcalls]
  | _ => exact h.elim

end States

/-- In every run of the server and a call of `shutdown`, the wakeup is never lost and the
call returns `true` if the server stops in time, exactly when the server never notifies
between the moment the call sees it run and the moment it makes its notification. -/
theorem wakeup_iff (config : Settings) (timeout : Duration) (n : ℕ) (actions : List Action) :
    Heard config timeout (n+2) actions ↔
      ∀ earlier a later, actions = earlier ++ a::later →
        ¬Overtakes (after config timeout (n+2) earlier) a := by
  constructor
  · rintro h earlier a later rfl hover
    obtain ⟨ph,hw⟩ := run_serving config (n+2) timeout earlier
    have hnext := (h (earlier ++ [a]) later (by simp)).2.1 false
    rw [List.append_assoc,after_append] at hnext
    exact hnext (stranded_of_overtakes config (n+2) hw hover false)
  · intro h earlier later hsplit
    obtain ⟨ph,hw⟩ := run_attentive config n timeout earlier
      fun e a l he => h e a (l ++ later) (by simp [hsplit,he])
    refine ⟨hw.not_stranded,fun c => ?_,fun hstopped => ⟨?_,fun choices hlength => ?_⟩⟩
    · obtain ⟨ph',hw',-⟩ := step_attentive config (n+2) hw
        (a := .run .main c) id
      rw [after_append]
      exact hw'.not_stranded
    · obtain ⟨ph',hends⟩ := run_ends config (n+2) (hw.ends hstopped) later
      rw [hsplit,after_append,hends.returned]
      exact hends.result
    · have hleft : ph.left ≤ choices.length := by
        have hfit := hw.fit
        cases ph <;> simp [Phase.left,Fit] at hfit ⊢ <;> omega
      obtain ⟨ph',hends,hresult⟩ := run_left config (n+2) (hw.ends hstopped) hleft
      rw [after_append,hends.returned]
      exact hresult

def sample : Settings := ⟨true,1,Duration.fromSecs 1⟩

/-- The server stops and notifies after `shutdown` has seen it run, and before `shutdown`
makes its notification. -/
def overtaking : List Action :=
  [.run .grpc false,.run .grpc false,.run .main false,.run .main false,.run .main false,
    .run .main false,.env .release,.run .grpc false,.run .grpc false,.run .grpc false,
    .run .main false]

theorem overtaking_stranded :
    Stranded (after sample (Duration.fromSecs 1) 2 overtaking) ∧
      returned ((after sample (Duration.fromSecs 1) 2
        (overtaking ++ [.env (.tick (Duration.fromSecs 1)),.run .main false])).pool .main) =
          some false ∧
      ¬∀ config timeout n actions, Heard config timeout (n+2) actions := by
  have hstranded : Stranded (after sample (Duration.fromSecs 1) 2 overtaking) :=
    ⟨⟨by decide,by decide⟩,1,_,_,rfl,by decide⟩
  refine ⟨hstranded,by decide,fun h => ?_⟩
  exact (h sample (Duration.fromSecs 1) 0 overtaking overtaking [] (by simp)).1 hstranded

end ServerShutdown
end KvmAgent
