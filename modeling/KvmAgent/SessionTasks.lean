import KvmAgent.ConnectRuns
import KvmAgent.Session

/-! The tasks that sessions start, over runs of `connect_hypervisor`: a task that was
neither aborted nor ended on its own goes on when `run_session` returns. -/
namespace KvmAgent
namespace SessionTasks

open Fallible Session Registry ConnectSteps Trace

/-- The task was started and not aborted since. -/
def live (task : Task) : Trace Ans → Bool
  | [] => false
  | ⟨.spawn started _,_⟩::s => started = task || live task s
  | ⟨.abort aborted,_⟩::s => aborted ≠ task && live task s
  | _::s => live task s

/-- The channel of the telemetry client could not be built: the one failing channel that
follows an opened stream. -/
def telemetryRefused : Trace Ans → Bool
  | ⟨.channel _,.error _⟩::s => s.any fun
    | ⟨.openStream,.ok ()⟩ => true
    | _ => false
  | _ => false

structure SessionCall where
  target : String
  rounds : ℕ
  choices : List (Call Ans)

variable (crates : Crates) (facts : HostFacts)

namespace SessionCall

def outcome (c : SessionCall) : Option (Unit ⊕ Except AnyhowError Unit) :=
  ((runSession crates facts c.target c.rounds).run recorder c.choices []).1

def trace (c : SessionCall) : Trace Ans :=
  ((runSession crates facts c.target c.rounds).run recorder c.choices []).2

end SessionCall

/-- The calls are those the agent made and saw return, latest first. -/
def Details (log : Log) (calls : List SessionCall) : Prop :=
  List.Forall₂ (fun entry c => ∃ identity assignment e,
      entry = ⟨.runSession identity assignment c.target,e⟩ ∧
        c.outcome crates facts = some (.inr e.result))
    (log.filter isSession) calls

/-- Each call that returned has aborted its tasks, and one heartbeat loop is live at most,
be it of a call that returned or of the one that goes on. -/
def Contained (calls : List SessionCall) (current : SessionCall) : Prop :=
  (∀ c ∈ calls, ∀ task, live task (c.trace crates facts) = false) ∧
    (current::calls).countP (fun c => live .heartbeat (c.trace crates facts)) ≤ 1

variable {crates facts}

theorem openSession_tasks (target : String) :
    (openSession facts target).run.Always recorder (fun _ => True) (fun r s => ∀ e, r = .error e →
      ((∀ task, live task s = false) ↔ telemetryRefused s = false)) [] := by
  refine always_record.mpr ⟨trivial,fun r => ?_⟩
  cases r with
  | error e => exact ⟨trivial,fun _ _ => ⟨fun _ => rfl,fun _ task => rfl⟩⟩
  | ok _ =>
    refine always_record.mpr ⟨trivial,fun now => always_record.mpr ⟨trivial,fun seq =>
      always_record.mpr ⟨trivial,fun r => ?_⟩⟩⟩
    cases r with
    | error e => exact ⟨trivial,fun _ _ => ⟨fun _ => rfl,fun _ task => rfl⟩⟩
    | ok _ =>
      refine always_record.mpr ⟨trivial,fun r => ?_⟩
      cases r with
      | error e => exact ⟨trivial,fun _ _ => ⟨fun _ => rfl,fun _ task => rfl⟩⟩
      | ok _ =>
        refine always_record.mpr ⟨trivial,fun _ => always_record.mpr ⟨trivial,fun r => ?_⟩⟩
        cases r with
        | error e =>
          refine ⟨trivial,fun _ _ => ⟨fun h => ?_,fun h => ?_⟩⟩
          · exact absurd (h .heartbeat) (by simp [live])
          · simp [telemetryRefused] at h
        | ok _ =>
          exact always_record.mpr ⟨trivial,fun _ => always_record.mpr ⟨trivial,fun _ =>
            ⟨trivial,by simp⟩⟩⟩

/-- A call of `run_session` leaves a task behind when the telemetry channel could not be
built, and then only. -/
theorem runSession_tasks (target : String) (rounds : ℕ) :
    (runSession crates facts target rounds).Always recorder (fun _ => True)
      (fun r s => ∀ result, r = .inr result →
        ((∀ task, live task s = false) ↔ telemetryRefused s = false)) [] := by
  refine Prog.always_bind.mpr ((openSession_tasks target).mono (fun _ ht => ht) fun r s _ hr => ?_)
  cases r with
  | error e => exact ⟨trivial,fun _ _ => hr e rfl⟩
  | ok streamId =>
    refine Prog.always_bind.mpr ((Prog.always_true _ s).mono (fun _ ht => ht) fun o t _ _ => ?_)
    cases o with
    | inl _ => exact ⟨trivial,by simp⟩
    | inr result =>
      refine always_ask.mpr ⟨trivial,fun _ => always_ask.mpr ⟨trivial,fun _ =>
        always_ask.mpr ⟨trivial,fun _ => ⟨trivial,fun _ _ => ⟨fun _ => rfl,fun _ task => ?_⟩⟩⟩⟩⟩
      cases task <;> simp [live]

theorem SessionCall.tasks_iff (c : SessionCall) {result : Except AnyhowError Unit}
    (h : c.outcome crates facts = some (.inr result)) :
    (∀ task, live task (c.trace crates facts) = false) ↔
      telemetryRefused (c.trace crates facts) = false :=
  ((runSession_tasks c.target c.rounds).run c.choices).2 _ h result rfl

theorem Details.returned {log : Log} {calls : List SessionCall} (h : Details crates facts log calls)
    {c : SessionCall} (hc : c ∈ calls) : ∃ result, c.outcome crates facts = some (.inr result) := by
  unfold Details at h
  generalize log.filter isSession = sessions at h
  induction h with
  | nil => simp at hc
  | cons hentry _ ih =>
    rcases List.mem_cons.mp hc with rfl | hc
    · obtain ⟨_,_,e,_,houtcome⟩ := hentry
      exact ⟨_,houtcome⟩
    · exact ih hc

variable (crates facts)

/-- In every run of `connect_hypervisor`, at every moment of the session that goes on, no
task has outlived its session and one heartbeat loop is live at most exactly when no
earlier session failed to build its telemetry channel. -/
theorem contained_iff (config : AppConfig) (n : ℕ) (choices : List (Call ConnectAns))
    (calls : List SessionCall) (current : SessionCall)
    (details : Details crates facts ((connectHypervisor config n).run recorder choices []).2 calls) :
    Contained crates facts calls current ↔
      ∀ c ∈ calls, telemetryRefused (c.trace crates facts) = false := by
  constructor
  · intro h c hc
    obtain ⟨result,houtcome⟩ := details.returned hc
    exact (c.tasks_iff houtcome).mp (h.1 c hc)
  · intro h
    have htasks : ∀ c ∈ calls, ∀ task, live task (c.trace crates facts) = false := by
      intro c hc
      obtain ⟨result,houtcome⟩ := details.returned hc
      exact (c.tasks_iff houtcome).mpr (h c hc)
    refine ⟨htasks,?_⟩
    have hnone : calls.countP (fun c => live .heartbeat (c.trace crates facts)) = 0 :=
      List.countP_eq_zero.mpr fun c hc => by simp [htasks c hc .heartbeat]
    rw [List.countP_cons,hnone]
    split <;> simp

def beating (target : String) : List (Call Ans) :=
  [⟨.channel target,.ok ()⟩,⟨.now,(0:ℤ)⟩,⟨.fetchAdd,(1:UInt64)⟩,
    ⟨.send (registerFrame { agentId := "agent", hostId := "host" } "agent-0" 1),.ok ()⟩,
    ⟨.openStream,.ok ()⟩,⟨.spawn .heartbeat "agent-0",()⟩]

def closing : SessionCall :=
  ⟨"dp-1:443",1,beating "dp-1:443" ++ [⟨.channel "dp-1:443",.ok ()⟩,⟨.spawn .telemetry "agent-0",()⟩,
    ⟨.spawn .refresh "agent-0",()⟩,⟨.sessionEvent,.closed⟩,⟨.abort .heartbeat,()⟩,
    ⟨.abort .telemetry,()⟩,⟨.abort .refresh,()⟩]⟩

theorem closing_contained :
    Contained ⟨id,fun _ => .ok .null⟩ { agentId := "agent", hostId := "host" } [closing]
      ⟨"dp-1:443",1,beating "dp-1:443"⟩ :=
  (contained_iff ⟨id,fun _ => .ok .null⟩ { agentId := "agent", hostId := "host" } AppConfig.defaults 4
    (ConnectRuns.opening ++ ConnectRuns.resolving none ConnectRuns.oneTarget ++
      [ConnectRuns.session ConnectRuns.oneTarget "dp-1:443" .ok]) [closing] _
    (.cons ⟨_,_,_,rfl,by decide⟩ .nil)).mpr (by decide)

def telemetryFailed : AnyhowError := (AnyhowError.msg "transport error")

def refusing : SessionCall :=
  ⟨"dp-1:443",1,beating "dp-1:443" ++ [⟨.channel "dp-1:443",.error telemetryFailed⟩]⟩

/-- The agent fails over, and two heartbeat loops are live. -/
theorem heartbeat_outlives : ¬∀ crates facts (config : AppConfig) (n : ℕ)
    (choices : List (Call ConnectAns)) (calls : List SessionCall) (current : SessionCall),
    Details crates facts ((connectHypervisor config n).run recorder choices []).2 calls →
      Contained crates facts calls current := by
  intro h
  have hcontained := h ⟨id,fun _ => .ok .null⟩ { agentId := "agent", hostId := "host" }
    AppConfig.defaults 4 (ConnectRuns.opening ++ ConnectRuns.resolving none ConnectRuns.twoTargets ++
      [ConnectRuns.session ConnectRuns.twoTargets "dp-1:443" (.err telemetryFailed)] ++
      ConnectRuns.failover) [refusing] ⟨"dp-2:443",1,beating "dp-2:443"⟩
    (.cons ⟨_,_,_,rfl,by decide⟩ .nil)
  exact absurd hcontained.2 (by decide)

end SessionTasks
end KvmAgent
