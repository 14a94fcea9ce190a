import KvmAgent.Session
import KvmAgent.Threads
import KvmAgent.Tickets

/-! A control session as its threads on the shared outbound channel: the message loop and
the heartbeat task take numbers from one counter and put their frames into one queue. -/
namespace KvmAgent
namespace FrameStream

open Session

inductive SessionThread
  | main | heartbeat
  deriving DecidableEq

abbrev Frame := Entry SessionThread AgentToHypervisor

/-- The counter, which is `next` modulo `2 ^ 64` in the `AtomicU64`, and the channel,
oldest frames first. The frames remember who numbered them how. -/
structure Stream where
  next : ℕ := 1
  held : SessionThread → Option ℕ := fun _ => none
  queue : List Frame := []
  left : List Frame := []
  closed : Bool := false

def capacity : ℕ := 100

def channelClosed : AnyhowError := .msg "channel closed"

namespace Stream

def take (s : Stream) (i : SessionThread) : Stream :=
  { s with next := s.next+1, held := Function.update s.held i (some s.next) }

def letGo (s : Stream) (i : SessionThread) : Stream :=
  { s with held := Function.update s.held i none }

def push (s : Stream) (i : SessionThread) (m : ℕ) (f : AgentToHypervisor) : Stream :=
  { s.letGo i with queue := s.queue ++ [⟨i,m,f⟩] }

def frames (s : Stream) : List Frame := s.left ++ s.queue

def tickets (s : Stream) : Tickets SessionThread AgentToHypervisor := ⟨s.next,s.held,s.frames⟩

end Stream

/-- What each operation of a session does; `send` waits while the channel is full, and the
environment answers all that is not about the counter or the channel. -/
def handler (i : SessionThread) : Handler Ans (Call Ans) Stream := fun o c s =>
  match o with
  | .fetchAdd => some (UInt64.ofNat s.next,s.take i)
  | .send f =>
    if s.closed then some (.error channelClosed,s.letGo i)
    else if s.queue.length < capacity then some (.ok (),s.push i ((s.held i).getD 0) f)
    else none
  | o => if h : c.1 = o then some (h ▸ c.2,s) else none

/-- What the transport does with the channel: it takes the next frame, or drops its end
with all that is queued. -/
inductive Outside
  | receive | close

def outside : Outside → Stream → Stream
  | .receive, s =>
    match s.queue with
    | [] => s
    | f::queue => { s with queue := queue, left := s.left ++ [f] }
  | .close, s => { s with queue := [], closed := true }

variable (crates : Crates) (facts : HostFacts) (target : String) (rounds beats : ℕ)

def heartbeatThread (streamId : String) : Prog Ans Unit :=
  runHeartbeatLoop (hostRegistrationFromFacts facts) streamId beats >>= fun _ => .ret ()

def spawns : Op → Option (SessionThread × Prog Ans Unit)
  | .spawn .heartbeat streamId => some (.heartbeat,heartbeatThread facts beats streamId)
  | _ => none

/-- The threads of a session. `abort` returns at once, and where it leaves the heartbeat
task is up to the schedule. -/
def session : Threads SessionThread Ans (Call Ans) Outside Stream where
  handler := handler
  env := outside
  spawns := spawns facts beats

abbrev State := Threads.Config SessionThread Ans Stream

def mainThread : Prog Ans Unit := runSession crates facts target rounds >>= fun _ => .ret ()

def opening : State where
  pool
    | .main => ⟨mainThread crates facts target rounds,[]⟩
    | .heartbeat => Threads.idle
  shared := {}

abbrev Action := Threads.Action SessionThread (Call Ans) Outside

def sent (actions : List Action) : List Frame :=
  ((session facts beats).after (opening crates facts target rounds) actions).shared.left

section Steps

variable {i : SessionThread} {s t : Stream}

@[simp] theorem frames_push {m : ℕ} {f : AgentToHypervisor} :
    (s.push i m f).frames = s.frames ++ [⟨i,m,f⟩] := by
  simp [Stream.push,Stream.frames,Stream.letGo]

theorem tickets_push {m : ℕ} {f : AgentToHypervisor} :
    (s.push i m f).tickets = s.tickets.put i m f := by
  simp [Stream.tickets,Stream.push,Stream.letGo,Tickets.put,Tickets.release,Stream.frames]

@[simp] theorem held_outside (e : Outside) : (outside e s).held = s.held := by
  cases e with
  | receive => cases hq : s.queue <;> simp [outside,hq]
  | close => rfl

@[simp] theorem next_outside (e : Outside) : (outside e s).next = s.next := by
  cases e with
  | receive => cases hq : s.queue <;> simp [outside,hq]
  | close => rfl

@[simp] theorem closed_receive : (outside .receive s).closed = s.closed := by
  cases hq : s.queue <;> simp [outside,hq]

theorem frames_receive : (outside .receive s).frames = s.frames := by
  cases hq : s.queue <;> simp [outside,hq,Stream.frames]

theorem frames_outside (e : Outside) : (outside e s).frames.Sublist s.frames := by
  cases e with
  | receive => rw [frames_receive]
  | close => simp [outside,Stream.frames]

theorem tickets_outside (e : Outside) :
    (outside e s).tickets = s.tickets.keep (outside e s).frames := by
  simp [Stream.tickets,Tickets.keep]

def Aside (o : Op) : Prop := o ≠ .fetchAdd ∧ ∀ f, o ≠ .send f

inductive Answered (i : SessionThread) (s : Stream) : Call Ans → Stream → Prop
  | taken : Answered i s ⟨.fetchAdd,UInt64.ofNat s.next⟩ (s.take i)
  | refused (f : AgentToHypervisor) (e : AnyhowError) (isClosed : s.closed = true) :
    Answered i s ⟨.send f,.error e⟩ (s.letGo i)
  | pushed (f : AgentToHypervisor) (isOpen : s.closed = false) :
    Answered i s ⟨.send f,.ok ()⟩ (s.push i ((s.held i).getD 0) f)
  | aside (c : Call Ans) (other : Aside c.1) : Answered i s c s

theorem handler_answered {o : Op} {c : Call Ans} {x : Ans o}
    (h : handler i o c s = some (x,t)) : Answered i s ⟨o,x⟩ t := by
  have hother (ho : Aside o) (hh : (if h : c.1 = o then some (h ▸ c.2,s) else none) = some (x,t)) :
      Answered i s ⟨o,x⟩ t := by
    split at hh
    · cases hh
      exact .aside _ ho
    · cases hh
  cases o with
  | fetchAdd =>
    cases h
    exact .taken
  | send f =>
    simp only [handler] at h
    split at h
    · cases h
      exact .refused f _ ‹s.closed = true›
    · split at h
      · cases h
        exact .pushed f (by simpa using ‹¬s.closed = true›)
      · cases h
  | _ => exact hother (by simp [Aside]) h

variable {c : Call Ans} {j : SessionThread}

theorem Answered.held_other (h : Answered i s c t) (hj : j ≠ i) : t.held j = s.held j := by
  cases h <;> simp [Stream.take,Stream.letGo,Stream.push,hj]

theorem Answered.closed_eq (h : Answered i s c t) : t.closed = s.closed := by
  cases h <;> rfl

theorem Answered.frames_eq (h : Answered i s c t) : t.frames = s.frames ∨
    ∃ f, s.closed = false ∧ c = ⟨.send f,.ok ()⟩ ∧
      t.frames = s.frames ++ [⟨i,(s.held i).getD 0,f⟩] := by
  cases h with
  | pushed f isOpen => exact .inr ⟨f,isOpen,rfl,frames_push⟩
  | _ => exact .inl rfl

end Steps
end FrameStream
end KvmAgent
