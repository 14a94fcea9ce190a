import KvmAgent.Registration

/-! One control session: its heartbeat task and the loop that registers the host and
handles the messages of the server. -/
namespace KvmAgent
namespace Session

open Fallible Registration

variable (crates : Crates) (facts : HostFacts)

def heartbeatFrame (registration : HostRegistration) (streamId : String) (seq : UInt64)
    (now : SystemTime) : AgentToHypervisor :=
  ⟨streamId,seq,.heartbeat
    { agentId := registration.agentId
      hostId := registration.hostId
      status := "online"
      lastSeenAt := systemTimeToTimestamp now }⟩

/-- One round of `run_heartbeat_loop`. -/
def heartbeatStep (registration : HostRegistration) (streamId : String) :
    Unit → Prog Ans (Unit ⊕ Unit) := fun _ => do
  match ← Prog.op Op.tick with
  | false => return .inr ()
  | true =>
    let seq ← Prog.op Op.fetchAdd
    let now ← Prog.op Op.now
    match ← Prog.op (Op.send (heartbeatFrame registration streamId seq now)) with
    | .error _ => return .inr ()
    | .ok () => return .inl ()

/-- `run_heartbeat_loop`, for at most `n` rounds. -/
def runHeartbeatLoop (registration : HostRegistration) (streamId : String) (n : ℕ) :
    Prog Ans (Unit ⊕ Unit) :=
  Prog.loop (heartbeatStep registration streamId) n ()

def newStreamId (agentId : String) (now : SystemTime) : String :=
  agentId ++ "-" ++ toString now.sinceEpoch.asSecs

/-- `run_session` up to its message loop; the register frame is in the channel before the
stream is opened. -/
def openSession (target : String) : Agent String := do
  attempt (Prog.op (Op.channel target))
  let now ← ask Op.now
  let streamId := newStreamId facts.agentId now
  let seq ← ask Op.fetchAdd
  match ← ask (Op.send (registerFrame facts streamId seq)) with
  | .error e => throw (.msg ("failed to send initial register frame: " ++ e.toString))
  | .ok () => do
    attempt (Prog.op Op.openStream)
    ask (Op.spawn .heartbeat streamId)
    attempt (Prog.op (Op.channel target))
    ask (Op.spawn .telemetry streamId)
    ask (Op.spawn .refresh streamId)
    return streamId

def sessionStep (streamId : String) :
    Unit → Prog Ans (Unit ⊕ Except AnyhowError Unit) := fun _ => do
  match ← Prog.op Op.sessionEvent with
  | .cancelled | .closed => return .inr (.ok ())
  | .assignmentChanged => return .inr (.error (.msg "runtime assignment changed"))
  | .refreshEnded => return .inl ()
  | .status err => return .inr (.error err)
  | .message body =>
    match ← (handleServerMessage crates facts streamId body).run with
    | .ok () => return .inl ()
    | .error err => return .inr (.error err)

/-- `run_session`, for at most `n` rounds of its message loop. -/
def runSession (target : String) (n : ℕ) : Prog Ans (Unit ⊕ Except AnyhowError Unit) := do
  match ← (openSession facts target).run with
  | .error e => return .inr (.error e)
  | .ok streamId =>
    match ← Prog.loop (sessionStep crates facts streamId) n () with
    | .inl () => return .inl ()
    | .inr result =>
      Prog.op (Op.abort .heartbeat)
      Prog.op (Op.abort .telemetry)
      Prog.op (Op.abort .refresh)
      return .inr result

end Session
end KvmAgent
