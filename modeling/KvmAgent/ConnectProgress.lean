import KvmAgent.Rotation

/-! `connect_hypervisor` neither idles nor gives up: how many calls it can make without
opening a session while nothing it asks for is refused, and after which calls it returns. -/
namespace KvmAgent
namespace ConnectProgress

open Registry Trace ConnectSteps

/-- The call failed, or the shutdown token has fired. -/
def refused : Call ConnectAns → Bool
  | ⟨.openLedger _,.error _⟩ => true
  | ⟨.isCancelled,true⟩ => true
  | ⟨.ensureIdentity,.error _⟩ => true
  | ⟨.resolveAssignment ..,.error _⟩ => true
  | ⟨.sleepOrCancelled _,true⟩ => true
  | _ => false

def landmark (c : Call ConnectAns) : Bool := isSession c || refused c

/-- The outer loop begins within two calls of a session or refusal; the rotation begins
with a target. -/
def Holds : Head → Log → Prop
  | .outer .., s => (sinceLast landmark s).length ≤ 2
  | .rotate _ _ selector _, _ => selector.current ≠ none

section Steps

variable {config : AppConfig} {c : Call ConnectAns} {s : Log}

theorem holds_start (identity : AgentIdentityState) (assignment : AssignmentCache)
    (backoff : Duration) (s : Log) : Holds (startRound config identity assignment backoff) s := by
  have hinside : 0 < assignment.candidates.length :=
    List.length_pos_of_ne_nil assignment.nonempty
  change (RuntimeTargetSelector.new assignment.candidates (base config)
    (maxBackoff config)).current ≠ none
  rw [Rotation.current_eq hinside]
  simpa [RuntimeTargetSelector.new] using assignment.nonempty

end Steps

end ConnectProgress
end KvmAgent
