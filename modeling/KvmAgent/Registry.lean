import KvmAgent.Bootstrap

/-! `connect_hypervisor`: the loop that keeps an identity, resolves the runtime assignment
and rotates through its targets, with the resolution and the refresh of assignments. -/
namespace KvmAgent

open RustText Fallible Machine

/-- `AssignmentCache`, with what `resolve_assignment` makes sure of its candidates. -/
structure AssignmentCache where
  preferredDpId : String
  preferredTarget : String
  candidates : List String
  assignmentEpoch : Int64
  refreshAfter : Duration
  expiresAt : SystemTime
  nonempty : candidates ≠ []
  clean : ∀ c ∈ candidates, Trimmed c ∧ c ≠ ""
  deriving DecidableEq

namespace Registry

def candidatesOf (response : ResolveRuntimeAssignmentResponse) : List String :=
  let candidates := (response.candidateDps.filter fun addr => trim addr ≠ "").map trim
  if candidates = [] ∧ trim response.preferredDpAddr ≠ "" then [trim response.preferredDpAddr]
  else candidates

theorem candidatesOf_clean (response : ResolveRuntimeAssignmentResponse) :
    ∀ c ∈ candidatesOf response, Trimmed c ∧ c ≠ "" := by
  intro c hc
  simp only [candidatesOf] at hc
  split at hc
  · next h =>
    rw [List.mem_singleton] at hc
    exact hc ▸ ⟨trimmed_trim _,h.2⟩
  · obtain ⟨addr,haddr,rfl⟩ := List.mem_map.mp hc
    exact ⟨trimmed_trim addr,by simpa using (List.mem_filter.mp haddr).2⟩

/-- `refresh_after_sec.max(5)`. -/
def refreshSecs (response : ResolveRuntimeAssignmentResponse) : ℕ :=
  (max response.refreshAfterSec.toInt 5).toNat

/-- `now + 2 * refresh_after`; `none` where the multiplication or the addition panics. -/
def expiresAt (response : ResolveRuntimeAssignmentResponse) (now : SystemTime) :
    Option SystemTime :=
  if 2 * refreshSecs response < 9223372036854775808 then now.add (Duration.fromSecs (2 * refreshSecs response))
  else none

def assignmentOf (response : ResolveRuntimeAssignmentResponse)
    (accepted : candidatesOf response ≠ []) (expires : SystemTime) : AssignmentCache where
  preferredDpId := response.preferredDpId
  preferredTarget := response.preferredDpAddr
  candidates := candidatesOf response
  assignmentEpoch := response.assignmentEpoch
  refreshAfter := Duration.fromSecs (refreshSecs response)
  expiresAt := expires
  nonempty := accepted
  clean := candidatesOf_clean response

def acceptAssignment (response : ResolveRuntimeAssignmentResponse) : Machine AssignmentCache :=
  if h : candidatesOf response = [] then
    throw (.msg "runtime assignment returned no dataplane candidates")
  else do
    let now ← ask MachineOp.now
    match expiresAt response now with
    | some expires => return assignmentOf response h expires
    | none =>
      let never ← ask MachineOp.panic
      never.elim

def resolveAssignment (config : AppConfig) (identity : AgentIdentityState) (facts : HostFacts)
    (current : Option AssignmentCache) : Machine AssignmentCache := do
  Bootstrap.buildMtlsChannelForControlplane config identity
  let response ← orFail (Prog.op (MachineOp.resolveRuntimeAssignment
    { agentId := facts.agentId
      hostId := facts.hostId
      zoneId := config.zoneId
      lastAssignmentEpoch := (current.map (·.assignmentEpoch)).getD 0
      currentDpId := (current.map (·.preferredDpId)).getD "" })) Status.toError
  acceptAssignment response

/-- `a` is what `resolve_assignment` makes of a response. -/
def Resolves (response : ResolveRuntimeAssignmentResponse) (a : AssignmentCache) : Prop :=
  ∃ accepted expires, a = assignmentOf response accepted expires

structure RuntimeTargetSelector where
  targets : List String
  index : ℕ
  backoff : Duration
  baseBackoff : Duration
  maxBackoff : Duration
  deriving DecidableEq

namespace RuntimeTargetSelector

def new (targets : List String) (baseBackoff maxBackoff : Duration) : RuntimeTargetSelector :=
  ⟨targets,0,baseBackoff,baseBackoff,maxBackoff⟩

def current (s : RuntimeTargetSelector) : Option String :=
  if s.targets = [] then none else s.targets[s.index % s.targets.length]?

def advance (s : RuntimeTargetSelector) : RuntimeTargetSelector :=
  if s.targets ≠ [] ∧ s.targets.length ≤ s.index + 1 then
    { s with targets := [], index := s.index + 1 }
  else
    { s with
      index := if s.targets = [] then s.index else s.index + 1
      backoff := min (s.backoff * 2) s.maxBackoff }

/-- The backoff with up to a fifth of jitter; the cap is cast to 64 bits. -/
def failoverDelay (s : RuntimeTargetSelector) (now : SystemTime) : Duration :=
  let jitterCap := max (s.backoff.asMillis / 5) 1 % 18446744073709551616
  s.backoff + Duration.fromMillis (now.sinceEpoch.subsecMillis % jitterCap)

end RuntimeTargetSelector

/-- How a session to `target` ends; `changed` when its refresh task resolved an assignment
that prefers another target. -/
inductive SessionEnd (target : String)
  | ok
  | err (e : AnyhowError)
  | changed (updated : AssignmentCache) (differs : updated.preferredTarget ≠ target)

def SessionEnd.result {target : String} : SessionEnd target → Except AnyhowError Unit
  | .ok => .ok ()
  | .err e => .error e
  | .changed .. => .error (.msg "runtime assignment changed")

/-- What `connect_hypervisor` calls; configuration, store and host facts are the same in
all calls. -/
inductive ConnectOp
  | openLedger (path : String)
  | collectHostFacts
  | isCancelled
  | ensureIdentity
  | resolveAssignment (identity : AgentIdentityState) (current : Option AssignmentCache)
  | runSession (identity : AgentIdentityState) (assignment : AssignmentCache) (target : String)
  | now
  | sleep (d : Duration)
  | sleepOrCancelled (d : Duration)
  deriving DecidableEq

/-- `sleepOrCancelled` answers whether the shutdown token fired first. -/
@[reducible] def ConnectAns : ConnectOp → Type
  | .openLedger _ => Except AnyhowError Unit
  | .collectHostFacts => Unit
  | .isCancelled => Bool
  | .ensureIdentity => Except AnyhowError AgentIdentityState
  | .resolveAssignment .. => Except AnyhowError AssignmentCache
  | .runSession _ _ target => SessionEnd target
  | .now => SystemTime
  | .sleep _ => Unit
  | .sleepOrCancelled _ => Bool

/-- Where the outer loop and the rotation begin their next iteration. In the rotation the
assignment cache holds the assignment. -/
inductive Head
  | outer (cache : Option AssignmentCache) (backoff : Duration)
  | rotate (identity : AgentIdentityState) (assignment : AssignmentCache)
      (selector : RuntimeTargetSelector) (backoff : Duration)

variable (config : AppConfig)

def base : Duration := config.agent.failoverBaseBackoff
def maxBackoff : Duration := config.agent.failoverMaxBackoff

/-- `(backoff * 2).min(failover_max_backoff)`. -/
def doubled (backoff : Duration) : Duration := min (backoff * 2) (maxBackoff config)

abbrev Connect := Prog ConnectAns (Head ⊕ Except AnyhowError Unit)

def startRound (identity : AgentIdentityState) (assignment : AssignmentCache)
    (backoff : Duration) : Head :=
  .rotate identity assignment
    (.new assignment.candidates (base config) (maxBackoff config)) backoff

def retryLater (cache : Option AssignmentCache) (backoff : Duration) : Connect := do
  Prog.op (ConnectOp.sleep backoff)
  return .inl (.outer cache (doubled config backoff))

/-- The outer loop without an assignment: the cached one serves until it expires. -/
def fallback (identity : AgentIdentityState) (cache : Option AssignmentCache)
    (backoff : Duration) : Connect := do
  match cache with
  | some cached =>
    let now ← Prog.op ConnectOp.now
    if now < cached.expiresAt ∧ cached.candidates ≠ [] then
      return .inl (startRound config identity cached backoff)
    else retryLater config cache backoff
  | none => retryLater config cache backoff

def failover (identity : AgentIdentityState) (assignment : AssignmentCache)
    (selector : RuntimeTargetSelector) (backoff : Duration) : Connect := do
  let now ← Prog.op ConnectOp.now
  let retryIn := max (selector.failoverDelay now) backoff
  match selector.advance.current with
  | none => return .inl (.outer none (doubled config backoff))
  | some _ =>
    match ← Prog.op (ConnectOp.sleepOrCancelled retryIn) with
    | false => return .inl (.rotate identity assignment selector.advance backoff)
    | true => return .inr (.ok ())

def iterate : Head → Connect
  | .outer cache backoff => do
    match ← Prog.op ConnectOp.isCancelled with
    | true => return .inr (.ok ())
    | false =>
      match ← Prog.op ConnectOp.ensureIdentity with
      | .error e => return .inr (.error e)
      | .ok identity =>
        match ← Prog.op (ConnectOp.resolveAssignment identity cache) with
        | .ok assignment => return .inl (startRound config identity assignment backoff)
        | .error _ => fallback config identity cache backoff
  | .rotate identity assignment selector backoff =>
    match selector.current with
    | none => return .inl (.outer (some assignment) backoff)
    | some target => do
      match (← Prog.op (ConnectOp.runSession identity assignment target)).result with
      | .ok () => return .inl (.outer (some assignment) (base config))
      | .error e =>
        if e.isFatalBootstrapError then return .inr (.error e)
        else failover config identity assignment selector backoff

/-- `connect_hypervisor`, for at most `n` iterations of its loops. -/
def connectHypervisor (n : ℕ) : Connect := do
  match ← Prog.op (ConnectOp.openLedger config.agent.commandLedgerPath) with
  | .error e => return .inr (.error e)
  | .ok () =>
    Prog.op ConnectOp.collectHostFacts
    Prog.loop (iterate config) n (.outer none (base config))

inductive RefreshOp
  | sleepOrCancelled (d : Duration)
  | resolveAssignment (current : Option AssignmentCache)
  | signal
  deriving DecidableEq

@[reducible] def RefreshAns : RefreshOp → Type
  | .sleepOrCancelled _ => Bool
  | .resolveAssignment _ => Except AnyhowError AssignmentCache
  | .signal => Unit

def refreshStep (assignment : AssignmentCache) (target : String) :
    Unit → Prog RefreshAns (Unit ⊕ Unit) := fun _ => do
  match ← Prog.op (RefreshOp.sleepOrCancelled assignment.refreshAfter) with
  | true => return .inr ()
  | false =>
    match ← Prog.op (RefreshOp.resolveAssignment (some assignment)) with
    | .error _ => return .inl ()
    | .ok updated =>
      if updated.preferredTarget ≠ target then
        Prog.op RefreshOp.signal
        return .inr ()
      else return .inl ()

/-- The refresh task of a session, for at most `n` rounds. -/
def refreshTask (assignment : AssignmentCache) (target : String) (n : ℕ) :
    Prog RefreshAns (Unit ⊕ Unit) :=
  Prog.loop (refreshStep assignment target) n ()

end Registry
end KvmAgent
