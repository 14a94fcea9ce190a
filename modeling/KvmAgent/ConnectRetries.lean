import KvmAgent.ConnectRuns
import KvmAgent.IdentityKeys

/-! Which errors end `connect_hypervisor`, and that every other failure is followed by
another attempt. -/
namespace KvmAgent
namespace ConnectRetries

open Registry Trace ConnectSteps ConnectRuns

def isAttempt : Call ConnectAns → Bool
  | ⟨.ensureIdentity,_⟩ => true
  | ⟨.resolveAssignment ..,_⟩ => true
  | ⟨.runSession ..,_⟩ => true
  | _ => false

def failure : Call ConnectAns → Option AnyhowError
  | ⟨.ensureIdentity,.error e⟩ => some e
  | ⟨.resolveAssignment ..,.error e⟩ => some e
  | ⟨.runSession ..,e⟩ =>
    match e.result with
    | .error err => some err
    | .ok () => none
  | _ => none

/-- The last call has seen the shutdown token cancelled. -/
def Interrupted : Log → Prop
  | ⟨.isCancelled,true⟩::_ => True
  | ⟨.sleepOrCancelled _,true⟩::_ => True
  | _ => False

def Trying (c : Call ConnectAns) (s : Log) : Prop :=
  (∀ err, ⟨.ensureIdentity,.error err⟩ ∉ s) ∧ (sinceLast isAttempt (c::s)).length ≤ 3

/-- At most `k` calls have been made since the last attempt, and the identity never failed. -/
structure Waited (k : ℕ) (s : Log) : Prop where
  each : Each Trying s
  free : ∀ err, ⟨.ensureIdentity,.error err⟩ ∉ s
  count : (sinceLast isAttempt s).length ≤ k

def Returned (config : AppConfig) : Except AnyhowError Unit → Log → Prop
  | .ok (), s => Interrupted s
  | .error e, s => (∃ c earlier, s = c::earlier ∧ isAttempt c = true ∧ failure c = some e ∧
      (e.isFatalBootstrapError = true ∨ c = ⟨.ensureIdentity,.error e⟩)) ∨
    s = [⟨.openLedger config.agent.commandLedgerPath,.error e⟩]

section Steps

variable {config : AppConfig} {c : Call ConnectAns} {k : ℕ} {s t : Log}

theorem free_cons (hs : ∀ err, ⟨.ensureIdentity,.error err⟩ ∉ s)
    (hc : ∀ err, c ≠ ⟨.ensureIdentity,.error err⟩) : ∀ err, ⟨.ensureIdentity,.error err⟩ ∉ c::s := by
  intro err hmem
  rcases List.mem_cons.mp hmem with heq | hmem
  · exact hc err heq.symm
  · exact hs err hmem

theorem Waited.call (h : Waited k s) (hc : isAttempt c = false) (hk : k < 3) :
    Waited (k+1) (c::s) where
  each := ⟨⟨h.free,(sinceLast_count h.count).trans hk⟩,h.each⟩
  free := free_cons h.free fun err heq => by simp [heq,isAttempt] at hc
  count := sinceLast_count h.count

theorem Waited.trying (h : Waited k s) (hc : isAttempt c = true) : Each Trying (c::s) :=
  ⟨⟨h.free,(sinceLast_restart hc).trans (by omega)⟩,h.each⟩

theorem Waited.attempt (h : Waited k s) (hc : isAttempt c = true)
    (hok : ∀ err, c ≠ ⟨.ensureIdentity,.error err⟩) : Waited 0 (c::s) where
  each := h.trying hc
  free := free_cons h.free hok
  count := sinceLast_restart hc

theorem Waited.mono {l : ℕ} (h : Waited k s) (hl : k ≤ l) : Waited l s :=
  { h with count := h.count.trans hl }

end Steps

section Runs

variable {config : AppConfig} {n : ℕ} {choices : List (Call ConnectAns)}

end Runs
/-! ### Sample runs -/

def refused : AnyhowError :=
  (Status.toError {
    code := .unauthenticated
    text := "status: Unauthenticated, message: \"invalid bootstrap token\", details: [], " ++
      "metadata: MetadataMap \x7b headers: \x7b\x7d \x7d" }).context "bootstrap enroll agent"

attribute [local instance] Directories.plain

end ConnectRetries
end KvmAgent
