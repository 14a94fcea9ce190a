import KvmAgent.Clock
import KvmAgent.RustText

/-! The configuration of the agent and the checks a configuration must pass. -/
namespace KvmAgent

open RustText

structure AgentConfig where
  bootstrapTargetAddr : String
  runtimeTargetAddr : String
  runtimeTargetStatePath : String
  serverName : String
  caPath : String
  certPath : String
  keyPath : String
  bootstrapToken : String
  heartbeatInterval : Duration
  telemetryInterval : Duration
  connectTimeout : Duration
  failoverBaseBackoff : Duration
  failoverMaxBackoff : Duration
  version : String
  commandLedgerPath : String
  deriving DecidableEq

/-- The parts of `AppConfig` the agent reads. -/
structure AppConfig where
  zoneId : String
  agent : AgentConfig
  deriving DecidableEq

namespace AgentConfig

/-- One check of `validate`: the message of a violated condition. -/
def check (violated : Prop) [Decidable violated] (message : String) : Except String Unit :=
  if violated then .error message else .ok ()

def validate (cfg : AgentConfig) : Except String Unit := do
  check (Blank cfg.bootstrapTargetAddr) "AGENT_BOOTSTRAP_TARGET_ADDR must not be empty"
  check (startsWith "https://" (toAsciiLowercase (trim cfg.bootstrapTargetAddr)) = true ∧
    Blank cfg.caPath) "AGENT_CA_PATH must not be empty for https bootstrap"
  check (Blank cfg.certPath) "AGENT_CERT_PATH must not be empty"
  check (Blank cfg.keyPath) "AGENT_KEY_PATH must not be empty"
  check (cfg.heartbeatInterval = 0) "AGENT_HEARTBEAT_INTERVAL_SEC must be > 0"
  check (cfg.telemetryInterval = 0) "AGENT_TELEMETRY_INTERVAL_SEC must be > 0"
  check (cfg.connectTimeout = 0) "AGENT_CONNECT_TIMEOUT_SEC must be > 0"
  check (cfg.failoverBaseBackoff = 0) "AGENT_FAILOVER_BASE_BACKOFF_MS must be > 0"
  check (cfg.failoverMaxBackoff < cfg.failoverBaseBackoff)
    "AGENT_FAILOVER_MAX_BACKOFF_MS must be >= AGENT_FAILOVER_BASE_BACKOFF_MS"
  check (Blank cfg.version) "AGENT_VERSION must not be empty"
  check (Blank cfg.commandLedgerPath) "AGENT_COMMAND_LEDGER_PATH must not be empty"
  check (Blank cfg.runtimeTargetStatePath) "AGENT_RUNTIME_TARGET_STATE_PATH must not be empty"

structure Valid (cfg : AgentConfig) : Prop where
  bootstrapTarget : ¬Blank cfg.bootstrapTargetAddr
  ca : startsWith "https://" (toAsciiLowercase (trim cfg.bootstrapTargetAddr)) = true →
    ¬Blank cfg.caPath
  cert : ¬Blank cfg.certPath
  key : ¬Blank cfg.keyPath
  heartbeat : 0 < cfg.heartbeatInterval
  telemetry : 0 < cfg.telemetryInterval
  timeout : 0 < cfg.connectTimeout
  base_pos : 0 < cfg.failoverBaseBackoff
  base_le_max : cfg.failoverBaseBackoff ≤ cfg.failoverMaxBackoff
  version : ¬Blank cfg.version
  ledger : ¬Blank cfg.commandLedgerPath
  target : ¬Blank cfg.runtimeTargetStatePath

@[simp] theorem check_bind (p : Prop) [Decidable p] (message : String) (rest : Except String Unit) :
    (check p message >>= fun _ => rest) = .ok () ↔ ¬p ∧ rest = .ok () := by
  by_cases hp : p <;> simp [check,hp,bind,Except.bind]

@[simp] theorem check_ok (p : Prop) [Decidable p] (message : String) :
    check p message = .ok () ↔ ¬p := by
  by_cases hp : p <;> simp [check,hp]

theorem validate_ok (cfg : AgentConfig) : cfg.validate = .ok () ↔ Valid cfg := by
  simp only [validate,check_bind,check_ok,not_and,not_lt,Nat.pos_iff_ne_zero.symm]
  constructor
  · rintro ⟨h1,h2,h3,h4,h5,h6,h7,h8,h9,h10,h11,h12⟩
    exact ⟨h1,h2,h3,h4,h5,h6,h7,h8,h9,h10,h11,h12⟩
  · rintro ⟨h1,h2,h3,h4,h5,h6,h7,h8,h9,h10,h11,h12⟩
    exact ⟨h1,h2,h3,h4,h5,h6,h7,h8,h9,h10,h11,h12⟩

/-- The defaults of `load_from_env`. -/
def defaults : AgentConfig where
  bootstrapTargetAddr := "http://127.0.0.1:9090"
  runtimeTargetAddr := ""
  runtimeTargetStatePath := "/var/lib/aurora-kvm-agent/runtime-target-addr"
  serverName := ""
  caPath := "/etc/aurora-kvm-agent/tls/ca.crt"
  certPath := "/etc/aurora-kvm-agent/tls/client.crt"
  keyPath := "/etc/aurora-kvm-agent/tls/client.key"
  bootstrapToken := "bootstrap"
  heartbeatInterval := Duration.fromSecs 10
  telemetryInterval := Duration.fromSecs 15
  connectTimeout := Duration.fromSecs 3
  failoverBaseBackoff := Duration.fromMillis 200
  failoverMaxBackoff := Duration.fromMillis 3000
  version := "0.1.0"
  commandLedgerPath := "/var/lib/aurora-kvm-agent/command-ledger.db"

theorem defaults_valid : defaults.validate = .ok () := by decide

end AgentConfig

/-- The configuration of an environment that sets a node id only. -/
def AppConfig.defaults : AppConfig := ⟨"",AgentConfig.defaults⟩

end KvmAgent
