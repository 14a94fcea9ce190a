import KvmAgent.AppSection

/-! `load_from_env`: the whole configuration as it is read from the environment variables,
which configurations there are, and which variables an error blames. -/
namespace KvmAgent

open RustText AgentConfig EnvVars

structure GrpcConfig where
  bindAddr : String
  deriving DecidableEq

def GrpcConfig.validate (grpc : GrpcConfig) : Except String Unit :=
  check (Blank grpc.bindAddr) "GRPC_BIND_ADDR must not be empty"

/-- A `usize` has 64 bits. -/
structure WorkerConfig where
  maxWorkers : UInt64
  deriving DecidableEq

def WorkerConfig.validate (worker : WorkerConfig) : Except String Unit :=
  check (worker.maxWorkers = 0) "WORKER_MAX must be > 0"

structure LogConfig where
  level : String
  format : String
  service : String
  environment : String
  hostId : String
  deriving DecidableEq

def LogConfig.validate (log : LogConfig) : Except String Unit := do
  check (toAsciiUppercase (trim log.level) ∉ ["TRACE","DEBUG","INFO","WARN","WARNING","ERROR","OFF"])
    ("invalid LOG_LEVEL value '" ++ log.level ++ "', expected TRACE|DEBUG|INFO|WARN|ERROR|OFF")
  check (toAsciiLowercase (trim log.format) ∉ ["json","text"])
    ("invalid LOG_FORMAT value '" ++ log.format ++ "', expected json|text")

structure Configuration where
  app : AppSection
  grpc : GrpcConfig
  agent : AgentConfig
  worker : WorkerConfig
  log : LogConfig
  deriving DecidableEq

namespace Configuration

inductive Text
  | name | nodeId | zoneId | bindAddr | bootstrapTargetAddr | runtimeTargetAddr
  | runtimeTargetStatePath | serverName | caPath | certPath | keyPath | bootstrapToken | version
  | commandLedgerPath
  deriving DecidableEq

def Text.key : Text → String
  | .name => "APP_NAME"
  | .nodeId => "APP_NODE_ID"
  | .zoneId => "APP_ZONE_ID"
  | .bindAddr => "GRPC_BIND_ADDR"
  | .bootstrapTargetAddr => "AGENT_BOOTSTRAP_TARGET_ADDR"
  | .runtimeTargetAddr => "AGENT_RUNTIME_TARGET_ADDR"
  | .runtimeTargetStatePath => "AGENT_RUNTIME_TARGET_STATE_PATH"
  | .serverName => "AGENT_SERVER_NAME"
  | .caPath => "AGENT_CA_PATH"
  | .certPath => "AGENT_CERT_PATH"
  | .keyPath => "AGENT_KEY_PATH"
  | .bootstrapToken => "AGENT_BOOTSTRAP_TOKEN"
  | .version => "AGENT_VERSION"
  | .commandLedgerPath => "AGENT_COMMAND_LEDGER_PATH"

/-- What a variable that is not set or blank stands for; the node id has to be set. -/
def Text.default : Text → String
  | .name => "aurora-kvm-agent"
  | .nodeId | .zoneId | .runtimeTargetAddr | .serverName => ""
  | .bindAddr => "0.0.0.0:8081"
  | .bootstrapTargetAddr => "http://127.0.0.1:9090"
  | .runtimeTargetStatePath => "/var/lib/aurora-kvm-agent/runtime-target-addr"
  | .caPath => "/etc/aurora-kvm-agent/tls/ca.crt"
  | .certPath => "/etc/aurora-kvm-agent/tls/client.crt"
  | .keyPath => "/etc/aurora-kvm-agent/tls/client.key"
  | .bootstrapToken => "bootstrap"
  | .version => "0.1.0"
  | .commandLedgerPath => "/var/lib/aurora-kvm-agent/command-ledger.db"

def Text.field (c : Configuration) : Text → String
  | .name => c.app.name
  | .nodeId => c.app.nodeId
  | .zoneId => c.app.zoneId
  | .bindAddr => c.grpc.bindAddr
  | .bootstrapTargetAddr => c.agent.bootstrapTargetAddr
  | .runtimeTargetAddr => c.agent.runtimeTargetAddr
  | .runtimeTargetStatePath => c.agent.runtimeTargetStatePath
  | .serverName => c.agent.serverName
  | .caPath => c.agent.caPath
  | .certPath => c.agent.certPath
  | .keyPath => c.agent.keyPath
  | .bootstrapToken => c.agent.bootstrapToken
  | .version => c.agent.version
  | .commandLedgerPath => c.agent.commandLedgerPath

/-- `optional_env(key).unwrap_or_else(default)`. -/
def Text.read (env : EnvVars) (t : Text) : String := (optionalEnv env t.key).getD t.default

inductive Number
  | shutdownTimeout | heartbeatInterval | telemetryInterval | connectTimeout | failoverBaseBackoff
  | failoverMaxBackoff | maxWorkers
  deriving DecidableEq

def Number.key : Number → String
  | .shutdownTimeout => "SHUTDOWN_TIMEOUT_SEC"
  | .heartbeatInterval => "AGENT_HEARTBEAT_INTERVAL_SEC"
  | .telemetryInterval => "AGENT_TELEMETRY_INTERVAL_SEC"
  | .connectTimeout => "AGENT_CONNECT_TIMEOUT_SEC"
  | .failoverBaseBackoff => "AGENT_FAILOVER_BASE_BACKOFF_MS"
  | .failoverMaxBackoff => "AGENT_FAILOVER_MAX_BACKOFF_MS"
  | .maxWorkers => "WORKER_MAX"

def Number.default : Number → String
  | .shutdownTimeout => "15"
  | .heartbeatInterval => "10"
  | .telemetryInterval => "15"
  | .connectTimeout => "3"
  | .failoverBaseBackoff => "200"
  | .failoverMaxBackoff => "3000"
  | .maxWorkers => "4"

def Number.expected : Number → String
  | .failoverBaseBackoff | .failoverMaxBackoff => ", expected unsigned integer milliseconds"
  | .maxWorkers => ", expected unsigned integer"
  | _ => ", expected unsigned integer seconds"

def Number.failure (n : Number) : String := "invalid " ++ n.key ++ n.expected

/-- What one of the unit is in the field a variable is read into: nanoseconds, or workers. -/
def Number.unit : Number → ℕ
  | .failoverBaseBackoff | .failoverMaxBackoff => 1000000
  | .maxWorkers => 1
  | _ => 1000000000

def Number.field (c : Configuration) : Number → ℕ
  | .shutdownTimeout => c.app.shutdownTimeout
  | .heartbeatInterval => c.agent.heartbeatInterval
  | .telemetryInterval => c.agent.telemetryInterval
  | .connectTimeout => c.agent.connectTimeout
  | .failoverBaseBackoff => c.agent.failoverBaseBackoff
  | .failoverMaxBackoff => c.agent.failoverMaxBackoff
  | .maxWorkers => c.worker.maxWorkers.toNat

/-- `optional_env(key).unwrap_or_else(default).parse().context(failure)?`. -/
def Number.read (env : EnvVars) (n : Number) : Except AnyhowError UInt64 :=
  let raw := (optionalEnv env n.key).getD n.default
  match parseU64 raw with
  | some v => .ok v
  | none => .error ((AnyhowError.msg (parseU64Failure raw)).context n.failure)

/-- `.map_err(|e| anyhow!(e))?`. -/
def checked (r : Except String Unit) : Except AnyhowError Unit := r.mapError AnyhowError.msg

def grpcFromEnv (env : EnvVars) : GrpcConfig := ⟨Text.read env .bindAddr⟩

def agentFromEnv (env : EnvVars) : Except AnyhowError AgentConfig := do
  let heartbeat ← Number.read env .heartbeatInterval
  let telemetry ← Number.read env .telemetryInterval
  let timeout ← Number.read env .connectTimeout
  let base ← Number.read env .failoverBaseBackoff
  let max ← Number.read env .failoverMaxBackoff
  return {
    runtimeTargetAddr := Text.read env .runtimeTargetAddr
    runtimeTargetStatePath := Text.read env .runtimeTargetStatePath
    bootstrapTargetAddr := Text.read env .bootstrapTargetAddr
    serverName := Text.read env .serverName
    caPath := Text.read env .caPath
    certPath := Text.read env .certPath
    keyPath := Text.read env .keyPath
    bootstrapToken := Text.read env .bootstrapToken
    heartbeatInterval := Duration.fromSecs heartbeat.toNat
    telemetryInterval := Duration.fromSecs telemetry.toNat
    connectTimeout := Duration.fromSecs timeout.toNat
    failoverBaseBackoff := Duration.fromMillis base.toNat
    failoverMaxBackoff := Duration.fromMillis max.toNat
    version := Text.read env .version
    commandLedgerPath := Text.read env .commandLedgerPath }

def loadFromEnv (env : EnvVars) : Except AnyhowError Configuration := do
  let app ← AppSection.loadFromEnv env
  let grpc := grpcFromEnv env
  checked grpc.validate
  let agent ← agentFromEnv env
  checked agent.validate
  let maxWorkers ← Number.read env .maxWorkers
  let worker : WorkerConfig := ⟨maxWorkers⟩
  checked worker.validate
  let log : LogConfig := ⟨"INFO","json",app.name,"prod",app.nodeId⟩
  checked log.validate
  return { app, grpc, agent, worker, log }

/-- What the agent's tasks see of the configuration. -/
def agentPart (c : Configuration) : AppConfig := ⟨c.app.zoneId,c.agent⟩

section Loading

variable {α β ε : Type} {env : EnvVars} {c : Configuration}

theorem bind_ok {x : Except ε α} {f : α → Except ε β} {b : β} :
    (x >>= f) = .ok b ↔ ∃ a, x = .ok a ∧ f a = .ok b := by
  cases x with
  | error e => simp [bind,Except.bind]
  | ok a => simp [bind,Except.bind]

theorem bind_error {x : Except ε α} {f : α → Except ε β} {e : ε} :
    (x >>= f) = .error e ↔ x = .error e ∨ ∃ a, x = .ok a ∧ f a = .error e := by
  cases x with
  | error e => simp [bind,Except.bind]
  | ok a => simp [bind,Except.bind]

@[simp] theorem checked_ok {r : Except String Unit} {u : Unit} : checked r = .ok u ↔ r = .ok () := by
  cases r <;> simp [checked,Except.mapError]

@[simp] theorem checked_error {r : Except String Unit} {e : AnyhowError} :
    checked r = .error e ↔ ∃ text, r = .error text ∧ e = .msg text := by
  cases r <;> simp [checked,Except.mapError,eq_comm]

theorem read_ok {n : Number} {v : UInt64} :
    Number.read env n = .ok v ↔ parseU64 ((optionalEnv env n.key).getD n.default) = some v := by
  simp only [Number.read]
  cases parseU64 ((optionalEnv env n.key).getD n.default) <;> simp

theorem shutdownTimeoutSecs_eq (env : EnvVars) :
    AppSection.shutdownTimeoutSecs env = Number.read env .shutdownTimeout := by
  have hfailure : Number.failure .shutdownTimeout =
      "invalid SHUTDOWN_TIMEOUT_SEC, expected unsigned integer seconds" := by decide
  simp only [Number.read,hfailure]
  rfl

theorem log_valid (service hostId : String) :
    LogConfig.validate ⟨"INFO","json",service,"prod",hostId⟩ = .ok () := by
  simp only [LogConfig.validate,check_bind,check_ok]
  decide

structure Loads (env : EnvVars) (c : Configuration) : Prop where
  nodeId : requiredEnv env "APP_NODE_ID" = .ok c.app.nodeId
  prod : c.app.environment = .prod
  text : ∀ t, t ≠ .nodeId → Text.field c t = Text.read env t
  number : ∀ n, ∃ v, Number.read env n = .ok v ∧ Number.field c n = v.toNat * n.unit
  app : c.app.validate = .ok ()
  grpc : c.grpc.validate = .ok ()
  agent : c.agent.validate = .ok ()
  worker : c.worker.validate = .ok ()
  log : c.log = ⟨"INFO","json",c.app.name,"prod",c.app.nodeId⟩

theorem appSection_ok {app : AppSection} : AppSection.loadFromEnv env = .ok app ↔
    requiredEnv env "APP_NODE_ID" = .ok app.nodeId ∧ app.environment = .prod ∧
    app.name = Text.read env .name ∧ app.zoneId = Text.read env .zoneId ∧
    (∃ v, Number.read env .shutdownTimeout = .ok v ∧ app.shutdownTimeout = Duration.fromSecs v.toNat) ∧
    app.validate = .ok () := by
  constructor
  · intro h
    simp only [AppSection.loadFromEnv,bind_ok,shutdownTimeoutSecs_eq] at h
    obtain ⟨nodeId,hnode,v,hv,hcheck⟩ := h
    split at hcheck
    · next hvalid =>
      cases hcheck
      exact ⟨hnode,rfl,rfl,rfl,⟨v,hv,rfl⟩,hvalid⟩
    · cases hcheck
  · rintro ⟨hnode,hprod,hname,hzone,⟨v,hv,htimeout⟩,hvalid⟩
    have happ : app = ⟨Text.read env .name,.prod,app.nodeId,Text.read env .zoneId,
        Duration.fromSecs v.toNat⟩ := by
      rw [← hprod,← hname,← hzone,← htimeout]
    rw [happ] at hvalid ⊢
    exact AppSection.loadFromEnv_eq hnode hv hvalid

theorem agent_ok {agent : AgentConfig} : agentFromEnv env = .ok agent ↔
    (∃ v, Number.read env .heartbeatInterval = .ok v ∧
      agent.heartbeatInterval = Duration.fromSecs v.toNat) ∧
    (∃ v, Number.read env .telemetryInterval = .ok v ∧
      agent.telemetryInterval = Duration.fromSecs v.toNat) ∧
    (∃ v, Number.read env .connectTimeout = .ok v ∧
      agent.connectTimeout = Duration.fromSecs v.toNat) ∧
    (∃ v, Number.read env .failoverBaseBackoff = .ok v ∧
      agent.failoverBaseBackoff = Duration.fromMillis v.toNat) ∧
    (∃ v, Number.read env .failoverMaxBackoff = .ok v ∧
      agent.failoverMaxBackoff = Duration.fromMillis v.toNat) ∧
    agent.runtimeTargetAddr = Text.read env .runtimeTargetAddr ∧
    agent.runtimeTargetStatePath = Text.read env .runtimeTargetStatePath ∧
    agent.bootstrapTargetAddr = Text.read env .bootstrapTargetAddr ∧
    agent.serverName = Text.read env .serverName ∧ agent.caPath = Text.read env .caPath ∧
    agent.certPath = Text.read env .certPath ∧ agent.keyPath = Text.read env .keyPath ∧
    agent.bootstrapToken = Text.read env .bootstrapToken ∧ agent.version = Text.read env .version ∧
    agent.commandLedgerPath = Text.read env .commandLedgerPath := by
  simp only [agentFromEnv,bind_ok]
  constructor
  · rintro ⟨h,hh,t,ht,o,ho,b,hb,m,hm,hagent⟩
    cases hagent
    exact ⟨⟨h,hh,rfl⟩,⟨t,ht,rfl⟩,⟨o,ho,rfl⟩,⟨b,hb,rfl⟩,⟨m,hm,rfl⟩,rfl,rfl,rfl,rfl,rfl,rfl,rfl,rfl,rfl,rfl⟩
  · rintro ⟨⟨h,hh,h1⟩,⟨t,ht,h2⟩,⟨o,ho,h3⟩,⟨b,hb,h4⟩,⟨m,hm,h5⟩,hagent⟩
    refine ⟨h,hh,t,ht,o,ho,b,hb,m,hm,?_⟩
    cases agent
    simp_all only [pure,Except.pure]

theorem loads_iff : loadFromEnv env = .ok c ↔ Loads env c := by
  constructor
  · intro h
    simp only [loadFromEnv,bind_ok,checked_ok] at h
    obtain ⟨app,happ,_,hgrpc,agent,hagent,_,hvalid,workers,hworkers,_,hpositive,_,-,hc⟩ := h
    cases hc
    obtain ⟨hnode,hprod,hname,hzone,hshutdown,hcheck⟩ := appSection_ok.mp happ
    obtain ⟨hheartbeat,htelemetry,htimeout,hbase,hmax,hruntime,hstate,hbootstrap,hserver,hca,hcert,hkey,
      htoken,hversion,hledger⟩ := agent_ok.mp hagent
    refine ⟨hnode,hprod,fun t ht => ?_,fun n => ?_,hcheck,hgrpc,hvalid,hpositive,rfl⟩
    · cases t with
      | name => exact hname
      | nodeId => exact absurd rfl ht
      | zoneId => exact hzone
      | bindAddr => rfl
      | bootstrapTargetAddr => exact hbootstrap
      | runtimeTargetAddr => exact hruntime
      | runtimeTargetStatePath => exact hstate
      | serverName => exact hserver
      | caPath => exact hca
      | certPath => exact hcert
      | keyPath => exact hkey
      | bootstrapToken => exact htoken
      | version => exact hversion
      | commandLedgerPath => exact hledger
    · cases n with
      | shutdownTimeout => exact hshutdown
      | heartbeatInterval => exact hheartbeat
      | telemetryInterval => exact htelemetry
      | connectTimeout => exact htimeout
      | failoverBaseBackoff => exact hbase
      | failoverMaxBackoff => exact hmax
      | maxWorkers => exact ⟨workers,hworkers,(Nat.mul_one _).symm⟩
  · intro h
    have happ : AppSection.loadFromEnv env = .ok c.app := appSection_ok.mpr
      ⟨h.nodeId,h.prod,h.text .name (by decide),h.text .zoneId (by decide),h.number .shutdownTimeout,h.app⟩
    have hagent : agentFromEnv env = .ok c.agent := agent_ok.mpr
      ⟨h.number .heartbeatInterval,h.number .telemetryInterval,h.number .connectTimeout,
        h.number .failoverBaseBackoff,h.number .failoverMaxBackoff,h.text .runtimeTargetAddr (by decide),
        h.text .runtimeTargetStatePath (by decide),h.text .bootstrapTargetAddr (by decide),
        h.text .serverName (by decide),h.text .caPath (by decide),h.text .certPath (by decide),
        h.text .keyPath (by decide),h.text .bootstrapToken (by decide),h.text .version (by decide),
        h.text .commandLedgerPath (by decide)⟩
    obtain ⟨workers,hworkers,hfield⟩ := h.number .maxWorkers
    have hgrpc : c.grpc = grpcFromEnv env :=
      congrArg GrpcConfig.mk (h.text .bindAddr (by decide))
    have hworker : c.worker = ⟨workers⟩ :=
      congrArg WorkerConfig.mk (UInt64.toNat_inj.mp (hfield.trans (Nat.mul_one _)))
    simp only [loadFromEnv,bind_ok,checked_ok]
    refine ⟨c.app,happ,(),hgrpc ▸ h.grpc,c.agent,hagent,(),h.agent,workers,hworkers,(),hworker ▸ h.worker,
      (),log_valid _ _,?_⟩
    rw [← hgrpc,← hworker,← h.log]
    rfl

/-- The configurations that can be loaded: a text that is blank is a default and none contains a
NUL, numbers fill their range, the log is not configured, and all checks are passed. -/
structure Loadable (c : Configuration) : Prop where
  nodeId : ¬Blank c.app.nodeId
  prod : c.app.environment = .prod
  text : ∀ t, t ≠ .nodeId → Blank (Text.field c t) → Text.field c t = t.default
  nulFree : ∀ t, NulFree (Text.field c t)
  number : ∀ n, ∃ v : UInt64, Number.field c n = v.toNat * n.unit ∧ (n ≠ .failoverMaxBackoff → v ≠ 0)
  name : ¬Blank c.app.name
  bindAddr : ¬Blank c.grpc.bindAddr
  agent : Valid c.agent
  log : c.log = ⟨"INFO","json",c.app.name,"prod",c.app.nodeId⟩

theorem read_blank {t : Text} (h : Blank (Text.read env t)) : Text.read env t = t.default := by
  unfold Text.read at h ⊢
  cases henv : optionalEnv env t.key with
  | none => rfl
  | some v =>
    rw [henv] at h
    unfold optionalEnv at henv
    split at henv
    · split at henv
      · cases henv
      · next hv =>
        cases henv
        exact absurd h hv
    · cases henv

theorem read_nulFree (env : EnvVars) (t : Text) : NulFree (Text.read env t) := by
  unfold Text.read
  cases henv : optionalEnv env t.key with
  | none => cases t <;> decide
  | some v =>
    unfold optionalEnv at henv
    split at henv
    · next hvar =>
      split at henv
      · cases henv
      · cases henv
        exact env.nulFree _ _ hvar
    · cases henv

theorem loadable_of_loads (h : Loads env c) : Loadable c := by
  obtain ⟨hname,hnode,hshutdown⟩ := (AppSection.validate_ok c.app).mp h.app
  have hagent := (AgentConfig.validate_ok c.agent).mp h.agent
  have hworker : c.worker.maxWorkers ≠ 0 := check_ok _ _ |>.mp h.worker
  have hpositive (n : Number) (hn : n ≠ .failoverMaxBackoff) : Number.field c n ≠ 0 := by
    cases n with
    | shutdownTimeout => exact hshutdown
    | heartbeatInterval => exact hagent.heartbeat.ne'
    | telemetryInterval => exact hagent.telemetry.ne'
    | connectTimeout => exact hagent.timeout.ne'
    | failoverBaseBackoff => exact hagent.base_pos.ne'
    | failoverMaxBackoff => exact absurd rfl hn
    | maxWorkers => exact fun hzero => hworker (UInt64.toNat_inj.mp hzero)
  refine ⟨hnode,h.prod,fun t ht hblank => ?_,fun t => ?_,fun n => ?_,hname,(check_ok _ _).mp h.grpc,
    hagent,h.log⟩
  · rw [h.text t ht] at hblank ⊢
    exact read_blank hblank
  · by_cases ht : t = .nodeId
    · subst ht
      exact env.nulFree _ _ (AppSection.requiredEnv_ok.mp h.nodeId).1
    · rw [h.text t ht]
      exact read_nulFree env t
  · obtain ⟨v,-,hfield⟩ := h.number n
    refine ⟨v,hfield,fun hn hzero => hpositive n hn ?_⟩
    rw [hfield,hzero]
    exact Nat.zero_mul _

section Render

def texts : List Text :=
  [.name,.nodeId,.zoneId,.bindAddr,.bootstrapTargetAddr,.runtimeTargetAddr,.runtimeTargetStatePath,
    .serverName,.caPath,.certPath,.keyPath,.bootstrapToken,.version,.commandLedgerPath]

def numbers : List Number :=
  [.shutdownTimeout,.heartbeatInterval,.telemetryInterval,.connectTimeout,.failoverBaseBackoff,
    .failoverMaxBackoff,.maxWorkers]

/-- The variables that spell a configuration out, as far as they can. -/
def render (c : Configuration) : EnvVars where
  var key :=
    match texts.find? (·.key = key), numbers.find? (·.key = key) with
    | some t, _ =>
      if NulFree (Text.field c t) then .ok (Text.field c t)
      else .error (.msg "environment variable not found")
    | none, some n => .ok (toString (Number.field c n / n.unit))
    | none, none => .error (.msg "environment variable not found")
  nulFree key v hv := by
    split at hv
    · split at hv
      · next hfree =>
        cases hv
        exact hfree
      · cases hv
    · cases hv
      exact AppSection.toString_nulFree _
    · cases hv

theorem render_text {c : Configuration} {t : Text} (h : NulFree (Text.field c t)) :
    render c t.key = .ok (Text.field c t) := by
  have hrender : render c t.key = if NulFree (Text.field c t) then .ok (Text.field c t)
      else .error (.msg "environment variable not found") := by
    cases t <;> rfl
  rw [hrender,if_pos h]

theorem render_number (c : Configuration) (n : Number) :
    render c n.key = .ok (toString (Number.field c n / n.unit)) := by
  cases n <;> rfl

end Render

theorem loads_render (h : Loadable c) : Loads (render c) c := by
  refine ⟨AppSection.requiredEnv_ok.mpr ⟨render_text (h.nulFree .nodeId),h.nodeId⟩,h.prod,fun t ht => ?_,fun n => ?_,
    ?_,(check_ok _ _).mpr h.bindAddr,(AgentConfig.validate_ok c.agent).mpr h.agent,?_,h.log⟩
  · unfold Text.read optionalEnv
    rw [render_text (h.nulFree t)]
    by_cases hblank : Blank (Text.field c t)
    · simp only [if_pos hblank,Option.getD_none]
      exact h.text t ht hblank
    · simp only [if_neg hblank,Option.getD_some]
  · obtain ⟨v,hfield,-⟩ := h.number n
    have hunit : 0 < n.unit := by cases n <;> decide
    have hcount : Number.field c n / n.unit = v.toNat := by
      rw [hfield,Nat.mul_div_cancel _ hunit]
    refine ⟨v,read_ok.mpr ?_,hfield⟩
    unfold optionalEnv
    rw [render_number,hcount]
    simp only [if_neg (AppSection.toString_not_blank v),Option.getD_some,
      parseU64_toString v.toNat_lt,UInt64.ofNat_toNat]
  · obtain ⟨v,hfield,hv⟩ := h.number .shutdownTimeout
    refine (AppSection.validate_ok c.app).mpr ⟨h.name,h.nodeId,fun hzero => hv (by decide) ?_⟩
    have hproduct : v.toNat * 1000000000 = 0 := hfield.symm.trans hzero
    exact UInt64.toNat_inj.mp ((Nat.mul_eq_zero.mp hproduct).resolve_right (by decide))
  · obtain ⟨v,hfield,hv⟩ := h.number .maxWorkers
    refine (check_ok _ _).mpr fun hzero => hv (by decide) ?_
    have hcount : c.worker.maxWorkers.toNat = v.toNat := hfield.trans (Nat.mul_one _)
    exact (UInt64.toNat_inj.mp hcount).symm.trans hzero

/-- `load_from_env` loads exactly these configurations, each of them again from what it says
itself. -/
theorem loadFromEnv_range (c : Configuration) :
    ((∃ env, loadFromEnv env = .ok c) ↔ Loadable c) ∧
    ((∃ env, loadFromEnv env = .ok c) ↔ loadFromEnv (render c) = .ok c) := by
  have hback : Loadable c → loadFromEnv (render c) = .ok c := fun h => loads_iff.mpr (loads_render h)
  have hloadable : (∃ env, loadFromEnv env = .ok c) → Loadable c := by
    rintro ⟨env,h⟩
    exact loadable_of_loads (loads_iff.mp h)
  exact ⟨⟨hloadable,fun h => ⟨_,hback h⟩⟩,⟨fun h => hback (hloadable h),fun h => ⟨_,h⟩⟩⟩

end Loading

section Faults

/-- What can be wrong with the variables. -/
inductive Fault
  | nodeId
  | notNumber (n : Number)
  | zero (n : Number)
  | inverted
  deriving DecidableEq

def Fault.keys : Fault → List String
  | .nodeId => ["APP_NODE_ID"]
  | .notNumber n | .zero n => [n.key]
  | .inverted => [Number.failoverMaxBackoff.key,Number.failoverBaseBackoff.key]

def Fault.Present (env : EnvVars) : Fault → Prop
  | .nodeId => ∀ v, requiredEnv env "APP_NODE_ID" ≠ .ok v
  | .notNumber n => ∀ v, Number.read env n ≠ .ok v
  | .zero n => Number.read env n = .ok 0
  | .inverted => ∃ base max, Number.read env .failoverBaseBackoff = .ok base ∧
      Number.read env .failoverMaxBackoff = .ok max ∧ max < base

def Names (e : AnyhowError) (key : String) : Prop :=
  ∃ before after : String, e.toString = before ++ key ++ after

variable {env env' : EnvVars} {c : Configuration} {e : AnyhowError}

theorem Fault.congr {f : Fault} (hf : Fault.Present env f) (h : ∀ k ∈ f.keys, env' k = env k) :
    Fault.Present env' f := by
  have hread {n : Number} (hn : n.key ∈ f.keys) : Number.read env' n = Number.read env n := by
    simp only [Number.read,optionalEnv,h _ hn]
  cases f with
  | nodeId =>
    have hnode : requiredEnv env' "APP_NODE_ID" = requiredEnv env "APP_NODE_ID" := by
      simp only [requiredEnv,h "APP_NODE_ID" (by decide)]
    simpa only [Present,hnode] using hf
  | notNumber n => simpa only [Present,hread (List.mem_singleton_self _)] using hf
  | zero n => simpa only [Present,hread (List.mem_singleton_self _)] using hf
  | inverted =>
    have hmax := hread (n := .failoverMaxBackoff) (by decide)
    have hbase := hread (n := .failoverBaseBackoff) (by decide)
    simpa only [Present,hmax,hbase] using hf

theorem Fault.refuses {f : Fault} (hf : Fault.Present env f) (c : Configuration) : loadFromEnv env ≠ .ok c := by
  intro h
  have hloads := loads_iff.mp h
  have hloadable := loadable_of_loads hloads
  cases f with
  | nodeId => exact hf _ hloads.nodeId
  | notNumber n =>
    obtain ⟨v,hv,-⟩ := hloads.number n
    exact hf v hv
  | zero n =>
    obtain ⟨v,hv,hfield⟩ := hloads.number n
    have hzero : Number.field c n = 0 := by
      cases hv.symm.trans hf
      rw [hfield]
      exact Nat.zero_mul _
    by_cases hn : n = .failoverMaxBackoff
    · subst hn
      have hpos := lt_of_lt_of_le hloadable.agent.base_pos hloadable.agent.base_le_max
      exact hpos.ne' hzero
    · obtain ⟨w,hcount,hw⟩ := hloadable.number n
      have hunit : n.unit ≠ 0 := by cases n <;> decide
      have hproduct : w.toNat * n.unit = 0 := hcount.symm.trans hzero
      exact hw hn (UInt64.toNat_inj.mp ((Nat.mul_eq_zero.mp hproduct).resolve_right hunit))
  | inverted =>
    obtain ⟨base,max,hbase,hmax,hlt⟩ := hf
    obtain ⟨b,hb,hbfield⟩ := hloads.number .failoverBaseBackoff
    obtain ⟨m,hm,hmfield⟩ := hloads.number .failoverMaxBackoff
    cases hb.symm.trans hbase
    cases hm.symm.trans hmax
    have hle : base.toNat * 1000000 ≤ max.toNat * 1000000 := by
      have hvalid := hloadable.agent.base_le_max
      rwa [show c.agent.failoverBaseBackoff = base.toNat * 1000000 from hbfield,
        show c.agent.failoverMaxBackoff = max.toNat * 1000000 from hmfield] at hvalid
    exact absurd (Nat.le_of_mul_le_mul_right hle (by decide))
      (Nat.not_le.mpr (UInt64.lt_iff_toNat_lt.mp hlt))

theorem check_error {p : Prop} [Decidable p] {message text : String} :
    check p message = .error text ↔ p ∧ message = text := by
  by_cases hp : p <;> simp [check,hp]

theorem check_bind_error {p : Prop} [Decidable p] {message text : String} {rest : Except String Unit} :
    (check p message >>= fun _ => rest) = .error text ↔
      p ∧ message = text ∨ ¬p ∧ rest = .error text := by
  by_cases hp : p <;> simp [check,hp,bind,Except.bind]

/-- There is a fault that the message of an error names. -/
def Blames (env : EnvVars) (e : AnyhowError) : Prop :=
  ∃ f : Fault, Fault.Present env f ∧ ∀ k ∈ f.keys, Names e k

theorem blames_number {n : Number} (h : Number.read env n = .error e) : Blames env e := by
  refine ⟨.notNumber n,fun v hv => ?_,?_⟩
  · cases h.symm.trans hv
  · intro k hk
    rw [List.mem_singleton.mp hk]
    simp only [Number.read] at h
    split at h
    · cases h
    · cases h
      exact ⟨"invalid ",n.expected,rfl⟩

theorem blames_zero {n : Number} {v : UInt64} {text : String} (hread : Number.read env n = .ok v)
    (hzero : v.toNat * n.unit = 0) (hnames : Names (.msg text) n.key) : Blames env (.msg text) := by
  have hunit : n.unit ≠ 0 := by cases n <;> decide
  have hv : v = 0 := UInt64.toNat_inj.mp ((Nat.mul_eq_zero.mp hzero).resolve_right hunit)
  rw [hv] at hread
  refine ⟨.zero n,hread,fun k hk => ?_⟩
  rw [List.mem_singleton.mp hk]
  exact hnames

theorem read_not_blank {t : Text} (h : ¬Blank t.default) : ¬Blank (Text.read env t) := fun hblank =>
  h (read_blank hblank ▸ hblank)

theorem blames_nodeId (h : requiredEnv env "APP_NODE_ID" = .error e) : Blames env e := by
  refine ⟨.nodeId,fun v hv => ?_,?_⟩
  · cases h.symm.trans hv
  · intro k hk
    rw [List.mem_singleton.mp hk]
    unfold requiredEnv at h
    split at h
    · cases h
      exact ⟨"missing required environment variable ","",rfl⟩
    · split at h
      · cases h
        exact ⟨"required environment variable "," must not be empty",rfl⟩
      · cases h

theorem blames_appSection (h : AppSection.loadFromEnv env = .error e) : Blames env e := by
  simp only [AppSection.loadFromEnv,bind_error,shutdownTimeoutSecs_eq] at h
  rcases h with hnode | ⟨nodeId,hnode,hread | ⟨v,hread,hcheck⟩⟩
  · exact blames_nodeId hnode
  · exact blames_number hread
  split at hcheck
  · cases hcheck
  · next text hvalid =>
    cases hcheck
    have hname : ¬Blank (Text.read env .name) := read_not_blank (by decide)
    simp only [AppSection.validate,check_bind_error,check_error] at hvalid
    rcases hvalid with ⟨hblank,-⟩ | ⟨-,⟨hblank,-⟩ | ⟨-,hzero,rfl⟩⟩
    · exact absurd hblank hname
    · exact absurd hblank (AppSection.requiredEnv_ok.mp hnode).2
    · exact blames_zero hread hzero ⟨""," must be > 0",rfl⟩

theorem blames_agent (h : agentFromEnv env = .error e) : Blames env e := by
  simp only [agentFromEnv,bind_error] at h
  rcases h with h | ⟨_,-,h | ⟨_,-,h | ⟨_,-,h | ⟨_,-,h | ⟨_,-,h⟩⟩⟩⟩⟩
  all_goals first | exact blames_number h | cases h

theorem blames_agentCheck {agent : AgentConfig} (hagent : agentFromEnv env = .ok agent) {text : String}
    (h : agent.validate = .error text) : Blames env (.msg text) := by
  obtain ⟨⟨heartbeat,hheartbeat,h1⟩,⟨telemetry,htelemetry,h2⟩,⟨timeout,htimeout,h3⟩,⟨base,hbase,h4⟩,
    ⟨max,hmax,h5⟩,-,hstate,hbootstrap,-,hca,hcert,hkey,-,hversion,hledger⟩ := agent_ok.mp hagent
  have hfilled {t : Text} {field : String} (hfield : field = Text.read env t) (ht : ¬Blank t.default) :
      ¬Blank field := hfield ▸ read_not_blank ht
  simp only [AgentConfig.validate,check_bind_error,check_error] at h
  rcases h with ⟨h,-⟩ | ⟨-,⟨h,-⟩ | ⟨-,⟨h,-⟩ | ⟨-,⟨h,-⟩ | ⟨-,⟨h,rfl⟩ | ⟨-,⟨h,rfl⟩ | ⟨-,⟨h,rfl⟩ | ⟨-,⟨h,rfl⟩ |
    ⟨-,⟨h,rfl⟩ | ⟨-,⟨h,-⟩ | ⟨-,⟨h,-⟩ | ⟨-,h,-⟩⟩⟩⟩⟩⟩⟩⟩⟩⟩⟩
  · exact absurd h (hfilled hbootstrap (by decide))
  · exact absurd h.2 (hfilled hca (by decide))
  · exact absurd h (hfilled hcert (by decide))
  · exact absurd h (hfilled hkey (by decide))
  · exact blames_zero hheartbeat (h1.symm.trans h) ⟨""," must be > 0",rfl⟩
  · exact blames_zero htelemetry (h2.symm.trans h) ⟨""," must be > 0",rfl⟩
  · exact blames_zero htimeout (h3.symm.trans h) ⟨""," must be > 0",rfl⟩
  · exact blames_zero hbase (h4.symm.trans h) ⟨""," must be > 0",rfl⟩
  · rw [h4,h5] at h
    refine ⟨.inverted,⟨base,max,hbase,hmax,
      UInt64.lt_iff_toNat_lt.mpr (Nat.lt_of_mul_lt_mul_right h)⟩,fun k hk => ?_⟩
    rcases List.mem_pair.mp hk with rfl | rfl
    · exact ⟨""," must be >= AGENT_FAILOVER_BASE_BACKOFF_MS",rfl⟩
    · exact ⟨"AGENT_FAILOVER_MAX_BACKOFF_MS must be >= ","",rfl⟩
  · exact absurd h (hfilled hversion (by decide))
  · exact absurd h (hfilled hledger (by decide))
  · exact absurd h (hfilled hstate (by decide))

theorem blames_of_error (h : loadFromEnv env = .error e) : Blames env e := by
  simp only [loadFromEnv,bind_error,checked_error] at h
  rcases h with happ | ⟨app,-,⟨text,hgrpc,-⟩ | ⟨_,-,hread | ⟨agent,hagent,⟨text,hcheck,rfl⟩ |
    ⟨_,-,hread | ⟨workers,hworkers,⟨text,hzero,rfl⟩ | ⟨_,-,⟨text,hlog,-⟩ | ⟨_,-,h⟩⟩⟩⟩⟩⟩⟩
  · exact blames_appSection happ
  · exact absurd (check_error.mp hgrpc).1 (read_not_blank (t := .bindAddr) (by decide))
  · exact blames_agent hread
  · exact blames_agentCheck hagent hcheck
  · exact blames_number hread
  · obtain ⟨hnone,rfl⟩ := check_error.mp hzero
    have hnone : workers.toNat * 1 = 0 := by
      rw [show workers = 0 from hnone]
      rfl
    exact blames_zero hworkers hnone ⟨""," must be > 0",rfl⟩
  · rw [log_valid] at hlog
    cases hlog
  · cases h

/-- Loading fails where a variable is at fault and only there, and the message of the error
names variables that no configuration can be loaded with. -/
theorem errors_blame (env : EnvVars) :
    ((∃ e, loadFromEnv env = .error e) ↔ ∃ f : Fault, Fault.Present env f) ∧
    ∀ e, loadFromEnv env = .error e → ∃ keys, keys ≠ [] ∧ (∀ k ∈ keys, Names e k) ∧
      ∀ env' : EnvVars, (∀ k ∈ keys, env' k = env k) → ∀ c, loadFromEnv env' ≠ .ok c := by
  refine ⟨⟨?_,?_⟩,?_⟩
  · rintro ⟨e,h⟩
    obtain ⟨f,hf,-⟩ := blames_of_error h
    exact ⟨f,hf⟩
  · rintro ⟨f,hf⟩
    cases hload : loadFromEnv env with
    | error e => exact ⟨e,rfl⟩
    | ok c => exact absurd hload (Fault.refuses hf c)
  · intro e h
    obtain ⟨f,hf,hnames⟩ := blames_of_error h
    refine ⟨f.keys,?_,hnames,fun env' hagree c => Fault.refuses (Fault.congr hf hagree) c⟩
    cases f <;> exact List.cons_ne_nil _ _

end Faults
end Configuration
end KvmAgent
