import KvmAgent.Frames
import KvmAgent.IdentityStore

/-! Enrollment: endpoints and channels before and after it, the exchange itself, and
`ensure_identity`. -/
namespace KvmAgent
namespace Bootstrap

open RustText Fallible Machine IdentityStore

variable (ssl : OpenSsl) (store : IdentityStore) (config : AppConfig) (facts : HostFacts)

def normalizeBootstrapEndpoint (raw : String) : Except AnyhowError String :=
  let trimmed := trim raw
  if trimmed = "" then .error (.msg "AGENT_BOOTSTRAP_TARGET_ADDR must not be empty")
  else if startsWith "https://" trimmed || startsWith "http://" trimmed then .ok trimmed
  else .ok ("http://" ++ trimmed)

def normalizeMtlsEndpoint (raw : String) : String :=
  let trimmed := trim raw
  if startsWith "https://" trimmed then trimmed
  else if startsWith "http://" trimmed then "https://" ++ trimStartMatches "http://" trimmed
  else "https://" ++ trimmed

section Scheme

variable {target : String}

theorem not_http_of_https (h : startsWith "https://" target = true) :
    startsWith "http://" target = false := by
  refine Bool.eq_false_iff.mpr fun hhttp => ?_
  have hplain := startsWith_iff.mp hhttp
  have hboth := List.prefix_of_prefix_length_le hplain (startsWith_iff.mp h) (by decide)
  exact absurd hboth (by decide)

theorem not_https_prefixed (s : String) : startsWith "https://" ("http://" ++ s) = false := by
  refine Bool.eq_false_iff.mpr fun h => ?_
  have htls := startsWith_iff.mp h
  rw [String.toList_append] at htls
  have hboth := List.prefix_of_prefix_length_le (List.prefix_append "http://".toList s.toList) htls
    (by decide)
  exact absurd hboth (by decide)

theorem ne_empty_of_https (h : startsWith "https://" target = true) : target ≠ "" := by
  rintro rfl
  exact absurd h (by decide)

end Scheme

def serverNameForTarget (targetAddr : String) : String :=
  let name := trim config.agent.serverName
  if name ≠ "" then name
  else
    let raw := trim targetAddr
    let withoutScheme := ((stripPrefix "https://" raw).or (stripPrefix "http://" raw)).getD raw
    let hostPort := splitFirst '/' withoutScheme
    ((splitOnce ':' hostPort).map Prod.fst).getD hostPort

def buildBootstrapChannel : Machine Unit := do
  let target ← attempt (.ret (normalizeBootstrapEndpoint config.agent.bootstrapTargetAddr))
  orFail (Prog.op (MachineOp.endpoint target))
    fun e => e.toError.context "build hypervisor bootstrap endpoint"
  if startsWith "http://" target then
    orFail (Prog.op (MachineOp.connect target config.agent.connectTimeout none))
      TransportError.toError
  else
    let caPem ← io (Prog.op (MachineOp.read (Path.ofString config.agent.caPath)))
      ("read ca bundle " ++ config.agent.caPath)
    orFail (Prog.op (MachineOp.connect target config.agent.connectTimeout
      (some ⟨serverNameForTarget config config.agent.bootstrapTargetAddr,caPem,none⟩)))
      TransportError.toError

def buildMtlsChannelForTarget (targetAddr : String) (identity : AgentIdentityState) :
    Machine Unit := do
  let target := normalizeMtlsEndpoint targetAddr
  orFail (Prog.op (MachineOp.endpoint target))
    fun e => e.toError.context "build hypervisor mTLS endpoint"
  if identity.caBundlePem = [] then
    throw (.msg "missing CA bundle for mTLS controlplane/dataplane connection")
  else if identity.clientCertPem = [] ∨ identity.clientKeyPem = [] then
    throw (.msg "missing client certificate or private key for mTLS controlplane/dataplane connection")
  else
    orFail (Prog.op (MachineOp.connect target config.agent.connectTimeout
      (some ⟨serverNameForTarget config targetAddr,identity.caBundlePem,
        some (identity.clientCertPem,identity.clientKeyPem)⟩)))
      TransportError.toError

/-- The target `build_mtls_channel_for_controlplane` dials: the enrolled one, else the
configured one, else the bootstrap target. -/
def controlplaneTarget (identity : AgentIdentityState) : String :=
  let configured := trim config.agent.runtimeTargetAddr
  (((identity.runtimeTargetAddr.map trim).filter (· ≠ "")).or
    (if configured = "" then none else some configured)).getD config.agent.bootstrapTargetAddr

def buildMtlsChannelForControlplane (identity : AgentIdentityState) : Machine Unit :=
  buildMtlsChannelForTarget config (controlplaneTarget config identity) identity

/-- The request `bootstrap_enroll` sends for a signing request. -/
def enrollRequest (csrPem : String) : BootstrapEnrollAgentRequest where
  bootstrapToken := config.agent.bootstrapToken
  requestedAgentId := facts.agentId
  csrPem := csrPem
  hostname := facts.hostname

def acceptEnrollment (response : BootstrapEnrollAgentResponse) : Machine AgentIdentityState :=
  if trim response.agentId = "" then
    throw (.msg "bootstrap enrollment returned empty agent id")
  else if trim response.runtimeTargetAddr = "" then
    throw (.msg "bootstrap enrollment returned empty runtime target addr")
  else do
    context (saveIdentity store (asBytes response.clientCertPem) (asBytes response.caCertPem)
      response.runtimeTargetAddr) "persist bootstrap enrollment"
    context (loadIdentity ssl store) "reload enrolled identity"

def bootstrapEnroll : Machine AgentIdentityState :=
  if trim config.agent.bootstrapToken = "" then
    throw (.msg "bootstrap token is required until the first enrollment succeeds")
  else do
    let privateKey ← ensurePrivateKey store
    let csrPem ← context (generateCsr privateKey ("vm-agent:" ++ facts.agentId))
      "generate bootstrap csr"
    buildBootstrapChannel config
    let response ← orFail
      (Prog.op (MachineOp.bootstrapEnrollAgent (enrollRequest config facts csrPem)))
      fun s => s.toError.context "bootstrap enroll agent"
    acceptEnrollment ssl store response

def ensureIdentity : Machine AgentIdentityState := do
  let usable ← ExceptT.lift (hasUsableClientCertificate ssl store)
  if usable then loadIdentity ssl store
  else bootstrapEnroll ssl store config facts

end Bootstrap
end KvmAgent
