import KvmAgent.AgentConfig
import KvmAgent.MachineOps

/-! `IdentityStore`: the files that hold the agent's key, certificate, CA bundle and
runtime target, each replaced through a temporary file. -/
namespace KvmAgent

open RustText Fallible Machine

structure AgentIdentityState where
  clientCertPem : Bytes
  clientKeyPem : Bytes
  caBundlePem : Bytes
  certNotAfter : Option String
  runtimeTargetAddr : Option String
  deriving DecidableEq

structure IdentityStore where
  certPath : Path
  keyPath : Path
  caPath : Path
  runtimeTargetStatePath : Path
  deriving DecidableEq

namespace IdentityStore

def new (cfg : AgentConfig) : IdentityStore where
  certPath := Path.ofString cfg.certPath
  keyPath := Path.ofString cfg.keyPath
  caPath := Path.ofString cfg.caPath
  runtimeTargetStatePath := Path.ofString cfg.runtimeTargetStatePath

variable (ssl : OpenSsl) (store : IdentityStore)

def identityPaths : List Path :=
  [store.certPath,store.keyPath,store.caPath,store.runtimeTargetStatePath]

/-- `write_all`: at most `n` writes, as each takes at least one byte. -/
def writeAll (p : Path) : ℕ → Bytes → Prog MachineAns (Except IoError Unit)
  | 0, _ => .ret (.ok ())
  | _+1, [] => .ret (.ok ())
  | n+1, bytes => do
    match ← Prog.op (MachineOp.write p bytes) with
    | .error e => return .error e
    | .ok 0 => return .error ⟨false,"failed to write whole buffer"⟩
    | .ok k => writeAll p n (bytes.drop k)

def fsWrite (p : Path) (content : Bytes) : Prog MachineAns (Except IoError Unit) := do
  match ← Prog.op (MachineOp.create p) with
  | .error e => return .error e
  | .ok () => writeAll p content.length content

/-- The mode `write_file` gives to the file it writes for a path. -/
def modeFor (path : Path) : ℕ := if path.Same store.keyPath then 0o600 else 0o640

def writeFile (path : Path) (content : Bytes) : Machine Unit := do
  match path.parent with
  | some parent =>
    io (Prog.op (MachineOp.createDirAll parent)) ("create identity directory " ++ parent.display)
  | none => pure ()
  io (fsWrite path.tmpPath content) ("write identity file " ++ path.tmpPath.display)
  io (Prog.op (MachineOp.setPermissions path.tmpPath (modeFor store path)))
    ("set identity file permissions " ++ path.tmpPath.display)
  io (Prog.op (MachineOp.rename path.tmpPath path)) ("replace identity file " ++ path.display)

/-- Generate a key and store it. -/
def newPrivateKey : Machine Bytes := do
  let pem ← orFail (Prog.op MachineOp.generateKey) fun (step,e) => e.context step.context
  writeFile store store.keyPath pem
  return pem

def ensurePrivateKey : Machine Bytes := do
  match ← ask (MachineOp.read store.keyPath) with
  | .ok existing => if existing ≠ [] then return existing else newPrivateKey store
  | .error _ => newPrivateKey store

def generateCsr (privateKeyPem : Bytes) (commonName : String) : Machine String :=
  orFail (Prog.op (MachineOp.generateCsr privateKeyPem commonName))
    fun (step,e) => e.context step.context

def loadRuntimeTargetAddr : Machine (Option String) := do
  let failed := "read runtime target state " ++ store.runtimeTargetStatePath.display
  match ← ask (MachineOp.read store.runtimeTargetStatePath) with
  | .ok bytes =>
    match fromUtf8 bytes with
    | some value => if trim value = "" then return none else return some (trim value)
    | none => throw ((AnyhowError.msg "stream did not contain valid UTF-8").context failed)
  | .error e => if e.notFound then return none else throw (e.toError.context failed)

def loadIdentity : Machine AgentIdentityState := do
  let clientCertPem ← io (Prog.op (MachineOp.read store.certPath))
    ("read client cert " ++ store.certPath.display)
  let clientKeyPem ← io (Prog.op (MachineOp.read store.keyPath))
    ("read client key " ++ store.keyPath.display)
  let caBundlePem ← io (Prog.op (MachineOp.read store.caPath))
    ("read ca bundle " ++ store.caPath.display)
  let target ← inspect (loadRuntimeTargetAddr store)
  return {
    clientCertPem := clientCertPem
    clientKeyPem := clientKeyPem
    caBundlePem := caBundlePem
    certNotAfter := (ssl.certificate clientCertPem).map (·.notAfterText)
    runtimeTargetAddr := (target.toOption).join }

def saveRuntimeTargetAddr (runtimeTargetAddr : String) : Machine Unit :=
  if trim runtimeTargetAddr = "" then throw (.msg "runtime target addr must not be empty")
  else writeFile store store.runtimeTargetStatePath (asBytes (trim runtimeTargetAddr))

def saveIdentity (clientCertPem caBundlePem : Bytes) (runtimeTargetAddr : String) :
    Machine Unit := do
  writeFile store store.certPath clientCertPem
  writeFile store store.caPath caBundlePem
  saveRuntimeTargetAddr store runtimeTargetAddr

/-- The part of `has_usable_client_certificate` behind a successful load. -/
def usable (state : AgentIdentityState) : Prog MachineAns Bool := do
  if state.clientCertPem = [] ∨ state.clientKeyPem = [] ∨ state.caBundlePem = [] then
    return false
  match ssl.certificate state.clientCertPem with
  | none => return false
  | some cert =>
    match ← Prog.op MachineOp.asn1Now with
    | none => return false
    | some now => return decide (now < cert.notAfter)

def hasUsableClientCertificate : Prog MachineAns Bool := do
  match ← (loadIdentity ssl store).run with
  | .error _ => return false
  | .ok state => usable ssl state

def defaults : IdentityStore := new AgentConfig.defaults

end IdentityStore
end KvmAgent
