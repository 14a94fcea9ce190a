import KvmAgent.Anyhow
import KvmAgent.Clock
import KvmAgent.FileSystem

/-! The operations on the machine and its network that identity and assignment handling
are made of: files, OpenSSL, channels, unary RPCs, clocks. -/
namespace KvmAgent

structure IoError where
  notFound : Bool
  text : String
  deriving DecidableEq

def IoError.toError (e : IoError) : AnyhowError := .msg e.text

/-- `tonic::transport::Error` with the texts of its sources; no `Status` is among them. -/
structure TransportError where
  text : String
  sources : List String := []
  deriving DecidableEq

def TransportError.toError (e : TransportError) : AnyhowError :=
  ⟨⟨e.text,none⟩,e.sources.map fun s => ⟨s,none⟩⟩

/-- `tonic::Status`: its code, the text it displays, with code, message, details and metadata,
and the texts of its sources. -/
structure Status where
  code : Code
  text : String
  sources : List String := []
  deriving DecidableEq

def Status.toError (s : Status) : AnyhowError :=
  ⟨⟨s.text,some s.code⟩,s.sources.map fun s => ⟨s,none⟩⟩

@[simp] theorem IoError.status_toError (e : IoError) : e.toError.grpcStatusInChain = none := rfl

@[simp] theorem TransportError.status_toError (e : TransportError) :
    e.toError.grpcStatusInChain = none := by
  simp [TransportError.toError,AnyhowError.grpcStatusInChain,AnyhowError.chain,List.findSome?_eq_none_iff]

@[simp] theorem Status.status_toError (s : Status) : s.toError.grpcStatusInChain = some s.code := rfl

inductive KeyStep
  | ecGroup | ecKey | pkey | encodePem
  deriving DecidableEq

def KeyStep.context : KeyStep → String
  | .ecGroup => "generate agent key: create EC group"
  | .ecKey => "generate agent key: create EC key"
  | .pkey => "generate agent key: create pkey"
  | .encodePem => "generate agent key: encode pem"

inductive CsrStep
  | loadPrivateKey | createSubject | setCommonName | createBuilder | setSubject | setPublicKey
  | signRequest | encodePem | utf8
  deriving DecidableEq

def CsrStep.context : CsrStep → String
  | .loadPrivateKey => "generate agent csr: load private key"
  | .createSubject => "generate agent csr: create subject"
  | .setCommonName => "generate agent csr: set common name"
  | .createBuilder => "generate agent csr: create builder"
  | .setSubject => "generate agent csr: set subject"
  | .setPublicKey => "generate agent csr: set public key"
  | .signRequest => "generate agent csr: sign request"
  | .encodePem => "generate agent csr: encode pem"
  | .utf8 => "generate agent csr: invalid utf8"

structure Certificate where
  notAfter : ℤ
  notAfterText : String
  publicKey : Bytes
  deriving DecidableEq

/-- What OpenSSL reads out of PEM files: `X509::from_pem`, and the public key behind a
private key and inside a signing request. -/
structure OpenSsl where
  certificate : Bytes → Option Certificate
  publicKey : Bytes → Option Bytes
  csrPublicKey : String → Option Bytes

structure ClientTlsConfig where
  domainName : String
  caCertificate : Bytes
  identity : Option (Bytes × Bytes)
  deriving DecidableEq

structure BootstrapEnrollAgentRequest where
  bootstrapToken : String
  requestedAgentId : String
  csrPem : String
  hostname : String
  deriving DecidableEq

structure BootstrapEnrollAgentResponse where
  agentId : String
  clientCertPem : String
  caCertPem : String
  runtimeTargetAddr : String
  deriving DecidableEq

structure ResolveRuntimeAssignmentRequest where
  agentId : String
  hostId : String
  zoneId : String
  lastAssignmentEpoch : Int64
  currentDpId : String
  deriving DecidableEq

structure ResolveRuntimeAssignmentResponse where
  preferredDpId : String
  preferredDpAddr : String
  /-- The addresses of `candidate_dps`. -/
  candidateDps : List String
  assignmentEpoch : Int64
  refreshAfterSec : Int64
  deriving DecidableEq

inductive MachineOp
  | createDirAll (p : Path)
  | create (p : Path)
  | write (p : Path) (bytes : Bytes)
  | setPermissions (p : Path) (mode : ℕ)
  | rename (p q : Path)
  | read (p : Path)
  | generateKey
  | generateCsr (key : Bytes) (commonName : String)
  | asn1Now
  | endpoint (uri : String)
  | connect (uri : String) (timeout : Duration) (tls : Option ClientTlsConfig)
  | bootstrapEnrollAgent (request : BootstrapEnrollAgentRequest)
  | resolveRuntimeAssignment (request : ResolveRuntimeAssignmentRequest)
  | now
  | panic
  deriving DecidableEq

/-- A `write` answers with the number of bytes it took; a panic does not return. -/
@[reducible] def MachineAns : MachineOp → Type
  | .createDirAll _ | .create _ | .setPermissions .. | .rename .. => Except IoError Unit
  | .write .. => Except IoError ℕ
  | .read _ => Except IoError Bytes
  | .generateKey => Except (KeyStep × AnyhowError) Bytes
  | .generateCsr .. => Except (CsrStep × AnyhowError) String
  | .asn1Now => Option ℤ
  | .endpoint _ | .connect .. => Except TransportError Unit
  | .bootstrapEnrollAgent _ => Except Status BootstrapEnrollAgentResponse
  | .resolveRuntimeAssignment _ => Except Status ResolveRuntimeAssignmentResponse
  | .now => SystemTime
  | .panic => Empty

abbrev Machine (α : Type) := Fallible MachineAns α

namespace Machine

variable {α : Type}

/-- `.map_err(f)?` on an operation that fails with errors of its own kind. -/
def orFail {ε : Type} (p : Prog MachineAns (Except ε α)) (f : ε → AnyhowError) : Machine α :=
  ExceptT.mk (p >>= fun r => .ret (r.mapError f))

@[simp] theorem orFail_run {ε : Type} (p : Prog MachineAns (Except ε α)) (f : ε → AnyhowError) :
    (orFail p f).run = p >>= fun r => .ret (r.mapError f) := rfl

/-- `.with_context(|| text)?` on a file operation. -/
def io (p : Prog MachineAns (Except IoError α)) (text : String) : Machine α :=
  orFail p fun e => e.toError.context text

@[simp] theorem io_run (p : Prog MachineAns (Except IoError α)) (text : String) :
    (io p text).run = p >>= fun r => .ret (r.mapError fun e => e.toError.context text) := rfl

end Machine
end KvmAgent
