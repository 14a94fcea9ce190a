import KvmAgent.Anyhow
import KvmAgent.Frames

/-! The operations a control session performs on the world outside its own memory:
SQL statements on the command ledger, the executor, the outbound channel, the clock. -/
namespace KvmAgent

/-- The columns `load_record` selects. -/
structure LedgerRecord where
  commandId : String
  commandType : String
  payloadHash : String
  resourceKey : Option String
  status : String
  resultJson : String
  errorMessage : String
  deriving DecidableEq

structure Row extends LedgerRecord where
  createdAt : ℤ
  startedAt : ℤ
  completedAt : Option ℤ
  updatedAt : ℤ
  deriving DecidableEq

/-- The SQL statements of the ledger, by the place in the source that issues them:
`begin_or_get` reads the row of an id once before and once after its `INSERT`. -/
inductive Statement
  | createTable | markStale | lookup | insert | verification | complete
  deriving DecidableEq

/-- What wakes the `select!` of a session loop; the refresh task ends without a signal
when it sees the shutdown first. -/
inductive SessionEvent
  | cancelled
  | assignmentChanged
  | refreshEnded
  | message (body : Option HypervisorMessage)
  | closed
  | status (err : AnyhowError)
  deriving DecidableEq

inductive Task
  | heartbeat | telemetry | refresh
  deriving DecidableEq

inductive Op
  | now
  | createParentDir (path : String)
  | connect (path : String)
  | createTable
  | markStale (now : ℤ)
  | select (site : Statement) (commandId : String)
  | insert (row : Row)
  | update (commandId status resultJson errorMessage : String) (now : ℤ)
  | execute (command : AgentCommand)
  | discoverStoragePools
  | fetchAdd
  | send (frame : AgentToHypervisor)
  | sleep (d : Duration)
  | tick
  | sessionEvent
  | channel (target : String)
  | openStream
  | spawn (task : Task) (streamId : String)
  | abort (task : Task)
  deriving DecidableEq

/-- Answers: a fallible operation answers with its `Result`, `tick` with whether the
ticker fired before the shutdown token. -/
@[reducible] def Ans : Op → Type
  | .now => SystemTime
  | .createParentDir _ | .connect _ | .createTable | .markStale _ | .insert _ => Except AnyhowError Unit
  | .update .. => Except AnyhowError Unit
  | .select .. => Except AnyhowError (Option LedgerRecord)
  | .execute _ => Except AnyhowError String
  | .discoverStoragePools => List StoragePool
  | .fetchAdd => UInt64
  | .send _ => Except AnyhowError Unit
  | .sleep _ | .spawn .. | .abort _ => Unit
  | .channel _ | .openStream => Except AnyhowError Unit
  | .tick => Bool
  | .sessionEvent => SessionEvent

abbrev Agent (α : Type) := Fallible Ans α

/-- `serde_json::Value`; numbers keep their text. -/
inductive Json
  | null
  | bool (b : Bool)
  | number (text : String)
  | string (s : String)
  | array (items : List Json)
  | object (fields : List (String × Json))

namespace Json

def get (key : String) : Json → Option Json
  | .object fields => fields.lookup key
  | _ => none

def asStr : Json → Option String
  | .string s => some s
  | _ => none

end Json

/-- The crates the ledger and the executor call: SHA-256 written in hexadecimal, and
`serde_json::from_str` with the text of its error. -/
structure Crates where
  sha256Hex : String → String
  fromStr : String → Except String Json

end KvmAgent
