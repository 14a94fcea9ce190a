import KvmAgent.AgentOps
import KvmAgent.RustText

/-! The command ledger: a SQLite table keyed by the trimmed command id. -/
namespace KvmAgent
namespace CommandLedger

open RustText Fallible

inductive BeginOrGet
  | new (record : LedgerRecord)
  | existing (record : LedgerRecord)
  | payloadMismatch (record : LedgerRecord)
  deriving DecidableEq

variable (crates : Crates)

def hashPayload (payloadJson : String) : String := crates.sha256Hex (trim payloadJson)

def resourceKeys : List String := ["vps_id","vm_id","instance_id","domain_id","id"]

/-- `extract_resource_key`: the first of the known keys with a non-blank string. -/
def extractResourceKey (payloadJson : String) : Option String :=
  (crates.fromStr payloadJson).toOption.bind fun payload =>
    resourceKeys.findSome? fun key =>
      ((payload.get key).bind Json.asStr).bind fun value =>
        if trim value = "" then none else some (trim value)

def normalizeResultJson (value : String) : String := if trim value = "" then "{}" else value

/-- `load_record`; `site` tells its two call sites apart. -/
def loadRecord (site : Statement) (commandId : String) : Agent (Option LedgerRecord) :=
  attempt (Prog.op (Op.select site (trim commandId)))

/-- The row the `INSERT` of `begin_or_get` writes. -/
def newRow (commandId commandType payloadJson : String) (now : ℤ) : Row where
  commandId := commandId
  commandType := commandType
  payloadHash := hashPayload crates payloadJson
  resourceKey := extractResourceKey crates payloadJson
  status := "running"
  resultJson := "{}"
  errorMessage := ""
  createdAt := now
  startedAt := now
  completedAt := none
  updatedAt := now

def beginOrGet (commandId commandType payloadJson : String) : Agent BeginOrGet := do
  let commandId := trim commandId
  if commandId = "" then throw (.msg "command_id is required")
  else do
    let commandType := trim commandType
    let now ← ask Op.now
    match ← loadRecord .lookup commandId with
    | some record =>
      if record.commandType ≠ commandType ∨ record.payloadHash ≠ hashPayload crates payloadJson then
        return .payloadMismatch record
      else return .existing record
    | none =>
      attempt (Prog.op (Op.insert (newRow crates commandId commandType payloadJson now.unixNow)))
      match ← loadRecord .verification commandId with
      | some record => return .new record
      | none => throw (.msg "command ledger insert verification failed")

def complete (commandId status resultJson errorMessage : String) : Agent Unit := do
  let now ← ask Op.now
  attempt (Prog.op (Op.update (trim commandId) (trim status) (normalizeResultJson resultJson)
    (trim errorMessage) now.unixNow))

def markStaleRunningFailed : Agent Unit := do
  let now ← ask Op.now
  attempt (Prog.op (Op.markStale now.unixNow))

def «open» (path : String) : Agent Unit := do
  let path := trim path
  if path = "" then throw (.msg "agent command ledger path is required")
  attempt (Prog.op (Op.createParentDir path))
  attempt (Prog.op (Op.connect path))
  attempt (Prog.op Op.createTable)
  markStaleRunningFailed

end CommandLedger
end KvmAgent
