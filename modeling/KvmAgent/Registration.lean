import KvmAgent.CommandLedger

/-! Handling one message of the server on the control stream. -/
namespace KvmAgent
namespace Registration

open Fallible CommandLedger

variable (crates : Crates) (facts : HostFacts) (streamId : String)

def hostInventorySendMaxAttempts : ℕ := 3
def hostInventorySendRetryDelay : Duration := Duration.fromMillis 200

/-- The attempts of `send_host_inventory_with_retry` still to be made; each takes a fresh
sequence number. -/
def sendHostInventory : ℕ → Option AnyhowError → Agent Unit
  | 0, some err => throw (err.context "send host inventory after retries")
  | 0, none => pure ()
  | left+1, _ => do
    let seq ← ask Op.fetchAdd
    let pools ← ask Op.discoverStoragePools
    let now ← ask Op.now
    match ← ask (Op.send (hostInventoryFrame facts streamId seq pools now)) with
    | .ok () => pure ()
    | .error err =>
      if left ≠ 0 then ask (Op.sleep hostInventorySendRetryDelay)
      sendHostInventory left (some err)

def sendHostInventoryWithRetry : Agent Unit :=
  sendHostInventory facts streamId hostInventorySendMaxAttempts none

/-- The part of a `CommandResult` that answers a command. -/
structure Reply where
  status : String
  resultJson : String
  errorMessage : String
  deriving DecidableEq

def outcomeReply : Except AnyhowError String → Reply
  | .ok value => ⟨"succeeded",value,""⟩
  | .error err => ⟨"failed","{}",err.toString⟩

def existingReply (record : LedgerRecord) : Reply :=
  if record.status = "running" then ⟨"running","{}",""⟩
  else if record.status = "succeeded" then ⟨"succeeded",record.resultJson,record.errorMessage⟩
  else ⟨"failed",record.resultJson,record.errorMessage⟩

def mismatchReply : Reply := ⟨"failed","{}","command_id_payload_mismatch"⟩

/-- What is run on a command seen for the first time. -/
def executeAndComplete (command : AgentCommand) : Agent Reply := do
  match ← ask (Op.execute command) with
  | .ok value =>
    complete command.commandId "succeeded" value ""
    return outcomeReply (.ok value)
  | .error err =>
    complete command.commandId "failed" "{}" err.toString
    return outcomeReply (.error err)

theorem executeAndComplete_eq (command : AgentCommand) :
    executeAndComplete command = do
      let outcome ← ask (Op.execute command)
      complete command.commandId (outcomeReply outcome).status (outcomeReply outcome).resultJson
        (outcomeReply outcome).errorMessage
      return outcomeReply outcome := by
  apply congrArg (ask (Op.execute command) >>= ·)
  funext outcome
  cases outcome <;> rfl

def commandReply (command : AgentCommand) : Agent Reply := do
  match ← beginOrGet crates command.commandId command.type command.payloadJson with
  | .new _ => executeAndComplete command
  | .existing record => return existingReply record
  | .payloadMismatch _ => return mismatchReply

def commandResultFrame (command : AgentCommand) (reply : Reply) (seq : UInt64)
    (now : SystemTime) : AgentToHypervisor :=
  ⟨streamId,seq,.commandResult
    { agentId := facts.agentId
      hostId := facts.hostId
      commandId := command.commandId
      status := reply.status
      resultJson := reply.resultJson
      errorMessage := reply.errorMessage
      completedAt := systemTimeToTimestamp now }⟩

def sendReply (command : AgentCommand) (reply : Reply) : Agent Unit := do
  let seq ← ask Op.fetchAdd
  let now ← ask Op.now
  context (attempt (Prog.op (Op.send (commandResultFrame facts streamId command reply seq now))))
    "send command result"

def handleServerMessage : Option HypervisorMessage → Agent Unit
  | some (.registerAck ..) => sendHostInventoryWithRetry facts streamId
  | some (.heartbeatAck ..) => pure ()
  | some (.command command) => do
    let reply ← commandReply crates command
    sendReply facts streamId command reply
  | none => pure ()

end Registration
end KvmAgent
