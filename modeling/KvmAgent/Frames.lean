import KvmAgent.Clock

/-! The host description and the messages of the control stream. -/
namespace KvmAgent

structure CPUPackage where
  packageIndex : ℤ
  model : String
  cores : ℤ
  threads : ℤ
  deriving DecidableEq

structure MemoryModule where
  slotIndex : ℤ
  model : String
  sizeGib : ℤ
  deriving DecidableEq

structure GPUDevice where
  deviceIndex : ℤ
  model : String
  memoryGib : ℤ
  coreCount : ℤ
  deriving DecidableEq

structure NetworkInterface where
  name : String
  macAddress : String
  ipv4Address : String
  ipv6Address : String
  speedMbps : ℤ
  status : String
  deriving DecidableEq

structure StoragePool where
  name : String
  driver : String
  path : String
  totalBytes : ℤ
  usedBytes : ℤ
  status : String
  metadataJson : String
  deriving DecidableEq

/-- `HostFacts`, collected once when the agent starts. -/
structure HostFacts where
  agentId : String
  hostId : String
  hostname : String := ""
  privateIp : String := ""
  hypervisorType : String := ""
  agentVersion : String := ""
  capabilitiesJson : String := ""
  cpuCores : ℤ := 0
  cpuThreads : ℤ := 0
  memoryBytes : ℤ := 0
  diskBytes : ℤ := 0
  gpuCores : ℤ := 0
  gpuMemoryGib : ℤ := 0
  cpuPackages : List CPUPackage := []
  memoryModules : List MemoryModule := []
  gpuDevices : List GPUDevice := []
  networkInterfaces : List NetworkInterface := []
  deriving DecidableEq

/-- `HostRegistration`: what the heartbeat and the first frame tell of the host. -/
structure HostRegistration where
  agentId : String
  hostId : String
  hostname : String
  privateIp : String
  hypervisorType : String
  agentVersion : String
  capabilitiesJson : String
  deriving DecidableEq

def hostRegistrationFromFacts (facts : HostFacts) : HostRegistration where
  agentId := facts.agentId
  hostId := facts.hostId
  hostname := facts.hostname
  privateIp := facts.privateIp
  hypervisorType := facts.hypervisorType
  agentVersion := facts.agentVersion
  capabilitiesJson := facts.capabilitiesJson

structure AgentHeartbeat where
  agentId : String
  hostId : String
  status : String
  lastSeenAt : Timestamp
  deriving DecidableEq

structure NetworkInterfaceInventory extends NetworkInterface where
  metadataJson : String
  deriving DecidableEq

structure HostInventory where
  agentId : String
  hostId : String
  cpuPackages : List CPUPackage
  memoryModules : List MemoryModule
  gpuDevices : List GPUDevice
  storagePools : List StoragePool
  networkInterfaces : List NetworkInterfaceInventory
  collectedAt : Timestamp
  deriving DecidableEq

structure AgentCommandResult where
  agentId : String
  hostId : String
  commandId : String
  status : String
  resultJson : String
  errorMessage : String
  completedAt : Timestamp
  deriving DecidableEq

/-- The messages the agent sends; the `RegisterHost` body is the registration itself. -/
inductive AgentMessage
  | registerHost (body : HostRegistration)
  | heartbeat (body : AgentHeartbeat)
  | hostInventory (body : HostInventory)
  | commandResult (body : AgentCommandResult)
  deriving DecidableEq

structure AgentToHypervisor where
  streamId : String
  seq : UInt64
  message : AgentMessage
  deriving DecidableEq

structure AgentCommand where
  commandId : String
  type : String
  payloadJson : String
  idempotencyKey : String := ""
  deriving DecidableEq

/-- The messages of the server; acknowledgements are only logged. -/
inductive HypervisorMessage
  | registerAck (hostId status nodeId : String)
  | heartbeatAck (hostId status : String)
  | command (command : AgentCommand)
  deriving DecidableEq

def registerFrame (facts : HostFacts) (streamId : String) (seq : UInt64) : AgentToHypervisor :=
  ⟨streamId,seq,.registerHost (hostRegistrationFromFacts facts)⟩

/-- `host_inventory_frame`, given the storage pools and the time it discovers. -/
def hostInventoryFrame (facts : HostFacts) (streamId : String) (seq : UInt64)
    (pools : List StoragePool) (now : SystemTime) : AgentToHypervisor :=
  ⟨streamId,seq,.hostInventory
    { agentId := facts.agentId
      hostId := facts.hostId
      cpuPackages := facts.cpuPackages
      memoryModules := facts.memoryModules
      gpuDevices := facts.gpuDevices
      storagePools := pools
      networkInterfaces := facts.networkInterfaces.map fun i => ⟨i,"{}"⟩
      collectedAt := systemTimeToTimestamp now }⟩

end KvmAgent
