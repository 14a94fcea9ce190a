import KvmAgent.Program
import KvmAgent.RustText
import KvmAgent.Anyhow
import KvmAgent.Clock
import KvmAgent.Frames
import KvmAgent.AgentOps
import KvmAgent.CommandLedger
import KvmAgent.Registration
import KvmAgent.LedgerWorld
import KvmAgent.LedgerCalls
import KvmAgent.LedgerRuns
import KvmAgent.CommandHandler
import KvmAgent.CommandAnswers
import KvmAgent.LedgerReplay
import KvmAgent.LedgerLifecycle
import KvmAgent.Simulation
import KvmAgent.LedgerMap
import KvmAgent.AgentConfig
import KvmAgent.FileSystem
import KvmAgent.MachineOps
import KvmAgent.IdentityStore
import KvmAgent.Bootstrap
import KvmAgent.HostWorld
import KvmAgent.IdentityCalls
import KvmAgent.IdentitySaves
import KvmAgent.IdentityKeys
import KvmAgent.FaultFree
import KvmAgent.ServerName
import KvmAgent.Enrollment
import KvmAgent.Trace
import KvmAgent.BootstrapTls
import KvmAgent.Registry
import KvmAgent.ConnectSteps
import KvmAgent.Rotation
import KvmAgent.Backoff
import KvmAgent.ConnectRuns
import KvmAgent.ConnectRetries
import KvmAgent.ConnectTargets
import KvmAgent.ConnectShutdown
import KvmAgent.Timeline
import KvmAgent.AssignmentExpiry
import KvmAgent.AssignmentLifetime
import KvmAgent.AssignmentRefresh
import KvmAgent.Session
import KvmAgent.SessionTasks
import KvmAgent.Threads
import KvmAgent.Tickets
import KvmAgent.FrameStream
import KvmAgent.FrameNumbers
import KvmAgent.FrameOrder
import KvmAgent.FrameCounts
import KvmAgent.StreamIdentity
import KvmAgent.Process
import KvmAgent.Lifecycle
import KvmAgent.ServerShutdown
import KvmAgent.CleanShutdown
import KvmAgent.Admission
import KvmAgent.AppSection
import KvmAgent.ShutdownDeadline
import KvmAgent.ShutdownVerdict
import KvmAgent.CounterDeltas
import KvmAgent.Telemetry
import KvmAgent.TelemetryCounters
import KvmAgent.PoolCounter
import KvmAgent.CpuShare
import KvmAgent.DiskTotals
import KvmAgent.InterfaceChurn
import KvmAgent.Binary64
import KvmAgent.Binary64Rounding
import KvmAgent.Binary64Arithmetic
import KvmAgent.RoundUp
import KvmAgent.PhysicalRam
import KvmAgent.HostDiscovery
import KvmAgent.StoragePools
import KvmAgent.CpuTopology
import KvmAgent.KeyPermissions
import KvmAgent.Replacement
import KvmAgent.IdentityRoundTrip
import KvmAgent.MtlsEndpoint
import KvmAgent.RuntimeChannels
import KvmAgent.Configuration
import KvmAgent.SessionAnswers
import KvmAgent.ConnectFreshness
import KvmAgent.ConnectProgress
import KvmAgent.Milestones
import KvmAgent.AppPhases
import KvmAgent.RustLines
import KvmAgent.Findings
import KvmAgent.HostProbe
import KvmAgent.Binary64Ranges
import KvmAgent.MemoryUsage
import KvmAgent.NodeSnapshot
import KvmAgent.TelemetryViews
import KvmAgent.WireIdentity
import KvmAgent.InstalledFiles
import KvmAgent.LedgerAudit
