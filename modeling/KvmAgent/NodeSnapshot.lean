import KvmAgent.Findings
import KvmAgent.Frames
import KvmAgent.HostDiscovery
import KvmAgent.MachineOps
import KvmAgent.MemoryUsage

/-! The telemetry loop with everything it reads and sends: each snapshot of the node and of its
virtual machines, and what holds of all of them. -/
namespace KvmAgent
namespace NodeSnapshot

open RustText Telemetry HostDiscovery PhysicalRam Binary64 MemoryUsage Trace

structure NodeTelemetryMetrics where
  cpuUsedPercent : F64
  cpuUsedCores : F64
  ramUsedBytes : F64
  ramUsedPercent : F64
  diskUsedBytes : F64
  diskUsedPercent : F64
  networkRxBps : Int64
  networkTxBps : Int64
  diskReadBps : UInt64
  diskWriteBps : UInt64
  filesystemUsedBytes : UInt64
  filesystemTotalBytes : UInt64
  vmCount : UInt32
  agentHealthy : Bool
  deriving DecidableEq

structure VmTelemetryMetrics where
  vmId : String
  nodeId : String
  zone : String
  powerState : String
  cpuUsedPercent : F64
  ramUsedBytes : F64
  networkRxBps : Int64
  networkTxBps : Int64
  diskReadBps : UInt64
  diskWriteBps : UInt64
  sampledAt : Timestamp
  deriving DecidableEq

structure PushHypervisorTelemetrySnapshotRequest where
  schemaVersion : UInt32
  zone : String
  nodeId : String
  agentId : String
  collectedAt : Timestamp
  node : NodeTelemetryMetrics
  vms : List VmTelemetryMetrics
  deriving DecidableEq

/-- What the telemetry task does: it reads files and the clock, runs commands, waits for the
ticker and pushes snapshots. -/
inductive TelemetryOp
  | readToString (path : String)
  | output (program : String) (args : List String)
  | now
  | tick
  | pushTelemetrySnapshot (item : PushHypervisorTelemetrySnapshotRequest)
  deriving DecidableEq

/-- `tick` answers whether the ticker fired before the shutdown token. -/
@[reducible] def TelemetryAns : TelemetryOp → Type
  | .readToString _ => ProcFile
  | .output .. => Option DfOutput
  | .now => SystemTime
  | .tick => Bool
  | .pushTelemetrySnapshot _ => Except Status Unit

abbrev Sampler (α : Type) := Prog TelemetryAns α

variable (toLowercase : String → String) (facts : HostFacts) (zone : String)

section Rates

def asSecsF64 (d : Duration) : F64 :=
  .ofNat d.asSecs + .ofNat d.subsecNanos / .ofNat 1000000000

def fmax (x y : F64) : F64 := if x.isNaN then y else if x < y then y else x

def calculateCpuPercent (prev curr : CpuStats) : F64 :=
  let diff := cpuDeltas prev curr
  if diff.total = 0 then .ofNat 0 else .ofUInt64 diff.used / .ofUInt64 diff.total * .ofNat 100

def cpuPercent (prev curr : Option CpuStats) : F64 :=
  match prev, curr with
  | some prev, some curr => calculateCpuPercent prev curr
  | _, _ => .ofNat 0

def elapsed (prev curr : IOMetrics) : F64 :=
  fmax (asSecsF64 (if prev.timestamp ≤ curr.timestamp then (curr.timestamp - prev.timestamp).toNat
    else Duration.fromSecs 1)) (.ofScientific 1 (-1))

def perSecond (prev curr : UInt64) (secs : F64) : F64 := .ofUInt64 (saturatingSub curr prev) / secs

structure Rates where
  rxBps : Int64
  txBps : Int64
  readBps : UInt64
  writeBps : UInt64

def rates (prev curr : Option IOMetrics) : Rates :=
  match prev, curr with
  | some prev, some curr =>
    { rxBps := (perSecond prev.netRx curr.netRx (elapsed prev curr)).toInt64
      txBps := (perSecond prev.netTx curr.netTx (elapsed prev curr)).toInt64
      readBps := (perSecond prev.diskRead curr.diskRead (elapsed prev curr)).toUInt64
      writeBps := (perSecond prev.diskWrite curr.diskWrite (elapsed prev curr)).toUInt64 }
  | _, _ => ⟨0,0,0,0⟩

end Rates

section Machines

/-- What a command printed, if it succeeded. -/
def succeeded : Option DfOutput → Option String
  | some output => if output.success then some output.stdout else none
  | none => none

def discoverVmUuid (name : String) : Sampler (Option String) := do
  let output ← Prog.op (TelemetryOp.output "virsh" ["domuuid",name])
  return (succeeded output).bind fun stdout => if trim stdout = "" then none else some (trim stdout)

def discoverVmPowerState (name : String) : Sampler String := do
  match succeeded (← Prog.op (TelemetryOp.output "virsh" ["domstate",name])) with
  | none => return "unknown"
  | some stdout =>
    let value := toLowercase (trim stdout)
    return if value = "" then "unknown" else value

def memoryLine (line : String) : Option F64 :=
  match splitWhitespace line with
  | [label,kib] => if label = "rss" ∨ label = "actual" then (parseF64 kib).map (· * .ofNat 1024) else none
  | _ => none

def discoverVmMemoryBytes (name : String) : Sampler (Option F64) := do
  let output ← Prog.op (TelemetryOp.output "virsh" ["dommemstat",name])
  return (succeeded output).bind fun stdout => (lines stdout).findSome? memoryLine

def vmMetrics (nodeId : String) (collectedAt : Timestamp) (name : String) :
    Sampler VmTelemetryMetrics := do
  let uuid ← discoverVmUuid name
  let powerState ← discoverVmPowerState toLowercase name
  let memory ← discoverVmMemoryBytes name
  return {
    vmId := uuid.getD name
    nodeId := trim nodeId
    zone := trim zone
    powerState
    cpuUsedPercent := .ofNat 0
    ramUsedBytes := memory.getD (.ofNat 0)
    networkRxBps := 0
    networkTxBps := 0
    diskReadBps := 0
    diskWriteBps := 0
    sampledAt := collectedAt }

def vmNames (stdout : String) : List String := ((lines stdout).map trim).filter (· ≠ "")

/-- The loop of `collect_vm_metrics`. -/
def vmMetricsOf (nodeId : String) (collectedAt : Timestamp) : List String → Sampler (List VmTelemetryMetrics)
  | [] => return []
  | name::names => do
    let vm ← vmMetrics toLowercase zone nodeId collectedAt name
    let vms ← vmMetricsOf nodeId collectedAt names
    return vm::vms

def collectVmMetrics (nodeId : String) (collectedAt : Timestamp) : Sampler (List VmTelemetryMetrics) := do
  match succeeded (← Prog.op (TelemetryOp.output "virsh" ["list","--all","--name"])) with
  | none => return []
  | some stdout => vmMetricsOf toLowercase zone nodeId collectedAt (vmNames stdout)

end Machines

section Loop

/-- What `read_cpu_stats` and `read_io_stats` read, in their order. -/
def readMoment : Sampler Moment := do
  let stat ← Prog.op (TelemetryOp.readToString "/proc/stat")
  let netDev ← Prog.op (TelemetryOp.readToString "/proc/net/dev")
  let diskstats ← Prog.op (TelemetryOp.readToString "/proc/diskstats")
  let now ← Prog.op TelemetryOp.now
  return { stat, netDev, diskstats, now }

def baselines (m : Moment) : Baselines := ⟨(readCpuStats m).toOption,readIoStats m⟩

def snapshotOf (last curr : Baselines) (usage : F64 × F64) (collectedAt : Timestamp)
    (vms : List VmTelemetryMetrics) : PushHypervisorTelemetrySnapshotRequest :=
  let cpuPct := cpuPercent last.lastCpu curr.lastCpu
  let bps := rates last.lastIo curr.lastIo
  let ramUsedBytes := gibToBytes usage.1
  let diskUsedBytes := gibToBytes usage.2
  { schemaVersion := 1
    zone := trim zone
    nodeId := facts.hostId
    agentId := facts.agentId
    collectedAt
    node :=
      { cpuUsedPercent := cpuPct
        cpuUsedCores := cpuPct / .ofNat 100 * .ofInt facts.cpuCores
        ramUsedBytes
        ramUsedPercent := usedPercent (.ofInt (max facts.memoryBytes 0)) ramUsedBytes
        diskUsedBytes
        diskUsedPercent := usedPercent (.ofInt (max facts.diskBytes 0)) diskUsedBytes
        networkRxBps := bps.rxBps
        networkTxBps := bps.txBps
        diskReadBps := bps.readBps
        diskWriteBps := bps.writeBps
        filesystemUsedBytes := (fmax diskUsedBytes (.ofNat 0)).toUInt64
        filesystemTotalBytes := .ofNat (max facts.diskBytes 0).toNat
        vmCount := .ofNat vms.length
        agentHealthy := true }
    vms }

/-- `build_snapshot`; it makes the readings the baselines for the next one. -/
def buildSnapshot (last : Baselines) : Sampler (PushHypervisorTelemetrySnapshotRequest × Baselines) := do
  let curr := baselines (← readMoment)
  let collectedAt := systemTimeToTimestamp (← Prog.op TelemetryOp.now)
  let meminfo ← Prog.op (TelemetryOp.readToString "/proc/meminfo")
  let df ← Prog.op (TelemetryOp.output "df" ["-B1","/"])
  let vms ← collectVmMetrics toLowercase zone facts.hostId collectedAt
  return (snapshotOf facts zone last curr (usageSnapshotGib meminfo df) collectedAt vms,curr)

/-- One round of `run_telemetry_loop`; a push that fails is only logged. -/
def telemetryStep (last : Baselines) : Sampler (Baselines ⊕ Unit) := do
  match ← Prog.op TelemetryOp.tick with
  | false => return .inr ()
  | true =>
    let (item,curr) ← buildSnapshot toLowercase facts zone last
    let _ ← Prog.op (TelemetryOp.pushTelemetrySnapshot item)
    return .inl curr

/-- `run_telemetry_loop`, for at most `n` rounds. -/
def runTelemetryLoop (n : ℕ) : Sampler (Baselines ⊕ Unit) := do
  let start ← readMoment
  Prog.loop (telemetryStep toLowercase facts zone) n (baselines start)

end Loop

section Numbers

variable {x : F64} {p q : ℚ}

end Numbers

section Listing

variable {toLowercase facts zone}
variable {nodeId name : String} {collectedAt : Timestamp}

/-- What is sent of the virtual machine `name`, and what `virsh` said of it. -/
structure Machine (toLowercase : String → String) (zone nodeId : String) (collectedAt : Timestamp)
    (name : String) (vm : VmTelemetryMetrics) (s : Trace TelemetryAns) : Prop where
  vmId : ∃ output, ⟨.output "virsh" ["domuuid",name],output⟩ ∈ s ∧
    vm.vmId = match succeeded output with
      | some stdout => if Blank stdout then name else trim stdout
      | none => name
  nodeId : vm.nodeId = trim nodeId
  zone : vm.zone = trim zone
  powerState : ∃ output, ⟨.output "virsh" ["domstate",name],output⟩ ∈ s ∧
    vm.powerState = match succeeded output with
      | some stdout => if toLowercase (trim stdout) = "" then "unknown" else toLowercase (trim stdout)
      | none => "unknown"
  sampledAt : vm.sampledAt = collectedAt

theorem machine_lasts (vm : VmTelemetryMetrics) : Lasts (Machine toLowercase zone nodeId collectedAt name vm) := by
  intro c s h
  exact { h with
    vmId := h.vmId.imp fun _ => And.imp_left (List.mem_cons_of_mem _)
    powerState := h.powerState.imp fun _ => And.imp_left (List.mem_cons_of_mem _) }

def Machines (toLowercase : String → String) (zone nodeId : String) (collectedAt : Timestamp)
    (names : List String) (vms : List VmTelemetryMetrics) (s : Trace TelemetryAns) : Prop :=
  List.Forall₂ (fun name vm => Machine toLowercase zone nodeId collectedAt name vm s) names vms

theorem machines_lasts (names : List String) (vms : List VmTelemetryMetrics) :
    Lasts (Machines toLowercase zone nodeId collectedAt names vms) := fun c s h =>
  h.imp fun _ vm hvm => machine_lasts vm c s hvm

def Listed (toLowercase : String → String) (zone nodeId : String) (collectedAt : Timestamp)
    (vms : List VmTelemetryMetrics) (s : Trace TelemetryAns) : Prop :=
  ∃ output, ⟨.output "virsh" ["list","--all","--name"],output⟩ ∈ s ∧
    Machines toLowercase zone nodeId collectedAt (((succeeded output).map vmNames).getD []) vms s

theorem listed_lasts (vms : List VmTelemetryMetrics) :
    Lasts (Listed toLowercase zone nodeId collectedAt vms) :=
  lasts_exists fun _ => lasts_and (lasts_mem _) (machines_lasts _ _)

end Listing

section Sanity

variable {toLowercase facts zone}

def Looks : TelemetryOp → Prop
  | .tick | .pushTelemetrySnapshot _ => False
  | _ => True

theorem vmMetricsOf_looks (nodeId : String) (collectedAt : Timestamp) (names : List String) :
    (vmMetricsOf toLowercase zone nodeId collectedAt names).Uses Looks := by
  induction names with
  | nil => exact .ret _
  | cons name names ih =>
    have hstate : (discoverVmPowerState toLowercase name).Uses Looks := by
      refine Prog.uses_bind (Prog.uses_op (o := TelemetryOp.output "virsh" ["domstate",name]) trivial) fun output => ?_
      cases succeeded output <;> exact .ret _
    refine Prog.uses_bind (p := vmMetrics toLowercase zone nodeId collectedAt name) ?_ fun vm =>
      Prog.uses_bind (p := vmMetricsOf toLowercase zone nodeId collectedAt names) ih fun vms => .ret _
    exact .call trivial fun _ => Prog.uses_bind (p := discoverVmPowerState toLowercase name) hstate
      fun _ => .call trivial fun _ => .ret _

theorem readMoment_looks : readMoment.Uses Looks :=
  .call trivial fun _ => .call trivial fun _ => .call trivial fun _ => .call trivial fun _ => .ret _

theorem buildSnapshot_looks (last : Baselines) :
    (buildSnapshot toLowercase facts zone last).Uses Looks := by
  refine Prog.uses_bind (p := readMoment) readMoment_looks fun _ =>
    .call trivial fun now => .call trivial fun _ => .call trivial fun _ => ?_
  refine Prog.uses_bind (p := collectVmMetrics toLowercase zone facts.hostId (systemTimeToTimestamp now))
    ?_ fun vms => .ret _
  refine Prog.uses_bind (Prog.uses_op (o := TelemetryOp.output "virsh" ["list","--all","--name"]) trivial)
    fun output => ?_
  cases succeeded output with
  | none => exact .ret _
  | some stdout => exact vmMetricsOf_looks _ _ _

def isTick (c : Call TelemetryAns) : Bool :=
  match c.1 with
  | .tick => true
  | _ => false

def isPush (c : Call TelemetryAns) : Bool :=
  match c.1 with
  | .pushTelemetrySnapshot _ => true
  | _ => false

def isFired : Call TelemetryAns → Bool
  | ⟨.tick,fired⟩ => fired
  | _ => false

section Runs

variable {P : PushHypervisorTelemetrySnapshotRequest → Trace TelemetryAns → Prop}
variable {R : Baselines → Trace TelemetryAns → Prop}

/-- `P` holds of each snapshot and the calls before its push. -/
def Pushes (P : PushHypervisorTelemetrySnapshotRequest → Trace TelemetryAns → Prop) :
    Trace TelemetryAns → Prop :=
  Each fun c earlier => ∀ item, c.1 = .pushTelemetrySnapshot item → P item earlier

/-- So many of the fired ticks have no snapshot yet. -/
def Behind (n : ℕ) (s : Trace TelemetryAns) : Prop := s.countP isFired = s.countP isPush + n

theorem pushes_aside {o : TelemetryOp} {x : TelemetryAns o} {s : Trace TelemetryAns}
    (ho : ∀ item, o ≠ .pushTelemetrySnapshot item) (hs : Pushes P s) : Pushes P (⟨o,x⟩::s) :=
  ⟨fun item h => absurd h (ho item),hs⟩

theorem looks_keeps {α : Type} {p : Sampler α} (hp : p.Uses Looks) (n : ℕ) :
    p.Keeps recorder fun s => Pushes P s ∧ Behind n s := by
  refine hp.keeps ?_
  rintro o c s x t ho hc ⟨hpushes,hbehind⟩
  obtain ⟨-,rfl⟩ := recorder_eq_some.mp hc
  cases o with
  | tick => exact ho.elim
  | pushTelemetrySnapshot item => exact ho.elim
  | _ =>
    refine ⟨pushes_aside (by simp) hpushes,?_⟩
    unfold Behind at hbehind ⊢
    rw [List.countP_cons_of_neg (by simp [isFired]),List.countP_cons_of_neg (by simp [isPush]),hbehind]

theorem looks_not_tick {own : Trace TelemetryAns} (hown : ∀ c ∈ own, Looks c.1) :
    ∀ c ∈ own, isTick c = false := by
  rintro ⟨o,x⟩ hc
  have ho := hown _ hc
  cases o with
  | tick => exact ho.elim
  | _ => rfl

/-- What a run leaves at any point: at most one fired tick waits for its snapshot. -/
def Kept (P : PushHypervisorTelemetrySnapshotRequest → Trace TelemetryAns → Prop)
    (s : Trace TelemetryAns) : Prop := Pushes P s ∧ (Behind 0 s ∨ Behind 1 s)

def AtHead (P : PushHypervisorTelemetrySnapshotRequest → Trace TelemetryAns → Prop)
    (R : Baselines → Trace TelemetryAns → Prop) (last : Baselines) (s : Trace TelemetryAns) : Prop :=
  Pushes P s ∧ Behind 0 s ∧ R last s

def Builds (toLowercase : String → String) (facts : HostFacts) (zone : String)
    (P : PushHypervisorTelemetrySnapshotRequest → Trace TelemetryAns → Prop)
    (R : Baselines → Trace TelemetryAns → Prop) : Prop :=
  ∀ last s, R last s → Finds (buildSnapshot toLowercase facts zone last) fun r own =>
    (∀ c ∈ own, Looks c.1) → P r.1 (own ++ ⟨.tick,true⟩::s) ∧
      ∀ x, R r.2 (⟨.pushTelemetrySnapshot r.1,x⟩::(own ++ ⟨.tick,true⟩::s))

theorem telemetryStep_keeps (hbuild : Builds toLowercase facts zone P R) (last : Baselines)
    {s : Trace TelemetryAns} (hs : AtHead P R last s) :
    (telemetryStep toLowercase facts zone last).Always recorder (Kept P)
      (fun r t => Sum.elim (AtHead P R · t) (fun _ => True) r) s := by
  obtain ⟨hpushes,hbehind,hlast⟩ := hs
  refine always_ask.mpr ⟨⟨hpushes,.inl hbehind⟩,fun fired => ?_⟩
  have htick : Pushes P (⟨.tick,fired⟩::s) := pushes_aside (by simp) hpushes
  cases fired with
  | false =>
    refine ⟨⟨htick,.inl ?_⟩,trivial⟩
    unfold Behind at hbehind ⊢
    rw [List.countP_cons_of_neg (by simp [isFired]),List.countP_cons_of_neg (by simp [isPush]),hbehind]
  | true =>
    have hnext : Behind 1 (⟨.tick,true⟩::s) := by
      unfold Behind at hbehind ⊢
      rw [List.countP_cons_of_pos (by simp [isFired]),List.countP_cons_of_neg (by simp [isPush]),hbehind]
    have hlooks : (buildSnapshot toLowercase facts zone last).Uses Looks := buildSnapshot_looks last
    have hmade := (hbuild last s hlast).uses hlooks (⟨.tick,true⟩::s)
    have hkept := looks_keeps (P := P) hlooks 1 (⟨.tick,true⟩::s) ⟨htick,hnext⟩
    refine (Prog.always_bind (p := buildSnapshot toLowercase facts zone last)).mpr
      ((hkept.and hmade).mono (fun t ht => ⟨ht.1.1,.inr ht.1.2⟩) ?_)
    rintro ⟨item,curr⟩ t ⟨⟨hpushed,hbehind⟩,-⟩ ⟨-,own,rfl,hown,hitem⟩
    refine always_ask.mpr ⟨⟨hpushed,.inr hbehind⟩,fun r => ?_⟩
    obtain ⟨hitem,hcurr⟩ := hitem hown
    have hpush : Pushes P (⟨.pushTelemetrySnapshot item,r⟩::(own ++ ⟨.tick,true⟩::s)) := by
      refine ⟨?_,hpushed⟩
      rintro _ ⟨⟩
      exact hitem
    have hlevel : Behind 0 (⟨.pushTelemetrySnapshot item,r⟩::(own ++ ⟨.tick,true⟩::s)) := by
      unfold Behind at hbehind ⊢
      rw [List.countP_cons_of_neg (by simp [isFired]),List.countP_cons_of_pos (by simp [isPush]),hbehind]
    exact ⟨⟨hpush,.inl hlevel⟩,hpush,hlevel,hcurr r⟩

/-- What holds of each snapshot that is built holds of all that a run pushes, whatever the host
shows and whether or not the pushes succeed. -/
theorem kept_of_builds (hstart : Finds readMoment fun m t => (∀ c ∈ t, Looks c.1) → R (baselines m) t)
    (hbuild : Builds toLowercase facts zone P R) (n : ℕ) (choices : List (Call TelemetryAns)) :
    Kept P ((runTelemetryLoop toLowercase facts zone n).run recorder choices []).2 := by
  have hstep (l : Baselines) (t : Trace TelemetryAns) (ht : AtHead P R l t) :
      (telemetryStep toLowercase facts zone l).Always recorder (Kept P)
        (fun r u => Sum.elim (AtHead P R · u) (fun _ => True) r) t :=
    telemetryStep_keeps hbuild l ht
  have hloop (last : Baselines) {s : Trace TelemetryAns} (hs : AtHead P R last s) :=
    Prog.always_loop (L := AtHead P R) (P := fun _ _ => True) hstep n (l := last) hs
  have hread : readMoment.Always recorder (Kept P) (fun m t => AtHead P R (baselines m) t) [] := by
    have hempty : Pushes P [] ∧ Behind 0 ([] : Trace TelemetryAns) := ⟨trivial,rfl⟩
    have hkept := looks_keeps readMoment_looks 0 [] hempty
    refine (hkept.and (hstart.uses readMoment_looks [])).mono (fun t ht => ⟨ht.1.1,.inl ht.1.2⟩) ?_
    rintro m t ⟨⟨hpushes,hbehind⟩,-⟩ ⟨-,own,rfl,hown,hm⟩
    rw [List.append_nil] at hpushes hbehind ⊢
    exact ⟨hpushes,hbehind,hm hown⟩
  have hrun : (runTelemetryLoop toLowercase facts zone n).Always recorder (Kept P)
      (fun _ _ => True) [] := by
    refine (Prog.always_bind (p := readMoment)).mpr (hread.mono (fun _ ht => ht) fun m t _ ht => ?_)
    exact (hloop (baselines m) ht).mono (fun _ hu => hu) fun _ _ _ _ => trivial
  exact (hrun.run choices).1

end Runs

end Sanity
end NodeSnapshot
end KvmAgent
