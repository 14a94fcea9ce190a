import KvmAgent.Frames
import KvmAgent.Telemetry

/-! What the agent finds out about its host: the processor's cores and threads in
`/proc/cpuinfo`, and the storage pools from `/proc/mounts` and the reports of `df`. -/
namespace KvmAgent
namespace HostDiscovery

open RustText Telemetry

/-- `fs::read_to_string(path).unwrap_or_default()`. -/
def readOrDefault (f : ProcFile) : String :=
  match f.read with
  | .ok contents => contents
  | .error _ => ""

section CpuSpecs

/-- An `i32` sum, which wraps. -/
def wrapI32 (n : ℤ) : ℤ := (n + 2147483648) % 4294967296 - 2147483648

/-- `s.split(sep).nth(1)`. -/
def splitSecond (sep : Char) (s : String) : Option String :=
  (splitOnce sep s).map fun parts => splitFirst sep parts.2

/-- `processors` and `cpu_cores` in `discover_cpu_specs`. -/
structure CpuScan where
  processors : ℤ := 0
  cpuCores : ℤ := 0

def CpuScan.line (s : CpuScan) (line : String) : CpuScan :=
  if startsWith "processor" line then { s with processors := wrapI32 (s.processors + 1) }
  else if startsWith "cpu cores" line then
    match (splitSecond ':' line).bind fun val => parseI32 (trim val) with
    | some c => if s.cpuCores = 0 then { s with cpuCores := c } else s
    | none => s
  else s

/-- `discover_cpu_specs`: the cores of the first entry, and all processors. -/
def discoverCpuSpecs (cpuinfo : ProcFile) : ℤ × ℤ :=
  let s := (lines (readOrDefault cpuinfo)).foldl CpuScan.line {}
  (if s.cpuCores = 0 then s.processors else s.cpuCores,s.processors)

/-- The part of `collect_host_facts` that tells of the processor. -/
def collectCpuFacts (facts : HostFacts) (cpuModel : String) (cpuinfo : ProcFile) : HostFacts :=
  { facts with
    cpuCores := (discoverCpuSpecs cpuinfo).1
    cpuThreads := (discoverCpuSpecs cpuinfo).2
    cpuPackages := [⟨0,cpuModel,(discoverCpuSpecs cpuinfo).1,(discoverCpuSpecs cpuinfo).2⟩] }

end CpuSpecs

section StoragePools

structure DfOutput where
  success : Bool
  stdout : String

def isStorage (device fsType : String) : Bool :=
  (startsWith "/dev/sd" device || startsWith "/dev/nvme" device || startsWith "/dev/vd" device ||
    startsWith "/dev/mapper/" device) && (fsType = "ext4" || fsType = "xfs" || fsType = "btrfs")

/-- The device and the path of a line of `/proc/mounts` that is used for storage. -/
def storageEntry (line : String) : Option (String × String) :=
  match splitWhitespace line with
  | device::path::fsType::_ => if isStorage device fsType then some (device,path) else none
  | _ => none

/-- `path.trim_start_matches('/')`. -/
def trimSlashes (path : String) : String := String.ofList (path.toList.dropWhile (· = '/'))

/-- `s.replace('/', "-")`. -/
def dashSlashes (s : String) : String :=
  String.ofList (s.toList.map fun c => if c = '/' then '-' else c)

def poolName (path : String) : String :=
  if path = "/" then "root" else dashSlashes (trimSlashes path)

/-- `df_fields.get(i).and_then(|v| v.parse::<i64>().ok()).unwrap_or(0)`. -/
def dfNumber (dfFields : List String) (i : ℕ) : ℤ := (dfFields[i]?.bind parseI64).getD 0

/-- The total and used bytes that `discover_storage_pools` takes from a report; in a wrapped
report it reads the fields of the device's line too. -/
def dfUsage (stdout : String) : Option (ℤ × ℤ) :=
  match (lines stdout).drop 1 with
  | [] => none
  | dfLine::rest =>
    let dfFields := splitWhitespace dfLine
    if 3 ≤ dfFields.length then some (dfNumber dfFields 1,dfNumber dfFields 2)
    else match rest with
      | [] => none
      | wrappedLine::_ =>
        if 2 ≤ (splitWhitespace wrappedLine).length then
          some (dfNumber dfFields 0,dfNumber dfFields 1)
        else none

/-- The device, path, total and used bytes of a pool, from a line of `/proc/mounts` and what
`df` gives for the path. -/
def poolUsage (df : String → Option DfOutput) (line : String) :
    Option (String × String × ℤ × ℤ) :=
  (storageEntry line).bind fun (device,path) => (df path).bind fun output =>
    if output.success then
      (dfUsage output.stdout).bind fun (total,used) =>
        if 0 < total then some (device,path,total,used) else none
    else none

/-- `metadata` is `json!({ "device": device }).to_string()`. -/
def storagePool (metadata : String → String) : String × String × ℤ × ℤ → StoragePool
  | (device,path,total,used) =>
    { name := poolName path
      driver := "dir"
      path := path
      totalBytes := total
      usedBytes := used
      status := "active"
      metadataJson := metadata device }

/-- `discover_storage_pools`; `df i` is the command run for the line `i`. -/
def discoverStoragePools (metadata : String → String) (mounts : ProcFile)
    (df : ℕ → String → Option DfOutput) : List StoragePool :=
  (lines (readOrDefault mounts)).zipIdx.filterMap fun (line,i) =>
    (poolUsage (df i) line).map (storagePool metadata)

end StoragePools

end HostDiscovery
end KvmAgent
