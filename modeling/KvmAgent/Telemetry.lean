import KvmAgent.Anyhow
import KvmAgent.Clock
import KvmAgent.CounterDeltas
import KvmAgent.RustText

/-! Host telemetry: what is read from `/proc`, what each snapshot makes of it and of the
baselines the one before has left, and the loop over the ticks. -/
namespace KvmAgent
namespace Telemetry

open RustText

/-- A file of `/proc`: what the kernel shows in it, and why it cannot be read, if so. -/
structure ProcFile where
  text : String
  failure : Option AnyhowError := none

def ProcFile.read (f : ProcFile) : Except AnyhowError String :=
  match f.failure with
  | some e => .error e
  | none => .ok f.text

structure Moment where
  stat : ProcFile
  netDev : ProcFile
  diskstats : ProcFile
  now : SystemTime

/-- `parts[i].parse::<u64>().unwrap_or(0)`. -/
def number (parts : List String) (i : ℕ) : UInt64 := (parseU64 (parts.getD i "")).getD 0

structure IOMetrics where
  netRx : UInt64
  netTx : UInt64
  diskRead : UInt64
  diskWrite : UInt64
  timestamp : SystemTime

def addNetLine (sums : UInt64 × UInt64) (line : String) : UInt64 × UInt64 :=
  let parts := splitWhitespace line
  if 9 < parts.length then (sums.1 + number parts 1,sums.2 + number parts 9) else sums

def isDisk (devName : String) : Bool :=
  startsWith "sd" devName || startsWith "nvme" devName || startsWith "vd" devName

def addDiskLine (sums : UInt64 × UInt64) (line : String) : UInt64 × UInt64 :=
  let parts := splitWhitespace line
  if 9 < parts.length then
    if isDisk (parts.getD 2 "") then
      (sums.1 + number parts 5 * 512,sums.2 + number parts 9 * 512)
    else sums
  else sums

/-- What `read_io_stats` adds up over the lines of a file below `skip` lines of heading. -/
def sumLines (file : ProcFile) (skip : ℕ)
    (addLine : UInt64 × UInt64 → String → UInt64 × UInt64) : UInt64 × UInt64 :=
  match file.read with
  | .ok contents => ((lines contents).drop skip).foldl addLine (0,0)
  | .error _ => (0,0)

/-- `read_io_stats`; the sums wrap. -/
def readIoStats (m : Moment) : Option IOMetrics :=
  let net := sumLines m.netDev 2 addNetLine
  let disk := sumLines m.diskstats 0 addDiskLine
  some ⟨net.1,net.2,disk.1,disk.2,m.now⟩

structure CpuStats where
  total : UInt64
  idle : UInt64

def readCpuStats (m : Moment) : Except AnyhowError CpuStats :=
  match m.stat.read with
  | .error e => .error e
  | .ok contents =>
    match (lines contents).head? with
    | none => .error (.msg "empty /proc/stat")
    | some line =>
      let parts := splitWhitespace line
      if parts.length < 5 then .error (.msg "invalid /proc/stat format")
      else .ok ⟨(parts.drop 1).foldl (fun total part => total + (parseU64 part).getD 0) 0,
        number parts 4⟩

def saturatingSub (a b : UInt64) : UInt64 := if b ≤ a then a - b else 0

structure IoDeltas where
  netRx : UInt64
  netTx : UInt64
  diskRead : UInt64
  diskWrite : UInt64
  elapsed : Duration

/-- What the rates in `build_snapshot` are computed from. -/
def ioDeltas (prev curr : IOMetrics) : IoDeltas where
  netRx := saturatingSub curr.netRx prev.netRx
  netTx := saturatingSub curr.netTx prev.netTx
  diskRead := saturatingSub curr.diskRead prev.diskRead
  diskWrite := saturatingSub curr.diskWrite prev.diskWrite
  elapsed := max
    (if prev.timestamp ≤ curr.timestamp then (curr.timestamp - prev.timestamp).toNat
      else Duration.fromSecs 1) (Duration.fromMillis 100)

structure CpuDeltas where
  total : UInt64
  used : UInt64

/-- What `calculate_cpu_percent` divides. -/
def cpuDeltas (prev curr : CpuStats) : CpuDeltas :=
  let total := saturatingSub curr.total prev.total
  ⟨total,saturatingSub total (saturatingSub curr.idle prev.idle)⟩

/-- The counted part of a snapshot; where there is nothing to compare it reports zeros. -/
structure Snapshot where
  cpu : Option CpuDeltas
  io : Option IoDeltas

structure Baselines where
  lastCpu : Option CpuStats
  lastIo : Option IOMetrics

/-- The counted part of `build_snapshot`. -/
def buildSnapshot (m : Moment) (last : Baselines) : Snapshot × Baselines :=
  let currentCpu := (readCpuStats m).toOption
  let cpu := match last.lastCpu, currentCpu with
    | some prev, some curr => some (cpuDeltas prev curr)
    | _, _ => none
  let currentIo := readIoStats m
  let io := match last.lastIo, currentIo with
    | some prev, some curr => some (ioDeltas prev curr)
    | _, _ => none
  (⟨cpu,io⟩,⟨currentCpu,currentIo⟩)

def snapshots (last : Baselines) : List Moment → List Snapshot
  | [] => []
  | m::ms => (buildSnapshot m last).1 :: snapshots (buildSnapshot m last).2 ms

/-- `run_telemetry_loop`, over the ticks before the shutdown. -/
def runTelemetryLoop (start : Moment) (ticks : List Moment) : List Snapshot :=
  snapshots ⟨(readCpuStats start).toOption,readIoStats start⟩ ticks

end Telemetry
end KvmAgent
