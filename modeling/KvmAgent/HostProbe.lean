import KvmAgent.Configuration
import KvmAgent.Findings
import KvmAgent.HostDiscovery
import KvmAgent.PhysicalRam
import KvmAgent.RustLines

/-! `collect_host_facts`: what the agent asks its host at the start, and the description it
makes of the answers, which is whole whatever is missing on the host. -/
namespace KvmAgent
namespace HostProbe

open RustText Telemetry HostDiscovery PhysicalRam Trace

/-- What the agent asks: `env::var`, a command run to its end, a file, a directory, and a
datagram socket that is bound and connected to learn its own address. -/
inductive HostOp
  | var (key : String)
  | output (program : String) (args : List String)
  | readToString (path : String)
  | readDir (path : String)
  | bind (addr : String)
  | connect (addr : String)
  | localAddr
  deriving DecidableEq

/-- `output` answers only when the command could be run, `readDir` with the names of the
entries, and `localAddr` with the address without its port. -/
@[reducible] def HostAns : HostOp → Type
  | .var _ | .localAddr => Option String
  | .output .. => Option DfOutput
  | .readToString _ => ProcFile
  | .readDir _ => Option (List String)
  | .bind _ | .connect _ => Bool

abbrev Probe (α : Type) := Prog HostAns α

section Program

def contains (pat s : String) : Bool := s.toList.tails.any pat.toList.isPrefixOf

def nonBlank (s : String) : Option String := if trim s = "" then none else some (trim s)

def afterColon (line : String) : Option String := (splitOnce ':' line).map fun parts => trim parts.2

def hostnameCommand : Probe (Option String) := do
  match ← Prog.op (HostOp.output "hostname" []) with
  | none => return none
  | some output => return if output.success then nonBlank output.stdout else none

def discoverHostname : Probe (Option String) := do
  match (← Prog.op (HostOp.var "HOSTNAME")).bind nonBlank with
  | some hostname => return some hostname
  | none => hostnameCommand

def discoverPrivateIp : Probe (Option String) := do
  match ← Prog.op (HostOp.bind "0.0.0.0:0") with
  | false => return none
  | true =>
    match ← Prog.op (HostOp.connect "1.1.1.1:80") with
    | false => return none
    | true => Prog.op HostOp.localAddr

def cpuModelLine (line : String) : Option String :=
  if startsWith "model name" line then afterColon line else none

def discoverCpuModel : Probe String := do
  match (← Prog.op (HostOp.readToString "/proc/cpuinfo")).read with
  | .error _ => return "Unknown CPU"
  | .ok contents => return ((lines contents).findSome? cpuModelLine).getD "Unknown CPU"

def diskModelAt (path : String) : Probe (Option String) := do
  match (← Prog.op (HostOp.readToString path)).read with
  | .error _ => return none
  | .ok model => return nonBlank model

/-- The loop of `discover_disk_model` over the entries of `/sys/block`. -/
def diskModelAmong : List String → Probe String
  | [] => return "Generic System Disk"
  | name::names =>
    if isDisk name then do
      match ← diskModelAt ("/sys/block/" ++ name ++ "/device/model") with
      | some model => return model
      | none =>
        match ← diskModelAt ("/sys/class/block/" ++ name ++ "/device/model") with
        | some model => return model
        | none => diskModelAmong names
    else diskModelAmong names

def discoverDiskModel : Probe String := do
  match ← Prog.op (HostOp.readDir "/sys/block") with
  | none => return "Generic System Disk"
  | some names => diskModelAmong names

def discoverRamModel : String := "Standard Memory Module"

def gpuModelLine (line : String) : Option String :=
  if contains "VGA compatible controller" line || contains "NVIDIA" line || contains "AMD" line then
    (afterColon line).bind fun model => if model = "" then none else some model
  else none

def discoverGpuModel : Probe String := do
  match ← Prog.op (HostOp.output "lspci" []) with
  | none => return "Internal Graphics"
  | some output => return ((lines output.stdout).findSome? gpuModelLine).getD "Internal Graphics"

def dfSize (stdout : String) : Option ℤ :=
  (lines stdout)[1]?.bind fun line =>
    match splitWhitespace line with
    | _::size::_ => parseI64 size
    | _ => none

def discoverDiskBytes : Probe (Option ℤ) := do
  match ← Prog.op (HostOp.output "df" ["-B1","/"]) with
  | none => return none
  | some output => return if output.success then dfSize output.stdout else none

/-- The address in a line of `ip addr`, without the length of its prefix. -/
def addressLine (line : String) : Option String :=
  if startsWith "inet " (trim line) || startsWith "inet6 " (trim line) then
    (splitWhitespace (trim line))[1]?.map (splitFirst '/')
  else none

def addressIn (stdout : String) : String := ((lines stdout).findSome? addressLine).getD ""

def getIpForInterface (name : String) (ipv6 : Bool) : Probe String := do
  match ← Prog.op (HostOp.output "ip" [if ipv6 then "-6" else "-4","addr","show",name]) with
  | none => return ""
  | some output => return addressIn output.stdout

def trimmedFile (file : ProcFile) (missing : String) : String :=
  match file.read with
  | .ok contents => trim contents
  | .error _ => missing

def speedMbps (file : ProcFile) : ℤ :=
  match file.read with
  | .ok contents => ((parseI32 (trim contents)).map fun speed => max speed 0).getD 0
  | .error _ => 0

def networkInterface (name : String) : Probe NetworkInterface := do
  let address ← Prog.op (HostOp.readToString ("/sys/class/net/" ++ name ++ "/address"))
  let operstate ← Prog.op (HostOp.readToString ("/sys/class/net/" ++ name ++ "/operstate"))
  let speed ← Prog.op (HostOp.readToString ("/sys/class/net/" ++ name ++ "/speed"))
  let ipv4Address ← getIpForInterface name false
  let ipv6Address ← getIpForInterface name true
  return {
    name
    macAddress := trimmedFile address ""
    ipv4Address
    ipv6Address
    speedMbps := speedMbps speed
    status := trimmedFile operstate "unknown" }

/-- The loop of `discover_network_interfaces`. -/
def interfacesAmong : List String → Probe (List NetworkInterface)
  | [] => return []
  | name::names => do
    let interface ← networkInterface name
    let interfaces ← interfacesAmong names
    return interface::interfaces

def discoverNetworkInterfaces : Probe (List NetworkInterface) := do
  match ← Prog.op (HostOp.readDir "/sys/class/net") with
  | none => return []
  | some names => interfacesAmong names

def reachable (interface : NetworkInterface) : Bool :=
  interface.name ≠ "lo" && interface.ipv4Address ≠ ""

/-- `private_ip`; the socket is only asked where no interface has an address. -/
def privateIpOf (interfaces : List NetworkInterface) : Probe String := do
  match interfaces.find? reachable with
  | some interface => return interface.ipv4Address
  | none => return (← discoverPrivateIp).getD "127.0.0.1"

/-- `json!({ "mtls": true, "heartbeat": true }).to_string()`; the keys are sorted. -/
def capabilitiesJson : String := "\x7b\"heartbeat\":true,\"mtls\":true\x7d"

def describe (config : Configuration) (hostname privateIp cpuModel gpuModel : String)
    (interfaces : List NetworkInterface) (cpuSpecs : ℤ × ℤ) (memoryBytes : Int64) (diskBytes : ℤ) :
    HostFacts where
  agentId := config.app.nodeId
  hostId := config.app.nodeId
  hostname
  privateIp
  hypervisorType := "kvm"
  agentVersion := config.agent.version
  capabilitiesJson
  cpuCores := cpuSpecs.1
  cpuThreads := cpuSpecs.2
  memoryBytes := memoryBytes.toInt
  diskBytes
  gpuCores := 0
  gpuMemoryGib := 0
  cpuPackages := [⟨0,cpuModel,cpuSpecs.1,cpuSpecs.2⟩]
  memoryModules := [⟨0,discoverRamModel,(moduleSizeGib memoryBytes).toInt⟩]
  gpuDevices := if trim gpuModel = "" then [] else [⟨0,gpuModel,0,0⟩]
  networkInterfaces := interfaces

def collectHostFacts (config : Configuration) : Probe HostFacts := do
  let hostname ← discoverHostname
  let interfaces ← discoverNetworkInterfaces
  let privateIp ← privateIpOf interfaces
  let cpuinfo ← Prog.op (HostOp.readToString "/proc/cpuinfo")
  let cpuModel ← discoverCpuModel
  let meminfo ← Prog.op (HostOp.readToString "/proc/meminfo")
  let diskBytes ← discoverDiskBytes
  let _ ← discoverDiskModel
  let gpuModel ← discoverGpuModel
  return describe config (hostname.getD config.app.nodeId) privateIp cpuModel gpuModel interfaces
    (discoverCpuSpecs cpuinfo) ((discoverMemoryBytes meminfo).getD 0) (diskBytes.getD 0)

end Program

section Addresses

variable {a line : String}

/-- An address as it stands between words, without a prefix length. -/
def Address (a : String) : Prop := ∀ c ∈ a.toList, isWhitespace c = false ∧ c ≠ '/'

theorem address_empty : Address "" := by simp [Address]

theorem addressLine_address (h : addressLine line = some a) : Address a := by
  unfold addressLine at h
  split at h
  · obtain ⟨word,hword,rfl⟩ := Option.map_eq_some_iff.mp h
    have hsolid := (word_of_mem (List.mem_of_getElem? hword)).solid
    intro c hc
    rw [splitFirst,String.toList_ofList] at hc
    exact ⟨hsolid c ((List.takeWhile_prefix _).subset hc),by simpa using List.mem_takeWhile_imp hc⟩
  · cases h

theorem addressIn_address (stdout : String) : Address (addressIn stdout) := by
  unfold addressIn
  cases h : (lines stdout).findSome? addressLine with
  | none => exact address_empty
  | some a =>
    obtain ⟨line,-,hline⟩ := List.exists_of_findSome?_eq_some h
    exact addressLine_address hline

/-- A line in a report of `ip addr`: one with an address and what follows it, the length of its
prefix or the peer it is for, or any other. -/
inductive ReportLine
  | other (line : String)
  | inet (indent gap : List Char) (ipv6 : Bool) (address : String) (rest : List Char)

namespace ReportLine

def family (ipv6 : Bool) : String := if ipv6 then "inet6" else "inet"

def render : ReportLine → String
  | .other line => line
  | .inet indent gap ipv6 address rest =>
    String.ofList (indent ++ ((family ipv6).toList ++ ' '::(gap ++ address.toList) ++ rest))

def address? : ReportLine → Option String
  | .other _ => none
  | .inet _ _ _ address _ => some address

/-- The line is one line, and shows an address only where it has one. -/
def Clean (l : ReportLine) : Prop :=
  Line l.render ∧ match l with
    | .other line => startsWith "inet " (trim line) = false ∧ startsWith "inet6 " (trim line) = false
    | .inet indent gap _ address rest => White indent ∧ White gap ∧ Word address ∧
        '/' ∉ address.toList ∧ ∀ c ∈ rest.head?, c = '/' ∨ isWhitespace c = true

end ReportLine

open ReportLine

theorem family_word (ipv6 : Bool) : Word (family ipv6) := by
  cases ipv6 <;> exact ⟨by decide,by simp [family,isWhitespace]⟩

theorem second_word (ipv6 : Bool) {gap rest : List Char} {address : String} (hgap : White gap)
    (hword : Word address) (hslash : '/' ∉ address.toList)
    (hrest : ∀ c ∈ rest.head?, c = '/' ∨ isWhitespace c = true) :
    (splitWhitespace (String.ofList
      ((family ipv6).toList ++ ' '::(gap ++ address.toList) ++ rest)))[1]?.map (splitFirst '/') =
        some address := by
  have hblank : White (' '::gap) := List.forall_mem_cons.mpr ⟨by decide,hgap⟩
  have hfirst := splitWhitespace_append (family_word ipv6) (' '::gap) hblank (List.cons_ne_nil _ _)
    (address.toList ++ rest)
  obtain ⟨c,l,hl⟩ := List.exists_cons_of_ne_nil (mt String.toList_eq_nil_iff.mp hword.ne_empty)
  have hc : isWhitespace c = false := hword.solid c (by simp [hl])
  have hsecond := splitWhitespace_head hc (l ++ rest)
  rw [← List.cons_append,← hl,List.takeWhile_append_of_pos (by simpa using hword.solid)] at hsecond
  have hbefore : ∀ d ∈ address.toList, decide (d ≠ '/') = true := by
    intro d hd
    refine decide_eq_true ?_
    rintro rfl
    exact hslash hd
  -- what follows the address begins with white space, which ends the word, or with the slash
  have hafter : (rest.takeWhile fun d => !isWhitespace d).takeWhile (fun d => decide (d ≠ '/')) = [] := by
    cases rest with
    | nil => rfl
    | cons d ds =>
      rcases hrest d rfl with rfl | hwhite
      · rw [List.takeWhile_cons_of_pos (by decide),List.takeWhile_cons_of_neg (by decide)]
      · rw [List.takeWhile_cons_of_neg (by simp [hwhite])]
        rfl
  rw [List.append_assoc,List.cons_append,List.append_assoc,← List.cons_append,hfirst,
    List.getElem?_cons_succ,← List.head?_eq_getElem?,hsecond,Option.map_some,splitFirst,
    String.toList_ofList,List.takeWhile_append_of_pos hbefore,hafter,List.append_nil,
    String.ofList_toList]

theorem addressLine_render {l : ReportLine} (h : l.Clean) : addressLine l.render = l.address? := by
  cases l with
  | other line =>
    obtain ⟨-,hinet,hinet6⟩ := h
    simp [addressLine,ReportLine.render,ReportLine.address?,hinet,hinet6]
  | inet indent gap ipv6 address rest =>
    obtain ⟨-,hindent,hgap,hword,hslash,hrest⟩ := h
    have hhead : ((family ipv6).toList ++ ' '::(gap ++ address.toList)).head? = some 'i' := by
      cases ipv6 <;> rfl
    obtain ⟨c,hlast⟩ : ∃ c, address.toList.getLast? = some c :=
      Option.isSome_iff_exists.mp (by simpa using hword.ne_empty)
    have hc : isWhitespace c = false := hword.solid c (List.mem_of_getLast? hlast)
    have hend : ((family ipv6).toList ++ ' '::(gap ++ address.toList)).getLast? = some c := by
      rw [← List.cons_append,← List.append_assoc,List.getLast?_append,hlast,Option.some_or]
    obtain ⟨rest', hfront, htrim⟩ := trim_core rest hindent hhead (by decide) hend hc
    have hrest' : ∀ d ∈ rest'.head?, d = '/' ∨ isWhitespace d = true := by
      intro d hd
      obtain ⟨tail,rfl⟩ := hfront
      cases rest' with
      | nil => cases hd
      | cons e es => exact hrest d hd
    have hstarts : (startsWith "inet " (trim (ReportLine.render (.inet indent gap ipv6 address rest))) ||
        startsWith "inet6 " (trim (ReportLine.render (.inet indent gap ipv6 address rest)))) = true := by
      rw [ReportLine.render,htrim]
      cases ipv6 <;> simp [startsWith,family]
    rw [addressLine,if_pos hstarts,ReportLine.render,htrim]
    exact second_word ipv6 hgap hword hslash hrest'

/-- The first address that the report shows is read, whatever stands around it. -/
theorem addressIn_report {report : List ReportLine} {stdout : String} (h : ∀ l ∈ report, l.Clean)
    (hwritten : Written (report.map ReportLine.render) stdout) :
    addressIn stdout = (report.findSome? ReportLine.address?).getD "" := by
  have hlines : ∀ line ∈ report.map ReportLine.render, Line line := by
    intro line hline
    obtain ⟨l,hl,rfl⟩ := List.mem_map.mp hline
    exact (h l hl).1
  have hrender : report.findSome? (addressLine ∘ ReportLine.render) =
      report.findSome? ReportLine.address? := by
    refine findSome_congr fun l hl => ?_
    rw [Function.comp_apply]
    exact addressLine_render (h l hl)
  rw [addressIn,lines_written hlines hwritten,List.findSome?_map,hrender]

end Addresses

section Interfaces

/-- What `ip` said of an interface: the first address in its report, if it is one. -/
def Shows (name flag address : String) (s : Trace HostAns) : Prop :=
  ∃ output, ⟨.output "ip" [flag,"addr","show",name],output⟩ ∈ s ∧ (output = none → address = "") ∧
    ∀ (report : List ReportLine) success stdout, (∀ l ∈ report, l.Clean) →
      Written (report.map ReportLine.render) stdout → output = some ⟨success,stdout⟩ →
        address = (report.findSome? ReportLine.address?).getD ""

/-- A text of a file, trimmed, or what stands for it where the file could not be read. -/
def Copied (path missing text : String) (s : Trace HostAns) : Prop :=
  ∃ file : ProcFile, ⟨.readToString path,file⟩ ∈ s ∧
    ((∃ contents, file.read = .ok contents ∧ text = trim contents) ∨
      (∃ e, file.read = .error e) ∧ text = missing)

structure Interface (i : NetworkInterface) (s : Trace HostAns) : Prop where
  mac : Copied ("/sys/class/net/" ++ i.name ++ "/address") "" i.macAddress s
  status : Copied ("/sys/class/net/" ++ i.name ++ "/operstate") "unknown" i.status s
  speed : 0 ≤ i.speedMbps ∧ i.speedMbps < 2^31
  ipv4 : Address i.ipv4Address ∧ Shows i.name "-4" i.ipv4Address s
  ipv6 : Address i.ipv6Address ∧ Shows i.name "-6" i.ipv6Address s

theorem shows_lasts (name flag address : String) : Lasts (Shows name flag address) :=
  lasts_exists fun _ => lasts_and (lasts_mem _) (lasts_const _)

theorem copied_lasts (path missing text : String) : Lasts (Copied path missing text) :=
  lasts_exists fun _ => lasts_and (lasts_mem _) (lasts_const _)

theorem interface_lasts (i : NetworkInterface) : Lasts (Interface i) := fun c s h =>
  { h with
    mac := copied_lasts _ _ _ c s h.mac
    status := copied_lasts _ _ _ c s h.status
    ipv4 := ⟨h.ipv4.1,shows_lasts _ _ _ c s h.ipv4.2⟩
    ipv6 := ⟨h.ipv6.1,shows_lasts _ _ _ c s h.ipv6.2⟩ }

theorem getIp_finds (name : String) (ipv6 : Bool) : Finds (getIpForInterface name ipv6) fun a t =>
    Address a ∧ Shows name (if ipv6 then "-6" else "-4") a t := by
  refine finds_ask fun output => ?_
  cases output with
  | none =>
    exact finds_ret fun t hmem =>
      ⟨address_empty,none,hmem,fun _ => rfl,by simp⟩
  | some output =>
    refine finds_ret fun t hmem => ⟨addressIn_address _,_,hmem,by simp,?_⟩
    rintro report success stdout hclean hwritten ⟨⟩
    exact addressIn_report hclean hwritten

theorem trimmedFile_copied {path missing : String} {file : ProcFile} {s : Trace HostAns}
    (h : ⟨.readToString path,file⟩ ∈ s) : Copied path missing (trimmedFile file missing) s := by
  refine ⟨file,h,?_⟩
  unfold trimmedFile
  cases file.read with
  | ok contents => exact .inl ⟨contents,rfl,rfl⟩
  | error e => exact .inr ⟨⟨e,rfl⟩,rfl⟩

theorem parseSigned_lt {bound : ℕ} {text : String} {n : ℤ} (hbound : 0 < bound)
    (h : parseSigned bound text = some n) : n < bound := by
  simp only [parseSigned,Option.ite_none_right_eq_some] at h
  obtain ⟨⟨-,-,hvalue⟩,hn⟩ := h
  cases hsign : (splitSign text.toList).1
  all_goals
    simp only [hsign,Option.some.injEq] at hvalue hn
    simp at hvalue hn
    omega

theorem speedMbps_bounds (file : ProcFile) : 0 ≤ speedMbps file ∧ speedMbps file < 2^31 := by
  unfold speedMbps
  split
  · next contents _ =>
    cases hparse : parseI32 (trim contents) with
    | none => exact ⟨le_refl _,by decide⟩
    | some n =>
      have hlt : n < 2^31 := parseSigned_lt (by decide) hparse
      exact ⟨le_max_right n 0,max_lt hlt (by decide)⟩
  · exact ⟨le_refl _,by decide⟩

theorem networkInterface_finds (name : String) : Finds (networkInterface name) fun i t =>
    i.name = name ∧ Interface i t := by
  refine finds_ask fun address => finds_ask fun operstate => finds_ask fun speed => ?_
  refine finds_bind (getIp_finds name false) (fun a => ?_) fun ipv4 => ?_
  · exact lasts_and (lasts_const _) (shows_lasts _ _ _)
  refine finds_bind (getIp_finds name true) (fun a => ?_) fun ipv6 => ?_
  · exact lasts_and (lasts_const _) (shows_lasts _ _ _)
  refine finds_ret fun t hipv6 hipv4 _ hoperstate haddress => ⟨rfl,?_⟩
  exact {
    mac := trimmedFile_copied haddress
    status := trimmedFile_copied hoperstate
    speed := speedMbps_bounds speed
    ipv4 := hipv4
    ipv6 := hipv6 }

def Listed (names : List String) (interfaces : List NetworkInterface) (s : Trace HostAns) : Prop :=
  interfaces.map (·.name) = names ∧ ∀ i ∈ interfaces, Interface i s

theorem listed_lasts (names : List String) (interfaces : List NetworkInterface) :
    Lasts (Listed names interfaces) := fun c s h =>
  ⟨h.1,fun i hi => interface_lasts i c s (h.2 i hi)⟩

theorem interfacesAmong_finds (names : List String) : Finds (interfacesAmong names) (Listed names) := by
  induction names with
  | nil => exact finds_ret fun _ => ⟨rfl,List.forall_mem_nil _⟩
  | cons name names ih =>
    refine finds_bind (networkInterface_finds name) (fun i => ?_) fun interface => ?_
    · exact lasts_and (lasts_const _) (interface_lasts i)
    refine finds_bind ih (listed_lasts names) fun interfaces => ?_
    refine finds_ret fun t hrest hfirst => ⟨?_,List.forall_mem_cons.mpr ⟨hfirst.2,hrest.2⟩⟩
    rw [List.map_cons,hfirst.1,hrest.1]

/-- The interfaces are those in the directory, if it could be read. -/
def Inventoried (interfaces : List NetworkInterface) (s : Trace HostAns) : Prop :=
  ∃ names, ⟨.readDir "/sys/class/net",names⟩ ∈ s ∧ Listed (names.getD []) interfaces s

theorem inventoried_lasts (interfaces : List NetworkInterface) : Lasts (Inventoried interfaces) :=
  lasts_exists fun _ => lasts_and (lasts_mem _) (listed_lasts _ _)

theorem discoverNetworkInterfaces_finds : Finds discoverNetworkInterfaces Inventoried := by
  refine finds_ask fun names => ?_
  cases names with
  | none => exact finds_ret fun t hmem => ⟨none,hmem,rfl,List.forall_mem_nil _⟩
  | some names =>
    exact (interfacesAmong_finds names).mono fun interfaces t hlisted hmem => ⟨_,hmem,hlisted⟩

end Interfaces

section Description

variable {config : Configuration}

def Unreached (s : Trace HostAns) : Prop :=
  ⟨.bind "0.0.0.0:0",false⟩ ∈ s ∨ ⟨.connect "1.1.1.1:80",false⟩ ∈ s ∨ ⟨.localAddr,none⟩ ∈ s

/-- The address that the host is registered with: that of the first interface beside the
loopback that has one, or else the address of the route to the outside, or else the loopback's
where there is no route. -/
def Reached (interfaces : List NetworkInterface) (ip : String) (s : Trace HostAns) : Prop :=
  match interfaces.find? reachable with
  | some i => ip = i.ipv4Address
  | none => ⟨.localAddr,some ip⟩ ∈ s ∨ ip = "127.0.0.1" ∧ Unreached s

def Told (text value : String) : Prop := value = trim text ∧ value ≠ ""

def Hosted (nodeId hostname : String) (s : Trace HostAns) : Prop :=
  (∃ text, Told text hostname ∧
    (⟨.var "HOSTNAME",some text⟩ ∈ s ∨ ⟨.output "hostname" [],some ⟨true,text⟩⟩ ∈ s)) ∨
  hostname = nodeId

/-- `text` stands behind the first colon of the line. -/
def Labelled (line text : String) : Prop := ∃ label, splitOnce ':' line = some (label,text)

/-- The model is named by the first line of `/proc/cpuinfo` that names one, or is unknown. -/
def Modelled (cpuinfo : ProcFile) (model : String) : Prop :=
  (∃ contents before line after text, cpuinfo.read = .ok contents ∧
    lines contents = before ++ line::after ∧ startsWith "model name" line = true ∧
    Labelled line text ∧ model = trim text ∧
    ∀ l ∈ before, startsWith "model name" l = true → ':' ∉ l.toList) ∨
  model = "Unknown CPU" ∧ ∀ contents, cpuinfo.read = .ok contents →
    ∀ l ∈ lines contents, startsWith "model name" l = true → ':' ∉ l.toList

/-- The graphics device is one that `lspci` lists, or the internal one. -/
def Graphic (model : String) (s : Trace HostAns) : Prop :=
  (∃ output line text, ⟨.output "lspci" [],some output⟩ ∈ s ∧ line ∈ lines output.stdout ∧
    Labelled line text ∧ Told text model) ∨
  model = "Internal Graphics"

structure Described (config : Configuration) (facts : HostFacts) (s : Trace HostAns) : Prop where
  agentId : facts.agentId = config.app.nodeId
  hostId : facts.hostId = config.app.nodeId
  agentVersion : facts.agentVersion = config.agent.version
  hostname : Hosted config.app.nodeId facts.hostname s
  interfaces : Inventoried facts.networkInterfaces s
  privateIp : Reached facts.networkInterfaces facts.privateIp s
  cpu : ∃ cpuinfo again model, ⟨.readToString "/proc/cpuinfo",cpuinfo⟩ ∈ s ∧
    (facts.cpuCores,facts.cpuThreads) = discoverCpuSpecs cpuinfo ∧
    ⟨.readToString "/proc/cpuinfo",again⟩ ∈ s ∧ Modelled again model ∧
    facts.cpuPackages = [⟨0,model,facts.cpuCores,facts.cpuThreads⟩]
  memory : ∃ meminfo bytes, ⟨.readToString "/proc/meminfo",meminfo⟩ ∈ s ∧
    bytes = (discoverMemoryBytes meminfo).getD 0 ∧ facts.memoryBytes = bytes.toInt ∧
    facts.memoryModules = [⟨0,discoverRamModel,(moduleSizeGib bytes).toInt⟩]
  gpu : ∃ model, Graphic model s ∧ facts.gpuDevices = [⟨0,model,0,0⟩]

theorem nonBlank_told {text value : String} (h : nonBlank text = some value) : Told text value := by
  simp only [nonBlank,Option.ite_none_left_eq_some,Option.some.injEq] at h
  obtain ⟨hne,rfl⟩ := h
  exact ⟨rfl,hne⟩

theorem hosted_lasts (nodeId hostname : String) : Lasts (Hosted nodeId hostname) := by
  refine lasts_or (lasts_exists fun text => ?_) (lasts_const _)
  exact lasts_and (lasts_const _) (lasts_or (lasts_mem _) (lasts_mem _))

theorem discoverHostname_finds (nodeId : String) :
    Finds discoverHostname fun r s => Hosted nodeId (r.getD nodeId) s := by
  refine finds_ask fun value => ?_
  cases hvalue : value.bind nonBlank with
  | some hostname =>
    obtain ⟨text,rfl,htext⟩ := Option.bind_eq_some_iff.mp hvalue
    exact finds_ret fun t hmem => .inl ⟨text,nonBlank_told htext,.inl hmem⟩
  | none =>
    refine finds_ask fun output => ?_
    cases output with
    | none => exact finds_ret fun _ _ _ => .inr rfl
    | some output =>
      obtain ⟨success,stdout⟩ := output
      cases success with
      | false => exact finds_ret fun _ _ _ => .inr rfl
      | true =>
        refine finds_ret fun t hmem _ => ?_
        cases hname : nonBlank stdout with
        | none => exact .inr (by simp)
        | some hostname => exact .inl ⟨stdout,by simpa [hname] using nonBlank_told hname,.inr hmem⟩

theorem unreached_lasts : Lasts Unreached :=
  lasts_or (lasts_mem _) (lasts_or (lasts_mem _) (lasts_mem _))

theorem reached_lasts (interfaces : List NetworkInterface) (ip : String) :
    Lasts (Reached interfaces ip) := by
  unfold Reached
  split
  · exact lasts_const _
  · exact lasts_or (lasts_mem _) (lasts_and (lasts_const _) unreached_lasts)

theorem discoverPrivateIp_finds : Finds discoverPrivateIp fun r s =>
    (∃ ip, r = some ip ∧ ⟨.localAddr,some ip⟩ ∈ s) ∨ r = none ∧ Unreached s := by
  refine finds_ask fun bound => ?_
  cases bound with
  | false => exact finds_ret fun t hmem => .inr ⟨rfl,.inl hmem⟩
  | true =>
    refine finds_ask fun connected => ?_
    cases connected with
    | false => exact finds_ret fun t hmem _ => .inr ⟨rfl,.inr (.inl hmem)⟩
    | true =>
      refine finds_ask (k := .ret) fun addr => finds_ret fun t hmem _ _ => ?_
      cases addr with
      | none => exact .inr ⟨rfl,.inr (.inr hmem)⟩
      | some ip => exact .inl ⟨ip,rfl,hmem⟩

theorem privateIpOf_finds (interfaces : List NetworkInterface) :
    Finds (privateIpOf interfaces) (Reached interfaces) := by
  unfold privateIpOf Reached
  cases interfaces.find? reachable with
  | some i => exact finds_ret fun _ => rfl
  | none =>
    refine finds_bind discoverPrivateIp_finds (fun r => ?_) fun r => finds_ret fun t hr => ?_
    · exact lasts_or (lasts_exists fun _ => lasts_and (lasts_const _) (lasts_mem _))
        (lasts_and (lasts_const _) unreached_lasts)
    · rcases hr with ⟨ip,rfl,hmem⟩ | ⟨rfl,hfailed⟩
      · exact .inl hmem
      · exact .inr ⟨rfl,hfailed⟩

theorem cpuModelLine_some {line model : String} (h : cpuModelLine line = some model) :
    startsWith "model name" line = true ∧ ∃ text, Labelled line text ∧ model = trim text := by
  simp only [cpuModelLine,Option.ite_none_right_eq_some] at h
  obtain ⟨hstarts,hcolon⟩ := h
  obtain ⟨⟨label,text⟩,hsplit,rfl⟩ := Option.map_eq_some_iff.mp hcolon
  exact ⟨hstarts,text,⟨label,hsplit⟩,rfl⟩

theorem cpuModelLine_none {line : String} (h : cpuModelLine line = none)
    (hstarts : startsWith "model name" line = true) : ':' ∉ line.toList := by
  intro hcolon
  simp [cpuModelLine,hstarts,afterColon,splitOnce,hcolon] at h

theorem discoverCpuModel_finds : Finds discoverCpuModel fun model s =>
    ∃ cpuinfo, ⟨.readToString "/proc/cpuinfo",cpuinfo⟩ ∈ s ∧ Modelled cpuinfo model := by
  refine finds_ask fun cpuinfo => ?_
  cases hread : cpuinfo.read with
  | error _ => exact finds_ret fun t hmem => ⟨cpuinfo,hmem,.inr ⟨rfl,by simp [hread]⟩⟩
  | ok contents =>
    refine finds_ret fun t hmem => ⟨cpuinfo,hmem,?_⟩
    cases hmodel : (lines contents).findSome? cpuModelLine with
    | none =>
      refine .inr ⟨rfl,?_⟩
      rintro _ hcontents l hl
      obtain rfl : contents = _ := Except.ok.inj (hread.symm.trans hcontents)
      exact cpuModelLine_none (List.findSome?_eq_none_iff.mp hmodel l hl)
    | some model =>
      obtain ⟨before,line,after,hlines,hline,hbefore⟩ := List.findSome?_eq_some_iff.mp hmodel
      obtain ⟨hstarts,text,hlabel,rfl⟩ := cpuModelLine_some hline
      exact .inl ⟨contents,before,line,after,text,hread,hlines,hstarts,hlabel,rfl,
        fun l hl => cpuModelLine_none (hbefore l hl)⟩

theorem graphic_lasts (model : String) : Lasts (Graphic model) := by
  refine lasts_or (lasts_exists fun output => lasts_exists fun line => lasts_exists fun text => ?_)
    (lasts_const _)
  exact lasts_and (lasts_mem _) (lasts_const _)

theorem discoverGpuModel_finds : Finds discoverGpuModel Graphic := by
  refine finds_ask fun output => ?_
  cases output with
  | none => exact finds_ret fun _ _ => .inr rfl
  | some output =>
    refine finds_ret fun t hmem => ?_
    cases hmodel : (lines output.stdout).findSome? gpuModelLine with
    | none => exact .inr rfl
    | some model =>
      obtain ⟨line,hline,hsome⟩ := List.exists_of_findSome?_eq_some hmodel
      simp only [gpuModelLine,Option.ite_none_right_eq_some] at hsome
      obtain ⟨value,hvalue,hmodel⟩ := Option.bind_eq_some_iff.mp hsome.2
      obtain ⟨⟨label,text⟩,hsplit,rfl⟩ := Option.map_eq_some_iff.mp hvalue
      simp only [Option.ite_none_left_eq_some,Option.some.injEq] at hmodel
      obtain ⟨hne,rfl⟩ := hmodel
      exact .inl ⟨output,line,text,hmem,hline,⟨label,hsplit⟩,rfl,hne⟩

theorem Graphic.named {model : String} {s : Trace HostAns} (h : Graphic model s) :
    ¬trim model = "" := by
  rcases h with ⟨-,-,text,-,-,-,rfl,hne⟩ | rfl
  · rwa [trim_trim]
  · decide

/-- Whatever the host answers, and wherever it does not, what is collected describes it. -/
theorem facts_described (config : Configuration) :
    (collectHostFacts config).Always recorder (fun _ => True) (Described config) [] := by
  have hfinds : Finds (collectHostFacts config) (Described config) := by
    refine finds_bind (discoverHostname_finds config.app.nodeId) (fun _ => hosted_lasts _ _)
      fun hostname => ?_
    refine finds_bind discoverNetworkInterfaces_finds inventoried_lasts fun interfaces => ?_
    refine finds_bind (privateIpOf_finds interfaces) (reached_lasts interfaces) fun privateIp => ?_
    refine finds_ask fun cpuinfo => ?_
    refine finds_bind discoverCpuModel_finds (fun model => ?_) fun cpuModel => ?_
    · exact lasts_exists fun _ => lasts_and (lasts_mem _) (lasts_const _)
    refine finds_ask fun meminfo => ?_
    refine finds_skip fun diskBytes => finds_skip fun _ => ?_
    refine finds_bind discoverGpuModel_finds graphic_lasts fun gpuModel => ?_
    refine finds_ret fun t hgpu hmeminfo hmodel hcpuinfo hip hinterfaces hhostname => ?_
    obtain ⟨again,hagain,hmodel⟩ := hmodel
    exact {
      agentId := rfl
      hostId := rfl
      agentVersion := rfl
      hostname := hhostname
      interfaces := hinterfaces
      privateIp := hip
      cpu := ⟨cpuinfo,again,cpuModel,hcpuinfo,rfl,hagain,hmodel,rfl⟩
      memory := ⟨meminfo,_,hmeminfo,rfl,rfl,rfl⟩
      gpu := ⟨gpuModel,hgpu,if_neg hgpu.named⟩ }
  exact hfinds.always

end Description
end HostProbe
end KvmAgent
