import KvmAgent.CpuShare
import KvmAgent.HostDiscovery

/-! The cores and threads found in `/proc/cpuinfo`, over hosts of one or more processor
packages, and the used cores that telemetry makes of them. -/
namespace KvmAgent
namespace CpuTopology

open RustText Telemetry HostDiscovery CpuShare

def Passed (line : String) : Prop :=
  startsWith "processor" line = false ∧ startsWith "cpu cores" line = false

/-- The entry of a logical processor, around the lines that matter here. -/
structure Entry where
  processor : ℕ
  physicalId : ℕ
  model : List String
  siblings : List String
  flags : List String
  passed : ∀ line ∈ model ++ siblings ++ flags, Passed line

/-- The lines of an entry, in a package of `cores` cores. -/
def Entry.lines (cores : ℕ) (e : Entry) : List String :=
  ("processor\t: " ++ toString e.processor) ::
    (e.model ++ ("physical id\t: " ++ toString e.physicalId) ::
      (e.siblings ++ ("cpu cores\t: " ++ toString cores) :: e.flags))

/-- What the kernel shows of a host with packages of equal cores and threads: an entry for each
thread of each package, in any order. -/
structure CpuInfo where
  file : ProcFile
  packages : ℕ
  cores : ℕ
  threads : ℕ
  packages_pos : 0 < packages
  cores_pos : 0 < cores
  threads_pos : 0 < threads
  entries : List Entry
  each : (entries.map Entry.physicalId).Perm
    ((List.range packages).flatMap fun package => List.replicate threads package)
  readable : file.failure = none
  shown : lines file.text = entries.flatMap (Entry.lines cores)

/-- `cpu_used_cores` in `build_snapshot`, in exact arithmetic. -/
def cpuUsedCores (facts : HostFacts) (s : Snapshot) : ℚ := cpuPct s / 100 * facts.cpuCores

namespace CpuInfo

variable (x : CpuInfo)

/-- The cores and the threads are those of all packages, so that the used cores are the used
part of the whole host. -/
def CountsAll : Prop :=
  discoverCpuSpecs x.file = ((x.packages : ℤ) * x.cores,(x.packages : ℤ) * x.threads) ∧
    ∀ (facts : HostFacts) (cpuModel : String) (s : Snapshot),
      cpuUsedCores (collectCpuFacts facts cpuModel x.file) s =
        cpuPct s / 100 * (x.packages * x.cores)

/-- One package, whose numbers fit `i32`. -/
def SinglePackage : Prop :=
  x.packages = 1 ∧ x.cores < 2147483648 ∧ x.threads < 2147483648

end CpuInfo

section Scan

theorem scan_passed {passed : List String} (h : ∀ line ∈ passed, Passed line) (s : CpuScan) :
    passed.foldl CpuScan.line s = s := by
  induction passed with
  | nil => rfl
  | cons line passed ih =>
    have hline := h line (by simp)
    have hrest := ih fun line hmem => h line (by simp [hmem])
    simp only [List.foldl_cons,CpuScan.line,hline.1,hline.2,Bool.false_eq_true,if_false]
    exact hrest

theorem startsWith_append_self {pre s : String} (rest : String) (h : startsWith pre s = true) :
    startsWith pre (s ++ rest) = true := by
  rw [startsWith_iff,String.toList_append]
  exact (startsWith_iff.mp h).trans (List.prefix_append _ _)

theorem scan_processor (s : CpuScan) (n : ℕ) :
    CpuScan.line s ("processor\t: " ++ toString n) =
      { s with processors := wrapI32 (s.processors + 1) } := by
  rw [CpuScan.line,if_pos (startsWith_append_self (toString n) (by decide))]

theorem passed_physicalId (n : ℕ) : Passed ("physical id\t: " ++ toString n) := by
  simp [Passed,startsWith,String.toList_append,List.isPrefixOf]

theorem splitSecond_cores (c : ℕ) : splitSecond ':' ("cpu cores\t: " ++ toString c) =
    some (String.ofList (' ' :: Nat.toDigits 10 c)) := by
  have hlist : ("cpu cores\t: " ++ toString c).toList =
      ['c','p','u',' ','c','o','r','e','s','\t',':',' '] ++ Nat.toDigits 10 c := by
    rw [String.toList_append]
    simp
  have hnone : ∀ d ∈ ' ' :: Nat.toDigits 10 c, d ≠ ':' := by
    intro d hd
    rcases List.mem_cons.mp hd with rfl | hd
    · decide
    · rintro rfl
      exact absurd (List.all_eq_true.mp (toDigits_all c) ':' hd) (by decide)
  have hself : (' ' :: Nat.toDigits 10 c).takeWhile (· ≠ ':') = ' ' :: Nat.toDigits 10 c :=
    List.takeWhile_eq_self_iff.mpr fun d hd => by simpa using hnone d hd
  have honce : splitOnce ':' ("cpu cores\t: " ++ toString c) =
      some ("cpu cores\t",String.ofList (' ' :: Nat.toDigits 10 c)) := by
    simp [splitOnce,splitFirst]
  rw [splitSecond,honce,Option.map_some,splitFirst,String.toList_ofList,hself]

theorem scan_cores (s : CpuScan) (c : ℕ) :
    CpuScan.line s ("cpu cores\t: " ++ toString c) =
      if c < 2147483648 ∧ s.cpuCores = 0 then { s with cpuCores := c } else s := by
  have hprocessor : startsWith "processor" ("cpu cores\t: " ++ toString c) = false := by
    simp [startsWith,String.toList_append,List.isPrefixOf]
  have hcores : startsWith "cpu cores" ("cpu cores\t: " ++ toString c) = true :=
    startsWith_append_self (toString c) (by decide)
  have htrim : trim (String.ofList (' ' :: Nat.toDigits 10 c)) = toString c := by
    have hblank : ∀ d ∈ [' '], isWhitespace d = true := by simp [isWhitespace]
    have hnone : ∀ d ∈ [], isWhitespace d = true := by simp
    simpa using trim_toString hblank hnone c
  simp only [CpuScan.line,hprocessor,hcores,splitSecond_cores,Option.bind_some,htrim,parseI32,
    parseSigned_toString,Bool.false_eq_true,if_false,if_true]
  by_cases hc : c < 2147483648
  · simp [hc]
  · simp [hc]

theorem scan_entry (cores : ℕ) (e : Entry) (s : CpuScan) :
    (e.lines cores).foldl CpuScan.line s =
      ⟨wrapI32 (s.processors + 1),
        if cores < 2147483648 ∧ s.cpuCores = 0 then cores else s.cpuCores⟩ := by
  have hmodel : ∀ line ∈ e.model, Passed line := fun line h => e.passed line (by simp [h])
  have hsiblings : ∀ line ∈ e.siblings, Passed line := fun line h => e.passed line (by simp [h])
  have hflags : ∀ line ∈ e.flags, Passed line := fun line h => e.passed line (by simp [h])
  have hphysical (s : CpuScan) : CpuScan.line s ("physical id\t: " ++ toString e.physicalId) = s := by
    have hpassed := passed_physicalId e.physicalId
    rw [CpuScan.line,hpassed.1,hpassed.2]
    rfl
  rw [Entry.lines,List.foldl_cons,scan_processor,List.foldl_append,scan_passed hmodel,
    List.foldl_cons,hphysical,List.foldl_append,scan_passed hsiblings,List.foldl_cons,scan_cores,
    scan_passed hflags]
  split <;> rfl

theorem wrapI32_succ (n : ℤ) : wrapI32 (wrapI32 n + 1) = wrapI32 (n + 1) := by
  unfold wrapI32
  omega

/-- All entries count as processors, and only the first one for the cores. -/
theorem scan_entries (cores : ℕ) (entries : List Entry) (n k : ℤ) :
    (entries.flatMap (Entry.lines cores)).foldl CpuScan.line ⟨wrapI32 n,k⟩ =
      ⟨wrapI32 (n + entries.length),
        if entries ≠ [] ∧ cores < 2147483648 ∧ k = 0 then cores else k⟩ := by
  induction entries generalizing n k with
  | nil => simp
  | cons e entries ih =>
    rw [List.flatMap_cons,List.foldl_append,scan_entry,wrapI32_succ,ih]
    have hlength : n + 1 + entries.length = n + (e::entries).length := by
      rw [List.length_cons]
      omega
    rw [hlength]
    by_cases hfirst : cores < 2147483648 ∧ k = 0
    · simp [hfirst]
    · simp [hfirst]

theorem length_packages (packages threads : ℕ) :
    ((List.range packages).flatMap fun package => List.replicate threads package).length =
      packages * threads := by
  induction packages with
  | zero => simp
  | succ packages ih =>
    rw [List.range_succ,List.flatMap_append,List.length_append,ih]
    simp [Nat.succ_mul]

theorem discoverCpuSpecs_shown (x : CpuInfo) :
    discoverCpuSpecs x.file =
      (if x.cores < 2147483648 then (x.cores : ℤ) else wrapI32 (x.packages * x.threads),
        wrapI32 (x.packages * x.threads)) := by
  have hlength : x.entries.length = x.packages * x.threads := by
    rw [← length_packages,← x.each.length_eq,List.length_map]
  have hpos : 0 < x.entries.length := by
    rw [hlength]
    exact Nat.mul_pos x.packages_pos x.threads_pos
  have hne : x.entries ≠ [] := List.ne_nil_of_length_pos hpos
  have hcores := x.cores_pos
  have hread : readOrDefault x.file = x.file.text := by
    simp [readOrDefault,ProcFile.read,x.readable]
  have hscan := scan_entries x.cores x.entries 0 0
  have hzero : wrapI32 0 = 0 := by decide
  rw [hzero,Int.zero_add,hlength] at hscan
  simp only [discoverCpuSpecs,hread,x.shown,hscan]
  by_cases hfits : x.cores < 2147483648
  · simp [hne,hfits,Nat.ne_of_gt hcores]
  · simp [hfits]

end Scan

/-- The totals are those of the host exactly when it has a single package: the threads of all
packages are counted, and the cores of one. -/
theorem countsAll_iff (x : CpuInfo) : x.CountsAll ↔ x.SinglePackage := by
  have hpackages := x.packages_pos
  have hcores := x.cores_pos
  have hwrap (n : ℕ) : wrapI32 n = n ↔ n < 2147483648 := by
    unfold wrapI32
    omega
  have hbound (n : ℤ) : wrapI32 n < 2147483648 := by
    unfold wrapI32
    omega
  unfold CpuInfo.CountsAll CpuInfo.SinglePackage
  rw [discoverCpuSpecs_shown,Prod.mk.injEq]
  constructor
  · rintro ⟨⟨hfirst,hsecond⟩,-⟩
    have hthreads : x.packages * x.threads < 2147483648 := by
      apply (hwrap _).mp
      push_cast
      exact hsecond
    by_cases hfits : x.cores < 2147483648
    · rw [if_pos hfits] at hfirst
      have hsame : x.cores = x.packages * x.cores := by exact_mod_cast hfirst
      have hone : x.packages = 1 := by
        apply Nat.eq_of_mul_eq_mul_right hcores
        rw [← hsame,Nat.one_mul]
      rw [hone,Nat.one_mul] at hthreads
      exact ⟨hone,hfits,hthreads⟩
    · -- an unreadable number leaves the threads, and these are fewer
      rw [if_neg hfits] at hfirst
      have hlt := hbound (x.packages * x.threads)
      have hle : x.cores ≤ x.packages * x.cores := Nat.le_mul_of_pos_left _ hpackages
      rw [hfirst] at hlt
      have hlt' : x.packages * x.cores < 2147483648 := by exact_mod_cast hlt
      omega
  · rintro ⟨hone,hfits,hthreads⟩
    have hsecond : wrapI32 (x.packages * x.threads) = x.packages * x.threads := by
      rw [hone,Nat.cast_one,Int.one_mul]
      exact (hwrap _).mpr hthreads
    refine ⟨⟨?_,hsecond⟩,fun facts cpuModel s => ?_⟩
    · rw [if_pos hfits,hone,Nat.cast_one,Int.one_mul]
    · rw [cpuUsedCores,collectCpuFacts,discoverCpuSpecs_shown,if_pos hfits,hone]
      simp

def twoEntry (processor physicalId : ℕ) : Entry where
  processor := processor
  physicalId := physicalId
  model := []
  siblings := []
  flags := [""]
  passed := by simp [Passed,startsWith]

def twoText : String :=
  "processor\t: 0\nphysical id\t: 0\ncpu cores\t: 1\n\n" ++
    "processor\t: 1\nphysical id\t: 1\ncpu cores\t: 1\n\n"

set_option maxRecDepth 2000 in
def twoPackages : CpuInfo where
  file := ⟨twoText,none⟩
  packages := 2
  cores := 1
  threads := 1
  packages_pos := by decide
  cores_pos := by decide
  threads_pos := by decide
  entries := [twoEntry 0 0,twoEntry 1 1]
  each := .refl _
  readable := rfl
  shown := by decide

set_option maxRecDepth 2000 in
theorem twoPackages_half :
    discoverCpuSpecs twoPackages.file = (1,2) ∧ ¬∀ x : CpuInfo, x.CountsAll := by
  have hspecs : discoverCpuSpecs twoPackages.file = (1,2) := by decide
  refine ⟨hspecs,fun h => ?_⟩
  have hcounts := (h twoPackages).1
  rw [hspecs] at hcounts
  exact absurd hcounts (by decide)

end CpuTopology
end KvmAgent
