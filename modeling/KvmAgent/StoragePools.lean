import Mathlib.Data.List.Forall2
import KvmAgent.HostDiscovery

/-! The storage pools that are found: what a wrapped report of `df` makes of them, and which
mount paths share a name. -/
namespace KvmAgent
namespace StoragePools

open RustText Telemetry HostDiscovery

section Wrapped

/-- A row of a report; a mounted device is an absolute path. -/
structure DfRow where
  device : String
  size : String
  used : String
  rest : List String
  absolute : startsWith "/" device = true

namespace DfRow

variable (r : DfRow)

/-- The report shows the row on one line. -/
def OneLine (stdout : String) : Prop :=
  ∃ header line more, lines stdout = header::line::more ∧
    splitWhitespace line = r.device::r.size::r.used::r.rest

/-- The report shows the row with a line for the device alone. -/
def Wrapped (stdout : String) : Prop :=
  ∃ header deviceLine line more, lines stdout = header::deviceLine::line::more ∧
    splitWhitespace deviceLine = [r.device] ∧ splitWhitespace line = r.size::r.used::r.rest

end DfRow

theorem parseI64_absolute {s : String} (h : startsWith "/" s = true) : parseI64 s = none := by
  obtain ⟨rest,hs⟩ := startsWith_iff.mp h
  have hlist : s.toList = '/' :: rest := hs.symm
  have hsign : splitSign ('/' :: rest) = (false,'/' :: rest) := rfl
  have hdigit : Char.isDigit '/' = false := by decide
  simp [parseI64,parseSigned,hlist,hsign,hdigit]

theorem dfUsage_oneLine {r : DfRow} {stdout : String} (h : r.OneLine stdout) :
    dfUsage stdout = some ((parseI64 r.size).getD 0,(parseI64 r.used).getD 0) := by
  obtain ⟨header,line,more,hlines,hwords⟩ := h
  simp [dfUsage,hlines,hwords,dfNumber]

theorem dfUsage_wrapped {r : DfRow} {stdout : String} (h : r.Wrapped stdout) :
    dfUsage stdout = some (0,0) := by
  obtain ⟨header,deviceLine,line,more,hlines,hdevice,hwords⟩ := h
  simp [dfUsage,hlines,hdevice,hwords,dfNumber,parseI64_absolute r.absolute]

/-- Two runs that differ in how `df` prints the row of one storage entry. -/
structure Printings where
  mounts : ProcFile
  before : List String
  entry : String
  after : List String
  lines_eq : lines (readOrDefault mounts) = before ++ entry::after
  device : String
  path : String
  eligible : storageEntry entry = some (device,path)
  row : DfRow
  wrapped : ℕ → String → Option DfOutput
  oneLine : ℕ → String → Option DfOutput
  wrapped_row : ∃ stdout, wrapped before.length path = some ⟨true,stdout⟩ ∧ row.Wrapped stdout
  oneLine_row : ∃ stdout, oneLine before.length path = some ⟨true,stdout⟩ ∧ row.OneLine stdout
  others : ∀ i, i ≠ before.length → wrapped i = oneLine i

namespace Printings

variable (p : Printings)

def LosesNone : Prop :=
  ∀ metadata : String → String,
    discoverStoragePools metadata p.mounts p.wrapped = discoverStoragePools metadata p.mounts p.oneLine

def Sized : Prop := ∃ n : ℤ, parseI64 p.row.size = some n ∧ 0 < n

def poolsBefore (metadata : String → String) : List StoragePool :=
  (p.before.zipIdx).filterMap fun (line,i) => (poolUsage (p.oneLine i) line).map (storagePool metadata)

def poolsAfter (metadata : String → String) : List StoragePool :=
  (p.after.zipIdx (p.before.length + 1)).filterMap fun (line,i) =>
    (poolUsage (p.oneLine i) line).map (storagePool metadata)

theorem discover_split (metadata : String → String) (df : ℕ → String → Option DfOutput)
    (h : ∀ i, i ≠ p.before.length → df i = p.oneLine i) :
    discoverStoragePools metadata p.mounts df = p.poolsBefore metadata ++
      (((poolUsage (df p.before.length) p.entry).map (storagePool metadata)).toList ++
        p.poolsAfter metadata) := by
  have hbefore : (p.before.zipIdx).filterMap (fun (line,i) =>
      (poolUsage (df i) line).map (storagePool metadata)) = p.poolsBefore metadata := by
    apply List.filterMap_congr
    rintro ⟨line,i⟩ hmem
    have hlt : i < p.before.length := by
      have hrange := List.snd_lt_of_mem_zipIdx hmem
      simpa using hrange
    dsimp only
    rw [h i (Nat.ne_of_lt hlt)]
  have hafter : (p.after.zipIdx (p.before.length + 1)).filterMap (fun (line,i) =>
      (poolUsage (df i) line).map (storagePool metadata)) = p.poolsAfter metadata := by
    apply List.filterMap_congr
    rintro ⟨line,i⟩ hmem
    have hle : p.before.length + 1 ≤ i := List.le_snd_of_mem_zipIdx hmem
    dsimp only
    rw [h i (by omega)]
  rw [discoverStoragePools,p.lines_eq,List.zipIdx_append,List.filterMap_append,hbefore,
    List.zipIdx_cons,List.filterMap_cons]
  simp only [Nat.zero_add]
  rw [hafter]
  cases (poolUsage (df p.before.length) p.entry).map (storagePool metadata) <;> rfl

theorem poolUsage_wrapped : poolUsage (p.wrapped p.before.length) p.entry = none := by
  obtain ⟨stdout,houtput,hrow⟩ := p.wrapped_row
  simp [poolUsage,p.eligible,houtput,dfUsage_wrapped hrow]

theorem poolUsage_oneLine : poolUsage (p.oneLine p.before.length) p.entry =
    if 0 < (parseI64 p.row.size).getD 0 then
      some (p.device,p.path,(parseI64 p.row.size).getD 0,(parseI64 p.row.used).getD 0)
    else none := by
  obtain ⟨stdout,houtput,hrow⟩ := p.oneLine_row
  simp [poolUsage,p.eligible,houtput,dfUsage_oneLine hrow]

theorem sized_iff : p.Sized ↔ 0 < (parseI64 p.row.size).getD 0 := by
  unfold Sized
  cases parseI64 p.row.size <;> simp

end Printings

/-- A wrapped report gives the pools of one on a line exactly when the row gives no pool
either way: the numbers are looked for on the line of the device. -/
theorem losesNone_iff (p : Printings) : p.LosesNone ↔ ¬p.Sized := by
  have hwrapped (metadata : String → String) :
      discoverStoragePools metadata p.mounts p.wrapped = p.poolsBefore metadata ++ p.poolsAfter metadata := by
    rw [p.discover_split metadata _ p.others,p.poolUsage_wrapped]
    rfl
  have honeLine (metadata : String → String) :=
    p.discover_split metadata p.oneLine fun _ _ => rfl
  unfold Printings.LosesNone
  rw [p.sized_iff]
  constructor
  · intro h hsize
    have hpools := h id
    rw [hwrapped,honeLine,p.poolUsage_oneLine,if_pos hsize] at hpools
    have hlength := congrArg List.length hpools
    simp at hlength
  · intro hsize metadata
    rw [hwrapped,honeLine,p.poolUsage_oneLine,if_neg hsize]
    rfl

def dfOnce (stdout : String) (i : ℕ) (_ : String) : Option DfOutput :=
  if i = 0 then some ⟨true,stdout⟩ else none

/-- A pool of a thousand bytes, whose device `df` prints on a line of its own. -/
def dataWrapped : Printings where
  mounts := ⟨"/dev/sda1 /data ext4 rw 0 0\n",none⟩
  before := []
  entry := "/dev/sda1 /data ext4 rw 0 0"
  after := []
  lines_eq := by decide
  device := "/dev/sda1"
  path := "/data"
  eligible := by decide
  row := ⟨"/dev/sda1","1000","400",["600","40%","/data"],by decide⟩
  wrapped := dfOnce "Filesystem 1B-blocks Used\n/dev/sda1\n 1000 400 600 40% /data\n"
  oneLine := dfOnce "Filesystem 1B-blocks Used\n/dev/sda1 1000 400 600 40% /data\n"
  wrapped_row := ⟨_,rfl,_,_,_,_,rfl,by decide,by decide⟩
  oneLine_row := ⟨_,rfl,_,_,_,rfl,by decide⟩
  others := by
    intro i hi
    have hlater : i ≠ 0 := hi
    funext path
    rw [dfOnce,dfOnce,if_neg hlater,if_neg hlater]

theorem dataWrapped_lost :
    discoverStoragePools id dataWrapped.mounts dataWrapped.wrapped = [] ∧
      discoverStoragePools id dataWrapped.mounts dataWrapped.oneLine =
        [⟨"data","dir","/data",1000,400,"active","/dev/sda1"⟩] ∧
      ¬∀ p : Printings, p.LosesNone := by
  have hwrapped : discoverStoragePools id dataWrapped.mounts dataWrapped.wrapped = [] := by decide
  have honeLine : discoverStoragePools id dataWrapped.mounts dataWrapped.oneLine =
      [⟨"data","dir","/data",1000,400,"active","/dev/sda1"⟩] := by decide
  refine ⟨hwrapped,honeLine,fun h => ?_⟩
  have hpools := h dataWrapped id
  rw [hwrapped,honeLine] at hpools
  cases hpools

end Wrapped

section Names

variable (metadata : String → String) (mounts : ProcFile) (df : ℕ → String → Option DfOutput)

/-- A mount path of which a pool is reported: a storage entry that `df` gives some bytes. -/
def Reported (path : String) : Prop :=
  ∃ i line device output total used, (lines (readOrDefault mounts))[i]? = some line ∧
    storageEntry line = some (device,path) ∧ df i path = some output ∧ output.success = true ∧
    dfUsage output.stdout = some (total,used) ∧ 0 < total

def NamesIdentify : Prop :=
  ∀ p ∈ discoverStoragePools metadata mounts df, ∀ q ∈ discoverStoragePools metadata mounts df,
    p.path ≠ q.path → p.name ≠ q.name

/-- The characters of a path that make up the name; the root is called `root`. -/
def named (path : String) : List Char :=
  if path = "/" then ['r','o','o','t'] else path.toList.dropWhile (· = '/')

def SameInNames (c d : Char) : Prop := c = d ∨ (c = '/' ∧ d = '-') ∨ (c = '-' ∧ d = '/')

/-- Paths that differ at most in leading slashes and in slashes for dashes; the root is like
`/root`. -/
def Alike (a b : String) : Prop := List.Forall₂ SameInNames (named a) (named b)

variable {metadata mounts df}

theorem poolName_eq (path : String) :
    poolName path = String.ofList ((named path).map fun c => if c = '/' then '-' else c) := by
  unfold poolName named
  split
  · decide
  · simp [dashSlashes,trimSlashes]

theorem sameInNames_iff (c d : Char) :
    SameInNames c d ↔ (if c = '/' then '-' else c) = if d = '/' then '-' else d := by
  unfold SameInNames
  by_cases hc : c = '/' <;> by_cases hd : d = '/' <;> simp [hc,hd]
  all_goals grind

theorem poolName_eq_iff (a b : String) : poolName a = poolName b ↔ Alike a b := by
  have hchars : SameInNames = fun c d =>
      (if c = '/' then '-' else c) = if d = '/' then '-' else d := by
    funext c d
    exact propext (sameInNames_iff c d)
  rw [poolName_eq,poolName_eq,String.ofList_inj,Alike,hchars,← List.forall₂_eq_eq_eq,
    List.forall₂_map_left_iff,List.forall₂_map_right_iff]

theorem poolUsage_eq_some {df : String → Option DfOutput} {line device path : String}
    {total used : ℤ} :
    poolUsage df line = some (device,path,total,used) ↔
      storageEntry line = some (device,path) ∧ ∃ output, df path = some output ∧
        output.success = true ∧ dfUsage output.stdout = some (total,used) ∧ 0 < total := by
  simp only [poolUsage,Option.bind_eq_some_iff,Prod.exists,Option.ite_none_right_eq_some]
  constructor
  · rintro ⟨_,_,hentry,output,houtput,hsuccess,_,_,husage,hpos,hresult⟩
    cases hresult
    exact ⟨hentry,output,houtput,hsuccess,husage,hpos⟩
  · rintro ⟨hentry,output,houtput,hsuccess,husage,hpos⟩
    exact ⟨device,path,hentry,output,houtput,hsuccess,total,used,husage,hpos,rfl⟩

theorem mem_discoverStoragePools {p : StoragePool} :
    p ∈ discoverStoragePools metadata mounts df ↔
      ∃ i line device path total used, (lines (readOrDefault mounts))[i]? = some line ∧
        poolUsage (df i) line = some (device,path,total,used) ∧
        storagePool metadata (device,path,total,used) = p := by
  unfold discoverStoragePools
  rw [List.mem_filterMap]
  constructor
  · rintro ⟨⟨line,i⟩,hmem,hpool⟩
    obtain ⟨⟨device,path,total,used⟩,husage,hp⟩ := Option.map_eq_some_iff.mp hpool
    exact ⟨i,line,device,path,total,used,List.mem_zipIdx_iff_getElem?.mp hmem,husage,hp⟩
  · rintro ⟨i,line,device,path,total,used,hline,husage,hp⟩
    exact ⟨(line,i),List.mem_zipIdx_iff_getElem?.mpr hline,Option.map_eq_some_iff.mpr ⟨_,husage,hp⟩⟩

theorem pool_reported {p : StoragePool} (h : p ∈ discoverStoragePools metadata mounts df) :
    Reported mounts df p.path ∧ p.name = poolName p.path := by
  obtain ⟨i,line,device,path,total,used,hline,husage,rfl⟩ := mem_discoverStoragePools.mp h
  obtain ⟨hentry,output,hrest⟩ := poolUsage_eq_some.mp husage
  exact ⟨⟨i,line,device,output,total,used,hline,hentry,hrest⟩,rfl⟩

theorem reported_pool {path : String} (h : Reported mounts df path) :
    ∃ p ∈ discoverStoragePools metadata mounts df, p.path = path ∧ p.name = poolName path := by
  obtain ⟨i,line,device,output,total,used,hline,hentry,hrest⟩ := h
  have husage := poolUsage_eq_some.mpr ⟨hentry,output,hrest⟩
  exact ⟨_,mem_discoverStoragePools.mpr ⟨i,line,device,path,total,used,hline,husage,rfl⟩,rfl,rfl⟩

/-- The names tell the pools apart exactly when no two of the reported paths are alike. -/
theorem namesIdentify_iff (metadata : String → String) (mounts : ProcFile)
    (df : ℕ → String → Option DfOutput) :
    NamesIdentify metadata mounts df ↔
      ∀ a b, Reported mounts df a → Reported mounts df b → a ≠ b → ¬Alike a b := by
  constructor
  · intro h a b ha hb hne halike
    obtain ⟨p,hp,rfl,hpname⟩ := reported_pool ha
    obtain ⟨q,hq,rfl,hqname⟩ := reported_pool hb
    apply h p hp q hq hne
    rw [hpname,hqname]
    exact (poolName_eq_iff _ _).mpr halike
  · intro h p hp q hq hne hname
    obtain ⟨hpreported,hpname⟩ := pool_reported hp
    obtain ⟨hqreported,hqname⟩ := pool_reported hq
    rw [hpname,hqname] at hname
    exact h p.path q.path hpreported hqreported hne ((poolName_eq_iff _ _).mp hname)

def twoMounts : ProcFile := ⟨"/dev/sda1 /srv/a ext4 rw 0 0\n/dev/sdb1 /srv-a xfs rw 0 0\n",none⟩

def thousandBytes (_ : ℕ) (_ : String) : Option DfOutput :=
  some ⟨true,"Filesystem 1B-blocks Used\n/dev/sda1 1000 400 600 40% /srv\n"⟩

def slashed : StoragePool := ⟨"srv-a","dir","/srv/a",1000,400,"active","/dev/sda1"⟩

def dashed : StoragePool := ⟨"srv-a","dir","/srv-a",1000,400,"active","/dev/sdb1"⟩

theorem twoMounts_share_name :
    discoverStoragePools id twoMounts thousandBytes = [slashed,dashed] ∧
      ¬∀ (metadata : String → String) (mounts : ProcFile) (df : ℕ → String → Option DfOutput),
        NamesIdentify metadata mounts df := by
  have hpools : discoverStoragePools id twoMounts thousandBytes = [slashed,dashed] := by decide
  refine ⟨hpools,fun h => ?_⟩
  have hslashed : slashed ∈ discoverStoragePools id twoMounts thousandBytes := by simp [hpools]
  have hdashed : dashed ∈ discoverStoragePools id twoMounts thousandBytes := by simp [hpools]
  exact h id twoMounts thousandBytes slashed hslashed dashed hdashed (by decide) rfl

end Names

end StoragePools
end KvmAgent
