import KvmAgent.Binary64Ranges
import KvmAgent.HostDiscovery
import KvmAgent.PhysicalRam
import KvmAgent.RustLines

/-! The memory and the disk space in use, as `usage_snapshot_gib` reads them for each snapshot,
and that what is reported of the memory is exact. -/
namespace KvmAgent
namespace MemoryUsage

open RustText Telemetry HostDiscovery PhysicalRam Binary64 RoundUp

section Floats

def decimal (digits : List Char) : ℕ := digits.foldl (fun n c => 10 * n + (c.toNat - 48)) 0

def parseExponent : List Char → Option ℤ
  | [] => some 0
  | c::cs =>
    let digits := (splitSign cs).2
    if (c = 'e' ∨ c = 'E') ∧ digits ≠ [] ∧ digits.all Char.isDigit then
      some (if (splitSign cs).1 then -(decimal digits : ℤ) else decimal digits)
    else none

def splitFraction : List Char → List Char × List Char
  | '.'::cs => (cs.takeWhile Char.isDigit,cs.dropWhile Char.isDigit)
  | cs => ([],cs)

def parseMagnitude (cs : List Char) : Option F64 :=
  if cs.map Char.toLower = ['i','n','f'] ∨
      cs.map Char.toLower = ['i','n','f','i','n','i','t','y'] then
    some (.pack (.infinity .positive))
  else if cs.map Char.toLower = ['n','a','n'] then some (.pack .notANumber)
  else
    let whole := cs.takeWhile Char.isDigit
    let fraction := (splitFraction (cs.dropWhile Char.isDigit)).1
    if whole = [] ∧ fraction = [] then none
    else (parseExponent (splitFraction (cs.dropWhile Char.isDigit)).2).map fun exponent =>
      .ofScientific (decimal (whole ++ fraction)) (exponent - fraction.length)

def parseF64 (s : String) : Option F64 :=
  (parseMagnitude (splitSign s.toList).2).map fun x => if (splitSign s.toList).1 then -x else x

end Floats

section Program

/-- The number at the front of a line of `/proc/meminfo`, from KiB to GiB. -/
def lineGib (val : String) : Option F64 :=
  ((splitWhitespace val).head?.bind parseF64).map fun kib => kib / .ofNat 1024 / .ofNat 1024

/-- `total` and `available` in `read_ram_used_gib`. -/
structure RamScan where
  total : F64 := .ofNat 0
  available : F64 := .ofNat 0

/-- A line that is there but cannot be read ends the scan. -/
def RamScan.line (s : RamScan) (line : String) : Option RamScan := do
  let s ← match stripPrefix "MemTotal:" line with
    | some val => (lineGib val).map fun total => { s with total }
    | none => some s
  match stripPrefix "MemAvailable:" line with
  | some val => (lineGib val).map fun available => { s with available }
  | none => some s

def readRamUsedGib (meminfo : ProcFile) : Option F64 :=
  match meminfo.read with
  | .error _ => none
  | .ok contents => do
    let s ← (lines contents).foldlM RamScan.line {}
    if .ofNat 0 < s.total then some (s.total - s.available) else none

/-- `read_ssd_used_gib`, given what `df -B1 /` leaves. -/
def readSsdUsedGib (df : Option DfOutput) : Option F64 := do
  let output ← df
  if output.success then
    let line ← (lines output.stdout)[1]?
    let field ← (splitWhitespace line)[2]?
    let usedBytes ← parseF64 field
    some (usedBytes / .ofNat 1024 / .ofNat 1024 / .ofNat 1024)
  else none

def usageSnapshotGib (meminfo : ProcFile) (df : Option DfOutput) : F64 × F64 :=
  ((readRamUsedGib meminfo).getD (.ofNat 0),(readSsdUsedGib df).getD (.ofNat 0))

end Program

section Decimals

variable {n : ℕ}

theorem toDigits_digits (n : ℕ) : ∀ c ∈ Nat.toDigits 10 n, c.isDigit = true :=
  List.all_eq_true.mp (toDigits_all n)

theorem toLower_digit {c : Char} (hc : c.isDigit = true) : c.toLower = c := by
  have hrange : 48 ≤ c.toNat ∧ c.toNat ≤ 57 := by
    simpa [Char.isDigit,UInt32.le_iff_toNat_le] using hc
  refine Char.toLower_eq_of_not_isUpper ?_
  simp only [Char.isUpper,decide_eq_true_eq,UInt32.le_iff_toNat_le,ge_iff_le]
  intro h
  have hlow : 65 ≤ c.toNat := h.1
  omega

/-- A printed number is read as the float next to it. -/
theorem parseF64_toString (n : ℕ) : parseF64 (toString n) = some (.ofScientific n 0) := by
  have hlist : (toString n).toList = Nat.toDigits 10 n := by simp
  have hsign : splitSign (Nat.toDigits 10 n) = (false,Nat.toDigits 10 n) := by
    unfold splitSign
    split
    · rename_i rest hminus
      exact absurd hminus (toDigits_ne_cons (by decide) rest)
    · rename_i rest hplus
      exact absurd hplus (toDigits_ne_cons (by decide) rest)
    · rfl
  have hlower : (Nat.toDigits 10 n).map Char.toLower = Nat.toDigits 10 n :=
    (List.map_congr_left fun c hc => toLower_digit (toDigits_digits n c hc)).trans (List.map_id _)
  have hwhole : (Nat.toDigits 10 n).takeWhile Char.isDigit = Nat.toDigits 10 n :=
    List.takeWhile_eq_self_iff.mpr (toDigits_digits n)
  have hrest : (Nat.toDigits 10 n).dropWhile Char.isDigit = [] :=
    List.dropWhile_eq_nil_iff.mpr (toDigits_digits n)
  have hne : Nat.toDigits 10 n ≠ [] := Nat.toDigits_ne_nil
  have hvalue : decimal (Nat.toDigits 10 n) = n := toDigits_value n
  rw [parseF64,hlist,hsign]
  simp [parseMagnitude,hlower,hwhole,hrest,hne,hvalue,splitFraction,parseExponent,
    toDigits_ne_cons (n := n) (c := 'i') (by decide),toDigits_ne_cons (n := n) (c := 'n') (by decide)]

theorem denotes_ofScientific (hn : n ≤ 2^53) : Denotes (.ofScientific n 0) n := by
  by_cases hzero : n = 0
  · subst hzero
    exact_mod_cast denotes_zero .positive
  · have hpos : 0 < n := Nat.pos_of_ne_zero hzero
    have hlarge : 0 < n * 2^53 := Nat.mul_pos hpos (by decide)
    have hvalue : (1 : ℚ) * ((n * 2^53 : ℕ) * 2^(-53 : ℤ)) = n := by
      have hshift := mul_pow_eq n 53 0
      rw [zpow_zero,mul_one] at hshift
      rw [one_mul,hshift]
      rfl
    have htarget : -53 ≤ target (n * 2^53) (-53) := by
      have hsame := target_mul_pow hpos 53 0
      have hlow : -52 ≤ target n 0 := by
        unfold target
        omega
      have heq : (0 : ℤ) - (53 : ℕ) = -53 := by decide
      rw [heq] at hsame
      omega
    have hrep : Representable (n : ℤ) := representable_int (abs_le.mpr ⟨by omega,by exact_mod_cast hn⟩)
    rw [Int.cast_natCast] at hrep
    have hround := denotes_round (s := .positive) hlarge htarget (by rw [sgn,hvalue]; exact hrep)
    rw [sgn,hvalue] at hround
    have hmul : Float.Model.UnpackedFloat.ofScientific .binary64 n 0 =
        Float.Model.UnpackedFloat.roundWithAccuracy .binary64 .positive (n * 2^53) (-53) .exact := by
      have hbits : Float.Model.Format.binary64.mantissaBits = 53 := rfl
      have hover : ¬(0 : ℤ) > 2^Float.Model.Format.binary64.exponentBits := by decide
      have hunder : ¬(0 : ℤ) < -((2^Float.Model.Format.binary64.exponentBits : ℤ) + n.log2) := by
        have hexponent : Float.Model.Format.binary64.exponentBits = 11 := rfl
        rw [hexponent]
        omega
      rw [Float.Model.UnpackedFloat.ofScientific,dif_neg hzero,if_neg hover,if_neg hunder,if_pos le_rfl]
      simp only [Float.Model.UnpackedFloat.mul,hbits,Nat.shiftLeft_eq,Int.toNat_zero,pow_zero,mul_one]
      rfl
    change Denotes (.pack (Float.Model.UnpackedFloat.ofScientific .binary64 n 0)) n
    rw [hmul]
    exact hround

end Decimals

section Report

/-- A line of `/proc/meminfo`: a name, a number, and a unit or nothing. -/
structure MemLine where
  name : String
  pad : List Char
  amount : ℕ
  unit : List Char

namespace MemLine

def value (l : MemLine) : String := String.ofList (l.pad ++ (Nat.toDigits 10 l.amount ++ l.unit))

def render (l : MemLine) : String := String.ofList (l.name.toList ++ ':'::l.value.toList)

structure Clean (l : MemLine) : Prop where
  line : Line l.render
  name : ':' ∉ l.name.toList
  pad : White l.pad
  unit : ∀ c ∈ l.unit.head?, isWhitespace c = true

end MemLine

/-- A label is taken off a line that has it for its name, and off no other. -/
theorem stripPrefix_label (label : String) (hlabel : ':' ∉ label.toList) {l : MemLine} (hl : l.Clean) :
    stripPrefix (label ++ ":") l.render = if l.name = label then some l.value else none := by
  by_cases hname : l.name = label
  · have hrender : l.render = label ++ ":" ++ l.value := by
      rw [MemLine.render,hname]
      apply String.toList_inj.mp
      simp
    rw [if_pos hname,hrender,stripPrefix_append]
  · have hnone : startsWith (label ++ ":") l.render = false := by
      refine Bool.eq_false_iff.mpr fun hstarts => hname ?_
      obtain ⟨t,ht⟩ := startsWith_iff.mp hstarts
      rw [MemLine.render,String.toList_ofList,String.toList_append,List.append_assoc] at ht
      have hbefore {n : List Char} (hn : ':' ∉ n) (r : List Char) :
          (n ++ ':'::r).takeWhile (fun c => decide (c ≠ ':')) = n := by
        have hall : ∀ c ∈ n, decide (c ≠ ':') = true := by
          intro c hc
          refine decide_eq_true ?_
          rintro rfl
          exact hn hc
        rw [List.takeWhile_append_of_pos hall,List.takeWhile_cons_of_neg (by decide),List.append_nil]
      have htake := congrArg (List.takeWhile fun c => decide (c ≠ ':')) ht
      have hcolon : ":".toList ++ t = ':'::t := rfl
      rw [hcolon,hbefore hlabel,hbefore hl.name] at htake
      exact String.toList_inj.mp htake.symm
    rw [if_neg hname,stripPrefix_none hnone]

theorem value_head {l : MemLine} (hl : l.Clean) :
    (splitWhitespace l.value).head? = some (toString l.amount) := by
  have hdigits : ∀ c ∈ Nat.toDigits 10 l.amount, isWhitespace c = false := fun c hc =>
    not_isWhitespace_of_isDigit (toDigits_digits _ c hc)
  obtain ⟨c,cs,hcons⟩ := List.exists_cons_of_ne_nil (Nat.toDigits_ne_nil (b := 10) (n := l.amount))
  have hc : isWhitespace c = false := hdigits c (by simp [hcons])
  have hunit : l.unit.takeWhile (fun d => !isWhitespace d) = [] := by
    cases hunit : l.unit with
    | nil => rfl
    | cons d ds => exact List.takeWhile_cons_of_neg (by simp [hl.unit d (by simp [hunit])])
  have hhead := splitWhitespace_head hc (cs ++ l.unit)
  rw [← List.cons_append,← hcons,List.takeWhile_append_of_pos (by simpa using hdigits),hunit,
    List.append_nil] at hhead
  rw [MemLine.value,splitWhitespace_white hl.pad,hhead,Nat.toString_eq_ofList_toDigits]

def amount (name : String) (ls : List MemLine) : Option ℕ :=
  (ls.find? fun l => l.name = name).map (·.amount)

/-- What the kernel reports of the memory: each name once, and no more memory available than
there is. -/
structure MemInfo where
  entries : List MemLine
  total : ℕ
  available : ℕ
  clean : ∀ l ∈ entries, l.Clean
  names : (entries.map (·.name)).Nodup
  totalLine : amount "MemTotal" entries = some total
  availableLine : amount "MemAvailable" entries = some available
  le_total : available ≤ total
  total_le : total ≤ 2^43

def MemInfo.file (m : MemInfo) : ProcFile := ⟨unlines (m.entries.map MemLine.render),none⟩

theorem MemInfo.lines_file (m : MemInfo) : lines m.file.text = m.entries.map MemLine.render := by
  refine lines_written (fun line hline => ?_) (.inl rfl)
  obtain ⟨l,hl,rfl⟩ := List.mem_map.mp hline
  exact (m.clean l hl).line

def gibOf (amount : ℕ) : F64 := .ofScientific amount 0 / .ofNat 1024 / .ofNat 1024

theorem lineGib_value {l : MemLine} (hl : l.Clean) : lineGib l.value = some (gibOf l.amount) := by
  rw [lineGib,value_head hl,Option.bind_some,parseF64_toString,Option.map_some,gibOf]

theorem scan_line (s : RamScan) {l : MemLine} (hl : l.Clean) : s.line l.render = some
    ⟨if l.name = "MemTotal" then gibOf l.amount else s.total,
      if l.name = "MemAvailable" then gibOf l.amount else s.available⟩ := by
  have htotal := stripPrefix_label "MemTotal" (by decide) hl
  have havailable := stripPrefix_label "MemAvailable" (by decide) hl
  have hcolon : "MemTotal" ++ ":" = "MemTotal:" := rfl
  have hcolon' : "MemAvailable" ++ ":" = "MemAvailable:" := rfl
  rw [hcolon] at htotal
  rw [hcolon'] at havailable
  by_cases ht : l.name = "MemTotal"
  · have ha : ¬l.name = "MemAvailable" := by
      rw [ht]
      decide
    rw [if_pos ht] at htotal
    rw [if_neg ha] at havailable
    simp [RamScan.line,htotal,havailable,lineGib_value hl,ht]
  · rw [if_neg ht] at htotal
    by_cases ha : l.name = "MemAvailable"
    · rw [if_pos ha] at havailable
      simp [RamScan.line,htotal,havailable,lineGib_value hl,ha]
    · rw [if_neg ha] at havailable
      simp [RamScan.line,htotal,havailable,ht,ha]

theorem amount_none {name : String} {ls : List MemLine} (h : name ∉ ls.map (·.name)) :
    amount name ls = none := by
  rw [amount,Option.map_eq_none_iff,List.find?_eq_none]
  intro l hl hname
  exact h (List.mem_map.mpr ⟨l,hl,of_decide_eq_true hname⟩)

theorem amount_cons (name : String) (l : MemLine) (ls : List MemLine) :
    amount name (l::ls) = if l.name = name then some l.amount else amount name ls := by
  unfold amount
  by_cases h : l.name = name
  · rw [List.find?_cons_of_pos (by simpa using h),if_pos h,Option.map_some]
  · rw [List.find?_cons_of_neg (by simpa using h),if_neg h]

/-- The scan ends with the amounts of the two names, wherever their lines are. -/
theorem scan_lines {ls : List MemLine} (hclean : ∀ l ∈ ls, l.Clean) (hnames : (ls.map (·.name)).Nodup)
    (s : RamScan) : (ls.map MemLine.render).foldlM RamScan.line s = some
      ⟨((amount "MemTotal" ls).map gibOf).getD s.total,
        ((amount "MemAvailable" ls).map gibOf).getD s.available⟩ := by
  induction ls generalizing s with
  | nil => rfl
  | cons l ls ih =>
    obtain ⟨hl,hls⟩ := List.forall_mem_cons.mp hclean
    rw [List.map_cons,List.nodup_cons] at hnames
    rw [List.map_cons,List.foldlM_cons,scan_line s hl]
    refine (ih hls hnames.2 _).trans ?_
    have hset {name : String} (old : F64) :
        ((amount name ls).map gibOf).getD (if l.name = name then gibOf l.amount else old) =
          ((amount name (l::ls)).map gibOf).getD old := by
      rw [amount_cons]
      by_cases h : l.name = name
      · rw [if_pos h,if_pos h,amount_none (h ▸ hnames.1)]
        rfl
      · rw [if_neg h,if_neg h]
    rw [hset,hset]

end Report

section Exact

variable {n : ℕ}

theorem denotes_gibOf (hn : n ≤ 2^53) : Denotes (gibOf n) (n / 2^20) := by
  have habs : |(n : ℤ)| ≤ 2^53 := abs_le.mpr ⟨by omega,by exact_mod_cast hn⟩
  have hzero : Denotes (.ofScientific n 0) ((n : ℤ) / 2^0) := by
    rw [pow_zero,div_one,Int.cast_natCast]
    exact denotes_ofScientific hn
  have hgib := denotes_div_1024 habs (by decide) (denotes_div_1024 habs (by decide) hzero)
  rwa [Int.cast_natCast] at hgib

theorem denotes_times_1024 {x : F64} {a : ℤ} {k : ℕ} (ha : |a| ≤ 2^53) (hk : k ≤ 1064)
    (h : Denotes x (a / 2^(k + 10))) : Denotes (x * .ofNat 1024) (a / 2^k) := by
  have hvalue : (a : ℚ) / 2^(k + 10) * (1024 : ℕ) = a / 2^k := by
    have hpow : (2 : ℚ)^k ≠ 0 := pow_ne_zero k (by decide)
    rw [pow_add]
    push_cast
    field_simp
    norm_num
  have hrep := representable_scaled ha (by omega : k ≤ 1074)
  rw [← hvalue] at hrep ⊢
  exact denotes_mul h (denotes_ofNat (by decide)) hrep

/-- From KiB over GiB to bytes, with nothing lost. -/
theorem denotes_usedBytes {x : F64} (hn : n ≤ 2^43) (h : Denotes x (n / 2^20)) :
    Denotes (gibToBytes x) (n * 1024 : ℕ) := by
  have habs : |(n : ℤ)| ≤ 2^53 := abs_le.mpr ⟨by omega,by omega⟩
  have hcast : (n : ℚ) = (n : ℤ) := (Int.cast_natCast n).symm
  rw [hcast] at h
  have hkib := denotes_times_1024 habs (by decide) (denotes_times_1024 habs (k := 10) (by decide) h)
  rw [pow_zero,div_one] at hkib
  have hbytes := denotes_mul_1024 (n := n) (abs_le.mpr ⟨by omega,by omega⟩) hkib
  exact_mod_cast hbytes

theorem usedPercent_within {total used : F64} {q : ℚ} (htotal : Denotes total q) (hq : 0 < q)
    (h : Within q used) : Within 100 (usedPercent total used) := by
  have hzero : Denotes (.ofNat 0) ((0 : ℕ) : ℚ) := denotes_ofNat (by decide)
  have hone : Representable 1 := representable_int (n := 1) (by decide)
  have hhundred : Denotes (.ofNat 100) ((100 : ℕ) : ℚ) := denotes_ofNat (by decide)
  rw [usedPercent,if_pos ((lt_iff hzero htotal).mpr (by exact_mod_cast hq))]
  have hshare := within_div ((one_mul q).symm ▸ h) one_pos hone htotal hq
  have hpercent := within_mul hshare one_pos hhundred (by decide)
    ((one_mul ((100 : ℕ) : ℚ)).symm ▸ hhundred.representable)
  rw [one_mul] at hpercent
  exact_mod_cast hpercent

theorem readRamUsedGib_file (m : MemInfo) : ((readRamUsedGib m.file).getD (.ofNat 0)).unpack = .zero .positive ∧
      m.total = 0 ∨ readRamUsedGib m.file = some (gibOf m.total - gibOf m.available) := by
  have hread : m.file.read = .ok m.file.text := rfl
  have htotal := denotes_gibOf (n := m.total) (by have := m.total_le; omega)
  have hzero : Denotes (.ofNat 0) ((0 : ℕ) : ℚ) := denotes_ofNat (by decide)
  have hscan : readRamUsedGib m.file =
      if .ofNat 0 < gibOf m.total then some (gibOf m.total - gibOf m.available) else none := by
    simp only [readRamUsedGib,hread,m.lines_file,scan_lines m.clean m.names,m.totalLine,m.availableLine]
    rfl
  by_cases hpos : m.total = 0
  · have hnot : ¬.ofNat 0 < gibOf m.total := by
      rw [lt_iff hzero htotal,hpos]
      simp
    rw [hscan,if_neg hnot]
    exact .inl ⟨rfl,hpos⟩
  · have hlt : .ofNat 0 < gibOf m.total := by
      rw [lt_iff hzero htotal,Nat.cast_zero]
      exact div_pos (by exact_mod_cast Nat.pos_of_ne_zero hpos) (by positivity)
    rw [hscan,if_pos hlt]
    exact .inr rfl

theorem denotes_usedGib (m : MemInfo) (df : Option DfOutput) :
    Denotes (usageSnapshotGib m.file df).1 ((m.total - m.available : ℕ) / 2^20) := by
  have hle := m.le_total
  have hmost := m.total_le
  rcases readRamUsedGib_file m with ⟨hunpack,hzero⟩ | hsome
  · have hnone : m.total - m.available = 0 := by omega
    rw [hnone,Nat.cast_zero,zero_div]
    exact congrArg rat hunpack
  · have hsub := denotes_sub (denotes_gibOf (n := m.total) (by omega))
      (denotes_gibOf (n := m.available) (by omega))
    have hvalue : (m.total : ℚ) / 2^20 - m.available / 2^20 = ((m.total - m.available : ℕ) : ℤ) / 2^20 := by
      rw [← sub_div]
      push_cast [Nat.cast_sub hle]
      rfl
    have hrep : Representable ((((m.total - m.available : ℕ) : ℤ) : ℚ) / 2^20) :=
      representable_scaled (abs_le.mpr ⟨by omega,by omega⟩) (by decide)
    rw [hvalue] at hsub
    have hdenotes := hsub hrep
    rw [Int.cast_natCast] at hdenotes
    unfold usageSnapshotGib
    rw [hsome]
    exact hdenotes

theorem toInt_clamp (hn : n ≤ 2^43) : (Int64.ofIntClamp ((n : ℤ) * 1024)).toInt = n * 1024 := by
  have hmin : Int64.minValue.toInt ≤ (n : ℤ) * 1024 := by
    have hvalue : Int64.minValue.toInt = -2^63 := rfl
    omega
  have hmax : (n : ℤ) * 1024 ≤ Int64.maxValue.toInt := by
    have hvalue : Int64.maxValue.toInt = 2^63 - 1 := rfl
    omega
  rw [Int64.ofIntClamp,dif_pos hmin,dif_pos hmax]
  exact Int64.toInt_ofIntLE

theorem discoverMemoryBytes_file (m : MemInfo) : discoverMemoryBytes m.file =
    some (roundToPhysicalRam (.ofIntClamp ((m.total : ℤ) * 1024))) := by
  have hread : m.file.read = .ok m.file.text := rfl
  have hmost := m.total_le
  obtain ⟨l,hl,hamount⟩ := Option.map_eq_some_iff.mp m.totalLine
  have hmem := List.mem_of_find?_eq_some hl
  have hname : l.name = "MemTotal" := by simpa using List.find?_some hl
  have hline : (lines m.file.text).findSome? (stripPrefix "MemTotal:") = some l.value := by
    have hstrip : ∀ e ∈ m.entries, (stripPrefix "MemTotal:" ∘ MemLine.render) e =
        if e.name = "MemTotal" then some e.value else none := by
      intro e he
      have hlabel : "MemTotal:" = "MemTotal" ++ ":" := by decide
      rw [Function.comp_apply,hlabel]
      exact stripPrefix_label "MemTotal" (by decide) (m.clean e he)
    rw [m.lines_file,List.findSome?_map]
    have hfind : ∀ (ls : List MemLine), (∀ e ∈ ls, (stripPrefix "MemTotal:" ∘ MemLine.render) e =
        if e.name = "MemTotal" then some e.value else none) →
        ls.findSome? (stripPrefix "MemTotal:" ∘ MemLine.render) =
          (ls.find? fun e => e.name = "MemTotal").map MemLine.value := by
      intro ls hls
      induction ls with
      | nil => rfl
      | cons e ls ih =>
        obtain ⟨he,hls⟩ := List.forall_mem_cons.mp hls
        rw [List.findSome?_cons,he]
        by_cases h : e.name = "MemTotal"
        · rw [if_pos h,List.find?_cons_of_pos (by simpa using h)]
          rfl
        · rw [if_neg h,List.find?_cons_of_neg (by simpa using h)]
          exact ih hls
    rw [hfind m.entries hstrip,hl]
    rfl
  have hparse : parseI64 (toString l.amount) = some (m.total : ℤ) := by
    rw [parseI64,parseSigned_toString,hamount,if_pos (by omega)]
  simp only [discoverMemoryBytes,hread,hline,value_head (m.clean l hmem),hparse,Option.bind_some,
    Option.map_some]

/-- What is reported of the memory: its size, how much of it is used, and the percentages. -/
structure Exact (first later : MemInfo) (memoryBytes : Int64) (ramUsedGib : F64) : Prop where
  rounds : RoundsTo gibSizes (first.total * 1024) memoryBytes.toInt
  used : Denotes (gibToBytes ramUsedGib) ((later.total - later.available) * 1024 : ℕ)
  percent : Within 100 (ramUsedPercent memoryBytes (gibToBytes ramUsedGib))
  framePercent : Within 100 (frameRamUsedPercent memoryBytes ramUsedGib)

/-- Whatever the kernel reports, the bytes in use come out to the byte, and never as more than
the memory that was found at the start. -/
theorem memory_exact (first later : MemInfo) (df : Option DfOutput) (h : later.total ≤ first.total) :
    ∃ memoryBytes, discoverMemoryBytes first.file = some memoryBytes ∧
      Exact first later memoryBytes (usageSnapshotGib later.file df).1 := by
  have hmost := first.total_le
  have hclamp := toInt_clamp hmost
  obtain ⟨b,hb⟩ : ∃ b, b = Int64.ofIntClamp ((first.total : ℤ) * 1024) := ⟨_,rfl⟩
  rw [← hb] at hclamp
  have hlow : 0 ≤ b.toInt := by omega
  have hhigh : b.toInt ≤ 2^53 := by omega
  have hround := roundToPhysicalRam_rounds hlow hhigh
  obtain ⟨hpos,hbound⟩ := toInt_bounds hlow hhigh
  have hle := hround.le
  have hgib := denotes_usedGib later df
  have hused := denotes_usedBytes (by omega : later.total - later.available ≤ 2^43) hgib
  have hmemory : Denotes (.ofInt64 (roundToPhysicalRam b)) (roundToPhysicalRam b).toInt :=
    denotes_ofInt64 (abs_le.mpr ⟨by omega,hbound⟩)
  have hmemoryGib := denotes_toGib (b := roundToPhysicalRam b) (abs_le.mpr ⟨by omega,hbound⟩)
  refine ⟨roundToPhysicalRam b,hb ▸ discoverMemoryBytes_file first,?_⟩
  exact {
    rounds := hclamp ▸ hround
    used := hused
    percent := by
      have hmax : max (roundToPhysicalRam b) 0 = roundToPhysicalRam b := by
        have hnot : ¬roundToPhysicalRam b ≤ 0 := fun hle =>
          not_le.mpr hpos (Int64.le_iff_toInt_le.mp hle)
        exact if_neg hnot
      rw [ramUsedPercent,hmax]
      refine usedPercent_within hmemory (by exact_mod_cast hpos) (hused.within (Nat.cast_nonneg _) ?_)
      have hbytes : (((later.total - later.available) * 1024 : ℕ) : ℤ) ≤ (roundToPhysicalRam b).toInt := by
        omega
      exact_mod_cast hbytes
    framePercent := by
      refine usedPercent_within hmemoryGib (div_pos (by exact_mod_cast hpos) (by positivity))
        (hgib.within (by positivity) ?_)
      have hbytes : (((later.total - later.available) * 1024 : ℕ) : ℤ) ≤ (roundToPhysicalRam b).toInt := by
        omega
      have hcast : (((later.total - later.available) * 1024 : ℕ) : ℚ) ≤ (roundToPhysicalRam b).toInt := by
        exact_mod_cast hbytes
      rw [div_le_div_iff₀ (by positivity) (by positivity)]
      push_cast at hcast ⊢
      linarith }

def server : MemInfo where
  entries := [⟨"MemTotal",[' ',' '],32717028,[' ','k','B']⟩,⟨"MemFree",[' '],1200340,[' ','k','B']⟩,
    ⟨"MemAvailable",[' '],20000000,[' ','k','B']⟩,⟨"HugePages_Total",[' '],0,[]⟩]
  total := 32717028
  available := 20000000
  clean := by
    have hline {l : MemLine} (hfeed : '\n' ∉ l.render.toList)
        (hcarriage : l.render.toList.getLast? ≠ some '\r') : Line l.render := ⟨hfeed,hcarriage⟩
    simp only [List.mem_cons,List.not_mem_nil,or_false,forall_eq_or_imp,forall_eq]
    refine ⟨⟨?_,?_,?_,?_⟩,⟨?_,?_,?_,?_⟩,⟨?_,?_,?_,?_⟩,⟨?_,?_,?_,?_⟩⟩
    all_goals first | exact hline (by decide) (by decide) | simp [White,isWhitespace]
  names := by decide
  totalLine := rfl
  availableLine := rfl
  le_total := by decide
  total_le := by decide

/-- 12717028 KiB are in use, of 32 GiB. -/
theorem memory_exact_server : ∃ memoryBytes, discoverMemoryBytes server.file = some memoryBytes ∧
    Exact server server memoryBytes (usageSnapshotGib server.file none).1 :=
  memory_exact server server none le_rfl

end Exact
end MemoryUsage
end KvmAgent
