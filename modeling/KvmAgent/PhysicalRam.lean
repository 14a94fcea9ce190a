import KvmAgent.Binary64Arithmetic
import KvmAgent.RoundUp
import KvmAgent.Telemetry

/-! The memory that the agent finds on its host, rounded up to what memory is sold in, and
the two percentages that are taken of it. -/
namespace KvmAgent
namespace PhysicalRam

open RustText Telemetry Binary64 RoundUp

abbrev F64 := Float.Model

section Program

/-- `bytes as f64 / 1024.0 / 1024.0 / 1024.0`. -/
def toGib (bytes : Int64) : F64 := .ofInt64 bytes / .ofNat 1024 / .ofNat 1024 / .ofNat 1024

def gibToBytes (value : F64) : F64 := value * .ofNat 1024 * .ofNat 1024 * .ofNat 1024

def roundedGib (gib : F64) : F64 :=
  if gib ≤ .ofNat 1 then .ofNat 1
  else if gib ≤ .ofNat 2 then .ofNat 2
  else if gib ≤ .ofNat 4 then .ofNat 4
  else if gib ≤ .ofNat 8 then .ofNat 8
  else if gib ≤ .ofNat 12 then .ofNat 12
  else if gib ≤ .ofNat 16 then .ofNat 16
  else if gib ≤ .ofNat 24 then .ofNat 24
  else if gib ≤ .ofNat 32 then .ofNat 32
  else if gib ≤ .ofNat 64 then .ofNat 64
  else if gib ≤ .ofNat 128 then .ofNat 128
  else ceil gib

def roundToPhysicalRam (bytes : Int64) : Int64 := (gibToBytes (roundedGib (toGib bytes))).toInt64

def discoverMemoryBytes (meminfo : ProcFile) : Option Int64 :=
  match meminfo.read with
  | .error _ => none
  | .ok contents =>
    ((lines contents).findSome? (stripPrefix "MemTotal:")).bind fun value =>
      ((splitWhitespace value).head?.bind parseI64).map fun amountKb =>
        roundToPhysicalRam (.ofIntClamp (amountKb * 1024))

/-- The size of the memory module in `collect_host_facts`. -/
def moduleSizeGib (memoryBytes : Int64) : Int32 := (memoryBytes / 1024 / 1024 / 1024).toInt32

def usedPercent (total used : F64) : F64 :=
  if .ofNat 0 < total then used / total * .ofNat 100 else .ofNat 0

/-- `ram_used_percent` in `build_snapshot`. -/
def ramUsedPercent (memoryBytes : Int64) (ramUsedBytes : F64) : F64 :=
  usedPercent (.ofInt64 (max memoryBytes 0)) ramUsedBytes

/-- `ram_used_percent` in `node_metric_frame`. -/
def frameRamUsedPercent (memoryBytes : Int64) (ramUsedGib : F64) : F64 :=
  usedPercent (toGib memoryBytes) ramUsedGib

end Program

section Exact

variable {b : Int64} {x : F64} {q : ℚ}

/-- In GiB; above the last of them memory comes in every whole number. -/
def sizes : List ℕ := [1,2,4,8,12,16,24,32,64,128]

theorem sizes_increasing : sizes.Pairwise (· < ·) := by decide

def pick : List ℕ → F64 → F64
  | [], gib => ceil gib
  | c::rest, gib => if gib ≤ .ofNat c then .ofNat c else pick rest gib

theorem roundedGib_eq (gib : F64) : roundedGib gib = pick sizes gib := rfl

theorem denotes_pick {l : List ℕ} (hl : ∀ c ∈ l, c ≤ 2^53) (h : Denotes x q) :
    Denotes (pick l x) (roundUp l q : ℤ) := by
  induction l with
  | nil => exact denotes_ceil h
  | cons c rest ih =>
    obtain ⟨hc,hrest⟩ := List.forall_mem_cons.mp hl
    have hle := le_iff h (denotes_ofNat hc)
    by_cases hq : q ≤ c
    · rw [pick,roundUp,if_pos (hle.mpr hq),if_pos hq]
      exact denotes_ofNat hc
    · rw [pick,roundUp,if_neg (mt hle.mp hq),if_neg hq]
      exact ih hrest

theorem denotes_roundedGib (h : Denotes x q) : Denotes (roundedGib x) (roundUp sizes q : ℤ) := by
  rw [roundedGib_eq]
  exact denotes_pick (by decide) h

theorem denotes_ofInt64 (hb : |b.toInt| ≤ 2^53) : Denotes (.ofInt64 b) b.toInt := denotes_ofInt hb

theorem denotes_div_1024 {n : ℤ} (hn : |n| ≤ 2^53) {k : ℕ} (hk : k ≤ 1064) (h : Denotes x (n / 2^k)) :
    Denotes (x / .ofNat 1024) (n / 2^(k + 10)) := by
  have hvalue : (n : ℚ) / 2^k / (1024 : ℕ) = n / 2^(k + 10) := by
    rw [div_div,pow_add]
    rfl
  have hrep := representable_scaled hn (by omega : k + 10 ≤ 1074)
  rw [← hvalue] at hrep ⊢
  exact denotes_div h (denotes_ofNat (by decide)) (by decide) hrep

theorem denotes_toGib (hb : |b.toInt| ≤ 2^53) : Denotes (toGib b) (b.toInt / 2^30) := by
  have hzero : Denotes (.ofInt64 b) (b.toInt / 2^0) := by
    rw [pow_zero,div_one]
    exact denotes_ofInt64 hb
  have hkib := denotes_div_1024 hb (by decide) hzero
  have hmib := denotes_div_1024 hb (by decide) hkib
  exact denotes_div_1024 hb (by decide) hmib

theorem denotes_mul_1024 {n : ℤ} (hn : |n * 1024| ≤ 2^53) (h : Denotes x n) :
    Denotes (x * .ofNat 1024) (n * 1024 : ℤ) := by
  have hrep := representable_int hn
  push_cast at hrep ⊢
  exact denotes_mul h (denotes_ofNat (by decide)) hrep

theorem denotes_gibToBytes {n : ℤ} (hlow : 0 ≤ n) (hhigh : n ≤ 2^23) (h : Denotes x n) :
    Denotes (gibToBytes x) (n * 2^30 : ℤ) := by
  have hmib := denotes_mul_1024 (abs_le.mpr ⟨by omega,by omega⟩) h
  have hkib := denotes_mul_1024 (abs_le.mpr ⟨by omega,by omega⟩) hmib
  have hbytes := denotes_mul_1024 (abs_le.mpr ⟨by omega,by omega⟩) hkib
  have hvalue : n * 1024 * 1024 * 1024 = n * 2^30 := by omega
  rwa [hvalue] at hbytes

end Exact

section Rounding

variable {b b' : Int64}

def gibSizes : Set ℤ := {s | ∃ n ∈ Sizes sizes, s = n * 2^30}

theorem sizes_pos {n : ℤ} (h : n ∈ Sizes sizes) : 1 ≤ n := by
  rcases h with ⟨c,hc,rfl⟩ | hover
  · have hall : ∀ c ∈ sizes, 1 ≤ c := by decide
    exact_mod_cast hall c hc
  · exact (hover 1 (by decide)).le

/-- The whole function where its steps are exact: the least size that is large enough. -/
theorem roundToPhysicalRam_eq (hlow : 0 ≤ b.toInt) (hhigh : b.toInt ≤ 2^53) :
    (roundToPhysicalRam b).toInt = roundUp sizes (b.toInt / 2^30) * 2^30 ∧
      roundUp sizes (b.toInt / 2^30) ≤ 2^23 := by
  have habs : |b.toInt| ≤ 2^53 := abs_le.mpr ⟨by omega,hhigh⟩
  have hleast := roundUp_least sizes_increasing (b.toInt / 2^30)
  have hlarge : (b.toInt : ℚ) / 2^30 ≤ (2^23 : ℤ) := by
    rw [div_le_iff₀ (by positivity)]
    exact_mod_cast hhigh
  have hmost : roundUp sizes (b.toInt / 2^30) ≤ 2^23 := hleast.2 ⟨.inr (by decide),hlarge⟩
  have hpos := sizes_pos hleast.1.1
  have hdenotes := denotes_gibToBytes (by omega) hmost (denotes_roundedGib (denotes_toGib habs))
  exact ⟨toInt_toInt64 hdenotes (by omega) (by omega),hmost⟩

theorem roundToPhysicalRam_rounds (hlow : 0 ≤ b.toInt) (hhigh : b.toInt ≤ 2^53) :
    RoundsTo gibSizes b.toInt (roundToPhysicalRam b).toInt := by
  obtain ⟨hmem,hleast⟩ := roundUp_least sizes_increasing (b.toInt / 2^30)
  have hle (n : ℤ) : (b.toInt : ℚ) / 2^30 ≤ n ↔ b.toInt ≤ n * 2^30 := by
    rw [div_le_iff₀ (by positivity)]
    exact_mod_cast Iff.rfl
  rw [(roundToPhysicalRam_eq hlow hhigh).1]
  refine ⟨⟨⟨_,hmem.1,rfl⟩,(hle _).mp hmem.2⟩,?_⟩
  rintro s ⟨⟨n,hn,rfl⟩,hs⟩
  have hround := hleast ⟨hn,(hle n).mpr hs⟩
  omega

theorem roundToPhysicalRam_lt (hlow : 2^30 ≤ b.toInt) (hhigh : b.toInt ≤ 2^53)
    (hne : roundToPhysicalRam b ≠ b) : (roundToPhysicalRam b).toInt < 2 * b.toInt := by
  have hround := (roundToPhysicalRam_eq (by omega : 0 ≤ b.toInt) hhigh).1
  have hlt : (2^30 : ℤ) < b.toInt := by
    refine lt_of_le_of_ne hlow fun heq => hne (Int64.toInt_inj.mp ?_)
    rw [hround,← heq]
    decide +kernel
  have hone : ((1 : ℕ) : ℚ) < b.toInt / 2^30 := by
    rw [lt_div_iff₀ (by positivity),Nat.cast_one,one_mul]
    exact_mod_cast hlt
  have hfirst : roundUp sizes (b.toInt / 2^30) = roundUp sizes.tail (b.toInt / 2^30) :=
    if_neg (not_le.mpr hone)
  have hdouble : (roundUp sizes.tail (b.toInt / 2^30) : ℚ) < 2 * (b.toInt / 2^30) :=
    roundUp_lt (by decide) hone (by decide) (by decide)
  rw [hround,hfirst]
  rw [← mul_div_assoc,lt_div_iff₀ (by positivity)] at hdouble
  exact_mod_cast hdouble

end Rounding

section Percent

theorem usedPercent_le {total used : F64} {q : ℚ} (htotal : Denotes total q) (hq : 0 < q)
    (h : used ≤ total) : usedPercent total used ≤ .ofNat 100 := by
  have hzero : Denotes (.ofNat 0) ((0 : ℕ) : ℚ) := denotes_ofNat (by decide)
  have hone : Representable 1 := representable_int (n := 1) (by decide)
  have hhundred : Denotes (.ofNat 100) ((100 : ℕ) : ℚ) := denotes_ofNat (by decide)
  rw [usedPercent,if_pos ((lt_iff hzero htotal).mpr (by exact_mod_cast hq))]
  have hused : AtMost (1 * q) used.unpack := by
    rw [one_mul]
    exact (le_iff_atMost htotal).mp h
  have hquotient := div_atMost htotal hq one_pos hone hused
  have hproduct := mul_atMost hhundred (by decide) one_pos
    ((one_mul ((100 : ℕ) : ℚ)).symm ▸ hhundred.representable) hquotient
  rw [one_mul] at hproduct
  exact (le_iff_atMost hhundred).mpr hproduct

end Percent
section Closure

variable {b b' : Int64}

/-- What rounding makes of two byte counts of which the second is not the less. -/
structure Closure (b b' : Int64) : Prop where
  extensive : b ≤ roundToPhysicalRam b
  multiple : ∃ n : ℤ, 0 < n ∧ (roundToPhysicalRam b).toInt = n * 2^30
  monotone : roundToPhysicalRam b ≤ roundToPhysicalRam b'
  idempotent : roundToPhysicalRam (roundToPhysicalRam b) = roundToPhysicalRam b
  tight : 2^30 ≤ b.toInt → roundToPhysicalRam b ≠ b → (roundToPhysicalRam b).toInt < 2 * b.toInt
  percent : ∀ used : F64, used ≤ .ofInt64 b → ramUsedPercent (roundToPhysicalRam b) used ≤ .ofNat 100

theorem toInt_bounds (hlow : 0 ≤ b.toInt) (hhigh : b.toInt ≤ 2^53) :
    0 < (roundToPhysicalRam b).toInt ∧ (roundToPhysicalRam b).toInt ≤ 2^53 := by
  obtain ⟨hround,hmost⟩ := roundToPhysicalRam_eq hlow hhigh
  have hpos := sizes_pos (roundUp_least sizes_increasing (b.toInt / 2^30)).1.1
  omega

theorem le_rounded (hlow : 0 ≤ b.toInt) (hhigh : b.toInt ≤ 2^53) {used : F64} (h : used ≤ .ofInt64 b) :
    used ≤ .ofInt64 (roundToPhysicalRam b) := by
  obtain ⟨hpos,hmost⟩ := toInt_bounds hlow hhigh
  have hb : Denotes (.ofInt64 b) b.toInt := denotes_ofInt64 (abs_le.mpr ⟨by omega,hhigh⟩)
  have hr : Denotes (.ofInt64 (roundToPhysicalRam b)) (roundToPhysicalRam b).toInt :=
    denotes_ofInt64 (abs_le.mpr ⟨by omega,hmost⟩)
  have hle := (roundToPhysicalRam_rounds hlow hhigh).le
  exact (le_iff_atMost hr).mpr (((le_iff_atMost hb).mp h).mono (by exact_mod_cast hle))

theorem ramUsedPercent_le (hlow : 0 ≤ b.toInt) (hhigh : b.toInt ≤ 2^53) {used : F64}
    (h : used ≤ .ofInt64 b) : ramUsedPercent (roundToPhysicalRam b) used ≤ .ofNat 100 := by
  obtain ⟨hpos,hmost⟩ := toInt_bounds hlow hhigh
  have hmax : max (roundToPhysicalRam b) 0 = roundToPhysicalRam b := by
    have hnot : ¬roundToPhysicalRam b ≤ 0 := fun hle => not_le.mpr hpos (Int64.le_iff_toInt_le.mp hle)
    exact if_neg hnot
  have hr : Denotes (.ofInt64 (roundToPhysicalRam b)) (roundToPhysicalRam b).toInt :=
    denotes_ofInt64 (abs_le.mpr ⟨by omega,hmost⟩)
  rw [ramUsedPercent,hmax]
  exact usedPercent_le hr (by exact_mod_cast hpos) (le_rounded hlow hhigh h)

theorem frameRamUsedPercent_le (hlow : 0 ≤ b.toInt) (hhigh : b.toInt ≤ 2^53) {used : F64}
    (h : used ≤ toGib b) : frameRamUsedPercent (roundToPhysicalRam b) used ≤ .ofNat 100 := by
  obtain ⟨hpos,hmost⟩ := toInt_bounds hlow hhigh
  have hb := denotes_toGib (b := b) (abs_le.mpr ⟨by omega,hhigh⟩)
  have hr := denotes_toGib (b := roundToPhysicalRam b) (abs_le.mpr ⟨by omega,hmost⟩)
  have hle : (b.toInt : ℚ) / 2^30 ≤ (roundToPhysicalRam b).toInt / 2^30 := by
    have hround : (b.toInt : ℚ) ≤ (roundToPhysicalRam b).toInt := by
      exact_mod_cast (roundToPhysicalRam_rounds hlow hhigh).le
    exact div_le_div_of_nonneg_right hround (by positivity)
  have hq : (0 : ℚ) < (roundToPhysicalRam b).toInt / 2^30 :=
    div_pos (by exact_mod_cast hpos) (by positivity)
  exact usedPercent_le hr hq ((le_iff_atMost hr).mpr (((le_iff_atMost hb).mp h).mono hle))

theorem moduleSizeGib_eq (hlow : 0 ≤ b.toInt) (hhigh : b.toInt ≤ 2^53) :
    (moduleSizeGib (roundToPhysicalRam b)).toInt * 2^30 = (roundToPhysicalRam b).toInt := by
  obtain ⟨hround,hmost⟩ := roundToPhysicalRam_eq hlow hhigh
  obtain ⟨hpos,-⟩ := toInt_bounds hlow hhigh
  have hdiv {x : Int64} (hx : 0 ≤ x.toInt) : (x / 1024).toInt = x.toInt / 1024 :=
    (Int64.toInt_div_of_ne_right x 1024 (by decide)).trans (Int.tdiv_eq_ediv_of_nonneg hx)
  have hkib := hdiv hpos.le
  have hmib := hdiv (x := roundToPhysicalRam b / 1024) (by omega)
  have hgib := hdiv (x := roundToPhysicalRam b / 1024 / 1024) (by omega)
  have hsize : (roundToPhysicalRam b / 1024 / 1024 / 1024).toInt = roundUp sizes (b.toInt / 2^30) := by
    omega
  rw [moduleSizeGib,Int64.toInt_toInt32,hsize,Int.bmod_eq_of_le (by omega) (by omega),hround]

/-- The memory that is found is the least size that holds what the kernel reports. -/
theorem discoverMemoryBytes_rounds {meminfo : ProcFile} {contents value word : String} {amountKb : ℤ}
    (hread : meminfo.read = .ok contents)
    (hline : (lines contents).findSome? (stripPrefix "MemTotal:") = some value)
    (hword : (splitWhitespace value).head? = some word) (hparse : parseI64 word = some amountKb)
    (hlow : 0 ≤ amountKb) (hhigh : amountKb ≤ 2^43) :
    ∃ memoryBytes, discoverMemoryBytes meminfo = some memoryBytes ∧
      RoundsTo gibSizes (amountKb * 1024) memoryBytes.toInt := by
  have hbytes : (Int64.ofIntClamp (amountKb * 1024)).toInt = amountKb * 1024 := by
    have hmin : Int64.minValue.toInt ≤ amountKb * 1024 := by
      have hvalue : Int64.minValue.toInt = -2^63 := rfl
      omega
    have hmax : amountKb * 1024 ≤ Int64.maxValue.toInt := by
      have hvalue : Int64.maxValue.toInt = 2^63 - 1 := rfl
      omega
    rw [Int64.ofIntClamp,dif_pos hmin,dif_pos hmax]
    exact Int64.toInt_ofIntLE
  refine ⟨roundToPhysicalRam (.ofIntClamp (amountKb * 1024)),?_,?_⟩
  · simp only [discoverMemoryBytes,hread,hline,hword,hparse,Option.bind_some,Option.map_some]
  · have hrounds := roundToPhysicalRam_rounds (b := .ofIntClamp (amountKb * 1024)) (by omega) (by omega)
    rwa [hbytes] at hrounds

/-- `round_to_physical_ram` is a closure on the byte counts that a float holds exactly. -/
theorem physicalRam_closure (b b' : Int64) (hlow : 0 ≤ b.toInt) (hle : b.toInt ≤ b'.toInt)
    (hhigh : b'.toInt < 2^53) : Closure b b' := by
  have hb : b.toInt ≤ 2^53 := by omega
  obtain ⟨hpos,hmost⟩ := toInt_bounds hlow hb
  have hround := roundToPhysicalRam_rounds hlow hb
  have hround' := roundToPhysicalRam_rounds (by omega : 0 ≤ b'.toInt) hhigh.le
  have hagain := roundToPhysicalRam_rounds hpos.le hmost
  obtain ⟨n,hn,hsize⟩ := hround.mem
  exact {
    extensive := Int64.le_iff_toInt_le.mpr hround.le
    multiple := ⟨n,sizes_pos hn,hsize⟩
    monotone := Int64.le_iff_toInt_le.mpr (hround.mono hround' hle)
    idempotent := Int64.toInt_inj.mp (hround.idem hagain)
    tight := fun hgib hne => roundToPhysicalRam_lt hgib hb hne
    percent := fun _ h => ramUsedPercent_le hlow hb h }

/-- A host of 32 GiB that shows `MemTotal: 32717028 kB`. -/
theorem closure_32717028 : Closure 33502236672 34359738368 :=
  physicalRam_closure 33502236672 34359738368 (by decide) (by decide) (by decide)

example : roundToPhysicalRam 33502236672 = 34359738368 := by decide +kernel
example : roundToPhysicalRam 137438953473 = 138512695296 := by decide +kernel

end Closure

end PhysicalRam
end KvmAgent
