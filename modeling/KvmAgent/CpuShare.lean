import Mathlib.Data.Rat.Cast.Order
import Mathlib.Tactic.FieldSimp
import Mathlib.Tactic.Linarith
import Mathlib.Tactic.Ring
import KvmAgent.TelemetryCounters

/-! The used share of the processor that a snapshot reports, against the one that the
kernel's columns of `/proc/stat` show. -/
namespace KvmAgent
namespace CpuShare

open RustText Telemetry TelemetryCounters

/-- The quotient in `calculate_cpu_percent`, in exact arithmetic. -/
def percent (d : CpuDeltas) : ℚ :=
  if d.total = 0 then 0 else (d.used.toNat : ℚ) / d.total.toNat * 100

def calculateCpuPercent (prev curr : CpuStats) : ℚ := percent (cpuDeltas prev curr)

/-- `cpu_pct` in `build_snapshot`. -/
def cpuPct (s : Snapshot) : ℚ := (s.cpu.map percent).getD 0

/-- The line of the kernel for all processors. It counts guest time in `user` and `nice`
too, and it prints hundredths of a second that it keeps as nanoseconds of 64 bits, so its
columns add up within 64 bits. -/
structure CpuLine where
  user : ℕ
  nice : ℕ
  system : ℕ
  idle : ℕ
  iowait : ℕ
  irq : ℕ
  softirq : ℕ
  steal : ℕ
  guest : ℕ
  guestNice : ℕ
  guest_le : guest ≤ user
  guestNice_le : guestNice ≤ nice
  fits : user + nice + system + idle + iowait + irq + softirq + steal + guest + guestNice <
    18446744073709551616

namespace CpuLine

variable (l : CpuLine)

def columns : List ℕ :=
  [l.user,l.nice,l.system,l.idle,l.iowait,l.irq,l.softirq,l.steal,l.guest,l.guestNice]

def words : List String := "cpu" :: l.columns.map toString

def time : ℕ := l.user + l.nice + l.system + l.idle + l.iowait + l.irq + l.softirq + l.steal

def guestTime : ℕ := l.guest + l.guestNice

/-- `/proc/stat` can be read and begins with the line. -/
def ShownBy (m : Moment) : Prop :=
  m.stat.failure = none ∧
    ∃ line, (lines m.stat.text).head? = some line ∧ splitWhitespace line = l.words

end CpuLine

/-- Two samples between which no column decreases. -/
structure Samples where
  earlier : Moment
  later : Moment
  before : CpuLine
  after : CpuLine
  shown : before.ShownBy earlier ∧ after.ShownBy later
  nondecreasing : List.Forall₂ (· ≤ ·) before.columns after.columns

namespace Samples

variable (x : Samples)

def time : ℕ := x.after.time - x.before.time

def idle : ℕ := x.after.idle - x.before.idle

def share : ℚ := if x.time = 0 then 0 else 100 * (1 - x.idle / x.time)

def Exact : Prop :=
  ∃ prev curr, readCpuStats x.earlier = .ok prev ∧ readCpuStats x.later = .ok curr ∧
    calculateCpuPercent prev curr = x.share

def Guestless : Prop := x.after.guestTime = x.before.guestTime

/-- Time has passed and none of it was idle. -/
def Saturated : Prop := x.idle = 0 ∧ x.time ≠ 0

end Samples

section Columns

variable {l : CpuLine}

/-- The columns are read back, and their sum, in which the guest's time is twice, does not
wrap. -/
theorem readCpuStats_shown {m : Moment} (h : l.ShownBy m) :
    ∃ s, readCpuStats m = .ok s ∧ s.total.toNat = l.time + l.guestTime ∧ s.idle.toNat = l.idle := by
  obtain ⟨hread,line,hline,hwords⟩ := h
  have hfits := l.fits
  have hnumber : ∀ n ∈ l.columns, n < 18446744073709551616 := by
    simp only [CpuLine.columns,List.mem_cons,List.not_mem_nil,or_false]
    omega
  have hparse : ∀ n ∈ l.columns, ((parseU64 (toString n)).getD 0).toNat = n := by
    intro n hn
    rw [parseU64_toString (hnumber n hn),Option.getD_some]
    exact UInt64.toNat_ofNat_of_lt' (hnumber n hn)
  have hstep (total : UInt64) (part : String) : (total + (parseU64 part).getD 0).toNat =
      (total.toNat + ((parseU64 part).getD 0).toNat) % modulus := UInt64.toNat_add _ _
  have hsum := foldl_toNat id hstep (l.columns.map toString) 0
  have htotal : addUp (fun part => ((parseU64 part).getD 0).toNat) (l.columns.map toString) =
      l.time + l.guestTime := by
    simp only [CpuLine.columns,List.mem_cons,List.not_mem_nil,or_false,forall_eq_or_imp,
      forall_eq] at hparse
    simp only [CpuLine.columns,List.map_cons,List.map_nil,addUp,hparse,CpuLine.time,
      CpuLine.guestTime]
    omega
  have hbelow : l.time + l.guestTime < modulus := by
    unfold CpuLine.time CpuLine.guestTime modulus
    omega
  refine ⟨_,by
    simp only [readCpuStats,ProcFile.read,hread,hline,hwords]
    rw [if_neg (by simp [CpuLine.words,CpuLine.columns])],?_,?_⟩
  · rw [htotal] at hsum
    simpa [CpuLine.words,Nat.mod_eq_of_lt hbelow] using hsum
  · exact hparse l.idle (by simp [CpuLine.columns])

end Columns

namespace Samples

variable (x : Samples)

theorem guestTime_le : x.before.guestTime ≤ x.after.guestTime := by
  have hrise := x.nondecreasing
  simp only [CpuLine.columns,List.forall₂_cons,List.Forall₂.nil,and_true] at hrise
  unfold CpuLine.guestTime
  omega

theorem time_le : x.before.time ≤ x.after.time := by
  have hrise := x.nondecreasing
  simp only [CpuLine.columns,List.forall₂_cons,List.Forall₂.nil,and_true] at hrise
  unfold CpuLine.time
  omega

theorem idle_le : x.idle ≤ x.time := by
  have hrise := x.nondecreasing
  simp only [CpuLine.columns,List.forall₂_cons,List.Forall₂.nil,and_true] at hrise
  unfold idle time CpuLine.time
  omega

end Samples

section Shares

/-- Time counted once more in the whole only dilutes the idle part. -/
theorem diluted_iff {t g i : ℚ} (ht : 0 < t) (hg : 0 ≤ g) :
    (t + g - i) / (t + g) * 100 = 100 * (1 - i / t) ↔ i = 0 ∨ g = 0 := by
  have hsum : t + g ≠ 0 := by linarith
  have ht' : t ≠ 0 := ht.ne'
  have hdiff : (t + g - i) / (t + g) * 100 - 100 * (1 - i / t) = 100 * (i * g) / (t * (t + g)) := by
    field_simp
    ring
  rw [← sub_eq_zero,hdiff,div_eq_zero_iff]
  simp [hsum,ht']

variable {prev curr : CpuStats}

theorem calculateCpuPercent_eq (prev curr : CpuStats) :
    calculateCpuPercent prev curr =
      if curr.total.toNat - prev.total.toNat = 0 then 0
      else ((curr.total.toNat - prev.total.toNat - (curr.idle.toNat - prev.idle.toNat) : ℕ) : ℚ) /
        (curr.total.toNat - prev.total.toNat : ℕ) * 100 := by
  have htotal : (cpuDeltas prev curr).total.toNat = curr.total.toNat - prev.total.toNat :=
    saturatingSub_toNat _ _
  have hused : (cpuDeltas prev curr).used.toNat =
      curr.total.toNat - prev.total.toNat - (curr.idle.toNat - prev.idle.toNat) := by
    simp only [cpuDeltas,saturatingSub_toNat]
  have hzero : (cpuDeltas prev curr).total = 0 ↔ curr.total.toNat - prev.total.toNat = 0 := by
    rw [← htotal,← UInt64.toNat_inj]
    rfl
  simp only [calculateCpuPercent,percent,hzero,htotal,hused]

theorem calculateCpuPercent_shown (x : Samples) {g : ℕ}
    (hguest : x.after.guestTime = x.before.guestTime + g) :
    ∃ prev curr, readCpuStats x.earlier = .ok prev ∧ readCpuStats x.later = .ok curr ∧
      calculateCpuPercent prev curr =
        if x.time + g = 0 then 0
        else ((x.time + g - x.idle : ℕ) : ℚ) / (x.time + g : ℕ) * 100 := by
  obtain ⟨prev,hprev,hprevTotal,hprevIdle⟩ := readCpuStats_shown x.shown.1
  obtain ⟨curr,hcurr,hcurrTotal,hcurrIdle⟩ := readCpuStats_shown x.shown.2
  have htime := x.time_le
  have htotal : curr.total.toNat - prev.total.toNat = x.time + g := by
    rw [hcurrTotal,hprevTotal,hguest]
    unfold Samples.time
    omega
  have hidle : curr.idle.toNat - prev.idle.toNat = x.idle := by
    rw [hcurrIdle,hprevIdle]
    rfl
  refine ⟨prev,curr,hprev,hcurr,?_⟩
  rw [calculateCpuPercent_eq,htotal,hidle]

/-- A snapshot after another reports what `calculate_cpu_percent` makes of the two reads. -/
theorem cpuPct_buildSnapshot {earlier later : Moment} (last : Baselines)
    (hprev : readCpuStats earlier = .ok prev) (hcurr : readCpuStats later = .ok curr) :
    cpuPct (buildSnapshot later (buildSnapshot earlier last).2).1 = calculateCpuPercent prev curr := by
  simp [cpuPct,buildSnapshot,hprev,hcurr,Except.toOption,calculateCpuPercent]

end Shares

/-- The percentage is the share of the kernel's columns exactly when no guest has run between
the samples, or no processor was idle while time passed: guest time counts twice. -/
theorem exact_iff (x : Samples) : x.Exact ↔ x.Guestless ∨ x.Saturated := by
  obtain ⟨g,hg⟩ : ∃ g, x.after.guestTime = x.before.guestTime + g :=
    Nat.exists_eq_add_of_le x.guestTime_le
  obtain ⟨prev,curr,hprev,hcurr,hpercent⟩ := calculateCpuPercent_shown x hg
  have hle := x.idle_le
  have hexact : x.Exact ↔ calculateCpuPercent prev curr = x.share := by
    unfold Samples.Exact
    simp [hprev,hcurr]
  have hguestless : x.Guestless ↔ g = 0 := by
    unfold Samples.Guestless
    omega
  rw [hexact,hpercent,hguestless]
  unfold Samples.share Samples.Saturated
  by_cases htime : x.time = 0
  · -- nothing but guest time has passed, and it counts as used
    have hnone : x.idle = 0 := by omega
    by_cases hzero : g = 0
    · simp [htime,hzero]
    · have hg' : (g : ℚ) ≠ 0 := by exact_mod_cast hzero
      simp [htime,hzero,hnone,hg']
  · have hpos : (0 : ℚ) < x.time := by exact_mod_cast Nat.pos_of_ne_zero htime
    have hcast : ((x.time + g - x.idle : ℕ) : ℚ) = x.time + g - x.idle := by
      rw [Nat.cast_sub (by omega),Nat.cast_add]
    rw [if_neg (by omega),if_neg htime,hcast,Nat.cast_add,diluted_iff hpos (Nat.cast_nonneg g)]
    simp only [Nat.cast_eq_zero]
    tauto

def cpuLine (user idle guest : ℕ) (hguest : guest ≤ user) (hfits : user + idle + guest < 1000) :
    CpuLine where
  user := user
  nice := 0
  system := 0
  idle := idle
  iowait := 0
  irq := 0
  softirq := 0
  steal := 0
  guest := guest
  guestNice := 0
  guest_le := hguest
  guestNice_le := Nat.le_refl 0
  fits := by omega

/-- Half of the time a guest runs, and for the other half the processor is idle. -/
def halfBusy : Samples where
  earlier := ⟨⟨"cpu  0 0 0 0 0 0 0 0 0 0\n",none⟩,⟨"",none⟩,⟨"",none⟩,0⟩
  later := ⟨⟨"cpu  50 0 0 50 0 0 0 0 50 0\n",none⟩,⟨"",none⟩,⟨"",none⟩,0⟩
  before := cpuLine 0 0 0 (by decide) (by decide)
  after := cpuLine 50 50 50 (by decide) (by decide)
  shown := ⟨⟨rfl,_,rfl,by decide⟩,⟨rfl,_,rfl,by decide⟩⟩
  nondecreasing := by simp [CpuLine.columns,cpuLine]

theorem halfBusy_counts_twice :
    halfBusy.share = 50 ∧
      (∃ prev curr, readCpuStats halfBusy.earlier = .ok prev ∧
        readCpuStats halfBusy.later = .ok curr ∧ calculateCpuPercent prev curr = 200 / 3) ∧
      ¬∀ x : Samples, x.Exact := by
  have hshare : halfBusy.share = 50 := by
    norm_num [Samples.share,Samples.time,Samples.idle,CpuLine.time,halfBusy,cpuLine]
  have hprev : readCpuStats halfBusy.earlier = .ok ⟨0,0⟩ := by rfl
  have hcurr : readCpuStats halfBusy.later = .ok ⟨150,50⟩ := by rfl
  have hpercent : calculateCpuPercent ⟨0,0⟩ ⟨150,50⟩ = 200 / 3 := by
    have htotal : UInt64.toNat 150 = 150 := rfl
    have hidle : UInt64.toNat 50 = 50 := rfl
    norm_num [calculateCpuPercent_eq,htotal,hidle]
  refine ⟨hshare,⟨_,_,hprev,hcurr,hpercent⟩,fun h => ?_⟩
  obtain ⟨prev,curr,hprev',hcurr',hexact⟩ := h halfBusy
  rw [hprev] at hprev'
  rw [hcurr] at hcurr'
  cases hprev'
  cases hcurr'
  rw [hpercent,hshare] at hexact
  norm_num at hexact

end CpuShare
end KvmAgent
