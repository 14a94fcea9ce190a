import Mathlib.Data.List.Forall2
import KvmAgent.Telemetry

/-! The bytes that telemetry reports against the bytes that the kernel counted, over runs of
the loop in which any read may fail. -/
namespace KvmAgent
namespace TelemetryCounters

open RustText Telemetry Reading

inductive IoCounter
  | netRx | netTx | diskRead | diskWrite
  deriving DecidableEq

def modulus : ℕ := 18446744073709551616

def addUp {α : Type} (f : α → ℕ) : List α → ℕ
  | [] => 0
  | x::xs => f x + addUp f xs

namespace IoCounter

def file : IoCounter → Moment → ProcFile
  | .netRx, m | .netTx, m => m.netDev
  | .diskRead, m | .diskWrite, m => m.diskstats

/-- The column of the counter, and the bytes in each of its units. -/
def column : IoCounter → ℕ
  | .netRx => 1
  | .netTx => 9
  | .diskRead => 5
  | .diskWrite => 9

def unit : IoCounter → ℕ
  | .netRx | .netTx => 1
  | .diskRead | .diskWrite => 512

def heading : IoCounter → ℕ
  | .netRx | .netTx => 2
  | .diskRead | .diskWrite => 0

def isRow : IoCounter → String → Bool
  | .netRx, line | .netTx, line => 9 < (splitWhitespace line).length
  | .diskRead, line | .diskWrite, line =>
    9 < (splitWhitespace line).length && isDisk ((splitWhitespace line).getD 2 "")

def bytes (c : IoCounter) (line : String) : ℕ :=
  if c.isRow line then (number (splitWhitespace line) c.column).toNat * c.unit else 0

/-- The bytes that the kernel has counted, readable or not. -/
def total (c : IoCounter) (m : Moment) : ℕ := addUp c.bytes ((lines (c.file m).text).drop c.heading)

def readable (c : IoCounter) (m : Moment) : Bool := (c.file m).failure.isNone

def reading (c : IoCounter) (m : Moment) : Reading := ⟨c.total m,c.readable m⟩

def sampled : IoCounter → IOMetrics → UInt64
  | .netRx, s => s.netRx
  | .netTx, s => s.netTx
  | .diskRead, s => s.diskRead
  | .diskWrite, s => s.diskWrite

def delta : IoCounter → IoDeltas → UInt64
  | .netRx, d => d.netRx
  | .netTx, d => d.netTx
  | .diskRead, d => d.diskRead
  | .diskWrite, d => d.diskWrite

end IoCounter

def reported (c : IoCounter) (snapshots : List Snapshot) : ℕ :=
  addUp (fun s => (s.io.map fun d => (c.delta d).toNat).getD 0) snapshots

/-- The moments of a run of the loop, over which the kernel's counters never decrease. -/
structure Run where
  start : Moment
  ticks : List Moment
  nondecreasing : ∀ c : IoCounter, Rising (c.total start) (ticks.map c.reading)

section Samples

theorem addUp_forall₂ {α β : Type} {f : α → ℕ} {g : β → ℕ} {xs : List α} {ys : List β}
    (h : List.Forall₂ (fun x y => f x = g y) xs ys) : addUp f xs = addUp g ys := by
  induction h with
  | nil => rfl
  | cons hhead _ ih => rw [addUp,addUp,hhead,ih]

theorem addUp_congr {α : Type} {f g : α → ℕ} {xs : List α} (h : ∀ x ∈ xs, f x = g x) :
    addUp f xs = addUp g xs := by
  apply addUp_forall₂
  exact List.forall₂_same.mpr h

theorem addUp_perm {α : Type} (f : α → ℕ) {xs ys : List α} (h : xs.Perm ys) :
    addUp f xs = addUp f ys := by
  induction h with
  | nil => rfl
  | cons x _ ih => rw [addUp,addUp,ih]
  | swap x y xs => rw [addUp,addUp,addUp,addUp,Nat.add_left_comm]
  | trans _ _ ih ih' => rw [ih,ih']

theorem addUp_add {α : Type} (f g : α → ℕ) (xs : List α) :
    addUp (fun x => f x + g x) xs = addUp f xs + addUp g xs := by
  induction xs with
  | nil => rfl
  | cons x xs ih =>
    rw [addUp,addUp,addUp,ih]
    omega

theorem addUp_filter {α : Type} (f : α → ℕ) (p : α → Bool) (xs : List α) :
    addUp f xs = addUp f (xs.filter p) + addUp f (xs.filter fun x => !p x) := by
  induction xs with
  | nil => rfl
  | cons x xs ih =>
    cases hx : p x with
    | false =>
      simp [addUp,hx,ih]
      omega
    | true =>
      simp [addUp,hx,ih]
      omega

theorem addUp_eq_zero {α : Type} {f : α → ℕ} {xs : List α} :
    addUp f xs = 0 ↔ ∀ x ∈ xs, f x = 0 := by
  induction xs with
  | nil => simp [addUp]
  | cons x xs ih => simp [addUp,ih]

theorem number_toString {parts : List String} {i : ℕ} {n : UInt64}
    (h : parts[i]? = some (toString n.toNat)) : number parts i = n := by
  rw [number,List.getD_eq_getElem?_getD,h,Option.getD_some,parseU64_toString n.toNat_lt,
    Option.getD_some,UInt64.ofNat_toNat]

theorem toNat_lt (a : UInt64) : a.toNat < modulus := UInt64.toNat_lt a

theorem saturatingSub_toNat (a b : UInt64) : (saturatingSub a b).toNat = a.toNat - b.toNat := by
  unfold saturatingSub
  by_cases h : b ≤ a
  · rw [if_pos h,UInt64.toNat_sub_of_le a b h]
  · rw [if_neg h]
    have hlt : a.toNat ≤ b.toNat := by
      rw [UInt64.le_iff_toNat_le] at h
      omega
    rw [Nat.sub_eq_zero_of_le hlt]
    rfl

theorem foldl_toNat {σ : Type} {f : σ → String → σ} (get : σ → UInt64) {g : String → ℕ}
    (h : ∀ s line, (get (f s line)).toNat = ((get s).toNat + g line) % modulus)
    (lines : List String) (s : σ) :
    (get (lines.foldl f s)).toNat = ((get s).toNat + addUp g lines) % modulus := by
  induction lines generalizing s with
  | nil => simpa [addUp] using (Nat.mod_eq_of_lt (toNat_lt (get s))).symm
  | cons line lines ih =>
    rw [List.foldl_cons,ih,h,addUp,Nat.mod_add_mod,Nat.add_assoc]

theorem addNetLine_toNat (sums : UInt64 × UInt64) (line : String) :
    (addNetLine sums line).1.toNat = (sums.1.toNat + IoCounter.netRx.bytes line) % modulus ∧
      (addNetLine sums line).2.toNat = (sums.2.toNat + IoCounter.netTx.bytes line) % modulus := by
  have h1 := Nat.mod_eq_of_lt (toNat_lt sums.1)
  have h2 := Nat.mod_eq_of_lt (toNat_lt sums.2)
  by_cases hlength : 9 < (splitWhitespace line).length
  · simp [addNetLine,hlength,IoCounter.bytes,IoCounter.isRow,IoCounter.column,IoCounter.unit,
      UInt64.toNat_add,modulus]
  · simp [addNetLine,hlength,IoCounter.bytes,IoCounter.isRow,h1,h2]

theorem addDiskLine_toNat (sums : UInt64 × UInt64) (line : String) :
    (addDiskLine sums line).1.toNat = (sums.1.toNat + IoCounter.diskRead.bytes line) % modulus ∧
      (addDiskLine sums line).2.toNat = (sums.2.toNat + IoCounter.diskWrite.bytes line) % modulus := by
  have h1 := Nat.mod_eq_of_lt (toNat_lt sums.1)
  have h2 := Nat.mod_eq_of_lt (toNat_lt sums.2)
  cases hdisk : isDisk ((splitWhitespace line).getD 2 "") with
  | false =>
    simp only [addDiskLine,IoCounter.bytes,IoCounter.isRow,hdisk]
    simp [h1,h2]
  | true =>
    simp only [addDiskLine,IoCounter.bytes,IoCounter.isRow,hdisk,if_true,Bool.and_true,decide_eq_true_eq]
    by_cases hlength : 9 < (splitWhitespace line).length
    · simp [hlength,IoCounter.column,IoCounter.unit,UInt64.toNat_add,UInt64.toNat_mul,modulus]
    · simp [hlength,h1,h2]

theorem sumLines_toNat {file : ProcFile} {skip : ℕ}
    {addLine : UInt64 × UInt64 → String → UInt64 × UInt64} {get : UInt64 × UInt64 → UInt64}
    {g : String → ℕ} (hzero : get (0,0) = 0)
    (h : ∀ s line, (get (addLine s line)).toNat = ((get s).toNat + g line) % modulus) :
    (get (sumLines file skip addLine)).toNat =
      Reading.sample modulus ⟨addUp g ((lines file.text).drop skip),file.failure.isNone⟩ := by
  cases hfailure : file.failure with
  | some e => simp [sumLines,ProcFile.read,hfailure,hzero,Reading.sample]
  | none =>
    have hsum := foldl_toNat get h ((lines file.text).drop skip) (0,0)
    simpa [sumLines,ProcFile.read,hfailure,hzero,Reading.sample] using hsum

/-- `read_io_stats` samples each counter, and a file it cannot read it takes for zeros. -/
theorem readIoStats_sampled (m : Moment) :
    ∃ s, readIoStats m = some s ∧ ∀ c : IoCounter, (c.sampled s).toNat = (c.reading m).sample modulus := by
  refine ⟨_,rfl,fun c => ?_⟩
  cases c with
  | netRx => exact sumLines_toNat rfl fun s line => (addNetLine_toNat s line).1
  | netTx => exact sumLines_toNat rfl fun s line => (addNetLine_toNat s line).2
  | diskRead => exact sumLines_toNat rfl fun s line => (addDiskLine_toNat s line).1
  | diskWrite => exact sumLines_toNat rfl fun s line => (addDiskLine_toNat s line).2

theorem sampled_shown {α : Type} {words : α → List String} {f : α → ℕ} {rows : List α}
    {m : Moment} {s : IOMetrics} {c : IoCounter}
    (hsampled : (c.sampled s).toNat = (c.reading m).sample modulus)
    (hread : (c.file m).failure = none)
    (hshown : List.Forall₂ (fun line r => splitWhitespace line = words r)
      ((lines (c.file m).text).drop c.heading) rows)
    (hbytes : ∀ line r, splitWhitespace line = words r → c.bytes line = f r) :
    (c.sampled s).toNat = addUp f rows % modulus := by
  have hreadable : (c.reading m).readable = true := by
    simp [IoCounter.reading,IoCounter.readable,hread]
  have htotal : (c.reading m).value = addUp f rows := addUp_forall₂ (hshown.imp hbytes)
  rw [hsampled,Reading.sample,if_pos hreadable,htotal]

end Samples

section Runs

variable {c : IoCounter} {last : Baselines} {s : IOMetrics}

theorem delta_ioDeltas (c : IoCounter) (prev curr : IOMetrics) :
    (c.delta (ioDeltas prev curr)).toNat = (c.sampled curr).toNat - (c.sampled prev).toNat := by
  cases c <;> exact saturatingSub_toNat _ _

theorem reported_snapshots (hlast : last.lastIo = some s) (ms : List Moment) :
    reported c (snapshots last ms) =
      counted modulus (c.sampled s).toNat (ms.map c.reading) := by
  induction ms generalizing last s with
  | nil => rfl
  | cons m ms ih =>
    obtain ⟨curr,hcurr,hsampled⟩ := readIoStats_sampled m
    have hnext : (buildSnapshot m last).2.lastIo = some curr := hcurr
    have hio : (buildSnapshot m last).1.io = some (ioDeltas s curr) := by
      simp only [buildSnapshot,hlast,hcurr]
    have hrest := ih hnext
    rw [hsampled] at hrest
    simp only [snapshots,reported,addUp,List.map_cons,counted,hio,Option.map_some,Option.getD_some,
      delta_ioDeltas,hsampled]
    rw [← hrest]
    rfl

theorem latest_reading (value : ℕ) (ms : List Moment) :
    latest value (ms.map c.reading) = (ms.getLast?.map c.total).getD value := by
  induction ms generalizing value with
  | nil => rfl
  | cons m ms ih =>
    rw [List.map_cons,latest,ih]
    cases ms <;> simp [IoCounter.reading,List.getLast?_cons]

end Runs

section Cpu

def cpuTotal (m : Moment) : ℕ :=
  addUp (fun part => ((parseU64 part).getD 0).toNat)
    ((splitWhitespace ((lines m.stat.text).head?.getD "")).drop 1)

def cpuReading (m : Moment) : Reading := ⟨cpuTotal m,(readCpuStats m).isOk⟩

def cpuReported (snapshots : List Snapshot) : ℕ :=
  addUp (fun s => (s.cpu.map fun d => d.total.toNat).getD 0) snapshots

theorem readCpuStats_total {m : Moment} {s : CpuStats} (h : readCpuStats m = .ok s) :
    s.total.toNat = cpuTotal m % modulus := by
  simp only [readCpuStats,ProcFile.read] at h
  cases hfailure : m.stat.failure with
  | some e => simp [hfailure] at h
  | none =>
    cases hline : (lines m.stat.text).head? with
    | none => simp [hfailure,hline] at h
    | some line =>
      by_cases hshort : (splitWhitespace line).length < 5
      · simp [hfailure,hline,hshort] at h
      · simp only [hfailure,hline,if_neg hshort] at h
        cases h
        have hstep (total : UInt64) (part : String) : (total + (parseU64 part).getD 0).toNat =
            (total.toNat + ((parseU64 part).getD 0).toNat) % modulus := UInt64.toNat_add _ _
        have hsum := foldl_toNat id hstep ((splitWhitespace line).drop 1) 0
        simpa [cpuTotal,hline] using hsum

theorem cpuReported_snapshots (last : Baselines) (ms : List Moment) :
    cpuReported (snapshots last ms) =
      kept modulus (last.lastCpu.map fun s => s.total.toNat) (ms.map cpuReading) := by
  induction ms generalizing last with
  | nil => rfl
  | cons m ms ih =>
    have hrest := ih (buildSnapshot m last).2
    simp only [snapshots,cpuReported,addUp,List.map_cons,kept]
    unfold cpuReported at hrest
    rw [hrest]
    cases hread : readCpuStats m with
    | error e =>
      cases hlast : last.lastCpu <;>
        simp [buildSnapshot,cpuReading,hread,hlast,Except.toOption,Except.isOk,Except.toBool]
    | ok s =>
      have htotal := readCpuStats_total hread
      cases hlast : last.lastCpu <;>
        simp [buildSnapshot,cpuReading,hread,hlast,htotal,Except.toOption,Except.isOk,Except.toBool,
          cpuDeltas,saturatingSub_toNat]

/-- The processor's share never counts more ticks than there were: a failed read of
`/proc/stat` leaves no baseline behind. -/
theorem cpu_invents_none (start : Moment) (ticks : List Moment)
    (hrising : Rising (cpuTotal start) (ticks.map cpuReading)) :
    cpuReported (runTelemetryLoop start ticks) + cpuTotal start ≤
      latest (cpuTotal start) (ticks.map cpuReading) := by
  unfold runTelemetryLoop
  rw [cpuReported_snapshots]
  apply kept_le hrising
  intro b hb
  cases hread : readCpuStats start with
  | error e => simp [hread,Except.toOption] at hb
  | ok s =>
    have htotal := readCpuStats_total hread
    simp [hread,Except.toOption,htotal] at hb
    exact hb.symm

end Cpu

namespace Run

variable (r : Run) (c : IoCounter)

/-- At each moment of the run, what was reported of the counter is within what it has gained
since the start. -/
def InventsNone : Prop :=
  ∀ earlier later, r.ticks = earlier ++ later →
    reported c (runTelemetryLoop r.start earlier) ≤
      c.total (earlier.getLast?.getD r.start) - c.total r.start

/-- At each read that succeeds after one that failed, the counter had been zero at the last
read that succeeded, or at the start of the loop if none had. -/
def Anchored : Prop :=
  Reading.Anchored (c.total r.start) (c.readable r.start) (r.ticks.map c.reading)

end Run

/-- In every run of the telemetry loop, the deltas of a counter stay within what the kernel
has counted if each recovered read follows a counter known to be zero, and only then, as far
as the counter fits 64 bits. -/
theorem invents_iff (r : Run) (c : IoCounter) :
    (r.Anchored c → r.InventsNone c) ∧
      ((∀ m ∈ r.start::r.ticks, c.total m < 18446744073709551616) → (r.InventsNone c ↔ r.Anchored c)) := by
  obtain ⟨s,hs,hsampled⟩ := readIoStats_sampled r.start
  have hreported (ms : List Moment) : reported c (runTelemetryLoop r.start ms) =
      counted modulus ((c.reading r.start).sample modulus) (ms.map c.reading) := by
    rw [← hsampled]
    exact reported_snapshots hs ms
  have hlatest (ms : List Moment) : latest (c.total r.start) (ms.map c.reading) =
      c.total (ms.getLast?.getD r.start) := by
    rw [latest_reading]
    cases ms.getLast? <;> rfl
  have hrising := r.nondecreasing c
  have hsum : 0 + c.total r.start ≤ c.total r.start := (Nat.zero_add _).le
  have hbase : (c.reading r.start).sample modulus =
      if c.readable r.start then c.total r.start % modulus else 0 := rfl
  have hsound : r.Anchored c → r.InventsNone c := by
    intro h earlier later hsplit
    unfold Run.Anchored at h
    rw [hsplit,List.map_append] at h hrising
    have hle := counted_le (anchored_append h) (rising_append hrising) (Nat.le_refl _) hbase hsum
    rw [hlatest] at hle
    rw [hreported]
    omega
  refine ⟨hsound,fun hfits => ⟨fun h => ?_,hsound⟩⟩
  have hstart : c.total r.start % modulus = c.total r.start := Nat.mod_eq_of_lt (hfits _ (by simp))
  rw [hstart] at hbase
  have hbelow : ∀ reading ∈ r.ticks.map c.reading, reading.value < modulus := by
    intro reading hreading
    obtain ⟨m,hm,rfl⟩ := List.mem_map.mp hreading
    exact hfits m (by simp [hm])
  apply anchored_of_counted_le hrising hbelow (Nat.le_refl _) hbase (Nat.zero_add _)
  intro earlier later hsplit
  obtain ⟨before,after,hticks,rfl,rfl⟩ := List.map_eq_append_iff.mp hsplit
  have hle := h before after hticks
  have hgain : c.total r.start ≤ latest (c.total r.start) (before.map c.reading) := by
    rw [hticks,List.map_append] at hrising
    exact le_latest (rising_append hrising)
  rw [hreported] at hle
  rw [hlatest] at hgain ⊢
  omega

def netDev : String :=
  "Inter-|\n face |\n  eth0: 1000 9 0 0 0 0 0 0 500 4 0 0 0 0 0 0\n"

def diskstats : String := "   8 0 sda 9 0 72 3 5 0 40 2 0 4 5\n"

def idle : Moment := ⟨⟨"cpu 1 2 3 4\n",none⟩,⟨netDev,none⟩,⟨diskstats,none⟩,0⟩

/-- The kernel counts nothing, and one read of `/proc/net/dev` fails. -/
def failing : Run where
  start := idle
  ticks := [{ idle with netDev := ⟨netDev,some (.msg "Too many open files (os error 24)")⟩ },idle]
  nondecreasing c := by cases c <;> simp [Rising,IoCounter.reading,IoCounter.total,IoCounter.file,idle]

set_option maxRecDepth 2000 in
theorem failing_invents :
    reported .netRx (runTelemetryLoop failing.start failing.ticks) = 1000 ∧
      ¬∀ (r : Run) (c : IoCounter), r.InventsNone c := by
  have hreported : reported .netRx (runTelemetryLoop failing.start failing.ticks) = 1000 := by decide
  refine ⟨hreported,fun h => ?_⟩
  have hle := h failing .netRx failing.ticks [] (by simp)
  rw [hreported] at hle
  simp [failing] at hle

end TelemetryCounters
end KvmAgent
