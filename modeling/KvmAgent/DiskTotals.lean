import Mathlib.Data.Int.ModEq
import Mathlib.Data.List.Forall2
import KvmAgent.TelemetryCounters

/-! The disk totals of a sample, against the whole disks that `/proc/diskstats` lists. -/
namespace KvmAgent
namespace DiskTotals

open RustText Telemetry TelemetryCounters

/-- The letters that tell the disks of a driver apart. -/
structure Letters where
  text : String
  nonempty : text ≠ ""
  lower : text.toList.all Char.isLower = true

inductive Disk
  | sd (letters : Letters)
  | vd (letters : Letters)
  | nvme (controller namespaceId : ℕ)

def Disk.name : Disk → String
  | .sd l => "sd" ++ l.text
  | .vd l => "vd" ++ l.text
  | .nvme c n => "nvme" ++ (toString c ++ ("n" ++ toString n))

/-- What a partition's number follows the name of its disk by. -/
def Disk.separator : Disk → String
  | .sd _ | .vd _ => ""
  | .nvme _ _ => "p"

/-- A block device; the I/O of a partition is also its disk's. -/
inductive Device
  | whole (disk : Disk)
  | partition (disk : Disk) (number : ℕ)
  | other (name : String) (unlisted : isDisk name = false)

namespace Device

def name : Device → String
  | .whole d => d.name
  | .partition d n => d.name ++ (d.separator ++ toString n)
  | .other name _ => name

def isWhole : Device → Bool
  | .whole _ => true
  | _ => false

def isPartition : Device → Bool
  | .partition _ _ => true
  | _ => false

end Device

inductive Direction
  | read | write

def Direction.counter : Direction → IoCounter
  | .read => .diskRead
  | .write => .diskWrite

/-- A row of `/proc/diskstats`, in the order of its columns. -/
structure Row where
  major : ℕ
  minor : ℕ
  device : Device
  reads : ℕ
  readsMerged : ℕ
  sectorsRead : UInt64
  readTime : ℕ
  writes : ℕ
  writesMerged : ℕ
  sectorsWritten : UInt64
  rest : List ℕ

namespace Row

variable (r : Row)

def words : List String :=
  [toString r.major,toString r.minor,r.device.name,toString r.reads,toString r.readsMerged,
    toString r.sectorsRead.toNat,toString r.readTime,toString r.writes,toString r.writesMerged,
    toString r.sectorsWritten.toNat] ++ r.rest.map toString

def sectors : Direction → UInt64
  | .read => r.sectorsRead
  | .write => r.sectorsWritten

def bytes (d : Direction) : ℕ := (r.sectors d).toNat * 512

end Row

def ShownBy (rows : List Row) (m : Moment) : Prop :=
  m.diskstats.failure = none ∧
    List.Forall₂ (fun line row => splitWhitespace line = row.words) (lines m.diskstats.text) rows

def wholes (rows : List Row) : List Row := rows.filter (·.device.isWhole)

def partitions (rows : List Row) : List Row := rows.filter (·.device.isPartition)

/-- Two tables that differ in rows of partitions only. -/
structure Tables where
  one : Moment
  other : Moment
  rows : List Row
  otherRows : List Row
  shown : ShownBy rows one ∧ ShownBy otherRows other
  same : (rows.filter fun r => !r.device.isPartition) =
    otherRows.filter fun r => !r.device.isPartition

namespace Tables

variable (t : Tables)

/-- Both tables give the bytes of the whole disks. -/
def CountsOnce : Prop :=
  ∃ s s', readIoStats t.one = some s ∧ readIoStats t.other = some s' ∧ ∀ d : Direction,
    (d.counter.sampled s).toNat = addUp (fun r => r.bytes d) (wholes t.rows) ∧
      d.counter.sampled s' = d.counter.sampled s

def Fits : Prop :=
  ∀ d : Direction, addUp (fun r => r.bytes d) (wholes t.rows) < 18446744073709551616

/-- The bytes of the partitions of a table come to nothing in 64 bits. -/
def Vanish (rows : List Row) : Prop :=
  ∀ d : Direction, 18446744073709551616 ∣ addUp (fun r => r.bytes d) (partitions rows)

end Tables

section Rows

theorem isDisk_disk (d : Disk) (rest : String) : isDisk (d.name ++ rest) = true := by
  cases d <;> simp [isDisk,Disk.name,String.append_assoc,startsWith_append]

theorem isDisk_device (d : Device) : isDisk d.name = (d.isWhole || d.isPartition) := by
  cases d with
  | whole d => simpa [Device.name,Device.isWhole] using isDisk_disk d ""
  | partition d n => simpa [Device.name,Device.isPartition] using isDisk_disk d (d.separator ++ toString n)
  | other name h => simpa [Device.name,Device.isWhole,Device.isPartition] using h

theorem bytes_shown (d : Direction) {line : String} {r : Row} (h : splitWhitespace line = r.words) :
    d.counter.bytes line = if r.device.isWhole || r.device.isPartition then r.bytes d else 0 := by
  have hname : (splitWhitespace line).getD 2 "" = r.device.name := by
    rw [h]
    rfl
  have hlength : 9 < (splitWhitespace line).length := by
    rw [h]
    simp [Row.words]
  have hrow : d.counter.isRow line = (r.device.isWhole || r.device.isPartition) := by
    cases d <;> simp only [Direction.counter,IoCounter.isRow,hname,isDisk_device,hlength,
      decide_true,Bool.true_and]
  have hnumber : number (splitWhitespace line) d.counter.column = r.sectors d := by
    cases d <;> exact number_toString (by rw [h]; rfl)
  have hunit : d.counter.unit = 512 := by cases d <;> rfl
  rw [IoCounter.bytes,hrow,hnumber,hunit,Row.bytes]

theorem isPartition_of_isWhole {d : Device} (h : d.isWhole = true) : d.isPartition = false := by
  cases d with
  | whole _ => rfl
  | partition _ _ => simp [Device.isWhole] at h
  | other _ _ => rfl

theorem addUp_rows (d : Direction) (rows : List Row) :
    addUp (fun r => if r.device.isWhole || r.device.isPartition then r.bytes d else 0) rows =
      addUp (fun r => r.bytes d) (wholes rows) + addUp (fun r => r.bytes d) (partitions rows) := by
  induction rows with
  | nil => rfl
  | cons r rows ih =>
    unfold wholes partitions at ih ⊢
    cases hwhole : r.device.isWhole with
    | true =>
      have hpartition := isPartition_of_isWhole hwhole
      simp only [addUp,ih,List.filter_cons,hwhole,hpartition]
      simp [addUp,Nat.add_assoc]
    | false =>
      cases hpartition : r.device.isPartition with
      | true =>
        simp only [addUp,ih,List.filter_cons,hwhole,hpartition]
        simp [addUp,Nat.add_left_comm]
      | false =>
        simp only [addUp,ih,List.filter_cons,hwhole,hpartition]
        simp

/-- A sample holds the bytes of disks and partitions together, as far as 64 bits go. -/
theorem readIoStats_shown {rows : List Row} {m : Moment} (h : ShownBy rows m) :
    ∃ s, readIoStats m = some s ∧ ∀ d : Direction, (d.counter.sampled s).toNat =
      (addUp (fun r => r.bytes d) (wholes rows) + addUp (fun r => r.bytes d) (partitions rows)) %
        modulus := by
  obtain ⟨s,hs,hsampled⟩ := readIoStats_sampled m
  refine ⟨s,hs,fun d => ?_⟩
  rw [← addUp_rows]
  refine sampled_shown (hsampled _) ?_ ?_ fun _ _ hwords => bytes_shown d hwords
  · cases d <;> exact h.1
  · cases d <;> exact h.2

theorem wholes_of_same {rows rows' : List Row} (h : (rows.filter fun r => !r.device.isPartition) =
    rows'.filter fun r => !r.device.isPartition) : wholes rows = wholes rows' := by
  have hfilter (rows : List Row) : wholes rows =
      (rows.filter fun r => !r.device.isPartition).filter (·.device.isWhole) := by
    rw [List.filter_filter,wholes]
    apply List.filter_congr
    intro r _
    cases hwhole : r.device.isWhole with
    | true => simp [isPartition_of_isWhole hwhole]
    | false => rfl
  rw [hfilter,hfilter,h]

end Rows

theorem add_mod_eq_iff {a b m : ℕ} (hm : 0 < m) : (a + b) % m = a ↔ a < m ∧ m ∣ b := by
  constructor
  · intro h
    have ha : a < m := h ▸ Nat.mod_lt _ hm
    refine ⟨ha,Nat.dvd_of_mod_eq_zero ?_⟩
    have hmod : (a + b) ≡ a + 0 [MOD m] := by
      unfold Nat.ModEq
      rw [h,Nat.add_zero,Nat.mod_eq_of_lt ha]
    exact Nat.ModEq.add_left_cancel' a hmod
  · rintro ⟨ha,c,rfl⟩
    rw [Nat.add_mul_mod_self_left,Nat.mod_eq_of_lt ha]

/-- For bytes that fit 64 bits, the partitions vanish only where each of them is idle. -/
theorem vanish_iff {rows : List Row}
    (hfits : ∀ d : Direction, addUp (fun r => r.bytes d) (partitions rows) < 18446744073709551616) :
    Tables.Vanish rows ↔ ∀ r ∈ partitions rows, r.sectorsRead = 0 ∧ r.sectorsWritten = 0 := by
  have hzero (d : Direction) : (18446744073709551616 ∣ addUp (fun r => r.bytes d) (partitions rows)) ↔
      ∀ r ∈ partitions rows, r.sectors d = 0 := by
    rw [Nat.dvd_iff_mod_eq_zero,Nat.mod_eq_of_lt (hfits d),addUp_eq_zero]
    simp [Row.bytes,← UInt64.toNat_inj]
  unfold Tables.Vanish
  constructor
  · intro h r hr
    exact ⟨(hzero .read).mp (h .read) r hr,(hzero .write).mp (h .write) r hr⟩
  · intro h d
    apply (hzero d).mpr
    intro r hr
    cases d with
    | read => exact (h r hr).1
    | write => exact (h r hr).2

/-- The totals are those of the whole disks, whatever partitions are listed, exactly when they
fit 64 bits and the partitions' own bytes come to nothing there. -/
theorem countsOnce_iff (t : Tables) :
    t.CountsOnce ↔ t.Fits ∧ Tables.Vanish t.rows ∧ Tables.Vanish t.otherRows := by
  obtain ⟨s,hs,hsampled⟩ := readIoStats_shown t.shown.1
  obtain ⟨s',hs',hsampled'⟩ := readIoStats_shown t.shown.2
  rw [← wholes_of_same t.same] at hsampled'
  have hpos : 0 < modulus := by decide
  have hone (d : Direction) := add_mod_eq_iff (a := addUp (fun r => r.bytes d) (wholes t.rows))
    (b := addUp (fun r => r.bytes d) (partitions t.rows)) hpos
  have hother (d : Direction) := add_mod_eq_iff (a := addUp (fun r => r.bytes d) (wholes t.rows))
    (b := addUp (fun r => r.bytes d) (partitions t.otherRows)) hpos
  constructor
  · rintro ⟨_,_,h,h',hcounts⟩
    rw [hs] at h
    rw [hs'] at h'
    cases h
    cases h'
    have hsum (d : Direction) := (hone d).mp ((hsampled d).symm.trans (hcounts d).1)
    have hsum' (d : Direction) := (hother d).mp
      ((hsampled' d).symm.trans ((congrArg UInt64.toNat (hcounts d).2).trans (hcounts d).1))
    exact ⟨fun d => (hsum d).1,fun d => (hsum d).2,fun d => (hsum' d).2⟩
  · rintro ⟨hfits,hvanish,hvanish'⟩
    refine ⟨s,s',hs,hs',fun d => ?_⟩
    have hcounts := (hsampled d).trans ((hone d).mpr ⟨hfits d,hvanish d⟩)
    have hcounts' := (hsampled' d).trans ((hother d).mpr ⟨hfits d,hvanish' d⟩)
    exact ⟨hcounts,UInt64.toNat_inj.mp (hcounts'.trans hcounts.symm)⟩

def sda : Disk := .sd ⟨"a",by decide,by decide⟩

def eightRead (minor : ℕ) (device : Device) : Row where
  major := 8
  minor := minor
  device := device
  reads := 1
  readsMerged := 0
  sectorsRead := 8
  readTime := 1
  writes := 0
  writesMerged := 0
  sectorsWritten := 0
  rest := [0]

def withDiskstats (text : String) : Moment := ⟨⟨"",none⟩,⟨"",none⟩,⟨text,none⟩,0⟩

/-- A disk with its partition, through which everything was read, and the disk alone. -/
def partitioned : Tables where
  one := withDiskstats "   8  0 sda 1 0 8 1 0 0 0 0\n   8  1 sda1 1 0 8 1 0 0 0 0\n"
  other := withDiskstats "   8  0 sda 1 0 8 1 0 0 0 0\n"
  rows := [eightRead 0 (.whole sda),eightRead 1 (.partition sda 1)]
  otherRows := [eightRead 0 (.whole sda)]
  shown := by
    have hone : lines "   8  0 sda 1 0 8 1 0 0 0 0\n   8  1 sda1 1 0 8 1 0 0 0 0\n" =
        ["   8  0 sda 1 0 8 1 0 0 0 0","   8  1 sda1 1 0 8 1 0 0 0 0"] := by decide
    have hother : lines "   8  0 sda 1 0 8 1 0 0 0 0\n" = ["   8  0 sda 1 0 8 1 0 0 0 0"] := by decide
    refine ⟨⟨rfl,?_⟩,⟨rfl,?_⟩⟩
    · rw [withDiskstats,hone]
      exact .cons (by decide) (.cons (by decide) .nil)
    · rw [withDiskstats,hother]
      exact .cons (by decide) .nil
  same := by simp [eightRead,Device.isPartition]

theorem partitioned_doubled :
    (∃ s, readIoStats partitioned.one = some s ∧ s.diskRead = 2 * (8 * 512)) ∧
      ¬∀ t : Tables, t.CountsOnce := by
  have hread (s : IOMetrics) (hs : readIoStats partitioned.one = some s) : s.diskRead = 2 * (8 * 512) := by
    cases hs
    decide
  refine ⟨⟨_,rfl,hread _ rfl⟩,fun h => ?_⟩
  obtain ⟨s,s',hs,hs',hcounts⟩ := h partitioned
  have honce : s.diskRead.toNat = 8 * 512 := (hcounts .read).1
  rw [hread s hs] at honce
  exact absurd honce (by decide)

end DiskTotals
end KvmAgent
