import Mathlib.Data.List.Forall2
import Mathlib.Data.List.Perm.Basic
import KvmAgent.TelemetryCounters

/-! The network deltas of a snapshot while interfaces come and go between two samples of
`/proc/net/dev`. -/
namespace KvmAgent
namespace InterfaceChurn

open RustText Telemetry TelemetryCounters

inductive Direction
  | rx | tx

def Direction.counter : Direction → IoCounter
  | .rx => .netRx
  | .tx => .netTx

/-- A row of `/proc/net/dev`, in the order of its columns. -/
structure Row where
  name : String
  rxBytes : UInt64
  rxPackets : ℕ
  rxErrors : ℕ
  rxDropped : ℕ
  rxFifo : ℕ
  rxFrame : ℕ
  rxCompressed : ℕ
  multicast : ℕ
  txBytes : UInt64
  rest : List ℕ

namespace Row

variable (r : Row)

def words : List String :=
  [r.name ++ ":",toString r.rxBytes.toNat,toString r.rxPackets,toString r.rxErrors,
    toString r.rxDropped,toString r.rxFifo,toString r.rxFrame,toString r.rxCompressed,
    toString r.multicast,toString r.txBytes.toNat] ++ r.rest.map toString

def bytes : Direction → ℕ
  | .rx => r.rxBytes.toNat
  | .tx => r.txBytes.toNat

end Row

structure Table where
  rows : List Row
  distinct : (rows.map Row.name).Nodup

namespace Table

variable (t : Table)

def names : List String := t.rows.map Row.name

def bytes (d : Direction) (name : String) : ℕ :=
  ((t.rows.find? fun r => r.name = name).map (·.bytes d)).getD 0

def total (d : Direction) : ℕ := addUp (·.bytes d) t.rows

/-- `/proc/net/dev` can be read and shows the table below its two lines of heading. -/
def ShownBy (m : Moment) : Prop :=
  m.netDev.failure = none ∧
    List.Forall₂ (fun line row => splitWhitespace line = row.words)
      ((lines m.netDev.text).drop 2) t.rows

end Table

/-- Two samples; the counters of an interface that is in both do not decrease. -/
structure Samples where
  earlier : Moment
  later : Moment
  before : Table
  after : Table
  shown : before.ShownBy earlier ∧ after.ShownBy later
  nondecreasing : ∀ d, ∀ name ∈ before.names, name ∈ after.names →
    before.bytes d name ≤ after.bytes d name

namespace Samples

variable (x : Samples) (d : Direction)

/-- What the interfaces present in both samples have counted in between. -/
def gained : ℕ :=
  addUp (fun name => x.after.bytes d name - x.before.bytes d name)
    (x.before.names.filter (· ∈ x.after.names))

def gone : ℕ := addUp (x.before.bytes d) (x.before.names.filter fun name => !(name ∈ x.after.names))

def appeared : ℕ :=
  addUp (x.after.bytes d) (x.after.names.filter fun name => !(name ∈ x.before.names))

/-- Whatever came before the two samples, the deltas of the second one hold the traffic of
every interface that is in both. -/
def ShowsTraffic : Prop :=
  ∀ last : Baselines, ∃ deltas,
    (buildSnapshot x.later (buildSnapshot x.earlier last).2).1.io = some deltas ∧
      ∀ d : Direction, x.gained d ≤ (d.counter.delta deltas).toNat

/-- There is no such traffic, or the new interfaces make up for those that are gone; a sum
of counters that wraps lacks `2 ^ 64`. -/
def MadeUp : Prop :=
  ∀ d : Direction, x.gained d = 0 ∨
    x.gone d + 18446744073709551616 * (x.after.total d / 18446744073709551616) ≤
      x.appeared d + 18446744073709551616 * (x.before.total d / 18446744073709551616)

end Samples

section Tables

theorem total_eq (t : Table) (d : Direction) : t.total d = addUp (t.bytes d) t.names := by
  obtain ⟨rows,hdistinct⟩ := t
  unfold Table.total Table.names Table.bytes
  dsimp only
  induction rows with
  | nil => rfl
  | cons r rows ih =>
    simp only [List.map_cons,List.nodup_cons] at hdistinct
    have hrest : addUp (fun name => (((r::rows).find? fun s => s.name = name).map (·.bytes d)).getD 0)
        (rows.map Row.name) = addUp (fun name =>
          ((rows.find? fun s => s.name = name).map (·.bytes d)).getD 0) (rows.map Row.name) := by
      apply addUp_congr
      intro name hname
      have hne : r.name ≠ name := by
        rintro rfl
        exact hdistinct.1 hname
      simp [hne]
    rw [List.map_cons,addUp,addUp,ih hdistinct.2,hrest]
    simp

theorem bytes_shown (d : Direction) {line : String} {r : Row} (h : splitWhitespace line = r.words) :
    d.counter.bytes line = r.bytes d := by
  have hlength : 9 < (splitWhitespace line).length := by
    rw [h]
    simp [Row.words]
  have hrow : d.counter.isRow line = true := by
    cases d <;> simpa only [Direction.counter,IoCounter.isRow,decide_eq_true_eq] using hlength
  have hunit : d.counter.unit = 1 := by cases d <;> rfl
  have hnumber : (number (splitWhitespace line) d.counter.column).toNat = r.bytes d := by
    cases d with
    | rx => exact congrArg UInt64.toNat (number_toString (n := r.rxBytes) (by rw [h]; rfl))
    | tx => exact congrArg UInt64.toNat (number_toString (n := r.txBytes) (by rw [h]; rfl))
  rw [IoCounter.bytes,if_pos hrow,hnumber,hunit,Nat.mul_one]

/-- A sample holds the sums of the counters, as far as 64 bits go. -/
theorem readIoStats_shown {t : Table} {m : Moment} (h : t.ShownBy m) :
    ∃ s, readIoStats m = some s ∧
      ∀ d : Direction, (d.counter.sampled s).toNat = t.total d % modulus := by
  obtain ⟨s,hs,hsampled⟩ := readIoStats_sampled m
  refine ⟨s,hs,fun d => sampled_shown (hsampled _) ?_ ?_ fun _ _ hwords => bytes_shown d hwords⟩
  · cases d <;> exact h.1
  · cases d <;> exact h.2

end Tables

namespace Samples

variable (x : Samples) (d : Direction)

theorem total_after :
    x.after.total d + x.gone d = x.before.total d + x.appeared d + x.gained d := by
  have hbefore := addUp_filter (x.before.bytes d) (fun name => decide (name ∈ x.after.names))
    x.before.names
  have hafter := addUp_filter (x.after.bytes d) (fun name => decide (name ∈ x.before.names))
    x.after.names
  have hcommon : addUp (x.after.bytes d) (x.after.names.filter (· ∈ x.before.names)) =
      addUp (x.after.bytes d) (x.before.names.filter (· ∈ x.after.names)) := by
    apply addUp_perm
    have hnodup := x.before.distinct.filter (· ∈ x.after.names)
    have hnodup' := x.after.distinct.filter (· ∈ x.before.names)
    apply (List.perm_ext_iff_of_nodup hnodup' hnodup).mpr
    intro name
    simp only [List.mem_filter,decide_eq_true_eq]
    exact And.comm
  have hgained : addUp (x.after.bytes d) (x.before.names.filter (· ∈ x.after.names)) =
      addUp (x.before.bytes d) (x.before.names.filter (· ∈ x.after.names)) + x.gained d := by
    unfold gained
    rw [← addUp_add]
    apply addUp_congr
    intro name hname
    simp only [List.mem_filter,decide_eq_true_eq] at hname
    have hle := x.nondecreasing d name hname.1 hname.2
    omega
  rw [total_eq,total_eq,hbefore,hafter,hcommon,hgained]
  unfold gone appeared
  omega

end Samples

/-- The deltas hold all the traffic of the interfaces that stay exactly when there is none or
the new interfaces make up for those that are gone. -/
theorem showsTraffic_iff (x : Samples) : x.ShowsTraffic ↔ x.MadeUp := by
  obtain ⟨prev,hprev,hprevSampled⟩ := readIoStats_shown x.shown.1
  obtain ⟨curr,hcurr,hcurrSampled⟩ := readIoStats_shown x.shown.2
  have hio (last : Baselines) :
      (buildSnapshot x.later (buildSnapshot x.earlier last).2).1.io = some (ioDeltas prev curr) := by
    simp only [buildSnapshot,hprev,hcurr]
  have hdirection (d : Direction) : x.gained d ≤ (d.counter.delta (ioDeltas prev curr)).toNat ↔
      x.gained d = 0 ∨
        x.gone d + 18446744073709551616 * (x.after.total d / 18446744073709551616) ≤
          x.appeared d + 18446744073709551616 * (x.before.total d / 18446744073709551616) := by
    have htotal := x.total_after d
    rw [delta_ioDeltas,hprevSampled,hcurrSampled,modulus]
    omega
  unfold Samples.ShowsTraffic Samples.MadeUp
  constructor
  · intro h d
    obtain ⟨deltas,hdeltas,hgained⟩ := h ⟨none,none⟩
    rw [hio] at hdeltas
    cases hdeltas
    exact (hdirection d).mp (hgained d)
  · intro h last
    exact ⟨_,hio last,fun d => (hdirection d).mpr (h d)⟩

def row (name : String) (rxBytes : UInt64) : Row where
  name := name
  rxBytes := rxBytes
  rxPackets := 0
  rxErrors := 0
  rxDropped := 0
  rxFifo := 0
  rxFrame := 0
  rxCompressed := 0
  multicast := 0
  txBytes := 0
  rest := []

def withNetDev (rows : String) : Moment :=
  ⟨⟨"",none⟩,⟨"Inter-|\n face |\n" ++ rows,none⟩,⟨"",none⟩,0⟩

/-- The tap of a machine goes away while traffic arrives on another interface. -/
def tapGone : Samples where
  earlier := withNetDev "  eth0: 100 0 0 0 0 0 0 0 0\n  vnet0: 900 0 0 0 0 0 0 0 0\n"
  later := withNetDev "  eth0: 600 0 0 0 0 0 0 0 0\n"
  before := ⟨[row "eth0" 100,row "vnet0" 900],by decide⟩
  after := ⟨[row "eth0" 600],by decide⟩
  shown := by
    have hearlier : (lines (withNetDev
        "  eth0: 100 0 0 0 0 0 0 0 0\n  vnet0: 900 0 0 0 0 0 0 0 0\n").netDev.text).drop 2 =
        ["  eth0: 100 0 0 0 0 0 0 0 0","  vnet0: 900 0 0 0 0 0 0 0 0"] := by decide
    have hlater : (lines (withNetDev "  eth0: 600 0 0 0 0 0 0 0 0\n").netDev.text).drop 2 =
        ["  eth0: 600 0 0 0 0 0 0 0 0"] := by decide
    refine ⟨⟨rfl,?_⟩,⟨rfl,?_⟩⟩
    · rw [hearlier]
      exact .cons (by decide) (.cons (by decide) .nil)
    · rw [hlater]
      exact .cons (by decide) .nil
  nondecreasing d name := by
    simp only [Table.names,row,List.map_cons,List.map_nil,List.mem_cons,List.not_mem_nil,or_false]
    rintro - rfl
    cases d <;> decide

theorem tapGone_hides :
    (∃ deltas, (buildSnapshot tapGone.later (buildSnapshot tapGone.earlier ⟨none,none⟩).2).1.io =
      some deltas ∧ deltas.netRx = 0) ∧ tapGone.gained .rx = 500 ∧
        ¬∀ x : Samples, x.ShowsTraffic := by
  have hgained : tapGone.gained .rx = 500 := by decide
  have hzero : ∀ deltas, (buildSnapshot tapGone.later (buildSnapshot tapGone.earlier
      ⟨none,none⟩).2).1.io = some deltas → deltas.netRx = 0 := by
    intro deltas hdeltas
    cases hdeltas
    decide
  refine ⟨⟨_,rfl,hzero _ rfl⟩,hgained,fun h => ?_⟩
  obtain ⟨deltas,hdeltas,hle⟩ := h tapGone ⟨none,none⟩
  have hrx : 500 ≤ deltas.netRx.toNat := hgained ▸ hle .rx
  rw [hzero deltas hdeltas] at hrx
  exact absurd hrx (by decide)

end InterfaceChurn
end KvmAgent
