import Mathlib.Data.Int.Order.Basic

/-! Durations and the wall clock, counted in nanoseconds. -/
namespace KvmAgent

/-- `std::time::Duration`. -/
abbrev Duration := ℕ

namespace Duration

def fromSecs (n : ℕ) : Duration := n * 1000000000
def fromMillis (n : ℕ) : Duration := n * 1000000
def asSecs (d : Duration) : ℕ := d / 1000000000
def asMillis (d : Duration) : ℕ := d / 1000000
def asMillisU64 (d : Duration) : UInt64 := UInt64.ofNat (asMillis d)
def subsecMillis (d : Duration) : ℕ := d % 1000000000 / 1000000
def subsecNanos (d : Duration) : ℕ := d % 1000000000

/-- The end of the range of a `Duration`: its seconds are 64 bits wide. -/
def limit : ℕ := 18446744073709551616 * 1000000000

end Duration

/-- `std::time::SystemTime`, relative to the Unix epoch. -/
abbrev SystemTime := ℤ

namespace SystemTime

/-- The end of the range a `SystemTime` with 64-bit seconds can hold. -/
def limit : ℤ := 9223372036854775808 * 1000000000

/-- `duration_since(UNIX_EPOCH).unwrap_or_default()`. -/
def sinceEpoch (t : SystemTime) : Duration := t.toNat

/-- `t + d`, which panics past the range. -/
def add (t : SystemTime) (d : Duration) : Option SystemTime :=
  if t + d < limit then some (t + d) else none

def unixNow (t : SystemTime) : ℤ := t.sinceEpoch.asSecs

end SystemTime

structure Timestamp where
  seconds : ℤ
  nanos : ℤ
  deriving DecidableEq

def systemTimeToTimestamp (t : SystemTime) : Timestamp :=
  ⟨t.sinceEpoch.asSecs,t.sinceEpoch.subsecNanos⟩

end KvmAgent
