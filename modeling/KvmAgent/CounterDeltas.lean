import Mathlib.Data.List.Basic
import Mathlib.Order.Nat

/-! A counter that never decreases, watched through readings some of which fail: what the
differences between each reading and the one before it add up to. The counter is read
modulo `m`, and a failed reading stands for zero. -/
namespace KvmAgent

/-- The counter's value at a moment, and whether it could be read then. -/
structure Reading where
  value : ℕ
  readable : Bool

namespace Reading

variable (m : ℕ)

def sample (r : Reading) : ℕ := if r.readable then r.value % m else 0

/-- The sum of the differences over some readings; `base` is the sample before them. -/
def counted (base : ℕ) : List Reading → ℕ
  | [] => 0
  | r::rs => (r.sample m - base) + counted (r.sample m) rs

def latest (value : ℕ) : List Reading → ℕ
  | [] => value
  | r::rs => latest r.value rs

/-- Where a reading succeeds after one that failed, the counter was zero when it was last
`known`: at the last reading that succeeded, or at the start. -/
def Anchored (known : ℕ) (readable : Bool) : List Reading → Prop
  | [] => True
  | r::rs => (r.readable = true → readable = false → known = 0) ∧
      Anchored (if r.readable then r.value else known) r.readable rs

def Rising (value : ℕ) : List Reading → Prop
  | [] => True
  | r::rs => value ≤ r.value ∧ Rising r.value rs

variable {m}

theorem mod_sub_mod_le {a b : ℕ} (h : a ≤ b) : b % m - a % m ≤ b - a := by
  have hb : b % m ≤ (b - a) + a % m := by
    obtain ⟨d,rfl⟩ := Nat.exists_eq_add_of_le h
    calc (a + d) % m = (a % m + d) % m := (Nat.mod_add_mod a m d).symm
      _ ≤ a % m + d := Nat.mod_le _ _
      _ = (a + d - a) + a % m := by omega
  omega

theorem anchored_append {known : ℕ} {readable : Bool} {earlier later : List Reading}
    (h : Anchored known readable (earlier ++ later)) : Anchored known readable earlier := by
  induction earlier generalizing known readable with
  | nil => trivial
  | cons r earlier ih => exact ⟨h.1,ih h.2⟩

theorem rising_append {value : ℕ} {earlier later : List Reading}
    (h : Rising value (earlier ++ later)) : Rising value earlier := by
  induction earlier generalizing value with
  | nil => trivial
  | cons r earlier ih => exact ⟨h.1,ih h.2⟩

theorem le_latest {value : ℕ} {rs : List Reading} (h : Rising value rs) : value ≤ latest value rs := by
  induction rs generalizing value with
  | nil => exact Nat.le_refl _
  | cons r rs ih => exact h.1.trans (ih h.2)

/-- What was counted so far is within what the counter has gained since `start`, and the
next readings keep it so. -/
theorem counted_le {start known value sum base : ℕ} {readable : Bool} {rs : List Reading}
    (hanchored : Anchored known readable rs) (hrising : Rising value rs) (hknown : known ≤ value)
    (hbase : base = if readable then known % m else 0) (hsum : sum + start ≤ known) :
    sum + counted m base rs + start ≤ latest value rs := by
  induction rs generalizing known value sum base readable with
  | nil => simpa [counted,latest] using hsum.trans hknown
  | cons r rs ih =>
    obtain ⟨hzero,hanchored⟩ := hanchored
    obtain ⟨hvalue,hrising⟩ := hrising
    have hnext : (sum + (r.sample m - base)) + counted m (r.sample m) rs + start ≤
        latest r.value rs := by
      cases hr : r.readable with
      | false =>
        have hsample : r.sample m = 0 := by simp [sample,hr]
        rw [hsample]
        simp only [hr] at hanchored
        apply ih hanchored hrising (hknown.trans hvalue) rfl
        simpa using hsum
      | true =>
        have hsample : r.sample m = r.value % m := by simp [sample,hr]
        rw [hsample]
        simp only [hr] at hanchored
        apply ih hanchored hrising (Nat.le_refl _) rfl
        cases hlast : readable with
        | false =>
          have hnone : known = 0 := hzero hr hlast
          have hmod : r.value % m ≤ r.value := Nat.mod_le _ _
          simp only [hlast] at hbase
          simp only [if_true]
          omega
        | true =>
          have hdelta : r.value % m - known % m ≤ r.value - known :=
            mod_sub_mod_le (hknown.trans hvalue)
          simp only [hlast,if_true] at hbase
          simp only [if_true]
          omega
    simpa [counted,latest,Nat.add_assoc] using hnext

/-- While the values stay below `m`, only anchored readings keep within what the counter
has gained. -/
theorem anchored_of_counted_le {start known value sum base : ℕ} {readable : Bool}
    {rs : List Reading} (hrising : Rising value rs) (hfits : ∀ r ∈ rs, r.value < m)
    (hknown : known ≤ value) (hbase : base = if readable then known else 0)
    (hsum : sum + start = known)
    (hcounted : ∀ earlier later, rs = earlier ++ later →
      sum + counted m base earlier + start ≤ latest value earlier) :
    Anchored known readable rs := by
  induction rs generalizing known value sum base readable with
  | nil => trivial
  | cons r rs ih =>
    obtain ⟨hvalue,hrising⟩ := hrising
    have hfirst : sum + (r.sample m - base) + start ≤ r.value := by
      simpa [counted,latest] using hcounted [r] rs rfl
    have hrest : ∀ earlier later, rs = earlier ++ later →
        (sum + (r.sample m - base)) + counted m (r.sample m) earlier + start ≤
          latest r.value earlier := by
      rintro earlier later rfl
      simpa [counted,latest,Nat.add_assoc] using hcounted (r::earlier) later rfl
    have hmod : r.value % m = r.value := Nat.mod_eq_of_lt (hfits r (by simp))
    have hfits' : ∀ r ∈ rs, r.value < m := fun s hs => hfits s (by simp [hs])
    cases hr : r.readable with
    | false =>
      have hsample : r.sample m = 0 := by simp [sample,hr]
      rw [hsample] at hrest
      refine ⟨by simp [hr],?_⟩
      simp only [hr]
      apply ih hrising hfits' (hknown.trans hvalue) rfl _ hrest
      simpa using hsum
    | true =>
      have hsample : r.sample m = r.value := by simp [sample,hr,hmod]
      rw [hsample] at hfirst hrest
      have hzero : readable = false → known = 0 := by
        intro hlast
        simp only [hlast] at hbase
        simp at hbase
        omega
      refine ⟨fun _ => hzero,?_⟩
      simp only [hr,if_true]
      apply ih hrising hfits' (Nat.le_refl _) rfl _ hrest
      cases hlast : readable with
      | false =>
        have hnone := hzero hlast
        simp only [hlast] at hbase
        simp at hbase
        omega
      | true =>
        simp only [hlast,if_true] at hbase
        omega

/-- The sum of the differences when a failed reading leaves no sample behind. -/
def kept (m : ℕ) : Option ℕ → List Reading → ℕ
  | _, [] => 0
  | base, r::rs =>
    (match base with
      | some b => if r.readable then r.value % m - b else 0
      | none => 0) + kept m (if r.readable then some (r.value % m) else none) rs

theorem kept_le {value : ℕ} {base : Option ℕ} {rs : List Reading} (hrising : Rising value rs)
    (hbase : ∀ b ∈ base, b = value % m) : kept m base rs + value ≤ latest value rs := by
  induction rs generalizing value base with
  | nil => simp [kept,latest]
  | cons r rs ih =>
    obtain ⟨hvalue,hrising⟩ := hrising
    have hrest : kept m (if r.readable then some (r.value % m) else none) rs + r.value ≤
        latest r.value rs := by
      apply ih hrising
      intro b hb
      cases hr : r.readable <;> simp [hr] at hb
      exact hb.symm
    have hmod : r.value % m - value % m ≤ r.value - value := mod_sub_mod_le hvalue
    cases base with
    | none =>
      simp only [kept,latest]
      omega
    | some b =>
      obtain rfl := hbase b rfl
      simp only [kept,latest]
      cases hr : r.readable <;> simp only [hr,if_true] at hrest ⊢
      · simp only [Bool.false_eq_true,if_false] at hrest ⊢
        omega
      · omega

end Reading
end KvmAgent
