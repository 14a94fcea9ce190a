import KvmAgent.Binary64Arithmetic

/-! Ranges of 64-bit floats: rounding a whole number keeps the order, a difference that fits is
exact, and what products, quotients and conversions make of floats that are not negative. -/
namespace KvmAgent
namespace Binary64

open Float.Model Float.Model.UnpackedFloat

section Keys

variable {a b : ExtendedMantissa}

/-- A mantissa with its two residual bits, as one number. -/
def key (em : ExtendedMantissa) : ℕ := 4 * em.mantissa + 2 * em.roundBit.toNat + em.stickyBit.toNat

end Keys

section Monotone

variable {m n : ℕ}

end Monotone

section Differences

variable {x y : Float.Model} {p q : ℚ}

theorem decreaseExponent_value {m : ℕ} {e t : ℤ} (h : t ≤ e) :
    ((decreaseExponent m e t).1 : ℚ) * 2^t = m * 2^e := by
  obtain ⟨k,rfl⟩ := exists_sub h
  have hk : (e - (e - (k : ℤ))).toNat = k := by omega
  rw [mul_pow_eq m k e,decreaseExponent,hk,Nat.shiftLeft_eq]

theorem sgn_neg (s : Sign) : sgn (-s) = -sgn s := by
  cases s <;> decide +kernel

theorem apply_cast (s : Sign) (m : ℕ) : ((s.apply m : ℤ) : ℚ) = sgn s * m := by
  have h := apply_eq s m 0
  rwa [zpow_zero,mul_one,mul_one] at h

theorem denotes_sub (hx : Denotes x p) (hy : Denotes y q) (h : Representable (p - q)) :
    Denotes (x - y) (p - q) := by
  change Denotes (.pack (UnpackedFloat.sub .binary64 x.unpack y.unpack)) _
  rcases hx.signed with ⟨s,hu,rfl⟩ | ⟨s,m,e,hm,hu,rfl,hc⟩
  all_goals rcases hy.signed with ⟨t,hv,rfl⟩ | ⟨t,M,E,hM,hv,rfl,hC⟩
  all_goals rw [hu,hv]
  · rw [sub_self]
    simp only [UnpackedFloat.sub]
    split <;> exact denotes_zero _
  · have hdenotes := denotes_pack (s := -t) hM hC (unpack_finite hv).2
    rw [apply_eq,sgn_neg,neg_mul] at hdenotes
    rwa [zero_sub]
  · have hdenotes := denotes_pack (s := s) hm hc (unpack_finite hu).2
    rw [apply_eq] at hdenotes
    rwa [sub_zero]
  · have hleft := decreaseExponent_value (m := m) (min_le_left e E)
    have hright := decreaseExponent_value (m := M) (min_le_right e E)
    have hvalue : ((s.apply (decreaseExponent m e (min e E)).1 -
        t.apply (decreaseExponent M E (min e E)).1 : ℤ) : ℚ) * 2^min e E =
          sgn s * (m * 2^e) - sgn t * (M * 2^E) := by
      rw [Int.cast_sub,apply_cast,apply_cast,sub_mul,mul_assoc,mul_assoc,hleft,hright]
    rw [← hvalue] at h ⊢
    exact denotes_normalize h .positive

end Differences

section Ranges

variable {x y : Float.Model} {p q : ℚ}

def NonNeg : UnpackedFloat → Prop
  | .zero _ => True
  | .finite .positive .. => True
  | .infinity .positive => True
  | _ => False

theorem zero_le_iff : (.ofNat 0 : Float.Model) ≤ x ↔ NonNeg x.unpack := by
  have hle : (.ofNat 0 : Float.Model) ≤ x ↔ ((Float.Model.ofNat 0).unpack.compare x.unpack).any (·.isLE) = true :=
    Iff.rfl
  have hzero : (Float.Model.ofNat 0).unpack = .zero .positive := rfl
  rw [hle,hzero]
  cases x.unpack with
  | notANumber => simp [NonNeg,UnpackedFloat.compare]
  | zero s => simp [NonNeg,UnpackedFloat.compare]
  | infinity s => cases s <;> simp [NonNeg,UnpackedFloat.compare]
  | finite s m e hm => cases s <;> simp [NonNeg,UnpackedFloat.compare]

theorem Denotes.nonNeg (h : Denotes x q) (hq : 0 ≤ q) : NonNeg x.unpack := by
  rcases h.cases with ⟨s,hu,-⟩ | ⟨m,e,hm,hu,-,-⟩ | ⟨m,e,hm,-,rfl,-⟩
  · rw [hu]
    trivial
  · rw [hu]
    trivial
  · exact absurd hq (not_le.mpr (neg_lt_zero.mpr (finite_pos hm e)))

theorem round_nonNeg (m : ℕ) (e : ℤ) (a : Accuracy) :
    NonNeg (roundWithAccuracy .binary64 .positive m e a) := by
  unfold roundWithAccuracy
  dsimp only
  split <;> trivial

theorem NonNeg.pack {f : UnpackedFloat} (h : NonNeg f) (hf : Normalized f) :
    NonNeg (Float.Model.pack f).unpack := by
  rw [unpack_pack hf]
  cases f with
  | finite s m e hm =>
    cases s with
    | negative => exact h.elim
    | positive =>
      rw [saturate]
      split <;> trivial
  | _ => exact h

theorem zero_nonNeg (s : Sign) : NonNeg (Float.Model.pack (.zero s)).unpack :=
  (congrArg NonNeg unpack_packedZero).mpr trivial

theorem infinity_nonNeg : NonNeg (Float.Model.pack (.infinity .positive)).unpack :=
  (congrArg NonNeg (unpack_infinity .positive)).mpr trivial

theorem mul_nonNeg (hx : NonNeg x.unpack) (hy : Denotes y q) (hq : 0 < q) : NonNeg (x * y).unpack := by
  change NonNeg (Float.Model.pack (UnpackedFloat.mul .binary64 x.unpack y.unpack)).unpack
  obtain ⟨M,E,hM,hv,-,hC⟩ := hy.positive hq
  cases hu : x.unpack with
  | notANumber => simp [hu,NonNeg] at hx
  | zero s =>
    rw [hv]
    exact zero_nonNeg _
  | infinity s =>
    cases s with
    | negative => simp [hu,NonNeg] at hx
    | positive =>
      rw [hv]
      exact infinity_nonNeg
  | finite s m e hm =>
    cases s with
    | negative => simp [hu,NonNeg] at hx
    | positive =>
      rw [hv]
      have hbits := mul_target hm hM (unpack_finite hu).1 hC
      exact (round_nonNeg _ _ _).pack (normalized_round hbits)

/-- What is finite and not negative stays so when it is divided by what is positive, be that
infinite. -/
theorem div_nonNeg (hx : Denotes x p) (hp : 0 ≤ p) (hy : NonNeg y.unpack) (hne : ∀ s, y.unpack ≠ .zero s) :
    NonNeg (x / y).unpack := by
  change NonNeg (Float.Model.pack (UnpackedFloat.div .binary64 x.unpack y.unpack)).unpack
  have hxpos := hx.nonNeg hp
  cases hv : y.unpack with
  | notANumber => simp [hv,NonNeg] at hy
  | zero s => exact absurd hv (hne s)
  | infinity t =>
    cases hu : x.unpack with
    | notANumber => simp [hu,NonNeg] at hxpos
    | infinity s => simp [Denotes,hu,rat] at hx
    | zero s => exact zero_nonNeg _
    | finite s m e hm => exact zero_nonNeg _
  | finite t M E hM =>
    cases t with
    | negative => simp [hv,NonNeg] at hy
    | positive =>
      cases hu : x.unpack with
      | notANumber => simp [hu,NonNeg] at hxpos
      | infinity s => simp [Denotes,hu,rat] at hx
      | zero s => exact zero_nonNeg _
      | finite s m e hm =>
        cases s with
        | negative => simp [hu,NonNeg] at hxpos
        | positive =>
          obtain ⟨k,u,-,hbits,hcore⟩ := divCore_eq hm hM e E
          simp only [UnpackedFloat.div,hcore]
          exact (round_nonNeg _ _ _).pack (normalized_round hbits)

def Within (q : ℚ) (x : Float.Model) : Prop := NonNeg x.unpack ∧ AtMost q x.unpack

theorem within_iff (hy : Denotes y q) : Within q x ↔ (.ofNat 0 : Float.Model) ≤ x ∧ x ≤ y :=
  and_congr zero_le_iff.symm (le_iff_atMost hy).symm

theorem Denotes.within (h : Denotes x p) (hp : 0 ≤ p) (hle : p ≤ q) : Within q x :=
  ⟨h.nonNeg hp,(le_iff_atMost h).mp ((le_iff h h).mpr le_rfl) |>.mono hle⟩

theorem within_mul (hx : Within p x) (hp : 0 < p) (hy : Denotes y q) (hq : 0 < q)
    (h : Representable (p * q)) : Within (p * q) (x * y) :=
  ⟨mul_nonNeg hx.1 hy hq,mul_atMost hy hq hp h hx.2⟩

theorem Within.denotes (h : Within q x) : ∃ p, Denotes x p ∧ 0 ≤ p ∧ p ≤ q := by
  obtain ⟨hpos,hle⟩ := h
  cases hu : x.unpack with
  | notANumber => simp [hu,NonNeg] at hpos
  | zero s => exact ⟨0,by simp [Denotes,hu,rat],le_rfl,by simpa [hu,AtMost] using hle⟩
  | infinity s => cases s <;> simp [hu,NonNeg,AtMost] at hpos hle
  | finite s m e hm =>
    cases s with
    | negative => simp [hu,NonNeg] at hpos
    | positive =>
      rw [hu] at hle
      refine ⟨m * 2^e,?_,(finite_pos hm e).le,(apply_positive m e).symm.trans_le hle⟩
      simp [Denotes,hu,rat]

theorem within_div (hx : Within (p * q) x) (hp : 0 < p) (h : Representable p) (hy : Denotes y q)
    (hq : 0 < q) : Within p (x / y) := by
  obtain ⟨r,hdenotes,hr,-⟩ := hx.denotes
  obtain ⟨M,E,hM,hv,-,-⟩ := hy.positive hq
  exact ⟨div_nonNeg hdenotes hr (hy.nonNeg hq.le) (by simp [hv]),div_atMost hy hq hp h hx.2⟩

end Ranges
end Binary64
end KvmAgent
