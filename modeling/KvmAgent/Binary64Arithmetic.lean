import KvmAgent.Binary64Rounding

/-! Arithmetic on 64-bit floats: what it gives where the number fits, and that it stays below
a number that fits. -/
namespace KvmAgent
namespace Binary64

open Float.Model Float.Model.UnpackedFloat

/-- A number that has a mantissa of 53 bits and an exponent that fits. -/
def Representable (q : ℚ) : Prop :=
  ∃ (m : ℕ) (e : ℤ), m < 2^53 ∧ -1074 ≤ e ∧ e ≤ 971 ∧ |q| = m * 2^e

section Representable

variable {q : ℚ} {m M : ℕ} {e E : ℤ} {s : Sign}

theorem Representable.canonical (h : Representable q) (hq : q ≠ 0) :
    ∃ M E, 0 < M ∧ Canonical M E ∧ E ≤ 971 ∧ |q| = M * 2^E := by
  obtain ⟨m,e,hupper,hleast,hmost,habs⟩ := h
  have hm : 0 < m := by
    refine Nat.pos_of_ne_zero ?_
    rintro rfl
    exact hq (abs_eq_zero.mp (habs.trans (by simp)))
  obtain ⟨M,E,hc,hM,hle,heq⟩ := exists_canonical hm hupper hleast
  exact ⟨M,E,hM,hc,hle.trans hmost,habs.trans heq⟩

theorem representable_scaled {n : ℤ} (h : |n| ≤ 2^53) {k : ℕ} (hk : k ≤ 1074) :
    Representable (n / 2^k) := by
  have habs : |(n : ℚ) / 2^k| = n.natAbs * 2^(-(k : ℤ)) := by
    rw [abs_div,abs_of_pos (pow_pos (by decide) k : (0 : ℚ) < 2^k),← Int.cast_abs,Int.abs_eq_natAbs,
      zpow_neg,zpow_natCast,div_eq_mul_inv]
    rfl
  rw [Int.abs_eq_natAbs] at h
  rcases h.lt_or_eq with hlt | heq
  · exact ⟨n.natAbs,-k,by omega,by omega,by omega,habs⟩
  · refine ⟨2^52,1 - k,by decide,by omega,by omega,?_⟩
    have hn : n.natAbs = 2^52 * 2 := by omega
    have hpow : (2 : ℚ)^(1 - k : ℤ) = 2 * 2^(-(k : ℤ)) := by
      rw [sub_eq_add_neg,zpow_add₀ (by decide),zpow_one]
    rw [habs,hn,hpow,← mul_assoc]
    norm_cast

theorem representable_int {n : ℤ} (h : |n| ≤ 2^53) : Representable n := by
  have hscaled := representable_scaled h (Nat.zero_le 1074)
  rwa [pow_zero,div_one] at hscaled

theorem denotes_pack (hM : 0 < M) (hc : Canonical M E) (hE : E ≤ 971) :
    Denotes (.pack (.finite s M E hM)) (s.apply M * 2^E) := by
  have hnormalized : Normalized (.finite s M E hM) := by
    rintro _ _ _ _ ⟨⟩
    exact hc
  unfold Denotes
  rw [unpack_pack hnormalized,saturate,if_pos hE,rat]

theorem round_exact (hm : 0 < m) (hM : 0 < M) (hc : Canonical M E) (h : (m : ℚ) * 2^e = M * 2^E) :
    UnpackedFloat.round .binary64 s m e = .finite s M E hM := by
  have htarget := target_eq_of_eq hm hM hc h
  simp only [UnpackedFloat.round,decreaseExponent,targetExponent_eq,htarget,Nat.shiftLeft_eq]
  refine roundWithAccuracy_exact hM hc ?_ (by omega)
  rw [← mul_pow_eq,h]

theorem denotes_zero (s : Sign) : Denotes (.pack (.zero s)) 0 :=
  congrArg rat (unpack_packedZero )

theorem denotes_normalize {n : ℤ} (h : Representable (n * 2^e)) (s : Sign) :
    Denotes (.pack (UnpackedFloat.normalize .binary64 n e s)) (n * 2^e) := by
  have hpos : (0 : ℚ) < 2^e := zpow_pos (by decide) e
  unfold UnpackedFloat.normalize
  rcases lt_trichotomy n 0 with hneg | rfl | hn
  · have hq : (n : ℚ) * 2^e < 0 := mul_neg_of_neg_of_pos (by exact_mod_cast hneg) hpos
    obtain ⟨M,E,hM,hc,hE,habs⟩ := h.canonical hq.ne
    have hm : ((-n).toNat : ℚ) = -n := by exact_mod_cast Int.toNat_of_nonneg (by omega : 0 ≤ -n)
    have hround : UnpackedFloat.round .binary64 .negative (-n).toNat e = .finite .negative M E hM := by
      refine round_exact (by omega) hM hc ?_
      rw [hm,neg_mul,← abs_of_neg hq,habs]
    rw [compare_lt_iff_lt.mpr hneg]
    simp only [hround]
    have hdenotes := denotes_pack (s := .negative) hM hc hE
    rwa [apply_negative,← habs,abs_of_neg hq,neg_neg] at hdenotes
  · rw [compare_eq_iff_eq.mpr rfl,Int.cast_zero,zero_mul]
    exact denotes_zero s
  · have hq : (0 : ℚ) < n * 2^e := mul_pos (by exact_mod_cast hn) hpos
    obtain ⟨M,E,hM,hc,hE,habs⟩ := h.canonical hq.ne'
    have hm : (n.toNat : ℚ) = n := by exact_mod_cast Int.toNat_of_nonneg hn.le
    have hround : UnpackedFloat.round .binary64 .positive n.toNat e = .finite .positive M E hM := by
      refine round_exact (by omega) hM hc ?_
      rw [hm,← abs_of_pos hq,habs]
    rw [compare_gt_iff_gt.mpr hn]
    simp only [hround]
    have hdenotes := denotes_pack (s := .positive) hM hc hE
    rwa [apply_positive,← habs,abs_of_pos hq] at hdenotes

theorem denotes_ofInt {n : ℤ} (h : |n| ≤ 2^53) : Denotes (.ofInt n) n := by
  have hone : (n : ℚ) * 2^(0 : ℤ) = n := by rw [zpow_zero,mul_one]
  have hnormalize := denotes_normalize (e := 0) (hone.symm ▸ representable_int h) .positive
  rwa [hone] at hnormalize

theorem denotes_ofNat {n : ℕ} (h : n ≤ 2^53) : Denotes (.ofNat n) n := by
  have habs : |(n : ℤ)| ≤ 2^53 := by
    rw [abs_of_nonneg (Int.natCast_nonneg n)]
    exact_mod_cast h
  have hint := denotes_ofInt habs
  rwa [Int.cast_natCast] at hint

end Representable

section Signs

variable {x : Float.Model} {q : ℚ} {s t : Sign} {m : ℕ} {e : ℤ}

def sgn : Sign → ℚ
  | .negative => -1
  | .positive => 1

theorem apply_eq (s : Sign) (m : ℕ) (e : ℤ) : ((s.apply m : ℤ) : ℚ) * 2^e = sgn s * (m * 2^e) := by
  cases s with
  | negative => rw [apply_negative,sgn,neg_one_mul]
  | positive => rw [apply_positive,sgn,one_mul]

theorem sgn_mul (s t : Sign) : sgn (s * t) = sgn s * sgn t := by
  cases s <;> cases t <;> decide +kernel

theorem sgn_div (s t : Sign) : sgn (s / t) = sgn s / sgn t := by
  cases s <;> cases t <;> decide +kernel

theorem abs_sgn_mul (s : Sign) (q : ℚ) : |sgn s * q| = |q| := by
  cases s with
  | negative => rw [sgn,neg_one_mul,abs_neg]
  | positive => rw [sgn,one_mul]

theorem Denotes.signed (h : Denotes x q) : (∃ s, x.unpack = .zero s ∧ q = 0) ∨
    ∃ s m e hm, x.unpack = .finite s m e hm ∧ q = sgn s * (m * 2^e) ∧ Canonical m e := by
  rcases h.cases with hzero | ⟨m,e,hm,hu,rfl,hc⟩ | ⟨m,e,hm,hu,rfl,hc⟩
  · exact .inl hzero
  · exact .inr ⟨_,m,e,hm,hu,(one_mul _).symm,hc⟩
  · exact .inr ⟨_,m,e,hm,hu,(neg_one_mul _).symm,hc⟩

theorem denotes_round (hm : 0 < m) (hle : e ≤ target m e) (h : Representable (sgn s * (m * 2^e))) :
    Denotes (.pack (roundWithAccuracy .binary64 s m e .exact)) (sgn s * (m * 2^e)) := by
  have hpos := finite_pos hm e
  have hne : sgn s * ((m : ℚ) * 2^e) ≠ 0 := by
    rw [← abs_ne_zero,abs_sgn_mul]
    exact (abs_pos.mpr hpos.ne').ne'
  obtain ⟨M,E,hM,hc,hE,habs⟩ := h.canonical hne
  rw [abs_sgn_mul,abs_of_pos hpos] at habs
  have htarget := target_eq_of_eq hm hM hc habs
  rw [roundWithAccuracy_exact hM hc habs (htarget ▸ hle),habs,← apply_eq]
  exact denotes_pack hM hc hE

end Signs

section Integers

variable {x : Float.Model} {q : ℚ} {n : ℤ}

theorem Representable.ceil (h : Representable q) : Representable (⌈q⌉ : ℤ) := by
  obtain ⟨m,e,hupper,hleast,hmost,habs⟩ := h
  rcases le_total 0 e with he | he
  · have hnat : |q| = ((m * 2^e.toNat : ℕ) : ℤ) := by
      rw [habs]
      conv_lhs => rw [← Int.toNat_of_nonneg he,zpow_natCast]
      push_cast
      rfl
    have hceil : (⌈q⌉ : ℚ) = q := by
      rcases abs_choice q with hq | hq
      · rw [← hq,hnat,Int.ceil_intCast]
      · have hneg : q = (-((m * 2^e.toNat : ℕ) : ℤ) : ℤ) := by
          rw [Int.cast_neg,← hnat,hq,neg_neg]
        rw [hneg,Int.ceil_intCast]
    rw [hceil]
    exact ⟨m,e,hupper,hleast,hmost,habs⟩
  · have hle : |q| ≤ 2^53 := by
      rw [habs]
      have hpow : (2 : ℚ)^e ≤ 1 := zpow_le_one_of_nonpos₀ (by decide) he
      have hm : (m : ℚ) ≤ 2^53 := by exact_mod_cast hupper.le
      calc (m : ℚ) * 2^e ≤ m * 1 := mul_le_mul_of_nonneg_left hpow (Nat.cast_nonneg m)
        _ ≤ 2^53 := by rwa [mul_one]
    obtain ⟨hlow,hhigh⟩ := abs_le.mp hle
    refine representable_int (abs_le.mpr ⟨?_,Int.ceil_le.mpr (by exact_mod_cast hhigh)⟩)
    exact_mod_cast hlow.trans (Int.le_ceil q)

def ceil (x : Float.Model) : Float.Model :=
  match x.unpack with
  | .finite s m e _ => .pack (UnpackedFloat.normalize .binary64 ⌈(s.apply m : ℚ) * 2^e⌉ 0 s)
  | _ => x

theorem Denotes.representable (h : Denotes x q) : Representable q := by
  rcases h.signed with ⟨s,-,rfl⟩ | ⟨s,m,e,hm,hu,rfl,hc⟩
  · exact ⟨0,0,by decide,by decide,by decide,by simp⟩
  · refine ⟨m,e,hc.upper,hc.least,(unpack_finite hu).2,?_⟩
    rw [abs_sgn_mul,abs_of_pos (finite_pos hm e)]

theorem denotes_ceil (h : Denotes x q) : Denotes (ceil x) (⌈q⌉ : ℤ) := by
  have hrep := h.representable.ceil
  have hone : (⌈q⌉ : ℚ) * 2^(0 : ℤ) = ⌈q⌉ := by rw [zpow_zero,mul_one]
  rcases h.signed with ⟨s,hu,rfl⟩ | ⟨s,m,e,hm,hu,hq,hc⟩
  · have hsame : ceil x = x := by rw [ceil,hu]
    rwa [hsame,Int.ceil_zero,Int.cast_zero]
  · have hceil : ceil x = .pack (UnpackedFloat.normalize .binary64 ⌈q⌉ 0 s) := by
      rw [ceil,hu,hq,← apply_eq]
    have hnormalize := denotes_normalize (e := 0) (hone.symm ▸ hrep) s
    rwa [hone,← hceil] at hnormalize

theorem roundToInt_eq {s : Sign} {m n : ℕ} {e : ℤ} (h : (m : ℚ) * 2^e = n) :
    roundToInt s m e = s.apply n := by
  simp only [roundToInt,decreaseExponent,shiftToExponent,shift_mantissa,
    ofMantissaAndAccuracy_mantissa,Nat.shiftLeft_eq,Int.sub_zero]
  congr 2
  rcases le_total 0 e with he | he
  · have hshift : (0 - (e - (e.toNat : ℤ))).toNat = 0 := by omega
    rw [hshift,pow_zero,Nat.div_one]
    rw [← Int.toNat_of_nonneg he,zpow_natCast] at h
    exact_mod_cast h
  · obtain ⟨k,rfl⟩ := exists_sub he
    have hzero : ((0 : ℤ) - k).toNat = 0 := by omega
    have hshift : (0 - ((0 : ℤ) - k - (0 : ℕ))).toNat = k := by omega
    have hm : m = n * 2^k := eq_mul_pow (E := 0) (by rw [h,zpow_zero,mul_one])
    rw [hzero,hshift,hm,pow_zero,Nat.mul_one]
    exact Nat.mul_div_cancel n (Nat.two_pow_pos k)

theorem toInt_eq (h : Denotes x n) (low high : ℤ) : x.unpack.toInt low high = n := by
  rcases h.cases with ⟨s,hu,hn⟩ | ⟨m,e,hm,hu,hn,-⟩ | ⟨m,e,hm,hu,hn,-⟩
  · rw [hu]
    exact_mod_cast hn.symm
  · have hpos : (0 : ℚ) < n := hn ▸ finite_pos hm e
    have hnat : ((n.toNat : ℕ) : ℤ) = n := Int.toNat_of_nonneg (by exact_mod_cast hpos.le)
    have hround := roundToInt_eq (s := .positive) (n := n.toNat) (hn.symm.trans (by exact_mod_cast hnat.symm))
    rw [hu]
    exact hround.trans hnat
  · rw [eq_comm,neg_eq_iff_eq_neg] at hn
    have hpos : (0 : ℚ) < -n := hn ▸ finite_pos hm e
    have hneg : 0 < -n := by exact_mod_cast hpos
    have hnat : (((-n).toNat : ℕ) : ℤ) = -n := Int.toNat_of_nonneg hneg.le
    have hround := roundToInt_eq (s := .negative) (n := (-n).toNat) (hn.trans (by exact_mod_cast hnat.symm))
    rw [hu]
    exact hround.trans ((congrArg Neg.neg hnat).trans (neg_neg n))

theorem toInt_toInt64 (h : Denotes x n) (hlow : -2^63 ≤ n) (hhigh : n < 2^63) :
    x.toInt64.toInt = n := by
  change (Int64.ofIntClamp (x.unpack.toInt _ _)).toInt = n
  have hmin : Int64.minValue.toInt ≤ n := hlow
  have hmax : n ≤ Int64.maxValue.toInt := Int.le_of_lt_add_one hhigh
  rw [toInt_eq h,Int64.ofIntClamp,dif_pos hmin,dif_pos hmax]
  exact Int64.toInt_ofIntLE

end Integers

section Products

variable {x y : Float.Model} {p q : ℚ} {m M : ℕ} {e E : ℤ}

theorem mul_target (hm : 0 < m) (hM : 0 < M) (hc : Canonical m e) (hC : Canonical M E) :
    e + E ≤ target (m * M) (e + E) := by
  have hpos : 0 < m * M := Nat.mul_pos hm hM
  have hfull : 2^52 ≤ m * M ∨ e + E ≤ -1074 := by
    rcases hc.full with hfull | hmin
    · exact .inl (hfull.trans (Nat.le_mul_of_pos_right m hM))
    · rcases hC.full with hfull | hmin'
      · exact .inl (hfull.trans (Nat.le_mul_of_pos_left M hm))
      · exact .inr (by omega)
  unfold target
  rcases hfull with hfull | hmin
  · have hlog : 52 ≤ (m * M).log2 := (Nat.le_log2 hpos.ne').mpr hfull
    omega
  · omega

/-- A product that fits is exact. -/
theorem denotes_mul (hx : Denotes x p) (hy : Denotes y q) (h : Representable (p * q)) :
    Denotes (x * y) (p * q) := by
  change Denotes (.pack (UnpackedFloat.mul .binary64 x.unpack y.unpack)) _
  rcases hx.signed with ⟨s,hu,rfl⟩ | ⟨s,m,e,hm,hu,rfl,hc⟩
  all_goals rcases hy.signed with ⟨t,hv,rfl⟩ | ⟨t,M,E,hM,hv,rfl,hC⟩
  all_goals rw [hu,hv]
  · rw [zero_mul]
    exact denotes_zero _
  · rw [zero_mul]
    exact denotes_zero _
  · rw [mul_zero]
    exact denotes_zero _
  · have hvalue : sgn s * (m * 2^e) * (sgn t * (M * 2^E)) =
        sgn (s * t) * ((m * M : ℕ) * 2^(e + E)) := by
      rw [sgn_mul,zpow_add₀ (by decide)]
      push_cast
      ring
    rw [hvalue] at h ⊢
    exact denotes_round (Nat.mul_pos hm hM) (mul_target hm hM hc hC) h

end Products

section Quotients

variable {x y : Float.Model} {p q : ℚ} {m M : ℕ} {e E : ℤ}

theorem divCore_eq (hm : 0 < m) (hM : 0 < M) (e E : ℤ) : ∃ (k : ℕ) (t : ℤ), e = t + k + E ∧
    t ≤ target (m * 2^k / M) t ∧
    divCore .binary64 m e M E = (m * 2^k / M,t,accuracyOfFraction (m * 2^k % M) M) := by
  have htarget (u : ℤ) : Format.binary64.targetExponent u = max (u - 53) (-1074) := by
    have hbits : (Format.binary64.mantissaBits : ℤ) = 53 := rfl
    have hleast : Format.binary64.minExponent = -1074 := by decide
    rw [Format.targetExponent,hbits,hleast]
  obtain ⟨t,ht⟩ : ∃ t, t = min (e - E)
      (Format.binary64.targetExponent (totalExponent m e - totalExponent M E)) := ⟨_,rfl⟩
  obtain ⟨k,hk⟩ : ∃ k : ℕ, k = (e - E - t).toNat := ⟨_,rfl⟩
  refine ⟨k,t,by omega,?_,by simp only [divCore,← ht,← hk,Nat.shiftLeft_eq]⟩
  rw [htarget] at ht
  unfold totalExponent at ht
  by_cases hmin : t ≤ -1074
  · unfold target
    omega
  · have hbits : M.log2 + 1 + 52 ≤ m.log2 + k := by omega
    have hfull : 2^52 ≤ m * 2^k / M := by
      rw [Nat.le_div_iff_mul_le hM]
      calc 2^52 * M ≤ 2^52 * 2^(M.log2 + 1) := Nat.mul_le_mul_left _ Nat.lt_log2_self.le
        _ = 2^(M.log2 + 1 + 52) := by rw [← pow_add,Nat.add_comm]
        _ ≤ 2^(m.log2 + k) := Nat.pow_le_pow_right (by decide) hbits
        _ = 2^m.log2 * 2^k := pow_add ..
        _ ≤ m * 2^k := Nat.mul_le_mul_right _ (Nat.log2_self_le hm.ne')
    have hlog : 52 ≤ (m * 2^k / M).log2 :=
      (Nat.le_log2 (Nat.lt_of_lt_of_le (by decide) hfull).ne').mpr hfull
    unfold target
    omega

theorem quotient_le {n N : ℕ} {t F : ℤ} (hM : 0 < M) (h : (n : ℚ) * 2^t ≤ N * 2^F * M) :
    ((n / M : ℕ) : ℚ) * 2^t ≤ N * 2^F ∧
      (((n / M : ℕ) : ℚ) * 2^t = N * 2^F → accuracyOfFraction (n % M) M = .exact) := by
  have hpos : (0 : ℚ) < M := by exact_mod_cast hM
  have ht : (0 : ℚ) < 2^t := zpow_pos (by decide) t
  have hsplit : (n : ℚ) = (n / M : ℕ) * M + (n % M : ℕ) := by
    exact_mod_cast (Nat.div_add_mod' n M).symm
  have hrest : (0 : ℚ) ≤ (n % M : ℕ) * 2^t := mul_nonneg (Nat.cast_nonneg _) ht.le
  have hsum : ((n / M : ℕ) : ℚ) * 2^t * M + (n % M : ℕ) * 2^t ≤ N * 2^F * M := by
    calc ((n / M : ℕ) : ℚ) * 2^t * M + (n % M : ℕ) * 2^t = n * 2^t := by rw [hsplit]; ring
      _ ≤ N * 2^F * M := h
  constructor
  · exact le_of_mul_le_mul_right (by linarith) hpos
  · intro heq
    rw [heq] at hsum
    have hzero : ((n % M : ℕ) : ℚ) * 2^t = 0 := le_antisymm (by linarith) hrest
    have hmod : n % M = 0 := by
      have hcast := (mul_eq_zero.mp hzero).resolve_right ht.ne'
      exact_mod_cast hcast
    rw [hmod]
    rfl

theorem shifted_eq {k : ℕ} {t : ℤ} (he : e = t + k + E) :
    (m : ℚ) * 2^e = (m * 2^k : ℕ) * 2^t * 2^E := by
  have ht : t = e - E - k := by omega
  have hsum : e = e - E + E := by omega
  conv_lhs => rw [hsum,zpow_add₀ (by decide),← mul_assoc]
  rw [ht,← mul_pow_eq]

/-- A quotient that fits is exact. -/
theorem denotes_div (hx : Denotes x p) (hy : Denotes y q) (hq : q ≠ 0) (h : Representable (p / q)) :
    Denotes (x / y) (p / q) := by
  change Denotes (.pack (UnpackedFloat.div .binary64 x.unpack y.unpack)) _
  rcases hy.signed with ⟨t,hv,rfl⟩ | ⟨t,M,E,hM,hv,rfl,hC⟩
  · exact absurd rfl hq
  rcases hx.signed with ⟨s,hu,rfl⟩ | ⟨s,m,e,hm,hu,rfl,hc⟩
  · rw [hu,hv,zero_div]
    exact denotes_zero _
  · have hpos := div_pos (finite_pos hm e) (finite_pos hM E)
    have hvalue : sgn s * (m * 2^e) / (sgn t * (M * 2^E)) = sgn (s / t) * (m * 2^e / (M * 2^E)) := by
      rw [sgn_div,mul_div_mul_comm]
    rw [hvalue] at h ⊢
    have hne : sgn (s / t) * ((m : ℚ) * 2^e / (M * 2^E)) ≠ 0 := by
      rw [← abs_ne_zero,abs_sgn_mul]
      exact (abs_pos.mpr hpos.ne').ne'
    obtain ⟨N,F,hN,hF,hmost,habs⟩ := h.canonical hne
    rw [abs_sgn_mul,abs_of_pos hpos] at habs
    obtain ⟨k,u,he,hle,hcore⟩ := divCore_eq hm hM e E
    have hproduct : ((m * 2^k : ℕ) : ℚ) * 2^u = N * 2^F * M := by
      rw [div_eq_iff (finite_pos hM E).ne',shifted_eq he,← mul_assoc] at habs
      exact mul_right_cancel₀ (zpow_ne_zero E (by decide)) habs
    have hquotient := quotient_le hM hproduct.le
    have htarget := target_le hle hF hquotient.1
    obtain ⟨j,rfl⟩ := exists_sub (hle.trans htarget)
    have hn : m * 2^k = N * 2^j * M := by
      rw [mul_right_comm,← Nat.cast_mul] at hproduct
      rw [eq_mul_pow hproduct,Nat.mul_right_comm]
    have hdiv : m * 2^k / M = N * 2^j := by rw [hn,Nat.mul_div_cancel _ hM]
    have hmod : m * 2^k % M = 0 := by rw [hn,Nat.mul_mod_left]
    have hround : roundWithAccuracy .binary64 (s / t) (N * 2^j) (F - j) .exact = .finite (s / t) N F hN :=
      roundWithAccuracy_exact hN hF (mul_pow_eq N j F).symm (by omega)
    rw [hdiv,hmod] at hcore
    simp only [hu,hv,UnpackedFloat.div,hcore]
    rw [habs,← apply_eq]
    exact hround ▸ denotes_pack hN hF hmost

end Quotients

section Bounds

variable {x y : Float.Model} {p q : ℚ} {m M : ℕ} {e E : ℤ} {a : Accuracy}

theorem AtMost.mono {f : UnpackedFloat} (h : AtMost p f) (hle : p ≤ q) : AtMost q f := by
  cases f with
  | infinity s => cases s <;> exact h
  | notANumber => exact h
  | zero s => exact le_trans h hle
  | finite s m e hm => exact le_trans h hle

theorem atMost_saturate {f : UnpackedFloat} (hf : Normalized f) (hc : Canonical M E) (hE : E ≤ 971)
    (h : AtMost (M * 2^E) f) : AtMost (M * 2^E) (saturate f) := by
  cases f with
  | finite s n t hn =>
    by_cases ht : t ≤ 971
    · rwa [saturate,if_pos ht]
    · rw [saturate,if_neg ht]
      cases s with
      | negative => trivial
      | positive =>
        have hle : (n : ℚ) * 2^t ≤ M * 2^E := (apply_positive n t).symm.trans_le h
        have hlt := hc.lt_of_lt (hf _ _ _ _ rfl) (by omega : E < t)
        exact absurd hle (not_le.mpr hlt)
  | _ => exact h

theorem negative_atMost (hle : e ≤ target m e) (hq : 0 ≤ q) :
    AtMost q (roundWithAccuracy .binary64 .negative m e a) := by
  rw [roundWithAccuracy_eq hle]
  dsimp only
  split
  · exact hq
  · next hne =>
    have hpos := finite_pos (Nat.pos_of_ne_zero hne)
    exact ((apply_negative _ _).trans_lt (neg_lt_zero.mpr (hpos _))).le.trans hq

theorem AtMost.pack {f : UnpackedFloat} (h : AtMost q f) (hf : Normalized f) (hq : Representable q)
    (hpos : 0 < q) : AtMost q (Float.Model.pack f).unpack := by
  obtain ⟨M,E,hM,hc,hE,habs⟩ := hq.canonical hpos.ne'
  rw [abs_of_pos hpos] at habs
  rw [unpack_pack hf]
  rw [habs] at h ⊢
  exact atMost_saturate hf hc hE h

theorem Denotes.positive (h : Denotes x q) (hq : 0 < q) :
    ∃ m e hm, x.unpack = .finite .positive m e hm ∧ q = m * 2^e ∧ Canonical m e := by
  rcases h.cases with ⟨s,-,rfl⟩ | hpositive | ⟨m,e,hm,-,rfl,-⟩
  · exact absurd hq (lt_irrefl 0)
  · exact hpositive
  · exact absurd hq (neg_lt_zero.mpr (finite_pos hm e)).not_gt

theorem AtMost.cases (h : AtMost q x.unpack) : x.unpack = .infinity .negative ∨
    (∃ s, x.unpack = .zero s) ∨
    ∃ s m e hm, x.unpack = .finite s m e hm ∧ s.apply m * 2^e ≤ q ∧ Canonical m e := by
  cases hu : x.unpack with
  | notANumber => simp [hu,AtMost] at h
  | infinity s =>
    cases s with
    | positive => simp [hu,AtMost] at h
    | negative => exact .inl rfl
  | zero s => exact .inr (.inl ⟨s,rfl⟩)
  | finite s m e hm =>
    rw [hu] at h
    exact .inr (.inr ⟨s,m,e,hm,rfl,h,(unpack_finite hu).1⟩)

theorem infinity_atMost (q : ℚ) : AtMost q (Float.Model.pack (.infinity .negative)).unpack :=
  (congrArg (AtMost q) (unpack_infinity .negative)).mpr trivial

theorem zero_atMost (hq : 0 ≤ q) (s : Sign) : AtMost q (Float.Model.pack (.zero s)).unpack :=
  (congrArg (AtMost q) unpack_packedZero).mpr hq

/-- A product does not pass a bound that fits. -/
theorem mul_atMost (hy : Denotes y q) (hq : 0 < q) (hp : 0 < p) (hr : Representable (p * q))
    (hx : AtMost p x.unpack) : AtMost (p * q) (x * y).unpack := by
  change AtMost _ (Float.Model.pack (UnpackedFloat.mul .binary64 x.unpack y.unpack)).unpack
  obtain ⟨M,E,hM,hv,rfl,hC⟩ := hy.positive hq
  have hpos := mul_pos hp hq
  rcases hx.cases with hu | ⟨s,hu⟩ | ⟨s,m,e,hm,hu,hle,hc⟩
  all_goals rw [hu,hv]
  · exact infinity_atMost _
  · exact zero_atMost hpos.le _
  · have hbits := mul_target hm hM hc hC
    have hround : AtMost (p * (M * 2^E))
        (roundWithAccuracy .binary64 (s * .positive) (m * M) (e + E) .exact) := by
      cases s with
      | negative => exact negative_atMost hbits hpos.le
      | positive =>
        obtain ⟨N,F,hN,hF,hmost,habs⟩ := hr.canonical hpos.ne'
        rw [abs_of_pos hpos] at habs
        rw [habs]
        refine roundWithAccuracy_atMost hbits hF ?_ fun _ => rfl
        calc ((m * M : ℕ) : ℚ) * 2^(e + E) = m * 2^e * (M * 2^E) := by
              rw [zpow_add₀ (by decide)]
              push_cast
              ring
          _ ≤ p * (M * 2^E) :=
              mul_le_mul_of_nonneg_right ((apply_positive m e).symm.trans_le hle) hq.le
          _ = N * 2^F := habs
    exact hround.pack (normalized_round hbits) hr hpos

theorem div_atMost (hy : Denotes y q) (hq : 0 < q) (hp : 0 < p) (hr : Representable p)
    (hx : AtMost (p * q) x.unpack) : AtMost p (x / y).unpack := by
  change AtMost _ (Float.Model.pack (UnpackedFloat.div .binary64 x.unpack y.unpack)).unpack
  obtain ⟨M,E,hM,hv,rfl,hC⟩ := hy.positive hq
  rcases hx.cases with hu | ⟨s,hu⟩ | ⟨s,m,e,hm,hu,hle,hc⟩
  all_goals rw [hu,hv]
  · exact infinity_atMost _
  · exact zero_atMost hp.le _
  · obtain ⟨k,t,he,hbits,hcore⟩ := divCore_eq hm hM e E
    have hround : AtMost p (roundWithAccuracy .binary64 (s / .positive) (m * 2^k / M) t
        (accuracyOfFraction (m * 2^k % M) M)) := by
      cases s with
      | negative => exact negative_atMost hbits hp.le
      | positive =>
        obtain ⟨N,F,hN,hF,hmost,habs⟩ := hr.canonical hp.ne'
        rw [abs_of_pos hp] at habs
        have hproduct : (m : ℚ) * 2^e ≤ N * 2^F * (M * 2^E) := by
          rw [← habs,← apply_positive]
          exact hle
        rw [shifted_eq he,← mul_assoc] at hproduct
        have hshifted := le_of_mul_le_mul_right hproduct (zpow_pos (by decide) E)
        obtain ⟨hquotient,hexact⟩ := quotient_le hM hshifted
        rw [habs]
        exact roundWithAccuracy_atMost hbits hF hquotient hexact
    simp only [UnpackedFloat.div,hcore]
    exact hround.pack (normalized_round hbits) hr hp

end Bounds
end Binary64
end KvmAgent
