import Mathlib

/-! The numbers that 64-bit floats stand for: their forms with a mantissa of 53 bits, how
these are packed, and that comparing floats compares the numbers. -/
namespace KvmAgent
namespace Binary64

open Float.Model Float.Model.UnpackedFloat

/-- The mantissa fills its 53 bits, unless the exponent is the least. -/
structure Canonical (m : ℕ) (e : ℤ) : Prop where
  upper : m < 2^53
  least : -1074 ≤ e
  full : 2^52 ≤ m ∨ e = -1074

def target (m : ℕ) (e : ℤ) : ℤ := max (m.log2 + e - 52) (-1074)

theorem targetExponent_eq (m : ℕ) (e : ℤ) :
    Format.binary64.targetExponent (totalExponent m e) = target m e := by
  have hbits : (Format.binary64.mantissaBits : ℤ) = 53 := rfl
  have hleast : Format.binary64.minExponent = -1074 := by decide
  simp only [Format.targetExponent,totalExponent,target,hbits,hleast]
  congr 1
  omega

section Canonical

variable {m M k : ℕ} {e E : ℤ} {s : Sign}

theorem Canonical.target_eq (h : Canonical m e) (hm : 0 < m) : target m e = e := by
  have hupper : m.log2 < 53 := (Nat.log2_lt hm.ne').mpr h.upper
  have hleast := h.least
  unfold target
  rcases h.full with hfull | hmin
  · have hlog : 52 ≤ m.log2 := (Nat.le_log2 hm.ne').mpr hfull
    omega
  · omega

theorem canonical_of_target (hm : 0 < m) (h : target m e = e) : Canonical m e := by
  unfold target at h
  refine ⟨(Nat.log2_lt hm.ne').mp (by omega),by omega,?_⟩
  by_cases hmin : e = -1074
  · exact .inr hmin
  · exact .inl ((Nat.le_log2 hm.ne').mp (by omega))

theorem log2_mul_pow (hm : 0 < m) (k : ℕ) : (m * 2^k).log2 = m.log2 + k := by
  have hpos : 0 < 2^k := Nat.two_pow_pos k
  rw [Nat.log2_eq_iff (Nat.mul_pos hm hpos).ne']
  constructor
  · rw [pow_add]
    exact Nat.mul_le_mul_right _ (Nat.log2_self_le hm.ne')
  · rw [Nat.add_right_comm,pow_add]
    exact Nat.mul_lt_mul_of_pos_right Nat.lt_log2_self hpos

theorem target_mul_pow (hm : 0 < m) (k : ℕ) (e : ℤ) : target (m * 2^k) (e - k) = target m e := by
  unfold target
  rw [log2_mul_pow hm]
  congr 1
  push_cast
  omega

theorem mul_pow_eq (m k : ℕ) (e : ℤ) : (m : ℚ) * 2^e = (m * 2^k : ℕ) * 2^(e - k) := by
  have he : e = (k : ℤ) + (e - k) := by omega
  conv_lhs => rw [he]
  rw [zpow_add₀ (by decide),zpow_natCast,← mul_assoc]
  norm_cast

theorem eq_mul_pow (h : (m : ℚ) * 2^(E - k) = M * 2^E) : m = M * 2^k := by
  rw [mul_pow_eq M k] at h
  exact_mod_cast mul_right_cancel₀ (zpow_ne_zero _ (by decide)) h

theorem exists_sub (h : e ≤ E) : ∃ k : ℕ, e = E - k := ⟨(E - e).toNat,by omega⟩

/-- Every number within the format has a canonical form. -/
theorem exists_canonical (hm : 0 < m) (hupper : m < 2^53) (hleast : -1074 ≤ e) :
    ∃ M E, Canonical M E ∧ 0 < M ∧ E ≤ e ∧ (m : ℚ) * 2^e = M * 2^E := by
  have hlog : m.log2 < 53 := (Nat.log2_lt hm.ne').mpr hupper
  have hle : target m e ≤ e := by
    unfold target
    omega
  obtain ⟨k,hk⟩ := exists_sub hle
  have hpos : 0 < m * 2^k := Nat.mul_pos hm (Nat.two_pow_pos k)
  refine ⟨m * 2^k,e - k,canonical_of_target hpos ?_,hpos,by omega,mul_pow_eq m k e⟩
  rw [target_mul_pow hm,hk]

theorem target_eq_of_eq (hm : 0 < m) (hM : 0 < M) (hc : Canonical M E)
    (h : (m : ℚ) * 2^e = M * 2^E) : target m e = E := by
  rw [← hc.target_eq hM]
  rcases le_total e E with hle | hle
  · obtain ⟨k,rfl⟩ := exists_sub hle
    rw [eq_mul_pow h,target_mul_pow hM]
  · obtain ⟨k,rfl⟩ := exists_sub hle
    rw [eq_mul_pow h.symm,target_mul_pow hm]

theorem Canonical.lt_of_lt (h : Canonical m e) (hM : Canonical M E) (hlt : e < E) :
    (m : ℚ) * 2^e < M * 2^E := by
  have hleast := h.least
  have hfull : 2^52 ≤ M := hM.full.resolve_right (by omega)
  calc (m : ℚ) * 2^e < 2^53 * 2^e :=
        mul_lt_mul_of_pos_right (by exact_mod_cast h.upper) (zpow_pos (by decide) e)
    _ = 2^52 * 2^(e + 1) := by
        rw [zpow_add₀ (by decide)]
        ring
    _ ≤ 2^52 * 2^E := by
        have hpow : (2 : ℚ)^(e + 1) ≤ 2^E := zpow_le_zpow_right₀ (by decide) (by omega)
        exact mul_le_mul_of_nonneg_left hpow (by positivity)
    _ ≤ M * 2^E := mul_le_mul_of_nonneg_right (by exact_mod_cast hfull) (zpow_pos (by decide) E).le

/-- The order in which the model compares canonical forms is that of the numbers. -/
theorem Canonical.compare_eq (h : Canonical m e) (hM : Canonical M E) :
    (compare e E).then (compare m M) = compare ((m : ℚ) * 2^e) (M * 2^E) := by
  rcases lt_trichotomy e E with hlt | rfl | hgt
  · rw [compare_lt_iff_lt.mpr hlt,compare_lt_iff_lt.mpr (h.lt_of_lt hM hlt)]
    rfl
  · have hpos : (0 : ℚ) < 2^e := zpow_pos (by decide) e
    rw [compare_eq_iff_eq.mpr rfl]
    change compare m M = _
    rcases lt_trichotomy m M with hlt | rfl | hgt
    · rw [compare_lt_iff_lt.mpr hlt,compare_lt_iff_lt.mpr
        (mul_lt_mul_of_pos_right (by exact_mod_cast hlt) hpos)]
    · rw [compare_eq_iff_eq.mpr rfl,compare_eq_iff_eq.mpr rfl]
    · rw [compare_gt_iff_gt.mpr hgt,compare_gt_iff_gt.mpr
        (mul_lt_mul_of_pos_right (by exact_mod_cast hgt) hpos)]
  · rw [compare_gt_iff_gt.mpr hgt,compare_gt_iff_gt.mpr (hM.lt_of_lt h hgt)]
    rfl

end Canonical

section Packing

variable {m : ℕ} {e : ℤ} {s : Sign}

def saturate : UnpackedFloat → UnpackedFloat
  | .finite s m e hm => if e ≤ 971 then .finite s m e hm else .infinity s
  | f => f

def Normalized (f : UnpackedFloat) : Prop :=
  ∀ s m e hm, f = .finite s m e hm → Canonical m e

theorem toNat_implicit {w : ℕ} (v : BitVec w) : (1#1 ++ v).toNat = 2^w + v.toNat := by
  rw [BitVec.toNat_append,← Nat.shiftLeft_add_eq_or_of_lt v.isLt,Nat.shiftLeft_eq]
  simp

theorem unpack_normal (hfull : 2^52 ≤ m) (hupper : m < 2^53) {exponent : BitVec 11}
    (hnone : exponent ≠ -1#_) (hzero : exponent ≠ 0#_) (hm : 0 < m) :
    UnpackedFloat.unpack .binary64 (packComponents .binary64 s exponent (BitVec.ofNat 52 m)) =
      .finite s m (exponent.toNat - 1075) hm := by
  have hmantissa : (1#1 ++ BitVec.ofNat 52 m).toNat = m := by
    rw [toNat_implicit,BitVec.toNat_ofNat]
    omega
  simp only [UnpackedFloat.unpack,unpackExponent_packComponents,unpackMantissa_packComponents,
    unpackSign_packComponents,Sign.ofBitVec_toBitVec,if_neg hnone,if_neg hzero,hmantissa]
  rfl

theorem unpack_subnormal (hupper : m < 2^52) (hm : 0 < m) :
    UnpackedFloat.unpack .binary64 (packComponents .binary64 s 0#_ (BitVec.ofNat 52 m)) =
      .finite s m (-1074) hm := by
  have hmantissa : (BitVec.ofNat 52 m).toNat = m := by
    rw [BitVec.toNat_ofNat,Nat.mod_eq_of_lt hupper]
  have hne : BitVec.ofNat 52 m ≠ 0#_ := by
    intro h
    rw [h] at hmantissa
    exact hm.ne hmantissa
  simp only [UnpackedFloat.unpack,unpackExponent_packComponents,unpackMantissa_packComponents,
    unpackSign_packComponents,Sign.ofBitVec_toBitVec,hmantissa,dif_neg hne]
  rfl

theorem unpack_infinity (s : Sign) :
    UnpackedFloat.unpack .binary64 (packedInfinity .binary64 s) = .infinity s := by
  simp only [UnpackedFloat.unpack,packedInfinity,unpackExponent_packComponents,
    unpackMantissa_packComponents,unpackSign_packComponents,Sign.ofBitVec_toBitVec]
  rfl

theorem pack_finite (s : Sign) (m : ℕ) (e : ℤ) (hm : 0 < m) :
    UnpackedFloat.pack .binary64 (.finite s m e hm) =
      if 2048 ≤ (e + 1075).toNat + 1 then packedInfinity .binary64 s
      else if m.log2 = 52 then
        packComponents .binary64 s (BitVec.ofNat 11 (e + 1075).toNat) (BitVec.ofNat 52 m)
      else packComponents .binary64 s 0#11 (BitVec.ofNat 52 m) := by
  have hbias : e + Format.binary64.exponentBias + Format.binary64.mantissaBitsWithoutImplicit =
      e + 1075 := by
    have hexponent : (Format.binary64.exponentBias : ℤ) = 1023 := by decide
    rw [hexponent]
    exact Int.add_assoc e 1023 52
  have hbits : m.log2 + 1 = Format.binary64.mantissaBits ↔ m.log2 = 52 := Nat.succ_inj
  simp only [UnpackedFloat.pack,hbias,hbits]

/-- Packing keeps the floats whose mantissa is normalized and whose exponent fits. -/
theorem unpack_pack {f : UnpackedFloat} (hf : Normalized f) : (Float.Model.pack f).unpack = saturate f := by
  change UnpackedFloat.unpack .binary64 (UnpackedFloat.pack .binary64 f) = saturate f
  cases f with
  | infinity s => exact unpack_infinity s
  | notANumber => rfl
  | zero s => exact unpack_packedZero
  | finite s m e hm =>
    obtain ⟨hupper,hleast,hfull⟩ := hf s m e hm rfl
    rw [pack_finite,saturate]
    by_cases hfits : e ≤ 971
    · rw [if_pos hfits,if_neg (by omega)]
      by_cases hnormal : 2^52 ≤ m
      · have hlog : m.log2 = 52 := (Nat.log2_eq_iff hm.ne').mpr ⟨hnormal,hupper⟩
        have hexponent : (BitVec.ofNat 11 (e + 1075).toNat).toNat = (e + 1075).toNat := by
          rw [BitVec.toNat_ofNat]
          omega
        have hnone : BitVec.ofNat 11 (e + 1075).toNat ≠ -1#11 := by
          intro h
          have hall := congrArg BitVec.toNat h
          rw [hexponent] at hall
          change _ = 2047 at hall
          omega
        have hzero : BitVec.ofNat 11 (e + 1075).toNat ≠ 0#11 := by
          intro h
          have hall := congrArg BitVec.toNat h
          rw [hexponent] at hall
          change _ = 0 at hall
          omega
        rw [if_pos hlog,unpack_normal hnormal hupper hnone hzero hm,hexponent]
        congr 1
        omega
      · have hlog : ¬m.log2 = 52 := fun h => hnormal (h ▸ Nat.log2_self_le hm.ne')
        obtain rfl := hfull.resolve_left hnormal
        rw [if_neg hlog]
        exact unpack_subnormal (Nat.lt_of_not_le hnormal) hm
    · rw [if_neg hfits,if_pos (by omega)]
      exact unpack_infinity s

/-- The floats that there are, are normalized, and their exponents fit. -/
theorem unpack_finite {x : Float.Model} {hm : 0 < m} (h : x.unpack = .finite s m e hm) :
    Canonical m e ∧ e ≤ 971 := by
  obtain ⟨bits,hvalid⟩ := x
  change UnpackedFloat.unpack .binary64 bits.toBitVec = _ at h
  generalize bits.toBitVec = v at h
  have hmantissa : (@unpackMantissa .binary64 v).toNat < 2^52 := BitVec.isLt _
  have hexponent : (@unpackExponent .binary64 v).toNat < 2048 := BitVec.isLt _
  have hbias : (Format.binary64.exponentBias : ℤ) + (52 : ℕ) = 1075 := by decide
  unfold UnpackedFloat.unpack at h
  simp only [hbias] at h
  split at h
  · split at h <;> cases h
  · next hnone =>
    split at h
    · next hzero =>
      split at h
      · cases h
      · simp only [hzero,UnpackedFloat.finite.injEq] at h
        obtain ⟨-,rfl,rfl⟩ := h
        exact ⟨⟨by omega,by decide,.inr (by decide)⟩,by decide⟩
    · next hzero =>
      simp only [toNat_implicit,UnpackedFloat.finite.injEq] at h
      obtain ⟨-,rfl,rfl⟩ := h
      have hpos : (@unpackExponent .binary64 v).toNat ≠ 0 := by
        intro h
        exact hzero (BitVec.eq_of_toNat_eq h)
      have hlt : (@unpackExponent .binary64 v).toNat ≠ 2047 := by
        intro h
        exact hnone (BitVec.eq_of_toNat_eq h)
      exact ⟨⟨by omega,by omega,.inl (Nat.le_add_right _ _)⟩,by omega⟩

end Packing

section Order

variable {x y : Float.Model} {p q : ℚ}

/-- The number a float stands for, unless it is infinite or none. -/
def rat : UnpackedFloat → Option ℚ
  | .finite s m e _ => some (s.apply m * 2^e)
  | .zero _ => some 0
  | _ => none

def Denotes (x : Float.Model) (q : ℚ) : Prop := rat x.unpack = some q

def AtMost (q : ℚ) : UnpackedFloat → Prop
  | .infinity .negative => True
  | .zero _ => 0 ≤ q
  | .finite s m e _ => s.apply m * 2^e ≤ q
  | _ => False

theorem finite_pos {m : ℕ} (hm : 0 < m) (e : ℤ) : (0 : ℚ) < m * 2^e :=
  mul_pos (by exact_mod_cast hm) (zpow_pos (by decide) e)

@[simp] theorem apply_positive (m : ℕ) (e : ℤ) :
    ((Sign.positive.apply m : ℤ) : ℚ) * 2^e = m * 2^e := by simp [Sign.apply]

@[simp] theorem apply_negative (m : ℕ) (e : ℤ) :
    ((Sign.negative.apply m : ℤ) : ℚ) * 2^e = -(m * 2^e) := by simp [Sign.apply]

theorem Denotes.cases (h : Denotes x p) :
    (∃ s, x.unpack = .zero s ∧ p = 0) ∨
    (∃ m e hm, x.unpack = .finite .positive m e hm ∧ p = m * 2^e ∧ Canonical m e) ∨
    ∃ m e hm, x.unpack = .finite .negative m e hm ∧ p = -(m * 2^e) ∧ Canonical m e := by
  unfold Denotes at h
  cases hu : x.unpack with
  | infinity s => simp [hu,rat] at h
  | notANumber => simp [hu,rat] at h
  | zero s => exact .inl ⟨s,rfl,by simpa [hu,rat] using h.symm⟩
  | finite s m e hm =>
    have hc := (unpack_finite hu).1
    cases s with
    | positive => exact .inr (.inl ⟨m,e,hm,rfl,by simpa [hu,rat] using h.symm,hc⟩)
    | negative => exact .inr (.inr ⟨m,e,hm,rfl,by simpa [hu,rat] using h.symm,hc⟩)

theorem compare_neg_neg (p q : ℚ) : (compare p q).swap = compare (-p) (-q) := by
  rcases lt_trichotomy p q with hlt | rfl | hgt
  · rw [compare_lt_iff_lt.mpr hlt,compare_gt_iff_gt.mpr (neg_lt_neg hlt)]
    rfl
  · rw [compare_eq_iff_eq.mpr rfl,compare_eq_iff_eq.mpr rfl]
    rfl
  · rw [compare_gt_iff_gt.mpr hgt,compare_lt_iff_lt.mpr (neg_lt_neg hgt)]
    rfl

/-- Floats compare as their numbers do. -/
theorem compare_eq (hx : Denotes x p) (hy : Denotes y q) : x.compare y = some (compare p q) := by
  change x.unpack.compare y.unpack = _
  rcases hx.cases with ⟨s,hu,rfl⟩ | ⟨m,e,hm,hu,rfl,hc⟩ | ⟨m,e,hm,hu,rfl,hc⟩
  all_goals rcases hy.cases with ⟨t,hv,rfl⟩ | ⟨M,E,hM,hv,rfl,hC⟩ | ⟨M,E,hM,hv,rfl,hC⟩
  all_goals rw [hu,hv]
  · rfl
  · rw [compare_lt_iff_lt.mpr (finite_pos hM E)]
    rfl
  · rw [compare_gt_iff_gt.mpr (neg_lt_zero.mpr (finite_pos hM E))]
    rfl
  · rw [compare_gt_iff_gt.mpr (finite_pos hm e)]
    rfl
  · rw [← hc.compare_eq hC]
    rfl
  · rw [compare_gt_iff_gt.mpr ((neg_lt_zero.mpr (finite_pos hM E)).trans (finite_pos hm e))]
    rfl
  · rw [compare_lt_iff_lt.mpr (neg_lt_zero.mpr (finite_pos hm e))]
    rfl
  · rw [compare_lt_iff_lt.mpr ((neg_lt_zero.mpr (finite_pos hm e)).trans (finite_pos hM E))]
    rfl
  · rw [← compare_neg_neg,← hc.compare_eq hC]
    rfl

theorem le_iff (hx : Denotes x p) (hy : Denotes y q) : x ≤ y ↔ p ≤ q := by
  have hle : x ≤ y ↔ (x.compare y).any (·.isLE) = true := Iff.rfl
  rw [hle,compare_eq hx hy,← compare_le_iff_le]
  cases compare p q <;> decide

theorem lt_iff (hx : Denotes x p) (hy : Denotes y q) : x < y ↔ p < q := by
  have hlt : x < y ↔ (x.compare y == some .lt) = true := Iff.rfl
  rw [hlt,compare_eq hx hy,← compare_lt_iff_lt]
  cases compare p q <;> decide

theorem le_iff_atMost (hy : Denotes y q) : x ≤ y ↔ AtMost q x.unpack := by
  have hle : x ≤ y ↔ (x.unpack.compare y.unpack).any (·.isLE) = true := Iff.rfl
  cases hu : x.unpack with
  | zero s => exact le_iff (p := 0) (by simp [Denotes,hu,rat]) hy
  | finite s m e hm => exact le_iff (by simp [Denotes,hu,rat]) hy
  | notANumber => simp [hle,hu,UnpackedFloat.compare,AtMost]
  | infinity s =>
    rw [hle,hu]
    rcases hy.cases with ⟨t,hv,rfl⟩ | ⟨M,E,hM,hv,rfl,hC⟩ | ⟨M,E,hM,hv,rfl,hC⟩
    all_goals cases s <;> simp [hv,UnpackedFloat.compare,AtMost]

end Order
end Binary64
end KvmAgent
