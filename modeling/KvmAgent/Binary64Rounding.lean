import KvmAgent.Binary64

/-! Rounding to the 53 bits of a mantissa: a number that fits is kept, and none passes a
number that fits. -/
namespace KvmAgent
namespace Binary64

open Float.Model Float.Model.UnpackedFloat

section Shifts

variable {m k : ℕ} {a : Accuracy}

theorem shift_mantissa (em : ExtendedMantissa) (k : ℕ) : (em >>> k).mantissa = em.mantissa / 2^k := by
  induction k with
  | zero => exact (Nat.div_one _).symm
  | succ k ih =>
    change (em >>> k).mantissa / 2 = _
    rw [ih,Nat.div_div_eq_div_mul,pow_succ]

theorem ofMantissaAndAccuracy_mantissa (m : ℕ) (a : Accuracy) :
    (ExtendedMantissa.ofMantissaAndAccuracy m a).mantissa = m := by
  cases a with
  | exact => rfl
  | inexact o => cases o <;> rfl

theorem shift_exact (m k : ℕ) :
    (⟨m * 2^k,false,false⟩ : ExtendedMantissa) >>> k = ⟨m,false,false⟩ := by
  induction k generalizing m with
  | zero =>
    rw [pow_zero,Nat.mul_one]
    rfl
  | succ k ih =>
    have hone : ExtendedMantissa.shiftRightOne ⟨m * 2,false,false⟩ = ⟨m,false,false⟩ := by
      simp [ExtendedMantissa.shiftRightOne]
    rw [pow_succ',← mul_assoc]
    change ExtendedMantissa.shiftRightOne ((⟨m * 2 * 2^k,false,false⟩ : ExtendedMantissa) >>> k) = _
    rw [ih,hone]

theorem roundedMantissa_le (em : ExtendedMantissa) : em.roundedMantissa ≤ em.mantissa + 1 := by
  obtain ⟨m,roundBit,stickyBit⟩ := em
  cases roundBit <;> cases stickyBit
  · exact Nat.le_succ m
  · exact Nat.le_succ m
  · exact Nat.add_le_add_left (Nat.le_of_lt_succ (Nat.mod_lt m (by decide))) m
  · exact Nat.le_refl _

theorem le_roundedMantissa (em : ExtendedMantissa) : em.mantissa ≤ em.roundedMantissa := by
  obtain ⟨m,roundBit,stickyBit⟩ := em
  cases roundBit <;> cases stickyBit
  · exact Nat.le_refl _
  · exact Nat.le_refl _
  · exact Nat.le_add_right _ _
  · exact Nat.le_add_right _ _

theorem rounded_le {n : ℕ} (h : m ≤ n * 2^k) (hexact : m = n * 2^k → a = .exact) :
    (ExtendedMantissa.ofMantissaAndAccuracy m a >>> k).roundedMantissa ≤ n := by
  rcases h.eq_or_lt with rfl | hlt
  · rw [hexact rfl]
    change ((⟨n * 2^k,false,false⟩ : ExtendedMantissa) >>> k).roundedMantissa ≤ n
    rw [shift_exact]
    exact Nat.le_refl n
  · refine (roundedMantissa_le _).trans ?_
    rw [shift_mantissa,ofMantissaAndAccuracy_mantissa]
    exact (Nat.div_lt_iff_lt_mul (Nat.two_pow_pos k)).mpr hlt

end Shifts

section Rounding

variable {m M : ℕ} {e E : ℤ} {s : Sign} {a : Accuracy}

/-- The mantissa after the first of the two shifts. -/
def rounded (m : ℕ) (e : ℤ) (a : Accuracy) : ℕ :=
  (ExtendedMantissa.ofMantissaAndAccuracy m a >>> (target m e - e).toNat).roundedMantissa

theorem roundWithAccuracy_eq (hle : e ≤ target m e) : roundWithAccuracy .binary64 s m e a =
    let k := (target (rounded m e a) (target m e) - target m e).toNat
    if h : rounded m e a / 2^k = 0 then .zero s
    else .finite s (rounded m e a / 2^k) (target m e + k) (Nat.pos_of_ne_zero h) := by
  have htarget : e + ((target m e - e).toNat : ℕ) = target m e := by omega
  simp only [roundWithAccuracy,shiftToTargetExponent,shiftToExponent,targetExponent_eq,htarget,
    shift_mantissa]
  rfl

theorem rounded_bounds (m : ℕ) (e : ℤ) (a : Accuracy) :
    m / 2^(target m e - e).toNat ≤ rounded m e a ∧
      rounded m e a ≤ m / 2^(target m e - e).toNat + 1 := by
  have hlow := le_roundedMantissa
    (ExtendedMantissa.ofMantissaAndAccuracy m a >>> (target m e - e).toNat)
  have hhigh := roundedMantissa_le
    (ExtendedMantissa.ofMantissaAndAccuracy m a >>> (target m e - e).toNat)
  rw [shift_mantissa,ofMantissaAndAccuracy_mantissa] at hlow hhigh
  exact ⟨hlow,hhigh⟩

theorem div_canonical (hle : e ≤ target m e) :
    Canonical (m / 2^(target m e - e).toNat) (target m e) := by
  have hlog : m < 2^(m.log2 + 1) := Nat.lt_log2_self
  have hpos : 0 < 2^(target m e - e).toNat := Nat.two_pow_pos _
  refine ⟨?_,by unfold target; omega,?_⟩
  · rw [Nat.div_lt_iff_lt_mul hpos,← pow_add]
    refine hlog.trans_le (Nat.pow_le_pow_right (by decide) ?_)
    unfold target
    omega
  · by_cases hmin : target m e = -1074
    · exact .inr hmin
    · have hbits : m.log2 = 52 + (target m e - e).toNat := by
        unfold target at hmin hle ⊢
        omega
      have hne : m ≠ 0 := by
        rintro rfl
        rw [Nat.log2_zero] at hbits
        omega
      refine .inl ((Nat.le_div_iff_mul_le hpos).mpr ?_)
      rw [← pow_add,← hbits]
      exact Nat.log2_self_le hne

/-- Rounding makes a mantissa that fits, which takes a second shift where it has made
one of 54 bits. -/
theorem normalized_round (hle : e ≤ target m e) : Normalized (roundWithAccuracy .binary64 s m e a) := by
  intro t M E hM h
  have hdiv := div_canonical hle
  obtain ⟨hlow,hhigh⟩ := rounded_bounds m e a
  rw [roundWithAccuracy_eq hle] at h
  generalize rounded m e a = r at *
  generalize target m e = T at *
  generalize m / 2^(T - e).toNat = n at *
  have hupper := hdiv.upper
  dsimp only at h
  split at h
  · cases h
  · next hne =>
    simp only [UnpackedFloat.finite.injEq] at h
    obtain ⟨-,rfl,rfl⟩ := h
    rcases Nat.lt_or_ge r (2^53) with hfits | hover
    · have hpos : 0 < r := Nat.pos_of_ne_zero fun hzero => hne (by rw [hzero,Nat.zero_div])
      have hcanonical : Canonical r T := ⟨hfits,hdiv.least,hdiv.full.imp_left fun h => h.trans hlow⟩
      have hk : (target r T - T).toNat = 0 := by
        rw [hcanonical.target_eq hpos]
        omega
      rw [hk]
      simpa using hcanonical
    · obtain rfl : r = 2^53 := by omega
      have hleast := hdiv.least
      have hk : (target (2^53) T - T).toNat = 1 := by
        unfold target
        rw [Nat.log2_two_pow]
        omega
      rw [hk]
      exact ⟨by decide,by omega,.inl (by decide)⟩

theorem roundWithAccuracy_exact (hM : 0 < M) (hc : Canonical M E) (h : (m : ℚ) * 2^e = M * 2^E)
    (hle : e ≤ E) : roundWithAccuracy .binary64 s m e .exact = .finite s M E hM := by
  obtain ⟨k,rfl⟩ := exists_sub hle
  obtain rfl : m = M * 2^k := eq_mul_pow h
  have htarget : target (M * 2^k) (E - k) = E := (target_mul_pow hM k E).trans (hc.target_eq hM)
  have hrounded : rounded (M * 2^k) (E - k) .exact = M := by
    have hk : (E - (E - k)).toNat = k := by omega
    unfold rounded
    rw [htarget,hk]
    change ((⟨M * 2^k,false,false⟩ : ExtendedMantissa) >>> k).roundedMantissa = M
    rw [shift_exact]
    rfl
  have hshift : (target M E - E).toNat = 0 := by
    rw [hc.target_eq hM]
    omega
  rw [roundWithAccuracy_eq (htarget.symm ▸ hle)]
  simp only [hrounded,htarget,hshift,pow_zero,Nat.div_one,Nat.cast_zero,add_zero,dif_neg hM.ne']

theorem target_le (hle : e ≤ target m e) (hc : Canonical M E) (h : (m : ℚ) * 2^e ≤ M * 2^E) :
    target m e ≤ E := by
  by_contra hlt
  have hleast := hc.least
  have hlog : (m.log2 : ℤ) + e = 52 + target m e := by
    unfold target at hlt ⊢
    omega
  have hm : m ≠ 0 := by
    rintro rfl
    rw [Nat.log2_zero] at hlog
    omega
  have hover : (M : ℚ) * 2^E < m * 2^e := by
    calc (M : ℚ) * 2^E < 2^53 * 2^E :=
          mul_lt_mul_of_pos_right (by exact_mod_cast hc.upper) (zpow_pos (by decide) E)
      _ = 2^(53 + E) := by
          rw [zpow_add₀ (by decide)]
          rfl
      _ ≤ 2^((m.log2 : ℤ) + e) := zpow_le_zpow_right₀ (by decide) (by omega)
      _ = 2^m.log2 * 2^e := by rw [zpow_add₀ (by decide),zpow_natCast]
      _ ≤ m * 2^e := mul_le_mul_of_nonneg_right (by exact_mod_cast Nat.log2_self_le hm)
          (zpow_pos (by decide) e).le
  exact absurd h (not_le.mpr hover)

/-- No number is rounded past one that fits. -/
theorem roundWithAccuracy_atMost (hle : e ≤ target m e) (hc : Canonical M E)
    (h : (m : ℚ) * 2^e ≤ M * 2^E) (hexact : (m : ℚ) * 2^e = M * 2^E → a = .exact) :
    AtMost (M * 2^E) (roundWithAccuracy .binary64 .positive m e a) := by
  have htarget := target_le hle hc h
  have hrounded : (rounded m e a : ℚ) * 2^target m e ≤ M * 2^E := by
    generalize hT : target m e = T at *
    obtain ⟨k,rfl⟩ := exists_sub htarget
    obtain ⟨j,rfl⟩ := exists_sub hle
    have hpos : (0 : ℚ) < 2^(E - k - j) := zpow_pos (by decide) _
    rw [mul_pow_eq M k,mul_pow_eq (M * 2^k) j] at h hexact
    have hm : m ≤ M * 2^k * 2^j := by exact_mod_cast le_of_mul_le_mul_right h hpos
    have hj : (target m (E - k - j) - (E - k - j)).toNat = j := by omega
    have hround : rounded m (E - k - j) a ≤ M * 2^k := by
      unfold rounded
      rw [hj]
      exact rounded_le hm fun heq => hexact (by rw [← heq])
    rw [mul_pow_eq M k]
    exact mul_le_mul_of_nonneg_right (by exact_mod_cast hround) (zpow_pos (by decide) _).le
  rw [roundWithAccuracy_eq hle]
  generalize (target (rounded m e a) (target m e) - target m e).toNat = k
  dsimp only
  split
  · exact mul_nonneg (Nat.cast_nonneg M) (zpow_pos (by decide) E).le
  · refine (apply_positive _ _).trans_le (le_trans ?_ hrounded)
    have hdiv : rounded m e a / 2^k * 2^k ≤ rounded m e a := Nat.div_mul_le_self _ _
    have hback : target m e = target m e + k - k := by omega
    rw [mul_pow_eq _ k,← hback]
    exact mul_le_mul_of_nonneg_right (by exact_mod_cast hdiv) (zpow_pos (by decide) _).le

end Rounding
end Binary64
end KvmAgent
