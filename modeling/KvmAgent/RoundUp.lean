import Mathlib.Data.Rat.Floor
import Mathlib.Order.Bounds.Basic
import Mathlib.Tactic.Linarith

/-! Rounding up to the sizes that something comes in: some that are listed, and every whole
number above those. -/
namespace KvmAgent
namespace RoundUp

section Least

/-- `y` is the least element of `S` that `x` fits into. -/
def RoundsTo {α : Type*} [LE α] (S : Set α) (x y : α) : Prop := IsLeast {s ∈ S | x ≤ s} y

variable {α : Type*} [PartialOrder α] {S : Set α} {x x' y y' : α}

theorem RoundsTo.mem (h : RoundsTo S x y) : y ∈ S := h.1.1

theorem RoundsTo.le (h : RoundsTo S x y) : x ≤ y := h.1.2

theorem RoundsTo.mono (h : RoundsTo S x y) (h' : RoundsTo S x' y') (hle : x ≤ x') : y ≤ y' :=
  h.2 ⟨h'.mem,hle.trans h'.le⟩

theorem RoundsTo.idem (h : RoundsTo S x y) (h' : RoundsTo S y y') : y' = y :=
  (h'.2 ⟨h.mem,le_rfl⟩).antisymm h'.le

end Least

section Sizes

variable {sizes : List ℕ} {q : ℚ}

/-- One of the list, or more than all of it. -/
def Sizes (sizes : List ℕ) : Set ℤ := {n | (∃ c ∈ sizes, n = c) ∨ ∀ c ∈ sizes, (c : ℤ) < n}

def roundUp : List ℕ → ℚ → ℤ
  | [], q => ⌈q⌉
  | c::rest, q => if q ≤ c then c else roundUp rest q

/-- The first that is large enough is the least. -/
theorem roundUp_least (h : sizes.Pairwise (· < ·)) (q : ℚ) :
    IsLeast {n ∈ Sizes sizes | q ≤ (n : ℤ)} (roundUp sizes q) := by
  induction sizes with
  | nil => exact ⟨⟨.inr (by simp),Int.le_ceil q⟩,fun n hn => Int.ceil_le.mpr hn.2⟩
  | cons c rest ih =>
    obtain ⟨hfirst,hrest⟩ := List.pairwise_cons.mp h
    by_cases hq : q ≤ c
    · rw [roundUp,if_pos hq]
      refine ⟨⟨.inl ⟨c,List.mem_cons_self,rfl⟩,by exact_mod_cast hq⟩,?_⟩
      rintro n ⟨⟨d,hd,rfl⟩ | hover,-⟩
      · rcases List.mem_cons.mp hd with rfl | hd
        · exact le_rfl
        · exact_mod_cast (hfirst d hd).le
      · exact (hover c List.mem_cons_self).le
    · rw [roundUp,if_neg hq]
      have hsame : {n ∈ Sizes (c::rest) | q ≤ (n : ℤ)} = {n ∈ Sizes rest | q ≤ (n : ℤ)} := by
        ext n
        refine and_congr_left fun hn => ?_
        have hcn : (c : ℤ) < n := by exact_mod_cast (not_le.mp hq).trans_le hn
        constructor
        · rintro (⟨d,hd,rfl⟩ | hover)
          · rcases List.mem_cons.mp hd with rfl | hd
            · exact absurd hcn (lt_irrefl _)
            · exact .inl ⟨d,hd,rfl⟩
          · exact .inr fun d hd => hover d (List.mem_cons_of_mem c hd)
        · rintro (⟨d,hd,rfl⟩ | hover)
          · exact .inl ⟨d,List.mem_cons_of_mem c hd,rfl⟩
          · exact .inr (List.forall_mem_cons.mpr ⟨hcn,hover⟩)
      rw [hsame]
      exact ih hrest

theorem roundUp_lt {c : ℕ} (hc : 0 < c) (hq : c < q) (hchain : (c::sizes).IsChain fun a b => b ≤ 2 * a)
    (h : (c::sizes).Pairwise (· < ·)) : (roundUp sizes q : ℚ) < 2 * q := by
  induction sizes generalizing c with
  | nil =>
    have hone : (1 : ℚ) ≤ c := by exact_mod_cast hc
    have hceil := Int.ceil_lt_add_one q
    rw [roundUp]
    linarith
  | cons d rest ih =>
    obtain ⟨hstep,hchain⟩ := List.isChain_cons_cons.mp hchain
    obtain ⟨hfirst,hrest⟩ := List.pairwise_cons.mp h
    have hd : (d : ℚ) ≤ 2 * c := by exact_mod_cast hstep
    by_cases hle : q ≤ d
    · rw [roundUp,if_pos hle,Int.cast_natCast]
      linarith
    · rw [roundUp,if_neg hle]
      exact ih (hc.trans (hfirst d List.mem_cons_self)) (not_le.mp hle) hchain hrest

end Sizes

end RoundUp
end KvmAgent
