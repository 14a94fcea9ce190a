import Mathlib.Data.List.Forall2

/-! Two objects that answer the same calls, and the simulation that relates their
answers. -/
namespace KvmAgent
namespace Simulation

variable {C S T A B : Type}

def answers (f : C → S → A × S) : List C → S → List A × S
  | [], s => ([],s)
  | c::calls, s =>
    let r := f c s
    let rest := answers f calls r.2
    (r.1::rest.1,rest.2)

variable {f : C → S → A × S} {g : C → T → B × T} {Rel : S → T → Prop} {Match : A → B → Prop}

/-- What holds call by call from related states holds along the whole sequence. -/
theorem answers_related {calls : List C}
    (hstep : ∀ c ∈ calls, ∀ s t, Rel s t → Match (f c s).1 (g c t).1 ∧ Rel (f c s).2 (g c t).2)
    {s : S} {t : T} (h : Rel s t) :
    List.Forall₂ Match (answers f calls s).1 (answers g calls t).1 ∧
      Rel (answers f calls s).2 (answers g calls t).2 := by
  induction calls generalizing s t with
  | nil => exact ⟨.nil,h⟩
  | cons c calls ih =>
    obtain ⟨hmatch,hrel⟩ := hstep c (by simp) s t h
    have hrest := ih (fun d hd => hstep d (by simp [hd])) hrel
    exact ⟨.cons hmatch hrest.1,hrest.2⟩

end Simulation
end KvmAgent
