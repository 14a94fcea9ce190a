import KvmAgent.Program

/-! Programs that pass a list of milestones in order: operations each of which they call
once, with calls in between that are no milestones. -/
namespace KvmAgent

/-- The program passes the milestones of `todo` down to those of `rest`; between them it
calls what `pass` allows with what is left to do. -/
inductive Marches {Op : Type} {Ans : Op → Type} {α : Type} (pass : List Op → Op → Prop)
    (rest : List Op) : List Op → Prog Ans α → Prop
  | ret (a : α) : Marches pass rest rest (.ret a)
  | call {todo : List Op} {o : Op} {k : Ans o → Prog Ans α} (ho : pass todo o)
    (hk : ∀ x, Marches pass rest todo (k x)) : Marches pass rest todo (.call o k)
  | milestone {todo : List Op} {o : Op} {k : Ans o → Prog Ans α}
    (hk : ∀ x, Marches pass rest todo (k x)) : Marches pass rest (o::todo) (.call o k)

namespace Marches

variable {Op : Type} {Ans : Op → Type} {α β : Type} {pass : List Op → Op → Prop}
  {rest mid todo : List Op}

theorem bind {p : Prog Ans β} {f : β → Prog Ans α} (hp : Marches pass mid todo p)
    (hf : ∀ b, Marches pass rest mid (f b)) : Marches pass rest todo (p >>= f) := by
  induction hp with
  | ret b => exact hf b
  | call ho _ ih => exact .call ho ih
  | milestone _ ih => exact .milestone ih

theorem of_uses {p : Prog Ans α} (hp : p.Uses (pass todo)) : Marches pass todo todo p := by
  induction hp with
  | ret a => exact .ret a
  | call ho _ ih => exact .call ho ih

theorem next {o : Op} {k : Ans o → Prog Ans α} (h : Marches pass rest todo (.call o k)) :
    (pass todo o ∧ ∀ x, Marches pass rest todo (k x)) ∨
      ∃ later, todo = o::later ∧ ∀ x, Marches pass rest later (k x) := by
  cases h with
  | call ho hk => exact .inl ⟨ho,hk⟩
  | milestone hk => exact .inr ⟨_,rfl,hk⟩

end Marches
end KvmAgent
