import KvmAgent.Trace

/-! What a program finds out, as its own part of the record shows it: a logic for programs whose
environment may answer anything, in which what was found once stays found. -/
namespace KvmAgent
namespace Trace

variable {Op : Type} {Ans : Op → Type} {α β : Type}

/-- What a record shows, it shows after further calls. -/
def Lasts (I : Trace Ans → Prop) : Prop := ∀ c s, I s → I (c::s)

theorem lasts_mem (c : Call Ans) : Lasts (c ∈ ·) := fun _ _ hs => List.mem_cons_of_mem _ hs

theorem lasts_const (P : Prop) : Lasts fun _ : Trace Ans => P := fun _ _ hs => hs

theorem lasts_and {I J : Trace Ans → Prop} (hI : Lasts I) (hJ : Lasts J) : Lasts fun s => I s ∧ J s :=
  fun c s hs => ⟨hI c s hs.1,hJ c s hs.2⟩

theorem lasts_or {I J : Trace Ans → Prop} (hI : Lasts I) (hJ : Lasts J) : Lasts fun s => I s ∨ J s :=
  fun c s hs => hs.imp (hI c s) (hJ c s)

theorem lasts_exists {ι : Sort*} {I : ι → Trace Ans → Prop} (hI : ∀ i, Lasts (I i)) :
    Lasts fun s => ∃ i, I i s := fun c s hs => hs.imp fun i => hI i c s

section Finds

variable [DecidableEq Op] {p : Prog Ans α} {Q : α → Trace Ans → Prop}

theorem uses_keeps {P : Op → Prop} {I : Trace Ans → Prop} (hp : p.Uses P)
    (hI : ∀ o (x : Ans o) s, P o → I s → I (⟨o,x⟩::s)) : p.Keeps recorder I :=
  hp.keeps fun o c s x t ho hc hs => by
    obtain ⟨-,rfl⟩ := recorder_eq_some.mp hc
    exact hI o x s ho hs

/-- However the calls are answered, `Q` holds of what the program returns and of the record
since `base`, of which the program may find a part. -/
def Finds (p : Prog Ans α) (Q : α → Trace Ans → Prop) : Prop :=
  ∀ base own, p.Always recorder (fun _ => True) (fun a t => ∃ own', t = own' ++ base ∧ Q a own')
    (own ++ base)

theorem Lasts.keeps {I : Trace Ans → Prop} (hI : Lasts I) (base : Trace Ans) (p : Prog Ans α) :
    p.Keeps recorder fun s => ∃ own, s = own ++ base ∧ I own := by
  induction p with
  | ret a => exact Prog.keeps_ret a
  | call o k ih =>
    intro s hs
    refine always_record.mpr ⟨hs,fun x => ih x _ ?_⟩
    obtain ⟨own,rfl,hown⟩ := hs
    exact ⟨⟨o,x⟩::own,rfl,hI _ _ hown⟩

theorem finds_ret {a : α} (h : ∀ s, Q a s) : Finds (.ret a) Q := fun _ own => ⟨trivial,own,rfl,h own⟩

theorem Finds.mono {R : α → Trace Ans → Prop} (hp : Finds p Q) (h : ∀ a s, Q a s → R a s) : Finds p R :=
  fun base own => (hp base own).mono (fun _ ht => ht) fun a _ _ hown => by
    obtain ⟨own',rfl,hown⟩ := hown
    exact ⟨own',rfl,h a own' hown⟩

theorem finds_bind {f : α → Prog Ans β} {R : β → Trace Ans → Prop} (hp : Finds p Q)
    (hQ : ∀ a, Lasts (Q a)) (hf : ∀ a, Finds (f a) fun b t => Q a t → R b t) : Finds (p >>= f) R := by
  intro base own
  rw [Prog.always_bind]
  refine (hp base own).mono (fun _ ht => ht) ?_
  rintro a t - ⟨own',rfl,hown⟩
  have hkeep := (hQ a).keeps base (f a) (own' ++ base) ⟨own',rfl,hown⟩
  refine ((hf a base own').and hkeep).mono (fun _ _ => trivial) ?_
  rintro b t ⟨-,own₁,rfl,hown₁⟩ ⟨⟨own₂,heq,hb⟩,-⟩
  obtain rfl := List.append_cancel_right heq
  exact ⟨own₁,rfl,hb hown₁⟩

theorem finds_ask {o : Op} {k : Ans o → Prog Ans α}
    (hk : ∀ x, Finds (k x) fun a t => ⟨o,x⟩ ∈ t → Q a t) : Finds (Prog.op o >>= k) Q := by
  refine finds_bind (Q := fun x t => ⟨o,x⟩ ∈ t) ?_ (fun _ => lasts_mem _) hk
  exact fun base own => always_record.mpr
    ⟨trivial,fun x => ⟨trivial,⟨o,x⟩::own,rfl,List.mem_cons_self⟩⟩

theorem finds_any (p : Prog Ans α) : Finds p fun _ _ => True := fun base own =>
  ((lasts_const True).keeps base p (own ++ base) ⟨own,rfl,trivial⟩).mono (fun _ _ => trivial)
    fun _ _ ht _ => ht

theorem finds_skip {f : α → Prog Ans β} {R : β → Trace Ans → Prop} (hf : ∀ a, Finds (f a) R) :
    Finds (p >>= f) R :=
  finds_bind (finds_any p) (fun _ => lasts_const True) fun a => (hf a).mono fun _ _ hb _ => hb

theorem Finds.always (hp : Finds p Q) : p.Always recorder (fun _ => True) Q [] := by
  refine (hp [] []).mono (fun _ ht => ht) ?_
  rintro a t - ⟨own,rfl,hown⟩
  rwa [List.append_nil]

/-- What a program of some operations finds, its own record shows with those operations only. -/
theorem Finds.uses {P : Op → Prop} (hp : Finds p Q) (huses : p.Uses P) (s : Trace Ans) :
    p.Always recorder (fun _ => True)
      (fun a t => ∃ own, t = own ++ s ∧ (∀ c ∈ own, P c.1) ∧ Q a own) s := by
  have hkeep : p.Keeps recorder fun t => ∃ own, t = own ++ s ∧ ∀ c ∈ own, P c.1 := by
    refine uses_keeps huses ?_
    rintro o x t ho ⟨own,rfl,hown⟩
    exact ⟨⟨o,x⟩::own,rfl,List.forall_mem_cons.mpr ⟨ho,hown⟩⟩
  refine ((hp s []).and (hkeep s ⟨[],rfl,List.forall_mem_nil _⟩)).mono (fun _ _ => trivial) ?_
  rintro a t ⟨-,own,rfl,hown⟩ ⟨⟨own',heq,ha⟩,-⟩
  obtain rfl := List.append_cancel_right heq
  exact ⟨own,rfl,hown,ha⟩

end Finds

end Trace
end KvmAgent
