import Mathlib.Data.List.Basic

/-! Programs as trees of operations that an environment answers, with a logic for them.
A run consumes one choice of the environment for each operation and is cut short where
the choices end, so a property of every list of choices is a property of every point
at which the process may die. -/
namespace KvmAgent

/-- A program over operations `Op`; the environment answers `op` in `Ans op`. -/
inductive Prog {Op : Type} (Ans : Op → Type) (α : Type) : Type
  | ret (a : α)
  | call (op : Op) (k : Ans op → Prog Ans α)

/-- What choice `c` of the environment makes of an operation in a state; `none` when
the operation does not return there. -/
abbrev Handler {Op : Type} (Ans : Op → Type) (C σ : Type) :=
  (op : Op) → C → σ → Option (Ans op × σ)

namespace Prog

variable {Op : Type} {Ans : Op → Type} {α β γ C σ : Type}

def bind : Prog Ans α → (α → Prog Ans β) → Prog Ans β
  | .ret a, f => f a
  | .call op k, f => .call op fun x => (k x).bind f

instance : Monad (Prog Ans) where
  pure := .ret
  bind := bind

def op (o : Op) : Prog Ans (Ans o) := .call o .ret

@[simp] theorem pure_eq (a : α) : (pure a : Prog Ans α) = .ret a := rfl
@[simp] theorem ret_bind (a : α) (f : α → Prog Ans β) : (Prog.ret a >>= f) = f a := rfl
@[simp] theorem call_bind (o : Op) (k : Ans o → Prog Ans α) (f : α → Prog Ans β) :
    (Prog.call o k >>= f) = .call o fun x => k x >>= f := rfl
@[simp] theorem op_eq (o : Op) : op o = (.call o .ret : Prog Ans (Ans o)) := rfl

theorem bind_ret (p : Prog Ans α) : (p >>= Prog.ret) = p := by
  induction p with
  | ret a => rfl
  | call o k ih => simp [ih]

theorem bind_assoc (p : Prog Ans α) (f : α → Prog Ans β) (g : β → Prog Ans γ) :
    (p >>= f >>= g) = (p >>= fun a => f a >>= g) := by
  induction p with
  | ret a => rfl
  | call o k ih => simp [ih]

instance : LawfulMonad (Prog Ans) :=
  LawfulMonad.mk' _ (fun p => bind_ret p) (fun _ _ => rfl) bind_assoc

/-- Run against the environment's choices. The first component is `none` when the run
was cut short; the second is the state it left behind. -/
def run (h : Handler Ans C σ) : Prog Ans α → List C → σ → Option α × σ
  | .ret a, _, s => (some a,s)
  | .call _ _, [], s => (none,s)
  | .call o k, c::cs, s =>
    match h o c s with
    | none => (none,s)
    | some (x,t) => (k x).run h cs t

/-- `I` holds in every state a run from `s` passes through, and `Q` when it returns. -/
def Always (h : Handler Ans C σ) (I : σ → Prop) (Q : α → σ → Prop) : Prog Ans α → σ → Prop
  | .ret a, s => I s ∧ Q a s
  | .call o k, s => I s ∧ ∀ c x t, h o c s = some (x,t) → (k x).Always h I Q t

variable {h : Handler Ans C σ} {I J : σ → Prop} {Q R : α → σ → Prop}

@[simp] theorem always_ret {a : α} {s : σ} : (Prog.ret a : Prog Ans α).Always h I Q s ↔ I s ∧ Q a s :=
  Iff.rfl

theorem always_call {o : Op} {k : Ans o → Prog Ans α} {s : σ} :
    (Prog.call o k).Always h I Q s ↔
      I s ∧ ∀ c x t, h o c s = some (x,t) → (k x).Always h I Q t :=
  Iff.rfl

theorem Always.here {p : Prog Ans α} {s : σ} (hp : p.Always h I Q s) : I s := by
  cases p with
  | ret a => exact hp.1
  | call o k => exact hp.1

theorem Always.mono {p : Prog Ans α} {s : σ} (hp : p.Always h I Q s)
    (hI : ∀ t, I t → J t) (hQ : ∀ a t, I t → Q a t → R a t) : p.Always h J R s := by
  induction p generalizing s with
  | ret a => exact ⟨hI s hp.1,hQ a s hp.1 hp.2⟩
  | call o k ih => exact ⟨hI s hp.1,fun c x t hc => ih x (hp.2 c x t hc)⟩

theorem Always.and {p : Prog Ans α} {s : σ} (hp : p.Always h I Q s) (hq : p.Always h J R s) :
    p.Always h (fun t => I t ∧ J t) (fun a t => Q a t ∧ R a t) s := by
  induction p generalizing s with
  | ret a => exact ⟨⟨hp.1,hq.1⟩,hp.2,hq.2⟩
  | call o k ih => exact ⟨⟨hp.1,hq.1⟩,fun c x t hc => ih x (hp.2 c x t hc) (hq.2 c x t hc)⟩

/-- An environment that can do less gives the same guarantees. -/
theorem Always.restrict {C' : Type} {h' : Handler Ans C' σ}
    (hsub : ∀ o c s x t, h' o c s = some (x,t) → ∃ c', h o c' s = some (x,t)) {p : Prog Ans α}
    {s : σ} (hp : p.Always h I Q s) : p.Always h' I Q s := by
  induction p generalizing s with
  | ret a => exact hp
  | call o k ih =>
    refine ⟨hp.1,fun c x t hc => ?_⟩
    obtain ⟨c',hc'⟩ := hsub o c s x t hc
    exact ih x (hp.2 c' x t hc')

theorem always_true (p : Prog Ans α) (s : σ) :
    p.Always h (fun _ => True) (fun _ _ => True) s := by
  induction p generalizing s with
  | ret a => exact ⟨trivial,trivial⟩
  | call o k ih => exact ⟨trivial,fun _ x t _ => ih x t⟩

theorem always_bind {p : Prog Ans β} {f : β → Prog Ans α} {s : σ} :
    (p >>= f).Always h I Q s ↔ p.Always h I (fun b t => (f b).Always h I Q t) s := by
  induction p generalizing s with
  | ret b => exact ⟨fun hf => ⟨hf.here,hf⟩,fun hf => hf.2⟩
  | call o k ih => simp [always_call,ih]

/-- The logic is sound for runs: it speaks of the state left behind at every cut. -/
theorem Always.run {p : Prog Ans α} {s : σ} (hp : p.Always h I Q s) (cs : List C) :
    I (p.run h cs s).2 ∧ ∀ a, (p.run h cs s).1 = some a → Q a (p.run h cs s).2 := by
  induction p generalizing s cs with
  | ret a => exact ⟨hp.1,by rintro b hb; cases hb; exact hp.2⟩
  | call o k ih =>
    cases cs with
    | nil => exact ⟨hp.1,by simp [Prog.run]⟩
    | cons c cs =>
      cases hc : h o c s with
      | none => exact ⟨by simpa [Prog.run,hc] using hp.1,by simp [Prog.run,hc]⟩
      | some xt =>
        obtain ⟨x,t⟩ := xt
        simpa [Prog.run,hc] using ih x (hp.2 c x t hc) cs

/-- What holds of every run, wherever it is cut, the logic can show. -/
theorem always_of_run {p : Prog Ans α} {s : σ}
    (hp : ∀ cs, I (p.run h cs s).2 ∧ ∀ a, (p.run h cs s).1 = some a → Q a (p.run h cs s).2) :
    p.Always h I Q s := by
  induction p generalizing s with
  | ret a => exact ⟨(hp []).1,(hp []).2 a rfl⟩
  | call o k ih =>
    refine ⟨(hp []).1,fun c x t hc => ih x fun cs => ?_⟩
    have hrun := hp (c::cs)
    simp only [Prog.run,hc] at hrun
    exact hrun

/-- `E` holds of how a run from `s` ends: with its result, or with `none` where it was cut
short. -/
def Outcome (h : Handler Ans C σ) (E : Option α → σ → Prop) : Prog Ans α → σ → Prop
  | .ret a, s => E (some a) s
  | .call o k, s => E none s ∧ ∀ c x t, h o c s = some (x,t) → (k x).Outcome h E t

theorem outcome_bind {E : Option α → σ → Prop} {p : Prog Ans β} {f : β → Prog Ans α} {s : σ} :
    (p >>= f).Outcome h E s ↔
      p.Outcome h (fun o t => Option.elim o (E none t) fun b => (f b).Outcome h E t) s := by
  induction p generalizing s with
  | ret b => exact Iff.rfl
  | call o k ih =>
    refine and_congr_right fun _ => ⟨fun hk c x t hc => ?_,fun hk c x t hc => ?_⟩
    · exact (ih x).mp (hk c x t hc)
    · exact (ih x).mpr (hk c x t hc)

theorem Always.outcome {E : Option α → σ → Prop} {p : Prog Ans α} {s : σ}
    (hp : p.Always h I Q s) (hcut : ∀ t, I t → E none t)
    (hret : ∀ a t, I t → Q a t → E (some a) t) : p.Outcome h E s := by
  induction p generalizing s with
  | ret a => exact hret a s hp.1 hp.2
  | call o k ih => exact ⟨hcut s hp.1,fun c x t hc => ih x (hp.2 c x t hc)⟩

theorem Outcome.run {E : Option α → σ → Prop} {p : Prog Ans α} {s : σ} (hp : p.Outcome h E s)
    (cs : List C) : E (p.run h cs s).1 (p.run h cs s).2 := by
  induction p generalizing s cs with
  | ret a => exact hp
  | call o k ih =>
    cases cs with
    | nil => exact hp.1
    | cons c cs =>
      cases hc : h o c s with
      | none => simpa [Prog.run,hc] using hp.1
      | some xt =>
        obtain ⟨x,t⟩ := xt
        simpa [Prog.run,hc] using ih x (hp.2 c x t hc) cs

/-- While the environment's choices are good, the program returns within `n` operations,
and in `Q`. -/
def Returns (h : Handler Ans C σ) (good : C → Prop) (Q : α → σ → Prop) :
    ℕ → Prog Ans α → σ → Prop
  | _, .ret a, s => Q a s
  | 0, .call .., _ => False
  | n+1, .call o k, s => ∀ c, good c → ∃ x t, h o c s = some (x,t) ∧ Returns h good Q n (k x) t

section Returns

variable {good : C → Prop} {n m : ℕ}

@[simp] theorem returns_ret {a : α} {s : σ} :
    (Prog.ret a : Prog Ans α).Returns h good Q n s ↔ Q a s := by
  cases n <;> rfl

theorem Returns.mono {p : Prog Ans α} {s : σ} (hp : p.Returns h good Q n s) (hn : n ≤ m)
    (hQ : ∀ a t, Q a t → R a t) : p.Returns h good R m s := by
  induction n generalizing m p s with
  | zero =>
    cases p with
    | ret a => exact returns_ret.mpr (hQ a s hp)
    | call o k => exact hp.elim
  | succ n ih =>
    cases p with
    | ret a => exact returns_ret.mpr (hQ a s hp)
    | call o k =>
      obtain ⟨m,rfl⟩ : ∃ m', m = m'+1 := ⟨m-1,by omega⟩
      intro c hc
      obtain ⟨x,t,hstep,hk⟩ := hp c hc
      exact ⟨x,t,hstep,ih hk (by omega)⟩

theorem returns_bind {p : Prog Ans β} {f : β → Prog Ans α} {s : σ}
    (hp : p.Returns h good (fun b t => (f b).Returns h good Q m t) n s) :
    (p >>= f).Returns h good Q (n+m) s := by
  induction n generalizing p s with
  | zero =>
    cases p with
    | ret b =>
      have hb : (f b).Returns h good Q m s := hp
      exact hb.mono (Nat.le_add_left m 0) fun _ _ hq => hq
    | call o k => exact hp.elim
  | succ n ih =>
    cases p with
    | ret b =>
      have hb : (f b).Returns h good Q m s := hp
      exact hb.mono (Nat.le_add_left m (n+1)) fun _ _ hq => hq
    | call o k =>
      rw [Nat.add_right_comm]
      intro c hc
      obtain ⟨x,t,hstep,hk⟩ := hp c hc
      exact ⟨x,t,hstep,ih hk⟩

theorem Returns.and_always {p : Prog Ans α} {s : σ} (hp : p.Returns h good Q n s)
    (ha : p.Always h I R s) : p.Returns h good (fun a t => Q a t ∧ R a t) n s := by
  induction n generalizing p s with
  | zero =>
    cases p with
    | ret a => exact ⟨hp,ha.2⟩
    | call o k => exact hp.elim
  | succ n ih =>
    cases p with
    | ret a => exact ⟨hp,ha.2⟩
    | call o k =>
      intro c hc
      obtain ⟨x,t,hstep,hk⟩ := hp c hc
      exact ⟨x,t,hstep,ih hk (ha.2 c x t hstep)⟩

theorem Returns.run {p : Prog Ans α} {s : σ} (hp : p.Returns h good Q n s) {cs : List C}
    (hcs : ∀ c ∈ cs, good c) (hn : n ≤ cs.length) :
    ∃ a, (p.run h cs s).1 = some a ∧ Q a (p.run h cs s).2 := by
  induction n generalizing p s cs with
  | zero =>
    cases p with
    | ret a => exact ⟨a,rfl,hp⟩
    | call o k => exact hp.elim
  | succ n ih =>
    cases p with
    | ret a => exact ⟨a,rfl,hp⟩
    | call o k =>
      cases cs with
      | nil => simp at hn
      | cons c cs =>
        obtain ⟨x,t,hstep,hk⟩ := hp c (hcs c (by simp))
        obtain ⟨a,ha,hq⟩ := ih hk (fun d hd => hcs d (List.mem_cons_of_mem c hd))
          (Nat.le_of_succ_le_succ hn)
        exact ⟨a,by simpa [Prog.run,hstep] using ha,by simpa [Prog.run,hstep] using hq⟩

end Returns

/-- The states a run passes through, the first and the last included. -/
def visits (h : Handler Ans C σ) : Prog Ans α → List C → σ → List σ
  | .ret _, _, s => [s]
  | .call _ _, [], s => [s]
  | .call o k, c::cs, s =>
    match h o c s with
    | none => [s]
    | some (x,t) => s::(k x).visits h cs t

theorem start_mem_visits (p : Prog Ans α) (cs : List C) (s : σ) : s ∈ p.visits h cs s := by
  cases p with
  | ret a => simp [Prog.visits]
  | call o k =>
    cases cs with
    | nil => simp [Prog.visits]
    | cons c cs => cases hc : h o c s <;> simp [Prog.visits,hc]

theorem Always.visits {p : Prog Ans α} {s : σ} (hp : p.Always h I Q s) (cs : List C) :
    ∀ t ∈ p.visits h cs s, I t := by
  induction p generalizing s cs with
  | ret a => simpa [Prog.visits] using hp.1
  | call o k ih =>
    cases cs with
    | nil => simpa [Prog.visits] using hp.1
    | cons c cs =>
      cases hc : h o c s with
      | none => simpa [Prog.visits,hc] using hp.1
      | some xt =>
        obtain ⟨x,t⟩ := xt
        simpa [Prog.visits,hc] using ⟨hp.1,ih x (hp.2 c x t hc) cs⟩

section Within

variable {G : σ → Prop}

open Classical in
/-- The environment without the steps that leave `G`. -/
noncomputable def within (h : Handler Ans C σ) (G : σ → Prop) : Handler Ans C σ :=
  fun o c s => (h o c s).filter fun r => G r.2

theorem within_iff {o : Op} {c : C} {s t : σ} {x : Ans o} :
    within h G o c s = some (x,t) ↔ h o c s = some (x,t) ∧ G t := by
  simp [within,Option.filter_eq_some_iff]

end Within

/-- Each operation the program comes to satisfies `G` in the state it is asked in. -/
inductive Guarded (h : Handler Ans C σ) (G : σ → Op → Prop) : Prog Ans α → σ → Prop
  | ret (a : α) (s : σ) : Guarded h G (.ret a) s
  | call {o : Op} {k : Ans o → Prog Ans α} {s : σ} (ho : G s o)
    (hk : ∀ c x t, h o c s = some (x,t) → Guarded h G (k x) t) : Guarded h G (.call o k) s

theorem guarded_bind {G : σ → Op → Prop} {p : Prog Ans β} {f : β → Prog Ans α} {s : σ}
    {F : β → σ → Prop} (hp : p.Guarded h G s) (hpost : p.Always h (fun _ => True) F s)
    (hf : ∀ b t, F b t → (f b).Guarded h G t) : (p >>= f).Guarded h G s := by
  induction hp with
  | ret b s => exact hf b s hpost.2
  | call ho _ ih => exact .call ho fun c x t hc => ih c x t hc (hpost.2 c x t hc)

/-- What each guarded operation does to the state, the run does between any two states it
passes through, in their order. -/
theorem Guarded.visits {G : σ → Op → Prop} {S : σ → σ → Prop} (hrefl : ∀ s, S s s)
    (htrans : ∀ a b c, S a b → S b c → S a c)
    (hstep : ∀ s o c x t, G s o → h o c s = some (x,t) → S s t) {p : Prog Ans α} {s : σ}
    (hp : p.Guarded h G s) (cs : List C) :
    (p.visits h cs s).Pairwise S ∧
      ∀ t ∈ p.visits h cs s, S s t ∧ S t (p.run h cs s).2 := by
  induction hp generalizing cs with
  | ret a s => simp [Prog.visits,Prog.run,hrefl]
  | @call o k s ho _ ih =>
    cases cs with
    | nil => simp [Prog.visits,Prog.run,hrefl]
    | cons c cs =>
      cases hc : h o c s with
      | none => simp [Prog.visits,Prog.run,hc,hrefl]
      | some xt =>
        obtain ⟨x,t⟩ := xt
        obtain ⟨hpair,hends⟩ := ih c x t hc cs
        have hst : S s t := hstep s o c x t ho hc
        have hfirst : ∀ u ∈ (k x).visits h cs t, S s u := fun u hu => htrans s t u hst (hends u hu).1
        have hlast : S s ((k x).run h cs t).2 := htrans s t _ hst (hends t (start_mem_visits ..)).2
        simp only [Prog.visits,Prog.run,hc,List.pairwise_cons,List.mem_cons]
        refine ⟨⟨hfirst,hpair⟩,?_⟩
        rintro u (rfl | hu)
        · exact ⟨hrefl u,hlast⟩
        · exact ⟨hfirst u hu,(hends u hu).2⟩

/-- Every operation the program can come to satisfies `P`. -/
inductive Uses (P : Op → Prop) : Prog Ans α → Prop
  | ret (a : α) : Uses P (.ret a)
  | call {o : Op} {k : Ans o → Prog Ans α} (ho : P o) (hk : ∀ x, Uses P (k x)) :
    Uses P (.call o k)

theorem uses_op {P : Op → Prop} {o : Op} (ho : P o) : (op o : Prog Ans (Ans o)).Uses P :=
  .call ho .ret

theorem uses_bind {P : Op → Prop} {p : Prog Ans α} {f : α → Prog Ans β} (hp : p.Uses P)
    (hf : ∀ a, (f a).Uses P) : (p >>= f).Uses P := by
  induction hp with
  | ret a => exact hf a
  | call ho _ ih => exact .call ho ih

theorem Uses.mono {P R : Op → Prop} {p : Prog Ans α} (hp : p.Uses P) (hPR : ∀ o, P o → R o) :
    p.Uses R := by
  induction hp with
  | ret a => exact .ret a
  | call ho _ ih => exact .call (hPR _ ho) ih

theorem Uses.guarded {P : Op → Prop} {G : σ → Op → Prop} {p : Prog Ans α} (hp : p.Uses P)
    (hPG : ∀ s o, P o → G s o) (s : σ) : p.Guarded h G s := by
  induction hp generalizing s with
  | ret a => exact .ret a s
  | call ho _ ih => exact .call (hPG s _ ho) fun c x t _ => ih x t

/-- Repeat `body` at most `n` times, from one loop head to the next. -/
def loop {S R : Type} (body : S → Prog Ans (S ⊕ R)) : ℕ → S → Prog Ans (S ⊕ R)
  | 0, s => .ret (.inl s)
  | n+1, s => body s >>= fun
    | .inl t => loop body n t
    | .inr r => .ret (.inr r)

theorem uses_loop {S R : Type} {P : Op → Prop} {body : S → Prog Ans (S ⊕ R)}
    (hbody : ∀ s, (body s).Uses P) (n : ℕ) (s : S) : (loop body n s).Uses P := by
  induction n generalizing s with
  | zero => exact .ret _
  | succ n ih =>
    refine uses_bind (hbody s) fun o => ?_
    cases o with
    | inl t => exact ih t
    | inr r => exact .ret _

theorem always_loop {S R : Type} {body : S → Prog Ans (S ⊕ R)} {L : S → σ → Prop}
    {P : R → σ → Prop}
    (hbody : ∀ l s, L l s → (body l).Always h I (fun o t => Sum.elim (L · t) (P · t) o) s)
    (n : ℕ) {l : S} {s : σ} (hl : L l s) :
    (loop body n l).Always h I (fun o t => Sum.elim (L · t) (P · t) o) s := by
  induction n generalizing l s with
  | zero => exact ⟨(hbody l s hl).here,hl⟩
  | succ n ih =>
    rw [loop,always_bind]
    refine (hbody l s hl).mono (fun _ ht => ht) ?_
    rintro (l' | r) t hI ht
    · exact ih ht
    · exact ⟨hI,ht⟩

/-- A loop whose body leaves it or comes closer to its end leaves it within as many rounds
as it is away from the end. -/
theorem always_loop_bounded {S R : Type} {body : S → Prog Ans (S ⊕ R)} {L : S → σ → Prop}
    {P : R → σ → Prop} (left : S → ℕ) (hpos : ∀ l s, L l s → 0 < left l)
    (hbody : ∀ l s, L l s → (body l).Always h I
      (fun o t => Sum.elim (fun l' => L l' t ∧ left l' < left l) (P · t) o) s)
    (n : ℕ) {l : S} {s : σ} (hl : L l s) (hn : left l ≤ n) :
    (loop body n l).Always h I (fun o t => ∃ r, o = .inr r ∧ P r t) s := by
  induction n generalizing l s with
  | zero =>
    have hp := hpos l s hl
    omega
  | succ n ih =>
    rw [loop,always_bind]
    refine (hbody l s hl).mono (fun _ ht => ht) ?_
    rintro (l' | r) t hI ht
    · obtain ⟨hl',hlt⟩ := ht
      exact ih hl' (by omega)
    · exact ⟨hI,r,rfl,ht⟩

def Keeps (h : Handler Ans C σ) (I : σ → Prop) (p : Prog Ans α) : Prop :=
  ∀ s, I s → p.Always h I (fun _ _ => True) s

theorem keeps_ret (a : α) : (Prog.ret a : Prog Ans α).Keeps h I := fun _ hs => ⟨hs,trivial⟩

theorem keeps_bind {p : Prog Ans β} {f : β → Prog Ans α} (hp : p.Keeps h I)
    (hf : ∀ b, (f b).Keeps h I) : (p >>= f).Keeps h I := fun s hs =>
  always_bind.mpr ((hp s hs).mono (fun _ ht => ht) fun b t ht _ => hf b t ht)

theorem Uses.keeps {P : Op → Prop} {p : Prog Ans α} (hp : p.Uses P)
    (hkeep : ∀ o c s x t, P o → h o c s = some (x,t) → I s → I t) : p.Keeps h I := by
  intro s hs
  induction hp generalizing s with
  | ret a => exact ⟨hs,trivial⟩
  | call ho _ ih => exact ⟨hs,fun c x t hc => ih x t (hkeep _ c s x t ho hc hs)⟩

theorem keeps_loop {S R : Type} {body : S → Prog Ans (S ⊕ R)} (hbody : ∀ l, (body l).Keeps h I)
    (n : ℕ) (l : S) : (loop body n l).Keeps h I := by
  induction n generalizing l with
  | zero => exact keeps_ret _
  | succ n ih =>
    refine keeps_bind (hbody l) fun o => ?_
    cases o with
    | inl t => exact ih t
    | inr r => exact keeps_ret _

section Via

variable {Op' : Type} {Ans' : Op' → Type} {P : Op → Prop}

/-- The program with a program in place of each operation. -/
def via (f : ∀ o, Prog Ans' (Ans o)) : Prog Ans α → Prog Ans' α
  | .ret a => .ret a
  | .call o k => f o >>= fun x => (k x).via f

variable {h' : Handler Ans' C σ} {f : ∀ o, Prog Ans' (Ans o)}

theorem via_bind (p : Prog Ans β) (g : β → Prog Ans α) :
    (p >>= g).via f = p.via f >>= fun b => (g b).via f := by
  induction p with
  | ret b => rfl
  | call o k ih =>
    rw [call_bind,via,via,bind_assoc]
    exact congrArg (f o >>= ·) (funext ih)

theorem always_via_call {o : Op} {k : Ans o → Prog Ans α} {s : σ} :
    ((Prog.call o k).via f).Always h' I Q s ↔
      (f o).Always h' I (fun x t => ((k x).via f).Always h' I Q t) s :=
  always_bind

theorem always_via_op {inj : Op → Op'} {p : Prog (fun o => Ans' (inj o)) α} {s : σ} :
    (p.via fun o => op (inj o)).Always h' I Q s ↔ p.Always (fun o => h' (inj o)) I Q s := by
  induction p generalizing s with
  | ret a => exact Iff.rfl
  | call o k ih => exact and_congr_right fun _ =>
      ⟨fun hk c x t hc => (ih x).mp (hk c x t hc),fun hk c x t hc => (ih x).mpr (hk c x t hc)⟩

theorem Uses.keeps_via {p : Prog Ans α} (hp : p.Uses P) (hf : ∀ o, P o → (f o).Keeps h' I) :
    (p.via f).Keeps h' I := by
  induction hp with
  | ret a => exact keeps_ret a
  | call ho _ ih => exact keeps_bind (hf _ ho) ih

theorem keeps_via (p : Prog Ans α) (hf : ∀ o, (f o).Keeps h' I) : (p.via f).Keeps h' I := by
  induction p with
  | ret a => exact keeps_ret a
  | call o k ih => exact keeps_bind (hf o) ih

end Via

end Prog
end KvmAgent
