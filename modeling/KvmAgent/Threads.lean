import KvmAgent.Trace
import Mathlib.Logic.Function.Basic

/-! Programs that run side by side on a shared state, one operation of one thread at a
time in any order; operations may start threads. -/
namespace KvmAgent

/-- A thread: what it has still to do, and the calls it has made. -/
structure Thread {Op : Type} (Ans : Op → Type) where
  rest : Prog Ans Unit
  past : Trace Ans

/-- What operations do to the shared state, what else happens to it, and which thread an
operation starts. A handler that answers `none` lets its thread wait; a thread that was
stopped is one that is not scheduled again. -/
structure Threads (ι : Type) {Op : Type} (Ans : Op → Type) (C E σ : Type) where
  handler : ι → Handler Ans C σ
  env : E → σ → σ
  spawns : Op → Option (ι × Prog Ans Unit)

namespace Threads

variable {ι Op C E σ : Type} {Ans : Op → Type} [DecidableEq ι]

structure Config (ι : Type) {Op : Type} (Ans : Op → Type) (σ : Type) where
  pool : ι → Thread Ans
  shared : σ

/-- One scheduled operation of a thread, or something else that happens. -/
inductive Action (ι C E : Type)
  | run (i : ι) (c : C)
  | env (e : E)

def idle : Thread Ans := ⟨.ret (),[]⟩

variable (T : Threads ι Ans C E σ)

def answered (pool : ι → Thread Ans) (i : ι) (o : Op) (x : Ans o) (rest : Prog Ans Unit) :
    ι → Thread Ans :=
  match T.spawns o with
  | none => Function.update pool i ⟨rest,⟨o,x⟩::(pool i).past⟩
  | some (j,p) => Function.update (Function.update pool i ⟨rest,⟨o,x⟩::(pool i).past⟩) j ⟨p,[]⟩

def step (w : Config ι Ans σ) : Action ι C E → Config ι Ans σ
  | .env e => { w with shared := T.env e w.shared }
  | .run i c =>
    match (w.pool i).rest with
    | .ret _ => w
    | .call o k =>
      match T.handler i o c w.shared with
      | none => w
      | some (x,t) => ⟨T.answered w.pool i o x (k x),t⟩

def after (w : Config ι Ans σ) (actions : List (Action ι C E)) : Config ι Ans σ :=
  actions.foldl T.step w

theorem after_append (w : Config ι Ans σ) (earlier later : List (Action ι C E)) :
    T.after w (earlier ++ later) = T.after (T.after w earlier) later :=
  List.foldl_append

theorem after_invariant {Inv : Config ι Ans σ → Prop} (hstep : ∀ w a, Inv w → Inv (T.step w a))
    {w : Config ι Ans σ} (hw : Inv w) (actions : List (Action ι C E)) :
    Inv (T.after w actions) := by
  induction actions generalizing w with
  | nil => exact hw
  | cons a as ih => exact ih (hstep w a hw)

/-- `P` holds of every step of a run, as of its state and action. -/
def Throughout (P : Config ι Ans σ → Action ι C E → Prop) : Config ι Ans σ → List (Action ι C E) → Prop
  | _, [] => True
  | w, a::as => P w a ∧ Throughout P (T.step w a) as

instance decidableThroughout {P : Config ι Ans σ → Action ι C E → Prop}
    [hP : ∀ w a, Decidable (P w a)] : ∀ w actions, Decidable (T.Throughout P w actions)
  | _, [] => inferInstanceAs (Decidable True)
  | w, a::as => @instDecidableAnd _ _ (hP w a) (decidableThroughout (T.step w a) as)

theorem Throughout.mono {P Q : Config ι Ans σ → Action ι C E → Prop} {w : Config ι Ans σ}
    {actions : List (Action ι C E)} (h : T.Throughout P w actions) (hPQ : ∀ w a, P w a → Q w a) :
    T.Throughout Q w actions := by
  induction actions generalizing w with
  | nil => trivial
  | cons a as ih => exact ⟨hPQ w a h.1,ih h.2⟩

theorem throughout_append {P : Config ι Ans σ → Action ι C E → Prop} {w : Config ι Ans σ}
    {earlier later : List (Action ι C E)} : T.Throughout P w (earlier ++ later) ↔
      T.Throughout P w earlier ∧ T.Throughout P (T.after w earlier) later := by
  induction earlier generalizing w with
  | nil => exact (and_iff_right trivial).symm
  | cons a as ih => exact (and_congr_right fun _ => ih).trans and_assoc.symm

/-- An invariant of the steps that meet a condition holds throughout a run whose steps all
meet it. -/
theorem throughout_invariant {Inv : Config ι Ans σ → Prop}
    {P : Config ι Ans σ → Action ι C E → Prop} (hstep : ∀ w a, P w a → Inv w → Inv (T.step w a))
    {w : Config ι Ans σ} {actions : List (Action ι C E)} (hP : T.Throughout P w actions)
    (hw : Inv w) : T.Throughout (fun w _ => Inv w) w actions ∧ Inv (T.after w actions) := by
  induction actions generalizing w with
  | nil => exact ⟨trivial,hw⟩
  | cons a as ih =>
    obtain ⟨hrest,hend⟩ := ih hP.2 (hstep w a hP.1 hw)
    exact ⟨⟨hw,hrest⟩,hend⟩

/-- A step does nothing, is the environment's, or answers one operation of one thread. -/
theorem step_cases (w : Config ι Ans σ) (a : Action ι C E) :
    T.step w a = w ∨ (∃ e, T.step w a = { w with shared := T.env e w.shared }) ∨
    ∃ i c o k x t, (w.pool i).rest = .call o k ∧ T.handler i o c w.shared = some (x,t) ∧
      T.step w a = ⟨T.answered w.pool i o x (k x),t⟩ := by
  cases a with
  | env e => exact .inr (.inl ⟨e,rfl⟩)
  | run i c =>
    simp only [step]
    cases hrest : (w.pool i).rest with
    | ret _ => exact .inl rfl
    | call o k =>
      cases hh : T.handler i o c w.shared with
      | none => exact .inl (by simp only [hh])
      | some xt =>
        obtain ⟨x,t⟩ := xt
        exact .inr (.inr ⟨i,c,o,k,x,t,hrest,hh,by simp only [hh]⟩)

variable {T}

theorem answered_none {o : Op} (ho : T.spawns o = none) (pool : ι → Thread Ans) (i : ι) (x : Ans o)
    (rest : Prog Ans Unit) :
    T.answered pool i o x rest = Function.update pool i ⟨rest,⟨o,x⟩::(pool i).past⟩ := by
  simp [answered,ho]

theorem answered_past (pool : ι → Thread Ans) (i : ι) (o : Op) (x : Ans o) (rest : Prog Ans Unit)
    (j : ι) : (T.answered pool i o x rest j).past = [] ∨
      (T.answered pool i o x rest j).past =
        if j = i then ⟨o,x⟩::(pool i).past else (pool j).past := by
  have hmoved : (Function.update pool i ⟨rest,⟨o,x⟩::(pool i).past⟩ j).past =
      if j = i then ⟨o,x⟩::(pool i).past else (pool j).past := by
    by_cases hj : j = i
    · subst hj
      simp
    · simp [hj]
  unfold answered
  cases T.spawns o with
  | none => exact .inr hmoved
  | some lp =>
    by_cases hl : j = lp.1
    · exact .inl (by simp [hl])
    · exact .inr (by simpa [hl] using hmoved)

theorem answered_unspawned {i : ι} {o : Op} (hspawn : ∀ l q, T.spawns o = some (l,q) → l ≠ i)
    (pool : ι → Thread Ans) (j : ι) (x : Ans o) (rest : Prog Ans Unit) :
    T.answered pool j o x rest i = Function.update pool j ⟨rest,⟨o,x⟩::(pool j).past⟩ i := by
  unfold answered
  cases hs : T.spawns o with
  | none => rfl
  | some lq =>
    have hne : i ≠ lq.1 := (hspawn lq.1 lq.2 hs).symm
    simp [hne]

theorem reaches_answered {pool : ι → Thread Ans} {i j : ι} {p : Prog Ans Unit}
    (hi : Trace.Reaches p (pool i).past (pool i).rest) {o : Op} {k : Ans o → Prog Ans Unit}
    (hrest : (pool j).rest = .call o k) (hspawn : ∀ l q, T.spawns o = some (l,q) → l ≠ i) (x : Ans o) :
    Trace.Reaches p (T.answered pool j o x (k x) i).past (T.answered pool j o x (k x) i).rest := by
  rw [answered_unspawned hspawn]
  by_cases hij : i = j
  · subst hij
    rw [hrest] at hi
    simpa using hi.answer x
  · simpa [hij] using hi

section Alone

variable {α β : Type} {i : ι} {p : Prog Ans α} {f : α → Prog Ans β} {s t u : σ} {a : α} {b : β}

/-- One thread goes through a program while no other is scheduled. -/
inductive Alone (T : Threads ι Ans C E σ) (i : ι) : Prog Ans α → σ → α → σ → Prop
  | ret {a : α} {s : σ} : Alone T i (.ret a) s a s
  | env {p : Prog Ans α} {s t : σ} {a : α} (e : E) (h : Alone T i p (T.env e s) a t) :
    Alone T i p s a t
  | call {o : Op} {k : Ans o → Prog Ans α} {c : C} {x : Ans o} {s s' t : σ} {a : α}
    (ho : T.spawns o = none) (hh : T.handler i o c s = some (x,s')) (h : Alone T i (k x) s' a t) :
    Alone T i (.call o k) s a t

omit [DecidableEq ι] in
theorem Alone.bind (hp : Alone T i p s a t) (hf : Alone T i (f a) t b u) :
    Alone T i (p >>= f) s b u := by
  induction hp with
  | ret => exact hf
  | env e _ ih => exact .env e (ih hf)
  | call ho hh _ ih => exact .call ho hh (ih hf)

/-- It makes calls that take it to the end, and from every state that shows what it finds
there is a schedule in which it makes them. -/
theorem Alone.run (hp : Alone T i p s a t) : ∃ calls, Trace.Reaches p calls (.ret a) ∧
    ∀ (w : Config ι Ans σ) (f : α → Prog Ans Unit), (w.pool i).rest = p >>= f → w.shared = s →
      ∃ actions, T.after w actions =
        ⟨Function.update w.pool i ⟨f a,calls ++ (w.pool i).past⟩,t⟩ := by
  induction hp with
  | @ret a s =>
    refine ⟨[],.start,?_⟩
    rintro w f hrest rfl
    refine ⟨[],?_⟩
    have hself : w.pool i = ⟨f a,(w.pool i).past⟩ := by rw [← Prog.ret_bind a f,← hrest]
    rw [List.nil_append,← hself,Function.update_eq_self]
    rfl
  | env e _ ih =>
    obtain ⟨calls,hreaches,hrun⟩ := ih
    refine ⟨calls,hreaches,?_⟩
    rintro w f hrest rfl
    obtain ⟨actions,hafter⟩ := hrun { w with shared := T.env e w.shared } f hrest rfl
    exact ⟨.env e::actions,hafter⟩
  | @call o k c x s s' t a ho hh _ ih =>
    obtain ⟨calls,hreaches,hrun⟩ := ih
    refine ⟨calls ++ [⟨o,x⟩],(Trace.Reaches.answer .start x).trans hreaches,?_⟩
    rintro w f hrest rfl
    have hstep : T.step w (.run i c) =
        ⟨Function.update w.pool i ⟨k x >>= f,⟨o,x⟩::(w.pool i).past⟩,s'⟩ := by
      have hcall : (w.pool i).rest = .call o fun x => k x >>= f := hrest
      simp only [step,hcall,hh,answered_none ho]
    obtain ⟨actions,hafter⟩ := hrun (T.step w (.run i c)) f (by rw [hstep]; simp) (by rw [hstep])
    refine ⟨.run i c::actions,?_⟩
    change T.after (T.step w (.run i c)) actions = _
    rw [hafter,hstep]
    simp

end Alone

section Local

variable [DecidableEq Op] {G : ι → Trace Ans → Prop}

/-- Every thread keeps its own invariant of its calls, however it is answered. -/
def Local (G : ι → Trace Ans → Prop) (pool : ι → Thread Ans) : Prop :=
  ∀ i, (pool i).rest.Always recorder (G i) (fun _ _ => True) (pool i).past

theorem local_answered (hspawn : ∀ o j p, T.spawns o = some (j,p) →
      p.Always recorder (G j) (fun _ _ => True) [])
    {pool : ι → Thread Ans} (hpool : Local G pool) {i : ι} {o : Op} {k : Ans o → Prog Ans Unit}
    (hrest : (pool i).rest = .call o k) (x : Ans o) : Local G (T.answered pool i o x (k x)) := by
  have hmoved : Local G (Function.update pool i ⟨k x,⟨o,x⟩::(pool i).past⟩) := by
    intro j
    by_cases hj : j = i
    · subst hj
      have hi := hpool j
      rw [hrest] at hi
      simpa using (Trace.always_record.mp hi).2 x
    · simpa [hj] using hpool j
  unfold answered
  cases hs : T.spawns o with
  | none => exact hmoved
  | some jp =>
    intro l
    by_cases hl : l = jp.1
    · subst hl
      simpa using hspawn o jp.1 jp.2 hs
    · simpa [hl] using hmoved l

end Local
end Threads
end KvmAgent
