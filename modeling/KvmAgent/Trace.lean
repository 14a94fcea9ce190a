import KvmAgent.Program

/-! Traces: the calls of a run with their answers, newest first, for programs whose
environment may answer anything; and what lies between two calls of one kind. -/
namespace KvmAgent

variable {Op : Type} {Ans : Op → Type} {α : Type}

abbrev Call (Ans : Op → Type) := Σ o, Ans o

abbrev Trace (Ans : Op → Type) := List (Call Ans)

/-- The environment answers each call as its next choice says, and every call is recorded. -/
def recorder [DecidableEq Op] : Handler Ans (Call Ans) (Trace Ans) := fun o c s =>
  if h : c.1 = o then some (h ▸ c.2,c::s) else none

namespace Trace

section Recorder

variable [DecidableEq Op] {I : Trace Ans → Prop} {Q : α → Trace Ans → Prop} {s : Trace Ans}

theorem recorder_eq_some {o : Op} {c : Call Ans} {s t : Trace Ans} {x : Ans o} :
    recorder o c s = some (x,t) ↔ c = ⟨o,x⟩ ∧ t = ⟨o,x⟩::s := by
  obtain ⟨o',x'⟩ := c
  unfold recorder
  constructor
  · intro h
    split at h
    · next ho =>
      subst ho
      cases h
      exact ⟨rfl,rfl⟩
    · cases h
  · rintro ⟨hc,rfl⟩
    cases hc
    simp

@[simp] theorem recorder_self (o : Op) (x : Ans o) (s : Trace Ans) :
    recorder o ⟨o,x⟩ s = some (x,⟨o,x⟩::s) :=
  recorder_eq_some.mpr ⟨rfl,rfl⟩

@[simp] theorem always_record {o : Op} {k : Ans o → Prog Ans α} :
    (Prog.call o k).Always recorder I Q s ↔
      I s ∧ ∀ x, (k x).Always recorder I Q (⟨o,x⟩::s) :=
  and_congr_right fun _ =>
    ⟨fun h x => h ⟨o,x⟩ x _ (recorder_eq_some.mpr ⟨rfl,rfl⟩),by
      rintro h c x t hc
      obtain ⟨-,rfl⟩ := recorder_eq_some.mp hc
      exact h x⟩

theorem always_ask {o : Op} {k : Ans o → Prog Ans α} :
    (Prog.op o >>= k).Always recorder I Q s ↔
      I s ∧ ∀ x, (k x).Always recorder I Q (⟨o,x⟩::s) :=
  always_record

theorem outcome_ask {E : Option α → Trace Ans → Prop} {o : Op} {k : Ans o → Prog Ans α} :
    (Prog.call o k).Outcome recorder E s ↔
      E none s ∧ ∀ x, (k x).Outcome recorder E (⟨o,x⟩::s) :=
  and_congr_right fun _ =>
    ⟨fun h x => h ⟨o,x⟩ x _ (recorder_eq_some.mpr ⟨rfl,rfl⟩),by
      rintro h c x t hc
      obtain ⟨-,rfl⟩ := recorder_eq_some.mp hc
      exact h x⟩

/-- A run that was cut short could have gone on by one more call. -/
theorem extends_of_cut [∀ o, Nonempty (Ans o)] {p : Prog Ans α} {cs : List (Call Ans)}
    (h : (p.run recorder cs s).1 = none) :
    ∃ cs' c, (p.run recorder cs' s).2 = c::(p.run recorder cs s).2 := by
  have hmore (o : Op) (k : Ans o → Prog Ans α) (s : Trace Ans) :
      ∃ cs' c, ((Prog.call o k).run recorder cs' s).2 = c::s := by
    obtain ⟨x⟩ := ‹∀ o, Nonempty (Ans o)› o
    refine ⟨[⟨o,x⟩],⟨o,x⟩,?_⟩
    cases hk : k x <;> simp [Prog.run,hk]
  induction p generalizing cs s with
  | ret a => simp [Prog.run] at h
  | call o k ih =>
    cases cs with
    | nil => exact hmore o k s
    | cons c cs =>
      cases hc : recorder o c s with
      | none => simpa [Prog.run,hc] using hmore o k s
      | some xt =>
        obtain ⟨x,t⟩ := xt
        obtain ⟨cs',d,hd⟩ := ih x (s := t) (by simpa [Prog.run,hc] using h)
        exact ⟨c::cs',d,by simpa [Prog.run,hc] using hd⟩

end Recorder

section Reaches

variable {β : Type} {p q r : Prog Ans α} {f : α → Prog Ans β} {s t : Trace Ans}

/-- The calls, with their answers, take the program `p` to what is left of it. -/
inductive Reaches (p : Prog Ans α) : Trace Ans → Prog Ans α → Prop
  | start : Reaches p [] p
  | answer {o : Op} {k : Ans o → Prog Ans α} {s : Trace Ans} (h : Reaches p s (.call o k))
    (x : Ans o) : Reaches p (⟨o,x⟩::s) (k x)

theorem Reaches.unique (hq : Reaches p s q) (hr : Reaches p s r) : q = r := by
  induction hq generalizing r with
  | start =>
    cases hr
    rfl
  | answer _ x ih =>
    cases hr with
    | answer h y =>
      cases ih h
      rfl

theorem Reaches.last {o : Op} {x : Ans o} (h : Reaches p (⟨o,x⟩::s) q) :
    ∃ k, Reaches p s (.call o k) ∧ q = k x := by
  cases h with
  | answer h x => exact ⟨_,h,rfl⟩

theorem Reaches.earlier {later : Trace Ans} (h : Reaches p (later ++ s) q) : ∃ r, Reaches p s r := by
  induction later generalizing q with
  | nil => exact ⟨q,h⟩
  | cons c later ih =>
    obtain ⟨k,hk,-⟩ := h.last
    exact ih hk

theorem Reaches.of_suffix (h : Reaches p t q) (hs : s <:+ t) : ∃ r, Reaches p s r := by
  obtain ⟨later,rfl⟩ := hs
  exact h.earlier

theorem Reaches.trans (hq : Reaches p s q) (hr : Reaches q t r) : Reaches p (t ++ s) r := by
  induction hr with
  | start => exact hq
  | answer _ x ih => exact .answer ih x

theorem Reaches.bind (h : Reaches p s q) (f : α → Prog Ans β) : Reaches (p >>= f) s (q >>= f) := by
  induction h with
  | start => exact .start
  | answer _ x ih => exact .answer ih x

theorem Reaches.run_eq [DecidableEq Op] (h : Reaches p s q) (cs : List (Call Ans)) (t : Trace Ans) :
    p.run recorder (s.reverse ++ cs) t = q.run recorder cs (s ++ t) := by
  induction h generalizing cs with
  | start => rfl
  | answer _ x ih =>
    rw [List.reverse_cons,List.append_assoc,ih]
    simp [Prog.run]

theorem Reaches.exists_run [DecidableEq Op] (h : Reaches p s q) :
    ∃ cs, (p.run recorder cs []).2 = s := by
  refine ⟨s.reverse,?_⟩
  have hrun := h.run_eq [] []
  rw [List.append_nil,List.append_nil] at hrun
  rw [hrun]
  cases q <;> rfl

/-- What the logic shows of a program holds along its calls, as long as these keep to `G`. -/
theorem Reaches.always [DecidableEq Op] {G I : Trace Ans → Prop} {Q : α → Trace Ans → Prop}
    (h : Reaches p s q) (hG : ∀ u, u <:+ s → G u)
    (hp : p.Always (Prog.within recorder G) I Q []) : q.Always (Prog.within recorder G) I Q s := by
  induction h with
  | start => exact hp
  | @answer o k s _ x ih =>
    have hbefore := ih fun u hu => hG u (hu.trans (List.suffix_cons _ _))
    have hstep : Prog.within recorder G o ⟨o,x⟩ s = some (x,⟨o,x⟩::s) :=
      Prog.within_iff.mpr ⟨recorder_self o x s,hG _ List.suffix_rfl⟩
    exact hbefore.2 ⟨o,x⟩ x _ hstep

theorem always_ask_within [DecidableEq Op] {G I : Trace Ans → Prop} {Q : β → Trace Ans → Prop}
    {o : Op} {k : Ans o → Prog Ans β} :
    (Prog.op o >>= k).Always (Prog.within recorder G) I Q s ↔
      I s ∧ ∀ x, G (⟨o,x⟩::s) → (k x).Always (Prog.within recorder G) I Q (⟨o,x⟩::s) := by
  refine and_congr_right fun _ => ⟨fun h x hx => ?_,fun h c x t hc => ?_⟩
  · exact h ⟨o,x⟩ x _ (Prog.within_iff.mpr ⟨recorder_self o x s,hx⟩)
  · obtain ⟨hrecorded,ht⟩ := Prog.within_iff.mp hc
    obtain ⟨-,rfl⟩ := recorder_eq_some.mp hrecorded
    exact h x ht

end Reaches

section Each

/-- `R` holds of each call and the calls before it. -/
def Each (R : Call Ans → Trace Ans → Prop) : Trace Ans → Prop
  | [] => True
  | c::s => R c s ∧ Each R s

variable {R : Call Ans → Trace Ans → Prop} {c : Call Ans} {s : Trace Ans}

@[simp] theorem each_nil : Each R [] := trivial
@[simp] theorem each_cons : Each R (c::s) ↔ R c s ∧ Each R s := Iff.rfl

theorem each_forall {P : Call Ans → Prop} : Each (fun c _ => P c) s ↔ ∀ c ∈ s, P c := by
  induction s with
  | nil => simp
  | cons c s ih => simp [ih]

theorem each_append {later : Trace Ans} (h : Each R (later ++ s)) : Each R s := by
  induction later with
  | nil => exact h
  | cons c later ih => exact ih h.2

theorem each_suffix {u : Trace Ans} (hu : Each R u) (hs : s <:+ u) : Each R s := by
  obtain ⟨later,rfl⟩ := hs
  exact each_append hu

end Each

section Gaps

variable {E : Type} (p : E → Bool)

/-- The entries since the last one of kind `p`. -/
def sinceLast (l : List E) : List E := l.takeWhile fun x => !p x

/-- The last entry of kind `p` and everything before it. -/
def fromLast (l : List E) : List E := l.dropWhile fun x => !p x

variable {p} {x : E} {l : List E}

@[simp] theorem sinceLast_nil : sinceLast p [] = [] := rfl
@[simp] theorem fromLast_nil : fromLast p [] = [] := rfl

theorem sinceLast_cons (x : E) (l : List E) :
    sinceLast p (x::l) = if p x then [] else x::sinceLast p l := by
  by_cases h : p x <;> simp [sinceLast,h]

theorem fromLast_cons (x : E) (l : List E) :
    fromLast p (x::l) = if p x then x::l else fromLast p l := by
  by_cases h : p x <;> simp [fromLast,h]

theorem sinceLast_append {later : List E} (h : ∀ x ∈ later, p x = false) (l : List E) :
    sinceLast p (later ++ l) = later ++ sinceLast p l :=
  List.takeWhile_append_of_pos fun x hx => by simp [h x hx]

theorem fromLast_append {later : List E} (h : ∀ x ∈ later, p x = false) (l : List E) :
    fromLast p (later ++ l) = fromLast p l :=
  List.dropWhile_append_of_pos fun x hx => by simp [h x hx]

theorem sinceLast_restart (h : p x = true) : (sinceLast p (x::l)).length ≤ 0 := by
  simp [sinceLast_cons,h]

theorem sinceLast_count {k : ℕ} (hl : (sinceLast p l).length ≤ k) :
    (sinceLast p (x::l)).length ≤ k + 1 := by
  rw [sinceLast_cons]
  split
  · exact Nat.zero_le _
  · exact Nat.succ_le_succ hl

theorem split_at_last {gap : List E} (earlier : List E) {a : E} (ha : p a = true)
    (hgap : ∀ x ∈ gap, p x = false) :
    sinceLast p (gap ++ a::earlier) = gap ∧ fromLast p (gap ++ a::earlier) = a::earlier := by
  induction gap with
  | nil => simp [sinceLast_cons,fromLast_cons,ha]
  | cons x gap ih =>
    have hx : p x = false := hgap x (by simp)
    obtain ⟨h1,h2⟩ := ih fun y hy => hgap y (by simp [hy])
    simp [sinceLast_cons,fromLast_cons,hx,h1,h2]

/-- In the record `log`, `b` follows `a` as the next entry of kind `p`, with `gap` between
them and `earlier` before. -/
def Consecutive (p : E → Bool) (log : List E) (b : E) (gap : List E) (a : E)
    (earlier : List E) : Prop :=
  ∃ later, log = later ++ b::(gap ++ a::earlier) ∧ p b = true ∧ p a = true ∧
    ∀ x ∈ gap, p x = false

/-- `R` holds of all consecutive entries of kind `p`. -/
def Gaps (p : E → Bool) (R : E → List E → E → List E → Prop) (log : List E) : Prop :=
  ∀ b gap a earlier, Consecutive p log b gap a earlier → R b gap a earlier

theorem gaps_nil (R : E → List E → E → List E → Prop) : Gaps p R [] := by
  rintro b gap a earlier ⟨later,h,-⟩
  simp at h

theorem gaps_cons {R : E → List E → E → List E → Prop} (hl : Gaps p R l)
    (hx : p x = true → ∀ a earlier, fromLast p l = a::earlier → R x (sinceLast p l) a earlier) :
    Gaps p R (x::l) := by
  rintro b gap a earlier ⟨later,h,hb,ha,hgap⟩
  cases later with
  | nil =>
    obtain ⟨rfl,rfl⟩ := List.cons.inj h
    obtain ⟨h1,h2⟩ := split_at_last earlier ha hgap
    have hr := hx hb a earlier h2
    rwa [h1] at hr
  | cons y later =>
    obtain ⟨rfl,rfl⟩ := List.cons.inj h
    exact hl b gap a earlier ⟨later,rfl,hb,ha,hgap⟩

end Gaps
end Trace
end KvmAgent
