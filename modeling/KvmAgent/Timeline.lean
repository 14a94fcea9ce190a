import KvmAgent.Trace
import Mathlib.Data.Int.Order.Basic

/-! Timelines: traces whose calls take time. A call begins when the one before it is over,
and lasts as long as its environment pleases within what is allowed for it. -/
namespace KvmAgent

variable {Op : Type} {Ans : Op → Type} {α : Type}

/-- A call with the time it begins at and the time until the next one can begin. -/
structure TimedCall (Ans : Op → Type) where
  call : Call Ans
  start : ℤ
  took : ℕ

def elapsed : List (TimedCall Ans) → ℕ
  | [] => 0
  | e::earlier => e.took + elapsed earlier

/-- The calls follow each other without a break up to `clock`, newest first. -/
def Unbroken : ℤ → List (TimedCall Ans) → Prop
  | _, [] => True
  | clock, e::earlier => e.start + e.took = clock ∧ Unbroken e.start earlier

/-- A record of allowed calls and the clock at its end. -/
structure Timeline (allowed : TimedCall Ans → Prop) where
  clock : ℤ
  calls : List (TimedCall Ans)
  unbroken : Unbroken clock calls
  allAllowed : ∀ e ∈ calls, allowed e

namespace Timeline

variable {allowed : TimedCall Ans → Prop}

def start (allowed : TimedCall Ans → Prop) (clock : ℤ) : Timeline allowed :=
  ⟨clock,[],trivial,by simp⟩

def trace (t : Timeline allowed) : Trace Ans := t.calls.map (·.call)

def add (t : Timeline allowed) (call : Call Ans) (took : ℕ)
    (h : allowed ⟨call,t.clock,took⟩) : Timeline allowed where
  clock := t.clock + took
  calls := ⟨call,t.clock,took⟩::t.calls
  unbroken := ⟨rfl,t.unbroken⟩
  allAllowed := by
    rintro e (_ | ⟨_,he⟩)
    · exact h
    · exact t.allAllowed e he

@[simp] theorem start_calls (clock : ℤ) : (start allowed clock).calls = [] := rfl
@[simp] theorem start_trace (clock : ℤ) : (start allowed clock).trace = [] := rfl
@[simp] theorem add_trace (t : Timeline allowed) (call : Call Ans) (took : ℕ)
    (h : allowed ⟨call,t.clock,took⟩) : (t.add call took h).trace = call::t.trace := rfl

/-- The environment answers each call as its next choice says and takes the time it says,
unless that is not allowed. -/
def recorder [DecidableEq Op] [DecidablePred allowed] :
    Handler Ans (Call Ans × ℕ) (Timeline allowed) := fun o c t =>
  if h : c.1.1 = o ∧ allowed ⟨c.1,t.clock,c.2⟩ then some (h.1 ▸ c.1.2,t.add c.1 c.2 h.2)
  else none

section Recorder

variable [DecidableEq Op] [DecidablePred allowed] {t u : Timeline allowed}

theorem recorder_trace {o : Op} {c : Call Ans × ℕ} {x : Ans o}
    (h : recorder o c t = some (x,u)) : u.trace = ⟨o,x⟩::t.trace := by
  obtain ⟨⟨o',x'⟩,took⟩ := c
  unfold recorder at h
  split at h
  · next hc =>
    have ho := hc.1
    subst ho
    cases h
    rfl
  · cases h

theorem always_trace {I : Trace Ans → Prop} {Q : α → Trace Ans → Prop} {p : Prog Ans α}
    (hp : p.Always KvmAgent.recorder I Q t.trace) :
    p.Always recorder (fun u : Timeline allowed => I u.trace) (fun a u => Q a u.trace) t := by
  induction p generalizing t with
  | ret a => exact hp
  | call o k ih =>
    refine ⟨hp.1,fun c x u hc => ih x ?_⟩
    rw [recorder_trace hc]
    exact (Trace.always_record.mp hp).2 x

end Recorder

end Timeline

theorem Unbroken.suffix {clock : ℤ} {later earlier : List (TimedCall Ans)} {e : TimedCall Ans}
    (h : Unbroken clock (later ++ e::earlier)) : Unbroken e.start earlier := by
  induction later generalizing clock with
  | nil => exact h.2
  | cons d later ih => exact ih h.2

theorem Unbroken.since {clock : ℤ} {gap earlier : List (TimedCall Ans)} {e : TimedCall Ans}
    (h : Unbroken clock (gap ++ e::earlier)) : clock = e.start + elapsed (gap ++ [e]) := by
  induction gap generalizing clock with
  | nil =>
    obtain ⟨hclock,-⟩ := h
    simp [elapsed,hclock]
  | cons d gap ih =>
    obtain ⟨hclock,hrest⟩ := h
    have hd := ih hrest
    simp only [List.cons_append,elapsed]
    omega

end KvmAgent
