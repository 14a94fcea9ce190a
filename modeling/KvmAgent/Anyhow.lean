import KvmAgent.Program

/-! Error values of the agent: `anyhow` error chains that may carry a gRPC status. -/
namespace KvmAgent

inductive Code
  | ok | cancelled | unknown | invalidArgument | deadlineExceeded | notFound | alreadyExists
  | permissionDenied | resourceExhausted | failedPrecondition | aborted | outOfRange
  | unimplemented | internal | unavailable | dataLoss | unauthenticated
  deriving DecidableEq

/-- One link of an error chain: what it displays, and its code when it is a `Status`. -/
structure Cause where
  text : String
  status : Option Code := none
  deriving DecidableEq

/-- `anyhow::Error`, outermost link first. -/
structure AnyhowError where
  head : Cause
  sources : List Cause := []
  deriving DecidableEq

namespace AnyhowError

def msg (text : String) : AnyhowError := ⟨⟨text,none⟩,[]⟩

def chain (e : AnyhowError) : List Cause := e.head :: e.sources

def context (e : AnyhowError) (text : String) : AnyhowError := ⟨⟨text,none⟩,e.chain⟩

/-- `Display` shows the outermost link only. -/
def toString (e : AnyhowError) : String := e.head.text

/-- `grpc_status_in_chain`: the code of the first `Status` of the chain. -/
def grpcStatusInChain (e : AnyhowError) : Option Code := e.chain.findSome? Cause.status

def isFatalBootstrapError (e : AnyhowError) : Bool :=
  match e.grpcStatusInChain with
  | some .unauthenticated | some .invalidArgument => true
  | _ => false

@[simp] theorem grpcStatus_msg (text : String) : (msg text).grpcStatusInChain = none := rfl

@[simp] theorem grpcStatus_context (e : AnyhowError) (text : String) :
    (e.context text).grpcStatusInChain = e.grpcStatusInChain := rfl

@[simp] theorem fatal_context (e : AnyhowError) (text : String) :
    (e.context text).isFatalBootstrapError = e.isFatalBootstrapError := rfl

end AnyhowError

/-- A program that may return an error early, as Rust's `?` does. -/
abbrev Fallible {Op : Type} (Ans : Op → Type) (α : Type) : Type :=
  ExceptT AnyhowError (Prog Ans) α

namespace Fallible

variable {Op : Type} {Ans : Op → Type} {α β : Type}

/-- An operation whose failure is none of the caller's business. -/
def ask (o : Op) : Fallible Ans (Ans o) := ExceptT.lift (Prog.op o)

def attempt (p : Prog Ans (Except AnyhowError α)) : Fallible Ans α := ExceptT.mk p

def inspect (p : Fallible Ans α) : Fallible Ans (Except AnyhowError α) := ExceptT.lift p.run

def context (p : Fallible Ans α) (text : String) : Fallible Ans α :=
  ExceptT.mk (p.run >>= fun r => .ret (r.mapError (·.context text)))

@[simp] theorem ask_run (o : Op) :
    (ask o : Fallible Ans (Ans o)).run = Prog.call o fun x => .ret (.ok x) := rfl
theorem ask_bind_run (o : Op) (f : Ans o → Fallible Ans α) :
    (ask o >>= f).run = Prog.call o fun x => (f x).run := rfl
@[simp] theorem attempt_run (p : Prog Ans (Except AnyhowError α)) : (attempt p).run = p := rfl
@[simp] theorem inspect_run (p : Fallible Ans α) :
    (inspect p).run = p.run >>= fun r => .ret (.ok r) := rfl
@[simp] theorem context_run (p : Fallible Ans α) (text : String) :
    (p.context text).run = p.run >>= fun r => .ret (r.mapError (·.context text)) := rfl

variable {C σ : Type} {h : Handler Ans C σ} {I : σ → Prop}

/-- What the first part of a sequence owes: `F` on a value, the whole's postcondition on
an early return. -/
def Next (I : σ → Prop) (Q : Except AnyhowError β → σ → Prop) (F : α → σ → Prop) :
    Except AnyhowError α → σ → Prop
  | .ok a, s => F a s
  | .error e, s => I s ∧ Q (.error e) s

@[simp] theorem next_ok {Q : Except AnyhowError β → σ → Prop} {F : α → σ → Prop} {a : α} {s : σ} :
    Next I Q F (.ok a) s ↔ F a s := Iff.rfl
@[simp] theorem next_error {Q : Except AnyhowError β → σ → Prop} {F : α → σ → Prop}
    {e : AnyhowError} {s : σ} : Next I Q F (.error e) s ↔ I s ∧ Q (.error e) s := Iff.rfl

@[simp] theorem always_bind {p : Fallible Ans α} {f : α → Fallible Ans β}
    {Q : Except AnyhowError β → σ → Prop} {s : σ} :
    (p >>= f).run.Always h I Q s ↔
      p.run.Always h I (Next I Q fun a t => (f a).run.Always h I Q t) s := by
  rw [ExceptT.run_bind,Prog.always_bind]
  constructor <;> intro hp <;> refine hp.mono (fun _ ht => ht) ?_ <;>
    rintro (e | a) t _ ht <;> exact ht

theorem always_next {p : Fallible Ans α} {f : α → Fallible Ans β} {P : α → σ → Prop}
    {Q : Except AnyhowError β → σ → Prop} {s : σ}
    (hp : p.run.Always h I (fun r t => ∀ a, r = .ok a → P a t) s)
    (herr : ∀ e t, I t → Q (.error e) t)
    (hf : ∀ a t, I t → P a t → (f a).run.Always h I Q t) : (p >>= f).run.Always h I Q s := by
  rw [always_bind]
  refine hp.mono (fun _ ht => ht) ?_
  rintro (e | a) t hI ht
  · exact ⟨hI,herr e t hI⟩
  · exact hf a t hI (ht a rfl)

theorem returns_next {good : C → Prop} {n m : ℕ} {p : Fallible Ans α} {f : α → Fallible Ans β}
    {Q : Except AnyhowError β → σ → Prop} {s : σ}
    (hp : p.run.Returns h good
      (fun r t => ∃ a, r = .ok a ∧ (f a).run.Returns h good Q m t) n s) :
    (p >>= f).run.Returns h good Q (n+m) s := by
  rw [ExceptT.run_bind]
  refine Prog.returns_bind (hp.mono (Nat.le_refl n) ?_)
  rintro _ t ⟨a,rfl,ha⟩
  exact ha

theorem uses_bind {P : Op → Prop} {p : Fallible Ans α} {f : α → Fallible Ans β}
    (hp : p.run.Uses P) (hf : ∀ a, (f a).run.Uses P) : (p >>= f).run.Uses P := by
  rw [ExceptT.run_bind]
  refine Prog.uses_bind hp fun r => ?_
  cases r with
  | error e => exact .ret _
  | ok a => exact hf a

theorem uses_ask {P : Op → Prop} {o : Op} (ho : P o) : (ask o : Fallible Ans (Ans o)).run.Uses P :=
  .call ho fun _ => .ret _

theorem uses_context {P : Op → Prop} {p : Fallible Ans α} {text : String} (hp : p.run.Uses P) :
    (context p text).run.Uses P :=
  Prog.uses_bind hp fun _ => .ret _

theorem guarded_bind {G : σ → Op → Prop} {p : Fallible Ans α} {f : α → Fallible Ans β} {s : σ}
    {F : α → σ → Prop} (hp : p.run.Guarded h G s)
    (hpost : p.run.Always h (fun _ => True) (fun r t => ∀ a, r = .ok a → F a t) s)
    (hf : ∀ a t, F a t → (f a).run.Guarded h G t) : (p >>= f).run.Guarded h G s := by
  rw [ExceptT.run_bind]
  refine Prog.guarded_bind hp hpost fun r t hr => ?_
  cases r with
  | error e => exact .ret _ _
  | ok a => exact hf a t (hr a rfl)

theorem keeps_bind {p : Fallible Ans α} {f : α → Fallible Ans β} (hp : p.run.Keeps h I)
    (hf : ∀ a, (f a).run.Keeps h I) : (p >>= f).run.Keeps h I := by
  rw [ExceptT.run_bind]
  refine Prog.keeps_bind hp fun r => ?_
  cases r with
  | error e => exact Prog.keeps_ret _
  | ok a => exact hf a

@[simp] theorem always_pure {a : α} {Q : Except AnyhowError α → σ → Prop} {s : σ} :
    (pure a : Fallible Ans α).run.Always h I Q s ↔ I s ∧ Q (.ok a) s := Iff.rfl

@[simp] theorem always_throw {e : AnyhowError} {Q : Except AnyhowError α → σ → Prop} {s : σ} :
    (throw e : Fallible Ans α).run.Always h I Q s ↔ I s ∧ Q (.error e) s := Iff.rfl

end Fallible
end KvmAgent
