import KvmAgent.Lifecycle
import Mathlib.Data.Fintype.Basic

/-! Any number of threads that start and finish jobs of one worker pool, against a thread
that stops the pool accepting and drains it. -/
namespace KvmAgent
namespace Admission

open Lifecycle Trace

/-- What a thread does with the pool, which may depend on the answers it gets. -/
inductive Calls
  | done
  | tryStartJob (n : ℕ) (next : Bool → Calls)
  | finishJob (n : ℕ) (next : Calls)

def Calls.prog (pool : WorkerPool) : Calls → Prog ProcessAns Unit
  | .done => .ret ()
  | .tryStartJob n next => pool.tryStartJob n >>= fun started => (next started).prog pool
  | .finishJob n next => WorkerPool.finishJob n >>= fun _ => next.prog pool

def closing (timeout : Duration) (n : ℕ) : Prog ProcessAns Unit := do
  WorkerPool.stopAccepting
  WorkerPool.drain timeout n

variable {W : Type}

abbrev State (W : Type) := Threads.Config (Option W) ProcessAns AppContext

abbrev Action (W : Type) := Threads.Action (Option W) Bool ProcessEvent

/-- The closing thread is `none`; no operation starts another. -/
def threads : Threads (Option W) ProcessAns Bool ProcessEvent AppContext where
  handler _ := processHandler
  env := processEvent
  spawns _ := none

section Definitions

variable [DecidableEq W] (pool : WorkerPool) (workers : W → Calls) (timeout : Duration) (n : ℕ)

def starting : State W where
  pool
    | none => ⟨closing timeout n,[]⟩
    | some i => ⟨(workers i).prog pool,[]⟩
  shared := .new

def after (actions : List (Action W)) : State W :=
  threads.after (starting pool workers timeout n) actions

/-- Whether a thread with these calls is in `try_start_job` and may yet start a job: it was
told that the pool is accepting, and has neither started one nor found the pool full since. -/
def admitting : Trace ProcessAns → Bool
  | ⟨.load .accepting,accepting⟩::_ => accepting
  | ⟨.loadInFlight,current⟩::past => current < pool.maxWorkers && admitting past
  | ⟨.compareExchange _ _,won⟩::past => !won && admitting past
  | _::past => admitting past
  | [] => false

abbrev Admitting (past : Trace ProcessAns) : Prop := admitting pool past = true

def Closed (w : State W) : Prop := w.shared.flags .accepting = false

instance (w : State W) : Decidable (Closed w) := inferInstanceAs (Decidable (_ = _))

def ObservedIdle (w : State W) : Prop := ⟨.loadInFlight,(0 : ℕ)⟩ ∈ (w.pool none).past

/-- The step does not close the pool on a thread that may yet start a job. -/
def ClosesQuietly (w : State W) (a : Action W) : Prop :=
  ¬Closed w → Closed (threads.step w a) → ∀ i, ¬Admitting pool (w.pool (some i)).past

instance [Fintype W] (w : State W) (a : Action W) : Decidable (ClosesQuietly pool w a) :=
  inferInstanceAs (Decidable (_ → _))

/-- No step of a closed pool raises `in_flight`, which stays 0 once it was observed so. -/
structure StaysClosed (actions : List (Action W)) : Prop where
  refused : threads.Throughout
    (fun w a => Closed w → (threads.step w a).shared.inFlight ≤ w.shared.inFlight)
    (starting pool workers timeout n) actions
  idle : ∀ earlier later, actions = earlier ++ later →
    ObservedIdle (after pool workers timeout n earlier) →
    (after pool workers timeout n actions).shared.inFlight = 0

def Careful : Option W → Call ProcessAns → Trace ProcessAns → Prop
  | none, ⟨.store flag value,_⟩, _ => flag = .accepting ∧ value = false
  | none, ⟨.compareExchange _ _,_⟩, _ => False
  | none, ⟨.loadInFlight,_⟩, past => ⟨.store .accepting false,()⟩ ∈ past
  | some _, ⟨.store _ _,_⟩, _ => False
  | some _, ⟨.compareExchange current new,_⟩, past => current < new → Admitting pool past
  | _, _, _ => True

abbrev Kept (thread : Option W) (past : Trace ProcessAns) : Prop := Each (Careful pool thread) past

end Definitions

section Programs

variable {pool : WorkerPool} {i : W} {past : Trace ProcessAns}

theorem always_loop {R S : Type} {I : Trace ProcessAns → Prop} {L : S → Trace ProcessAns → Prop}
    {P : R → Trace ProcessAns → Prop} {body : S → Prog ProcessAns (S ⊕ R)}
    (hbody : ∀ l s, L l s → (body l).Always recorder I (fun o t => Sum.elim (L · t) (P · t) o) s)
    (n : ℕ) {l : S} {s : Trace ProcessAns} (hl : L l s) :
    (loop body n l).Always recorder I P s := by
  refine Prog.always_bind.mpr ((Prog.always_loop hbody n hl).mono (fun _ ht => ht) ?_)
  rintro (l' | r) t hI ht
  · exact always_record.mpr ⟨hI,fun x => x.elim⟩
  · exact ⟨hI,ht⟩

/-- A round goes on only if another thread was faster, and then the job may yet start. -/
theorem tryStart_careful (hpast : Kept pool (some i) past) (hadmitting : Admitting pool past) :
    (pool.tryStart ()).Always recorder (Kept pool (some i))
      (fun o t => Sum.elim (fun _ => Kept pool (some i) t ∧ Admitting pool t)
        (fun _ => Kept pool (some i) t) o) past := by
  refine always_record.mpr ⟨hpast,fun (current : ℕ) => ?_⟩
  have hload : Kept pool (some i) (⟨.loadInFlight,current⟩::past) := ⟨trivial,hpast⟩
  change Prog.Always _ _ _ (if pool.maxWorkers ≤ current then _ else _) _
  by_cases hfull : pool.maxWorkers ≤ current
  · rw [if_pos hfull]
    exact ⟨hload,hload⟩
  · rw [if_neg hfull]
    have hroom : Admitting pool (⟨.loadInFlight,current⟩::past) := by
      simp [Admitting,admitting,Nat.lt_of_not_le hfull,hadmitting]
    refine always_record.mpr ⟨hload,fun (won : Bool) => ?_⟩
    have hexchange : Kept pool (some i)
        (⟨.compareExchange current (current+1),won⟩::⟨.loadInFlight,current⟩::past) :=
      ⟨fun _ => hroom,hload⟩
    cases won with
    | true => exact ⟨hexchange,hexchange⟩
    | false => exact ⟨hexchange,hexchange,hroom⟩

theorem tryStartJob_careful (n : ℕ) (hpast : Kept pool (some i) past) :
    (pool.tryStartJob n).Always recorder (Kept pool (some i))
      (fun _ t => Kept pool (some i) t) past := by
  refine always_record.mpr ⟨hpast,fun (accepting : Bool) => ?_⟩
  have hload : Kept pool (some i) (⟨.load .accepting,accepting⟩::past) :=
    ⟨trivial,hpast⟩
  cases accepting with
  | false => exact ⟨hload,hload⟩
  | true =>
    exact always_loop (L := fun _ t => Kept pool (some i) t ∧ Admitting pool t)
      (fun _ t ht => tryStart_careful ht.1 ht.2) n ⟨hload,rfl⟩

theorem tryFinish_careful (hpast : Kept pool (some i) past) :
    (WorkerPool.tryFinish ()).Always recorder (Kept pool (some i))
      (fun o t => Sum.elim (fun _ => Kept pool (some i) t)
        (fun _ => Kept pool (some i) t) o) past := by
  refine always_record.mpr ⟨hpast,fun (current : ℕ) => ?_⟩
  have hload : Kept pool (some i) (⟨.loadInFlight,current⟩::past) := ⟨trivial,hpast⟩
  change Prog.Always _ _ _ (if current = 0 then _ else _) _
  by_cases hzero : current = 0
  · rw [if_pos hzero]
    exact always_record.mpr ⟨hload,fun _ => ⟨⟨trivial,hload⟩,trivial,hload⟩⟩
  · rw [if_neg hzero]
    refine always_record.mpr ⟨hload,fun (won : Bool) => ?_⟩
    have hexchange : Kept pool (some i)
        (⟨.compareExchange current (current-1),won⟩::⟨.loadInFlight,current⟩::past) :=
      ⟨fun hraise => by omega,hload⟩
    cases won with
    | false => exact ⟨hexchange,hexchange⟩
    | true =>
      by_cases hlast : current ≤ 1
      · simp only [if_pos hlast]
        exact always_record.mpr ⟨hexchange,fun _ => ⟨⟨trivial,hexchange⟩,trivial,hexchange⟩⟩
      · simp only [if_neg hlast]
        exact ⟨hexchange,hexchange⟩

theorem finishJob_careful (n : ℕ) (hpast : Kept pool (some i) past) :
    (WorkerPool.finishJob n).Always recorder (Kept pool (some i))
      (fun _ t => Kept pool (some i) t) past :=
  always_loop (L := fun _ => Kept pool (some i)) (fun _ _ ht => tryFinish_careful ht) n hpast

theorem prog_careful (calls : Calls) (hpast : Kept pool (some i) past) :
    (calls.prog pool).Always recorder (Kept pool (some i)) (fun _ _ => True) past := by
  induction calls generalizing past with
  | done => exact ⟨hpast,trivial⟩
  | tryStartJob n next ih =>
    exact Prog.always_bind.mpr ((tryStartJob_careful n hpast).mono (fun _ ht => ht)
      fun started _ _ ht => ih started ht)
  | finishJob n next ih =>
    exact Prog.always_bind.mpr ((finishJob_careful n hpast).mono (fun _ ht => ht)
      fun _ _ _ ht => ih ht)

theorem waitIdle_careful (deadline : ℕ) (hstored : ⟨.store .accepting false,()⟩ ∈ past)
    (hpast : Kept (W := W) pool none past) :
    (WorkerPool.waitIdle deadline ()).Always recorder (Kept (W := W) pool none)
      (fun o t => Sum.elim
        (fun _ => ⟨.store .accepting false,()⟩ ∈ t ∧ Kept (W := W) pool none t)
        (fun _ => True) o) past := by
  refine always_record.mpr ⟨hpast,fun (current : ℕ) => ?_⟩
  have hload : Kept (W := W) pool none (⟨.loadInFlight,current⟩::past) := ⟨hstored,hpast⟩
  change Prog.Always _ _ _ (if current = 0 then _ else _) _
  by_cases hidle : current = 0
  · rw [if_pos hidle]
    exact ⟨hload,trivial⟩
  · rw [if_neg hidle]
    refine always_record.mpr ⟨hload,fun seen => ?_⟩
    have hseen : Kept (W := W) pool none (⟨.notified .idle,seen⟩::_) := ⟨trivial,hload⟩
    refine always_record.mpr ⟨hseen,fun now => ?_⟩
    have hnow : Kept (W := W) pool none (⟨.now,now⟩::_) := ⟨trivial,hseen⟩
    refine always_record.mpr ⟨hnow,fun (woken : Bool) => ?_⟩
    cases woken with
    | false => exact ⟨⟨trivial,hnow⟩,trivial⟩
    | true => exact ⟨⟨trivial,hnow⟩,by simp [hstored],trivial,hnow⟩

theorem closing_careful (timeout : Duration) (n : ℕ) :
    (closing timeout n).Always recorder (Kept (W := W) pool none) (fun _ _ => True) [] := by
  refine always_record.mpr ⟨trivial,fun _ => always_record.mpr ⟨⟨⟨rfl,rfl⟩,trivial⟩,fun now => ?_⟩⟩
  refine always_loop
    (L := fun _ t => ⟨.store .accepting false,()⟩ ∈ t ∧ Kept (W := W) pool none t)
    (fun _ _ ht => waitIdle_careful _ ht.1 ht.2) n ?_
  exact ⟨by simp,trivial,⟨rfl,rfl⟩,trivial⟩

end Programs

section Calls

variable {pool : WorkerPool} {thread : Option W} {o : ProcessOp} {x : ProcessAns o}
  {past : Trace ProcessAns}

theorem admitting_cons (h : Admitting pool (⟨o,x⟩::past)) :
    Admitting pool past ∨ (⟨o,x⟩ : Call ProcessAns) = ⟨.load .accepting,true⟩ := by
  cases o with
  | load flag =>
    cases flag with
    | accepting =>
      cases (show x = true from h)
      exact .inr rfl
    | _ => exact .inl h
  | loadInFlight => exact .inl (Bool.and_eq_true_iff.mp h).2
  | compareExchange => exact .inl (Bool.and_eq_true_iff.mp h).2
  | _ => exact .inl h

theorem store_closes {flag : Flag} {value : Bool} {x : Unit}
    (h : Careful pool thread ⟨.store flag value,x⟩ past) : thread = none ∧ value = false := by
  cases thread with
  | none => exact ⟨rfl,h.2⟩
  | some i => exact h.elim

theorem raise_admits {current new : ℕ} {x : Bool}
    (h : Careful pool thread ⟨.compareExchange current new,x⟩ past) (hraise : current < new) :
    ∃ i, thread = some i ∧ Admitting pool past := by
  cases thread with
  | none => exact h.elim
  | some i => exact ⟨i,rfl,h hraise⟩

theorem stored_of_observed (hpast : Kept (W := W) pool none past)
    (h : ⟨.loadInFlight,(0 : ℕ)⟩ ∈ past) : ⟨.store .accepting false,()⟩ ∈ past := by
  induction past with
  | nil => simp at h
  | cons call past ih =>
    rcases List.mem_cons.mp h with rfl | h
    · exact List.mem_cons_of_mem _ hpast.1
    · exact List.mem_cons_of_mem _ (ih hpast.2 h)

end Calls

section Runs

variable {pool : WorkerPool} {w : State W}

/-- The invariant of the runs that close the pool on no thread that may yet start a job. -/
structure Sound (pool : WorkerPool) (w : State W) : Prop where
  kept : Threads.Local (Kept pool) w.pool
  stored : ⟨.store .accepting false,()⟩ ∈ (w.pool none).past → Closed w
  shut : Closed w → ∀ i, ¬Admitting pool (w.pool (some i)).past
  idle : ObservedIdle w → w.shared.inFlight = 0

theorem starting_sound (pool : WorkerPool) (workers : W → Calls) (timeout : Duration) (n : ℕ) :
    Sound pool (starting pool workers timeout n) where
  kept thread := by
    cases thread with
    | none => exact closing_careful timeout n
    | some i => exact prog_careful (workers i) trivial
  stored h := by simp [starting] at h
  shut _ _ h := by simp [Admitting,admitting,starting] at h
  idle h := by simp [ObservedIdle,starting] at h

structure Answered (pool : WorkerPool) (w w' : State W) (thread : Option W) (o : ProcessOp)
    (x : ProcessAns o) (c : Bool) : Prop where
  careful : Careful pool thread ⟨o,x⟩ (w.pool thread).past
  handled : processHandler o c w.shared = some (x,w'.shared)
  moved : (w'.pool thread).past = ⟨o,x⟩::(w.pool thread).past
  others : ∀ j, j ≠ thread → (w'.pool j).past = (w.pool j).past
  kept : Threads.Local (Kept pool) w'.pool

/-- A step changes nothing of the threads and the pool, or answers one operation. -/
theorem step_pool [DecidableEq W] (hkept : Threads.Local (Kept pool) w.pool) (a : Action W) :
    ((threads.step w a).pool = w.pool ∧ (threads.step w a).shared.inFlight = w.shared.inFlight ∧
      (threads.step w a).shared.flags .accepting = w.shared.flags .accepting) ∨
    ∃ thread o x c, Answered pool w (threads.step w a) thread o x c := by
  rcases threads.step_cases w a with hsame | ⟨e,henv⟩ | ⟨thread,c,o,k,x,t,hrest,hh,hstep⟩
  · rw [hsame]
    exact .inl ⟨rfl,rfl,rfl⟩
  · rw [henv]
    exact .inl ⟨rfl,event_pool e w.shared⟩
  · have hlocal := Threads.local_answered (T := threads) (fun _ _ _ h => by cases h) hkept hrest x
    have hthread := hkept thread
    rw [hrest] at hthread
    have hcareful := ((always_record.mp hthread).2 x).here.1
    rw [Threads.answered_none rfl] at hstep
    rw [Threads.answered_none rfl] at hlocal
    rw [hstep]
    exact .inr ⟨thread,o,x,c,hcareful,hh,by simp,fun j hj => by simp [hj],hlocal⟩

namespace Answered

variable {w' : State W} {thread : Option W} {o : ProcessOp} {x : ProcessAns o} {c : Bool}

theorem answer (h : Answered pool w w' thread o x c) {y : ProcessAns o} {p : AppContext}
    (hy : processHandler o c w.shared = some (y,p)) : x = y ∧ w'.shared = p := by
  simpa using h.handled.symm.trans hy

theorem closed (h : Answered pool w w' thread o x c) (hclosed : Closed w) : Closed w' := by
  rcases (handler_pool h.handled).2 with hsame | hstore
  · exact hsame.trans hclosed
  · subst hstore
    exact (store_closes h.careful).2

theorem closes (h : Answered pool w w' thread o x c) (hopen : ¬Closed w) (hclosed : Closed w') :
    thread = none := by
  rcases (handler_pool h.handled).2 with hsame | hstore
  · exact absurd (hsame.symm.trans hclosed) hopen
  · subst hstore
    exact (store_closes h.careful).1

theorem raises (h : Answered pool w w' thread o x c) (hraise : w.shared.inFlight < w'.shared.inFlight) :
    ∃ i, Admitting pool (w.pool (some i)).past := by
  rcases (handler_pool h.handled).1 with hsame | ⟨current,hcurrent,hexchange⟩
  · omega
  · subst hexchange
    obtain ⟨i,rfl,hadmitting⟩ := raise_admits h.careful (by omega)
    exact ⟨i,hadmitting⟩

theorem admitting (h : Answered pool w w' thread o x c) (hclosed : Closed w) {i : W}
    (hadmitting : Admitting pool (w'.pool (some i)).past) :
    Admitting pool (w.pool (some i)).past := by
  by_cases hi : some i = thread
  · subst hi
    rw [h.moved] at hadmitting
    rcases admitting_cons hadmitting with hbefore | hload
    · exact hbefore
    · cases hload
      obtain ⟨htold,-⟩ := h.answer rfl
      exact absurd (htold.trans hclosed) (by decide)
  · rwa [h.others _ hi] at hadmitting

theorem stored (h : Answered pool w w' thread o x c)
    (hw : ⟨.store .accepting false,()⟩ ∈ (w.pool none).past → Closed w)
    (hstored : ⟨.store .accepting false,()⟩ ∈ (w'.pool none).past) : Closed w' := by
  by_cases hi : none = thread
  · subst hi
    rw [h.moved] at hstored
    rcases List.mem_cons.mp hstored with hnow | hbefore
    · cases hnow
      obtain ⟨-,hshared⟩ := h.answer rfl
      rw [Closed,hshared]
      simp [AppContext.store]
    · exact h.closed (hw hbefore)
  · rw [h.others _ hi] at hstored
    exact h.closed (hw hstored)

theorem observed (h : Answered pool w w' thread o x c) (hidle : ObservedIdle w') :
    ObservedIdle w ∨ w'.shared.inFlight = 0 := by
  by_cases hi : none = thread
  · subst hi
    rw [ObservedIdle,h.moved] at hidle
    rcases List.mem_cons.mp hidle with hnow | hbefore
    · cases hnow
      obtain ⟨hseen,hshared⟩ := h.answer rfl
      rw [hshared]
      exact .inr hseen.symm
    · exact .inl hbefore
  · exact .inl (by rwa [ObservedIdle,h.others _ hi] at hidle)

end Answered

theorem Sound.closed_of_observed (hw : Sound pool w) (h : ObservedIdle w) : Closed w :=
  hw.stored (stored_of_observed (hw.kept none).here h)

variable [DecidableEq W] {a : Action W}

theorem Sound.stays_closed (hw : Sound pool w) (hclosed : Closed w) (a : Action W) :
    Closed (threads.step w a) := by
  rcases step_pool hw.kept a with ⟨-,-,hsame⟩ | ⟨thread,o,x,c,h⟩
  · exact hsame.trans hclosed
  · exact h.closed hclosed

theorem Sound.refuses (hw : Sound pool w) (hclosed : Closed w) (a : Action W) :
    (threads.step w a).shared.inFlight ≤ w.shared.inFlight := by
  rcases step_pool hw.kept a with ⟨-,hsame,-⟩ | ⟨thread,o,x,c,h⟩
  · exact Nat.le_of_eq hsame
  · refine Nat.le_of_not_lt fun hraise => ?_
    obtain ⟨i,hadmitting⟩ := h.raises hraise
    exact hw.shut hclosed i hadmitting

theorem Sound.step (hw : Sound pool w) (hquiet : ClosesQuietly pool w a) :
    Sound pool (threads.step w a) := by
  rcases step_pool hw.kept a with ⟨hpool,hinFlight,haccepting⟩ | ⟨thread,o,x,c,h⟩
  · refine ⟨by rw [hpool]; exact hw.kept,?_,?_,?_⟩
    · rw [hpool,Closed,haccepting]
      exact hw.stored
    · rw [hpool,Closed,haccepting]
      exact hw.shut
    · rw [ObservedIdle,hpool,hinFlight]
      exact hw.idle
  · refine ⟨h.kept,h.stored hw.stored,fun hclosed i hadmitting => ?_,fun hidle => ?_⟩
    · by_cases hbefore : Closed w
      · exact hw.shut hbefore i (h.admitting hbefore hadmitting)
      · obtain rfl := h.closes hbefore hclosed
        rw [h.others _ (by simp)] at hadmitting
        exact hquiet hbefore hclosed i hadmitting
    · rcases h.observed hidle with hbefore | hzero
      · have hle := hw.refuses (hw.closed_of_observed hbefore) a
        rw [hw.idle hbefore] at hle
        exact Nat.le_zero.mp hle
      · exact hzero

end Runs

/-- In every run that closes the pool on no thread that may yet start a job, the closed pool
starts none, and `in_flight` stays 0 once it was observed so. -/
theorem admission_closes (pool : WorkerPool) {W : Type} [DecidableEq W] (workers : W → Calls)
    (timeout : Duration) (n : ℕ) (actions : List (Action W))
    (quiet : threads.Throughout (ClosesQuietly pool) (starting pool workers timeout n) actions) :
    StaysClosed pool workers timeout n actions := by
  have hstep : ∀ (w : State W) a, ClosesQuietly pool w a → Sound pool w →
      Sound pool (threads.step w a) := fun w a hquiet hw => hw.step hquiet
  have hstart := starting_sound pool workers timeout n
  constructor
  · obtain ⟨hsound,-⟩ := Threads.throughout_invariant threads hstep quiet hstart
    exact hsound.mono threads fun w a hw hclosed => hw.refuses hclosed a
  · rintro earlier later rfl hidle
    obtain ⟨hbefore,hlater⟩ := (Threads.throughout_append threads).mp quiet
    obtain ⟨-,hw⟩ := Threads.throughout_invariant threads hstep hbefore hstart
    -- from the observation on the pool is closed and idle
    have hidle_step : ∀ (w : State W) a, ClosesQuietly pool w a →
        Sound pool w ∧ Closed w ∧ w.shared.inFlight = 0 →
        Sound pool (threads.step w a) ∧ Closed (threads.step w a) ∧
          (threads.step w a).shared.inFlight = 0 := by
      rintro w a hquiet ⟨hw,hclosed,hzero⟩
      have hle := hw.refuses hclosed a
      exact ⟨hw.step hquiet,hw.stays_closed hclosed a,by omega⟩
    obtain ⟨-,-,-,hzero⟩ := Threads.throughout_invariant threads hidle_step hlater
      ⟨hw,hw.closed_of_observed hidle,hw.idle hidle⟩
    rw [after,Threads.after_append]
    exact hzero

def worker : Calls := .tryStartJob 1 fun _ => .finishJob 1 (.tryStartJob 1 fun _ => .done)

def steps (thread : Option Unit) (count : ℕ) : List (Action Unit) :=
  List.replicate count (.run thread false)

/-- The pool is closed and seen idle between two jobs. -/
theorem between_jobs_stays_closed :
    StaysClosed (.new 1) (fun _ => worker) (Duration.fromSecs 5) 1
      (steps (some ()) 6 ++ steps none 3 ++ steps (some ()) 1) :=
  admission_closes (.new 1) (fun _ => worker) (Duration.fromSecs 5) 1 _ (by decide)

/-- A job starts in a pool that was closed and seen idle after the thread was told that it is
accepting. -/
theorem admitted_when_closed : ¬∀ (W : Type) [DecidableEq W] (pool : WorkerPool)
    (workers : W → Calls) (timeout : Duration) (n : ℕ) (actions : List (Action W)),
    StaysClosed pool workers timeout n actions := by
  intro h
  have hidle := (h Unit (.new 1) (fun _ => worker) (Duration.fromSecs 5) 1 _).idle
    (steps (some ()) 1 ++ steps none 3) (steps (some ()) 2) rfl List.mem_cons_self
  exact absurd hidle (by decide)

end Admission
end KvmAgent
