import KvmAgent.ConnectShutdown
import KvmAgent.Timeline

/-! How long `connect_hypervisor` uses a cached assignment while its resolutions fail. -/
namespace KvmAgent
namespace AssignmentExpiry

open Registry Trace ConnectSteps ConnectRuns
open ConnectShutdown (isResolution)

variable {config : AppConfig}

/-- When the last resolution failed, the fallback took the assignment from the cache and
found it alive before it did anything else; and what it did next was to open a session. -/
def Checked (assignment : AssignmentCache) (s : Log) : Prop :=
  ∀ identity current err rest,
    fromLast isResolution s = ⟨.resolveAssignment identity current,.error err⟩::rest →
    ∃ gap now, sinceLast isResolution s = gap ++ [⟨.now,now⟩] ∧ now < assignment.expiresAt ∧
      current = some assignment ∧ (gap = [] ∨ ∃ c ∈ gap, isSession c = true)

def CheckedRound : Head → Log → Prop
  | .outer .., _ => True
  | .rotate _ assignment _ _, s => Checked assignment s

def CheckedSession : Call ConnectAns → Log → Prop
  | ⟨.runSession _ assignment _,_⟩, s => Checked assignment s
  | _, _ => True

theorem Checked.append {assignment : AssignmentCache} {s : Log} (h : Checked assignment s) (later : Log)
    (hlater : ∀ c ∈ later, isResolution c = false) (hsession : ∃ c ∈ later, isSession c = true) :
    Checked assignment (later ++ s) := by
  intro identity current err rest hlast
  rw [fromLast_append hlater] at hlast
  obtain ⟨gap,now,hgap,hlive,hcurrent,-⟩ := h identity current err rest hlast
  obtain ⟨c,hc,hopened⟩ := hsession
  refine ⟨later ++ gap,now,?_,hlive,hcurrent,.inr ⟨c,List.mem_append_left _ hc,hopened⟩⟩
  rw [sinceLast_append hlater,hgap,List.append_assoc]

theorem checked_resolved (identity : AgentIdentityState) (cache : Option AssignmentCache)
    (assignment : AssignmentCache) (s : Log) :
    Checked assignment (⟨.resolveAssignment identity cache,.ok assignment⟩::s) := by
  intro identity' current err rest hlast
  rw [fromLast_cons] at hlast
  cases hlast

theorem checked_cached (identity : AgentIdentityState) (cached : AssignmentCache)
    (e : AnyhowError) {now : SystemTime} (live : now < cached.expiresAt) (s : Log) :
    Checked cached
      (⟨.now,now⟩::⟨.resolveAssignment identity (some cached),.error e⟩::s) := by
  intro identity' current err rest hlast
  rw [fromLast_cons,fromLast_cons] at hlast
  cases hlast
  exact ⟨[],now,rfl,live,rfl,.inl rfl⟩

theorem checked_step {head : Head} {s t : Log} {o : Head ⊕ Except AnyhowError Unit}
    (hs : CheckedRound head s) (heach : Each CheckedSession s) (h : Step config head s o t) :
    Each CheckedSession t ∧ Sum.elim (CheckedRound · t) (fun _ => True) o := by
  cases h with
  | stopped => exact ⟨⟨trivial,heach⟩,trivial⟩
  | unidentified e => exact ⟨⟨trivial,trivial,heach⟩,trivial⟩
  | resolved identity assignment =>
    exact ⟨⟨trivial,trivial,trivial,heach⟩,checked_resolved identity _ assignment _⟩
  | cached identity e cached now live =>
    exact ⟨⟨trivial,trivial,trivial,trivial,heach⟩,checked_cached identity cached e live _⟩
  | expired identity e cached now dead =>
    exact ⟨⟨trivial,trivial,trivial,trivial,trivial,heach⟩,trivial⟩
  | unavailable identity e => exact ⟨⟨trivial,trivial,trivial,trivial,heach⟩,trivial⟩
  | noTarget => exact ⟨heach,trivial⟩
  | closed next e result => exact ⟨⟨hs,heach⟩,trivial⟩
  | fatal next e err result isFatal => exact ⟨⟨hs,heach⟩,trivial⟩
  | exhausted next e err result now last => exact ⟨⟨trivial,hs,heach⟩,trivial⟩
  | rotated next e err result now more =>
    refine ⟨⟨trivial,trivial,hs,heach⟩,hs.append [_,_,_] (by simp [isResolution]) ?_⟩
    exact ⟨_,List.mem_cons_of_mem _ (List.mem_cons_of_mem _ List.mem_cons_self),
      isSession_session _ _ _ e⟩
  | interrupted next e err result now more => exact ⟨⟨trivial,trivial,hs,heach⟩,trivial⟩

theorem connect_checked (config : AppConfig) (n : ℕ) :
    (connectHypervisor config n).Always recorder (Each CheckedSession)
      (fun o t => Sum.elim (CheckedRound · t) (fun _ => True) o) [] :=
  connect_each (fun _ => trivial) trivial (fun _ => trivial) trivial
    (fun _ _ _ _ => checked_step) n

/-! ### Time -/

/-- The clock is read when it is asked, which takes no time, and a sleep lasts at least as long
as it is told. -/
def Plausible : TimedCall ConnectAns → Prop
  | ⟨⟨.now,now⟩,start,took⟩ => now = start ∧ took = 0
  | ⟨⟨.sleep d,_⟩,_,took⟩ => d ≤ took
  | ⟨⟨.sleepOrCancelled d,false⟩,_,took⟩ => d ≤ took
  | _ => True

instance : DecidablePred Plausible := by
  rintro ⟨⟨o,x⟩,start,took⟩
  cases o with
  | now => exact inferInstanceAs (Decidable (x = start ∧ took = 0))
  | sleep d => exact inferInstanceAs (Decidable (d ≤ took))
  | sleepOrCancelled d =>
    cases x with
    | false => exact inferInstanceAs (Decidable (d ≤ took))
    | true => exact isTrue trivial
  | _ => exact isTrue trivial

def timedCalls (config : AppConfig) (n : ℕ) (clock : SystemTime)
    (choices : List (Call ConnectAns × Duration)) : List (TimedCall ConnectAns) :=
  ((connectHypervisor config n).run Timeline.recorder choices
    (Timeline.start Plausible clock)).2.calls

/-- `e` begins a session of `assignment` with `target` from the cache: the last resolution
before it, `failed`, was an error; `gap` lies between the two. -/
structure FromCache (calls : List (TimedCall ConnectAns)) (assignment : AssignmentCache)
    (e : TimedCall ConnectAns) (gap : List (TimedCall ConnectAns)) : Prop where
  session : ∃ identity target, e.call.1 = .runSession identity assignment target
  behind : ∃ later failed rest, calls = later ++ e::(gap ++ failed::rest) ∧
    ∃ identity current err, failed.call = ⟨.resolveAssignment identity current,.error err⟩
  last : ∀ x ∈ gap, isResolution x.call = false

/-- No session is begun from the cache once its assignment has expired. -/
def NoneExpired (calls : List (TimedCall ConnectAns)) : Prop :=
  ∀ assignment e gap, FromCache calls assignment e gap → e.start < assignment.expiresAt

/-- Whenever another session of a round from the cache begins, the sessions and sleeps of the
round so far have taken less time than the assignment had left at the check. -/
def InTime (calls : List (TimedCall ConnectAns)) : Prop :=
  ∀ assignment e gap check now, FromCache calls assignment e (gap ++ [check]) →
    check.call = ⟨.now,now⟩ → (∃ x ∈ gap, isSession x.call = true) →
      (elapsed gap : ℤ) < assignment.expiresAt - now

theorem answered_now {e : TimedCall ConnectAns} {now : SystemTime} (h : Plausible e)
    (hnow : e.call = ⟨.now,now⟩) : e.start = now ∧ e.took = 0 := by
  obtain ⟨call,start,took⟩ := e
  cases hnow
  exact ⟨h.1.symm,h.2⟩

theorem elapsed_append (gap : List (TimedCall ConnectAns)) (check : TimedCall ConnectAns) :
    elapsed (gap ++ [check]) = elapsed gap + check.took := by
  induction gap with
  | nil => simp [elapsed]
  | cons e gap ih =>
    rw [List.cons_append,elapsed,elapsed,ih]
    omega

theorem checkedSession_of {c : Call ConnectAns} {s : Log} {identity : AgentIdentityState}
    {assignment : AssignmentCache} {target : String} (h : CheckedSession c s)
    (hc : c.1 = .runSession identity assignment target) : Checked assignment s := by
  obtain ⟨o,x⟩ := c
  cases hc
  exact h

/-- A session from the cache begins as long after the check as the sessions and sleeps since
have taken, and the check found its assignment alive. -/
theorem FromCache.check {t : Timeline Plausible} (ht : Each CheckedSession t.trace)
    {assignment : AssignmentCache} {e : TimedCall ConnectAns} {gap : List (TimedCall ConnectAns)}
    (h : FromCache t.calls assignment e gap) :
    ∃ gap' check now, gap = gap' ++ [check] ∧ check.call = ⟨.now,now⟩ ∧
      now < assignment.expiresAt ∧ e.start = now + elapsed gap' ∧
      (gap' = [] ∨ ∃ x ∈ gap', isSession x.call = true) := by
  obtain ⟨⟨identity,target,hsession⟩,⟨later,failed,rest,hcalls,identity',current,err,hfailed⟩,
    hlast⟩ := h
  have hchecked : Checked assignment (gap.map (·.call) ++
      ⟨.resolveAssignment identity' current,.error err⟩::rest.map (·.call)) := by
    rw [Timeline.trace,hcalls] at ht
    simp only [List.map_append,List.map_cons,hfailed] at ht
    exact checkedSession_of (each_append ht).1 hsession
  have hgapCalls : ∀ x ∈ gap.map (·.call), isResolution x = false := by simpa using hlast
  obtain ⟨hsince,hfrom⟩ := split_at_last (a := ⟨.resolveAssignment identity' current,.error err⟩)
    (rest.map (·.call)) rfl hgapCalls
  obtain ⟨gap₀,now,hgap,hlive,-,hopened⟩ := hchecked _ _ _ _ hfrom
  rw [hsince,List.map_eq_append_iff] at hgap
  obtain ⟨gap',tail,rfl,rfl,htail⟩ := hgap
  obtain ⟨check,rfl,hcheck⟩ := List.map_eq_singleton_iff.mp htail
  obtain ⟨hstart,htook⟩ := answered_now (t.allAllowed check (by simp [hcalls])) hcheck
  have hunbroken := t.unbroken
  rw [hcalls] at hunbroken
  have hround := hunbroken.suffix
  rw [List.append_assoc,List.singleton_append] at hround
  have hbegun := hround.since
  rw [elapsed_append,htook,hstart,Nat.add_zero] at hbegun
  exact ⟨gap',check,now,rfl,hcheck,hlive,hbegun,by simpa using hopened⟩

/-- In every run, for every clock, candidates and durations, no session is begun from the
cache at or after the expiry of its assignment exactly when each round from the cache begins
its sessions but the first, which the check makes safe, before its sessions and sleeps have
taken the time its assignment had left at the check. -/
theorem noneExpired_iff (config : AppConfig) (n : ℕ) (clock : SystemTime)
    (choices : List (Call ConnectAns × Duration)) :
    NoneExpired (timedCalls config n clock choices) ↔
      InTime (timedCalls config n clock choices) := by
  have hrun := ((Timeline.always_trace (t := Timeline.start Plausible clock)
    (connect_checked config n)).run choices).1
  constructor
  · intro h assignment e gap check now hcache hnow _
    obtain ⟨gap',check',now',hgap,hcheck,-,hstart,-⟩ := hcache.check hrun
    obtain ⟨rfl,hlast⟩ := List.append_inj' hgap rfl
    cases hlast
    rw [hnow] at hcheck
    cases hcheck
    have hlt := h assignment e _ hcache
    rw [hstart] at hlt
    omega
  · intro h assignment e gap hcache
    obtain ⟨gap',check,now,rfl,hcheck,hlive,hstart,hopened⟩ := hcache.check hrun
    rw [hstart]
    rcases hopened with rfl | hopened
    · -- the first session begins at the check
      simpa [elapsed] using hlive
    · have hlt := h assignment e gap' check now hcache hcheck hopened
      omega

def atOnce (calls : List (Call ConnectAns)) : List (Call ConnectAns × Duration) :=
  calls.map fun c => (c,0)

def unresolved (current : Option AssignmentCache) : Call ConnectAns :=
  ⟨.resolveAssignment identity current,.error (.msg "unavailable")⟩

/-- The assignment for a minute is resolved, its first session closes, and half a minute
later the next resolution has failed. The session with the first candidate fails after 40
seconds, so that the second one is tried after 70. -/
def outlived : List (Call ConnectAns × Duration) :=
  atOnce (opening ++ resolving none twoTargets ++ [session twoTargets "dp-1:443" .ok,
    ⟨.isCancelled,false⟩,⟨.ensureIdentity,.ok identity⟩]) ++
  [(unresolved (some twoTargets),Duration.fromSecs 30),(⟨.now,Duration.fromSecs 30⟩,0),
    (session twoTargets "dp-1:443" (.err transportFailed),Duration.fromSecs 40),
    (⟨.now,Duration.fromSecs 70⟩,0),(⟨.sleepOrCancelled (Duration.fromMillis 200),false⟩,
      Duration.fromMillis 200),
    (session twoTargets "dp-2:443" .ok,0)]

def late : TimedCall ConnectAns :=
  ⟨session twoTargets "dp-2:443" .ok,(Duration.fromMillis 70200 : ℕ),0⟩

def behindFailure : List (TimedCall ConnectAns) :=
  [⟨⟨.sleepOrCancelled (Duration.fromMillis 200),false⟩,(Duration.fromSecs 70 : ℕ),
      Duration.fromMillis 200⟩,
    ⟨⟨.now,Duration.fromSecs 70⟩,(Duration.fromSecs 70 : ℕ),0⟩,
    ⟨session twoTargets "dp-1:443" (.err transportFailed),(Duration.fromSecs 30 : ℕ),
      Duration.fromSecs 40⟩,
    ⟨⟨.now,Duration.fromSecs 30⟩,(Duration.fromSecs 30 : ℕ),0⟩]

theorem late_fromCache :
    FromCache (timedCalls AppConfig.defaults 5 0 outlived) twoTargets late behindFailure where
  session := ⟨_,_,rfl⟩
  behind := ⟨[],⟨unresolved (some twoTargets),0,Duration.fromSecs 30⟩,_,rfl,_,_,_,rfl⟩
  last := by decide

/-- The second candidate is tried when the assignment has expired. -/
theorem second_expired : ¬∀ (config : AppConfig) (n : ℕ) (clock : SystemTime)
    (choices : List (Call ConnectAns × Duration)), NoneExpired (timedCalls config n clock choices) := by
  intro h
  exact absurd (h AppConfig.defaults 5 0 outlived twoTargets late behindFailure late_fromCache)
    (by decide)

end AssignmentExpiry
end KvmAgent
