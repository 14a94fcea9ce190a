import KvmAgent.ConnectRuns

/-! Where `connect_hypervisor` goes first with an assignment it has just resolved. -/
namespace KvmAgent
namespace ConnectTargets

open RustText Registry Trace ConnectSteps

variable {config : AppConfig}

/-- The first candidate with an address, or the preferred address when no candidate has
one. -/
def firstTarget (response : ResolveRuntimeAssignmentResponse) : String :=
  ((response.candidateDps.map trim).find? (· ≠ "")).getD (trim response.preferredDpAddr)

theorem candidatesOf_head {response : ResolveRuntimeAssignmentResponse} {target : String}
    (h : (candidatesOf response).head? = some target) : target = firstTarget response := by
  have hfind : ((response.candidateDps.filter fun addr => trim addr ≠ "").map trim).head? =
      (response.candidateDps.map trim).find? (· ≠ "") := by
    rw [List.head?_map,List.head?_filter,List.find?_map]
    rfl
  simp only [candidatesOf] at h
  split at h
  · next hempty =>
    rw [hempty.1] at hfind
    have hnone : (response.candidateDps.map trim).find? (· ≠ "") = none := hfind.symm
    rw [firstTarget,hnone]
    simpa using h.symm
  · rw [hfind] at h
    rw [firstTarget,h]
    rfl

/-- The call behind a resolution is a session to its first candidate. -/
def GoesFirst (c : Call ConnectAns) (s : Log) : Prop :=
  ∀ identity current (a : AssignmentCache) rest,
    s = ⟨.resolveAssignment identity current,.ok a⟩::rest →
    ∃ target e, a.candidates.head? = some target ∧ c = ⟨.runSession identity a target,e⟩

def AtStart (config : AppConfig) (head : Head) (s : Log) : Prop :=
  ∀ identity current (a : AssignmentCache) rest,
    s = ⟨.resolveAssignment identity current,.ok a⟩::rest →
    ∃ backoff, head = startRound config identity a backoff

theorem current_new (a : AssignmentCache) (base max : Duration) :
    (RuntimeTargetSelector.new a.candidates base max).current = a.candidates.head? := by
  have hlength := List.length_pos_of_ne_nil a.nonempty
  simp [RuntimeTargetSelector.new,RuntimeTargetSelector.current,a.nonempty,
    Nat.zero_mod,List.head?_eq_getElem?]

theorem goesFirst_other {c d : Call ConnectAns} {s : Log}
    (hd : ∀ identity current (a : AssignmentCache), d ≠ ⟨.resolveAssignment identity current,.ok a⟩) :
    GoesFirst c (d::s) := by
  intro identity current a rest h
  exact absurd (List.cons.inj h).1 (hd identity current a)

theorem goesFirst_outer {cache : Option AssignmentCache} {backoff : Duration} {s : Log}
    (hs : AtStart config (.outer cache backoff) s) (c : Call ConnectAns) : GoesFirst c s := by
  intro identity current a rest h
  obtain ⟨b,hb⟩ := hs identity current a rest h
  cases hb

theorem goesFirst_session {identity : AgentIdentityState} {assignment : AssignmentCache}
    {selector : RuntimeTargetSelector} {backoff : Duration} {target : String} {s : Log}
    (hs : AtStart config (.rotate identity assignment selector backoff) s)
    (next : selector.current = some target) (e : SessionEnd target) :
    GoesFirst ⟨.runSession identity assignment target,e⟩ s := by
  intro i current a rest h
  obtain ⟨b,hb⟩ := hs i current a rest h
  cases hb
  exact ⟨target,e,(current_new assignment _ _).symm.trans next,rfl⟩

theorem atStart_other {head : Head} {d : Call ConnectAns} {s : Log}
    (hd : ∀ identity current (a : AssignmentCache), d ≠ ⟨.resolveAssignment identity current,.ok a⟩) :
    AtStart config head (d::s) := by
  intro identity current a rest h
  exact absurd (List.cons.inj h).1 (hd identity current a)

theorem goesFirst_step {head : Head} {s t : Log} {o : Head ⊕ Except AnyhowError Unit}
    (hs : AtStart config head s) (heach : Each GoesFirst s) (h : Step config head s o t) :
    Each GoesFirst t ∧ Sum.elim (AtStart config · t) (fun _ => True) o := by
  cases h with
  | stopped => exact ⟨⟨goesFirst_outer hs _,heach⟩,trivial⟩
  | unidentified e => exact ⟨⟨goesFirst_other (by simp),goesFirst_outer hs _,heach⟩,trivial⟩
  | resolved identity assignment =>
    refine ⟨⟨goesFirst_other (by simp),goesFirst_other (by simp),goesFirst_outer hs _,heach⟩,?_⟩
    intro i current a rest h
    cases h
    exact ⟨_,rfl⟩
  | cached identity e cached now live =>
    exact ⟨⟨goesFirst_other (by simp),goesFirst_other (by simp),goesFirst_other (by simp),
      goesFirst_outer hs _,heach⟩,atStart_other (by simp)⟩
  | expired identity e cached now dead =>
    exact ⟨⟨goesFirst_other (by simp),goesFirst_other (by simp),goesFirst_other (by simp),
      goesFirst_other (by simp),goesFirst_outer hs _,heach⟩,atStart_other (by simp)⟩
  | unavailable identity e =>
    exact ⟨⟨goesFirst_other (by simp),goesFirst_other (by simp),goesFirst_other (by simp),
      goesFirst_outer hs _,heach⟩,atStart_other (by simp)⟩
  | @noTarget identity assignment selector backoff _ none =>
    refine ⟨heach,fun i current a rest h => ?_⟩
    obtain ⟨b,hb⟩ := hs i current a rest h
    cases hb
    rw [current_new,List.head?_eq_none_iff] at none
    exact absurd none assignment.nonempty
  | closed next e result => exact ⟨⟨goesFirst_session hs next e,heach⟩,atStart_other (by simp)⟩
  | fatal next e err result isFatal => exact ⟨⟨goesFirst_session hs next e,heach⟩,trivial⟩
  | exhausted next e err result now last =>
    exact ⟨⟨goesFirst_other (by simp),goesFirst_session hs next e,heach⟩,atStart_other (by simp)⟩
  | rotated next e err result now more =>
    exact ⟨⟨goesFirst_other (by simp),goesFirst_other (by simp),goesFirst_session hs next e,heach⟩,
      atStart_other (by simp)⟩
  | interrupted next e err result now more =>
    exact ⟨⟨goesFirst_other (by simp),goesFirst_other (by simp),goesFirst_session hs next e,heach⟩,
      trivial⟩

theorem connect_goesFirst (config : AppConfig) (n : ℕ) (choices : List (Call ConnectAns)) :
    Each GoesFirst ((connectHypervisor config n).run recorder choices []).2 :=
  ((connect_each (L := AtStart config) (P := fun _ _ => True) (fun _ _ _ _ _ h => by cases h)
    (goesFirst_other (by simp)) (fun _ => trivial) (atStart_other (by simp))
    (fun _ _ _ _ => goesFirst_step) n).run choices).1

/-- In every run the first session behind the resolution of a response goes to the first of
its candidates that has an address, trimmed; only where none has one, to the preferred
address. -/
theorem first_session (config : AppConfig) (n : ℕ) (choices : List (Call ConnectAns))
    (response : ResolveRuntimeAssignmentResponse) (accepted : candidatesOf response ≠ [])
    (expires : SystemTime) (identity : AgentIdentityState) (current : Option AssignmentCache)
    (later gap earlier : Log) (b : Call ConnectAns)
    (log : ((connectHypervisor config n).run recorder choices []).2 = later ++ b::(gap ++
      ⟨.resolveAssignment identity current,.ok (assignmentOf response accepted expires)⟩::earlier))
    (first : ∀ x ∈ gap, isSession x = false) :
    ∃ e, b = ⟨.runSession identity (assignmentOf response accepted expires)
      (firstTarget response),e⟩ := by
  have heach := connect_goesFirst config n choices
  rw [log] at heach
  have hb := each_append heach
  rcases List.eq_nil_or_concat gap with rfl | ⟨later',c,rfl⟩
  · obtain ⟨target,e,hhead,hc⟩ := hb.1 _ _ _ _ rfl
    obtain rfl := candidatesOf_head hhead
    exact ⟨e,hc⟩
  · have hgap := hb.2
    rw [List.concat_eq_append,List.append_assoc] at hgap
    obtain ⟨target,e,-,rfl⟩ := (each_append hgap).1 _ _ _ _ rfl
    have hnot := first ⟨.runSession identity _ target,e⟩ (by simp)
    simp at hnot

def preferredSecond : ResolveRuntimeAssignmentResponse where
  preferredDpId := "dp-1"
  preferredDpAddr := "dp-1:443"
  candidateDps := [" "," dp-2:443","dp-1:443"]
  assignmentEpoch := 1
  refreshAfterSec := 30

def preferredSecondAssignment : AssignmentCache :=
  assignmentOf preferredSecond (by decide) 60000000000

theorem first_preferredSecond : ∃ e,
    ConnectRuns.session preferredSecondAssignment "dp-2:443" .ok =
      ⟨.runSession ConnectRuns.identity preferredSecondAssignment (firstTarget preferredSecond),e⟩ :=
  first_session AppConfig.defaults 4
    (ConnectRuns.opening ++ ConnectRuns.resolving none preferredSecondAssignment ++
      [ConnectRuns.session preferredSecondAssignment "dp-2:443" .ok])
    preferredSecond (by decide) 60000000000 ConnectRuns.identity none [] []
    (⟨.ensureIdentity,.ok ConnectRuns.identity⟩::⟨.isCancelled,false⟩::ConnectRuns.opening.reverse)
    (ConnectRuns.session preferredSecondAssignment "dp-2:443" .ok) rfl (by simp)

/-- The first session goes to the first candidate, not to the preferred one. -/
theorem preferred_not_first : ¬∀ (config : AppConfig) (n : ℕ) (choices : List (Call ConnectAns))
    (response : ResolveRuntimeAssignmentResponse) (accepted : candidatesOf response ≠ [])
    (expires : SystemTime) (identity : AgentIdentityState) (current : Option AssignmentCache)
    (later gap earlier : Log) (b : Call ConnectAns),
    trim response.preferredDpAddr ≠ "" →
    ((connectHypervisor config n).run recorder choices []).2 = later ++ b::(gap ++
      ⟨.resolveAssignment identity current,.ok (assignmentOf response accepted expires)⟩::earlier) →
    isSession b = true → (∀ x ∈ gap, isSession x = false) →
    ∃ e, b = ⟨.runSession identity (assignmentOf response accepted expires)
      (trim response.preferredDpAddr),e⟩ := by
  intro h
  obtain ⟨e,he⟩ := h AppConfig.defaults 4
    (ConnectRuns.opening ++ ConnectRuns.resolving none preferredSecondAssignment ++
      [ConnectRuns.session preferredSecondAssignment "dp-2:443" .ok])
    preferredSecond (by decide) 60000000000 ConnectRuns.identity none [] []
    (⟨.ensureIdentity,.ok ConnectRuns.identity⟩::⟨.isCancelled,false⟩::ConnectRuns.opening.reverse)
    (ConnectRuns.session preferredSecondAssignment "dp-2:443" .ok) (by decide) rfl rfl (by simp)
  have htarget : "dp-2:443" = trim "dp-1:443" := by
    have hop := (Sigma.mk.inj he).1
    injection hop
  exact absurd htarget (by decide)

end ConnectTargets
end KvmAgent
