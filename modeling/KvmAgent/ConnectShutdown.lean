import KvmAgent.ConnectRuns

/-! What `connect_hypervisor` still does once its shutdown token is cancelled. -/
namespace KvmAgent
namespace ConnectShutdown

open Registry Trace ConnectSteps ConnectRuns

variable {config : AppConfig}

def isResolution : Call ConnectAns → Bool
  | ⟨.resolveAssignment ..,_⟩ => true
  | _ => false

def isCheck : Call ConnectAns → Bool
  | ⟨.isCancelled,_⟩ => true
  | _ => false

/-- Answers that are not given once the token is cancelled: a check that finds it live,
and a select that prefers a sleep not yet over. -/
def deniesShutdown : Call ConnectAns → Bool
  | ⟨.isCancelled,false⟩ => true
  | ⟨.sleepOrCancelled d,false⟩ => 0 < d
  | _ => false

/-- After a cancellation there is one session, one resolution, and nothing behind the
check; `s` counts as far back as its answers agree with a cancellation. -/
def Bounded (c : Call ConnectAns) (s : Log) : Prop :=
  (sinceLast deniesShutdown s).any isCheck = false ∧
  (isSession c = true → (sinceLast deniesShutdown s).any isSession = false) ∧
  (isResolution c = true → (sinceLast deniesShutdown s).any isResolution = false)

def Winding (config : AppConfig) (head : Head) (s : Log) : Prop :=
  Shape config s head ∧ (sinceLast deniesShutdown s).any isCheck = false ∧
  ∀ identity assignment selector backoff, head = .rotate identity assignment selector backoff →
    (sinceLast deniesShutdown s).any isSession = false

def Stopped (r : Except AnyhowError Unit) (s : Log) : Prop :=
  ∀ c rest, s = c::rest → isCheck c = true → r = .ok ()

section Steps

variable {cache : Option AssignmentCache} {backoff : Duration} {s : Log}

theorem bounded_outer (hcheck : (sinceLast deniesShutdown s).any isCheck = false)
    (heach : Each Bounded s) (r : Except AnyhowError AgentIdentityState) :
    Each Bounded (⟨.ensureIdentity,r⟩::⟨.isCancelled,false⟩::s) := by
  refine ⟨?_,⟨hcheck,by simp [isSession],by simp [isResolution]⟩,heach⟩
  simp [Bounded,sinceLast_cons,deniesShutdown,isSession,isResolution]

theorem bounded_resolution (hcheck : (sinceLast deniesShutdown s).any isCheck = false)
    (heach : Each Bounded s) (identity : AgentIdentityState)
    (r : Except AnyhowError AssignmentCache) :
    Each Bounded (⟨.resolveAssignment identity cache,r⟩::⟨.ensureIdentity,.ok identity⟩::
      ⟨.isCancelled,false⟩::s) := by
  refine ⟨?_,bounded_outer hcheck heach _⟩
  simp [Bounded,sinceLast_cons,deniesShutdown,isCheck,isSession,isResolution]

theorem bounded_other {c : Call ConnectAns} {t : Log}
    (hcheck : (sinceLast deniesShutdown t).any isCheck = false) (hc : isSession c = false)
    (hr : isResolution c = false) : Bounded c t :=
  ⟨hcheck,by simp [hc],by simp [hr]⟩

end Steps

theorem bounded_step (valid : config.agent.Valid) {head : Head} {s t : Log}
    {o : Head ⊕ Except AnyhowError Unit} (hs : Winding config head s) (heach : Each Bounded s)
    (h : Step config head s o t) :
    Each Bounded t ∧ Sum.elim (Winding config · t) (Stopped · t) o := by
  obtain ⟨hshape,hcheck,hsession⟩ := hs
  have hnext := shape_step valid hshape h
  have hbounded {identity assignment selector backoff target}
      (hhead : head = .rotate identity assignment selector backoff) (e : SessionEnd target) :
      Each Bounded (⟨.runSession identity assignment target,e⟩::s) :=
    ⟨⟨hcheck,fun _ => hsession _ _ _ _ hhead,by simp [isResolution]⟩,heach⟩
  have hafter {identity assignment target} (e : SessionEnd target) :
      (sinceLast deniesShutdown (⟨.runSession identity assignment target,e⟩::s)).any isCheck =
        false := by
    simp [sinceLast_cons,deniesShutdown,isCheck,hcheck]
  have hdelay {identity assignment target} (e : SessionEnd target) (now : SystemTime) :
      (sinceLast deniesShutdown (⟨.now,now⟩::⟨.runSession identity assignment target,e⟩::s)).any
        isCheck = false := by
    simp [sinceLast_cons,deniesShutdown,isCheck,hcheck]
  cases h with
  | stopped => exact ⟨⟨bounded_other hcheck rfl rfl,heach⟩,fun _ _ _ _ => rfl⟩
  | unidentified e =>
    exact ⟨bounded_outer hcheck heach _,fun c rest hc hk => by cases hc; cases hk⟩
  | resolved identity assignment =>
    refine ⟨bounded_resolution hcheck heach identity _,hnext _ rfl,?_⟩
    simp [sinceLast_cons,deniesShutdown,isCheck,isSession]
  | cached identity e cached now live =>
    refine ⟨⟨?_,bounded_resolution hcheck heach identity _⟩,hnext _ rfl,?_⟩
    · exact bounded_other (by simp [sinceLast_cons,deniesShutdown,isCheck]) rfl rfl
    · simp [sinceLast_cons,deniesShutdown,isCheck,isSession]
  | expired identity e cached now dead =>
    refine ⟨⟨?_,?_,bounded_resolution hcheck heach identity _⟩,hnext _ rfl,?_⟩
    · exact bounded_other (by simp [sinceLast_cons,deniesShutdown,isCheck]) rfl rfl
    · exact bounded_other (by simp [sinceLast_cons,deniesShutdown,isCheck]) rfl rfl
    · simp [sinceLast_cons,deniesShutdown,isCheck]
  | unavailable identity e =>
    refine ⟨⟨?_,bounded_resolution hcheck heach identity _⟩,hnext _ rfl,?_⟩
    · exact bounded_other (by simp [sinceLast_cons,deniesShutdown,isCheck]) rfl rfl
    · simp [sinceLast_cons,deniesShutdown,isCheck]
  | noTarget none => exact ⟨heach,hnext _ rfl,hcheck,by simp⟩
  | closed next e result => exact ⟨hbounded rfl e,hnext _ rfl,hafter e,by simp⟩
  | fatal next e err result isFatal =>
    exact ⟨hbounded rfl e,fun c rest hc hk => by cases hc; cases hk⟩
  | exhausted next e err result now last =>
    exact ⟨⟨bounded_other (hafter e) rfl rfl,hbounded rfl e⟩,hnext _ rfl,hdelay e now,by simp⟩
  | @rotated identity assignment selector backoff s target next e err result now more =>
    have hpos : 0 < max (selector.failoverDelay now) backoff :=
      (Nat.lt_of_lt_of_le valid.base_pos hshape.1).trans_le (le_max_right _ _)
    refine ⟨⟨bounded_other (hdelay e now) rfl rfl,bounded_other (hafter e) rfl rfl,
      hbounded rfl e⟩,hnext _ rfl,?_⟩
    simp only [sinceLast_cons,deniesShutdown,decide_eq_true hpos,if_true]
    simp
  | interrupted next e err result now more =>
    exact ⟨⟨bounded_other (hdelay e now) rfl rfl,bounded_other (hafter e) rfl rfl,hbounded rfl e⟩,
      fun c rest hc hk => by cases hc; cases hk⟩

theorem connect_bounded (valid : config.agent.Valid) (n : ℕ) :
    (connectHypervisor config n).Always recorder (Each Bounded)
      (fun o t => Sum.elim (Winding config · t) (Stopped · t) o) [] := by
  refine connect_each (fun r => ?_) ?_ (fun e => ?_) ?_ (fun _ _ _ _ => bounded_step valid) n
  · exact bounded_other rfl rfl rfl
  · exact bounded_other rfl rfl rfl
  · intro c rest hc hk
    cases hc
    cases hk
  · exact ⟨le_rfl,rfl,by simp⟩

/-- The calls begun after a cancellation, by what holds of each. -/
theorem counts_of_each {since before : Log} (heach : Each Bounded (since ++ before))
    (hsince : ∀ c ∈ since, deniesShutdown c = false) :
    since.countP isSession ≤ 1 ∧ since.countP isResolution ≤ 1 ∧
      ∀ c rest, since = c::rest → rest.any isCheck = false := by
  induction since with
  | nil => simp
  | cons c since ih =>
    have hrest : ∀ d ∈ since, deniesShutdown d = false := fun d hd => hsince d (by simp [hd])
    rw [List.cons_append] at heach
    obtain ⟨hsession,hresolution,-⟩ := ih heach.2 hrest
    obtain ⟨hcheck,hs,hr⟩ := heach.1
    rw [sinceLast_append hrest,List.any_append,Bool.or_eq_false_iff] at hcheck hs hr
    have hnone {k : Call ConnectAns → Bool} (h : since.any k = false) : since.countP k = 0 := by
      rw [List.countP_eq_zero]
      simpa using h
    refine ⟨?_,?_,?_⟩
    · by_cases hc : isSession c = true
      · simp [hc,hnone (hs hc).1]
      · simpa [List.countP_cons,hc] using hsession
    · by_cases hc : isResolution c = true
      · simp [hc,hnone (hr hc).1]
      · simpa [List.countP_cons,hc] using hresolution
    · rintro d rest h
      obtain ⟨rfl,rfl⟩ := List.cons.inj h
      exact hcheck.1

/-- In every run of a validated configuration and wherever the token is cancelled in it, at
most one session and one resolution begin afterwards, and the check of the outer loop is
the last call, with which the run returns `Ok`. -/
theorem shutdown_bounded (config : AppConfig) (valid : config.agent.validate = .ok ()) (n : ℕ)
    (choices : List (Call ConnectAns)) (since before : Log)
    (log : ((connectHypervisor config n).run recorder choices []).2 = since ++ before)
    (cancelled : ∀ c ∈ since, deniesShutdown c = false) :
    since.countP isSession ≤ 1 ∧ since.countP isResolution ≤ 1 ∧
    ∀ c ∈ since, isCheck c = true → (∃ rest, since = c::rest) ∧
      ((connectHypervisor config n).run recorder choices []).1 = some (.inr (.ok ())) := by
  have halways := connect_bounded (config.agent.validate_ok.mp valid) n
  obtain ⟨heach,hreturn⟩ := halways.run choices
  rw [log] at heach
  obtain ⟨hsession,hresolution,hlast⟩ := counts_of_each heach cancelled
  refine ⟨hsession,hresolution,fun c hc hk => ?_⟩
  cases since with
  | nil => simp at hc
  | cons d rest =>
    have hrest := hlast d rest rfl
    have hd : c = d := by
      rcases List.mem_cons.mp hc with rfl | hc
      · rfl
      · simp only [List.any_eq_false] at hrest
        exact absurd hk (hrest c hc)
    subst hd
    refine ⟨⟨rest,rfl⟩,?_⟩
    have hany : (sinceLast deniesShutdown (c::rest ++ before)).any isCheck = true := by
      rw [sinceLast_append cancelled]
      simp [hk]
    cases hrun : ((connectHypervisor config n).run recorder choices []).1 with
    | none =>
      obtain ⟨choices',d,hd⟩ := extends_of_cut hrun
      have heach' := (halways.run choices').1
      rw [hd,log] at heach'
      exact absurd hany (by rw [heach'.1.1]; simp)
    | some o =>
      have ho := hreturn o hrun
      rw [log] at ho
      cases o with
      | inl head => exact absurd hany (by rw [ho.2.1]; simp)
      | inr r => rw [ho c _ rfl hk]

/-- The token is cancelled right behind the check: the assignment is still resolved, and the
first of its two candidates served, before the next check. -/
def behindCheck : List (Call ConnectAns) :=
  [⟨.ensureIdentity,.ok identity⟩,⟨.resolveAssignment identity none,.ok twoTargets⟩,
    session twoTargets "dp-1:443" .ok,⟨.isCancelled,true⟩]

theorem cancelled_behind_check :
    behindCheck.reverse.countP isSession = 1 ∧ behindCheck.reverse.countP isResolution = 1 ∧
    (behindCheck.reverse.countP isSession ≤ 1 ∧ behindCheck.reverse.countP isResolution ≤ 1 ∧
      ∀ c ∈ behindCheck.reverse, isCheck c = true → (∃ rest, behindCheck.reverse = c::rest) ∧
        ((connectHypervisor AppConfig.defaults 4).run recorder
          (opening ++ ⟨.isCancelled,false⟩::behindCheck) []).1 = some (.inr (.ok ()))) :=
  ⟨rfl,rfl,shutdown_bounded AppConfig.defaults AgentConfig.defaults_valid 4
    (opening ++ ⟨.isCancelled,false⟩::behindCheck) behindCheck.reverse
    (⟨.isCancelled,false⟩::opening.reverse) rfl
    (by simp [behindCheck,deniesShutdown,session])⟩

end ConnectShutdown
end KvmAgent
