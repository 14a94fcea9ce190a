import KvmAgent.ConnectSteps

/-! Whole runs of `connect_hypervisor`: how it paces its sessions, and where it goes when the
assignment has changed. -/
namespace KvmAgent
namespace ConnectRuns

open Registry Trace ConnectSteps

variable {config : AppConfig}

def attempts : Log → ℕ
  | [] => 0
  | ⟨.resolveAssignment ..,_⟩::_ => 0
  | ⟨.runSession ..,_⟩::rest => attempts rest + 1
  | _::rest => attempts rest

/-- The rotation is at the first candidate it has not attempted. -/
structure InRotation (config : AppConfig) (assignment : AssignmentCache)
    (selector : RuntimeTargetSelector) (s : Log) : Prop where
  targets : selector.targets = assignment.candidates
  index : selector.index = attempts s
  inside : selector.index < assignment.candidates.length
  low : base config ≤ selector.backoff
  max : selector.maxBackoff = maxBackoff config

def Shape (config : AppConfig) (s : Log) : Head → Prop
  | .outer _ backoff => base config ≤ backoff
  | .rotate _ assignment selector backoff =>
    base config ≤ backoff ∧ InRotation config assignment selector s

section Selector

variable {assignment : AssignmentCache} {selector : RuntimeTargetSelector} {s : Log}

theorem current_inRotation (h : InRotation config assignment selector s) :
    selector.current = assignment.candidates[attempts s]? := by
  have hne : selector.targets ≠ [] := h.targets ▸ assignment.nonempty
  have hlt : selector.index < selector.targets.length := h.targets ▸ h.inside
  rw [RuntimeTargetSelector.current,if_neg hne,Nat.mod_eq_of_lt hlt,h.targets,h.index]

theorem current_ne_none (h : InRotation config assignment selector s) :
    selector.current ≠ none := by
  rw [current_inRotation h,← h.index]
  simp [h.inside]

theorem advance_current (h : InRotation config assignment selector s) :
    selector.advance.current = none ↔ assignment.candidates.length ≤ attempts s + 1 := by
  have hne : selector.targets ≠ [] := h.targets ▸ assignment.nonempty
  by_cases hlast : selector.targets.length ≤ selector.index + 1
  · simp [RuntimeTargetSelector.advance,RuntimeTargetSelector.current,hne,hlast,← h.targets,← h.index]
  · have hlt : selector.index + 1 < selector.targets.length := by omega
    simp [RuntimeTargetSelector.advance,RuntimeTargetSelector.current,hne,hlast,← h.targets,
      ← h.index,Nat.mod_eq_of_lt hlt]

theorem inRotation_start (assignment : AssignmentCache) {s : Log}
    (hs : attempts s = 0) : InRotation config assignment
      (.new assignment.candidates (base config) (maxBackoff config)) s where
  targets := rfl
  index := hs.symm
  inside := List.length_pos_of_ne_nil assignment.nonempty
  low := le_rfl
  max := rfl

theorem le_doubled (valid : config.agent.Valid) {backoff : Duration} (h : base config ≤ backoff) :
    base config ≤ doubled config backoff :=
  le_min (h.trans (Nat.le_mul_of_pos_right _ (by omega))) valid.base_le_max

theorem inRotation_advance (valid : config.agent.Valid)
    (h : InRotation config assignment selector s) (more : selector.advance.current ≠ none)
    {t : Log} (ht : attempts t = attempts s + 1) :
    InRotation config assignment selector.advance t := by
  have hne : selector.targets ≠ [] := h.targets ▸ assignment.nonempty
  have hlen : attempts s + 1 < assignment.candidates.length := by
    rw [Ne,advance_current h] at more
    omega
  have hnot : ¬selector.targets.length ≤ selector.index + 1 := by
    rw [h.targets,h.index]
    omega
  have hadv : selector.advance = { selector with
      index := selector.index + 1
      backoff := min (selector.backoff * 2) selector.maxBackoff } := by
    simp [RuntimeTargetSelector.advance,hne,hnot]
  refine ⟨by rw [hadv,← h.targets],?_,?_,?_,by rw [hadv,← h.max]⟩
  · rw [hadv,ht,← h.index]
  · rw [hadv]
    show selector.index + 1 < _
    rw [h.index]
    exact hlen
  · rw [hadv]
    show base config ≤ min (selector.backoff * 2) selector.maxBackoff
    rw [h.max]
    exact le_doubled valid h.low

theorem le_failoverDelay (selector : RuntimeTargetSelector) (now : SystemTime) :
    selector.backoff ≤ selector.failoverDelay now :=
  Nat.le_add_right _ _

end Selector

theorem shape_step (valid : config.agent.Valid) {head : Head} {s t : Log}
    {o : Head ⊕ Except AnyhowError Unit} (hs : Shape config s head)
    (h : Step config head s o t) : ∀ head', o = .inl head' → Shape config t head' := by
  rintro head' rfl
  cases h with
  | resolved identity assignment => exact ⟨hs,inRotation_start assignment rfl⟩
  | cached identity e cached now live => exact ⟨hs,inRotation_start cached rfl⟩
  | expired | unavailable => exact le_doubled valid hs
  | noTarget hnone => exact hs.1
  | closed => exact le_rfl
  | exhausted => exact le_doubled valid hs.1
  | rotated next e err result now more => exact ⟨hs.1,inRotation_advance valid hs.2 more rfl⟩

/-! ### Calls of sample runs -/

def identity : AgentIdentityState := ⟨[1],[2],[3],none,some "dp-1:443"⟩

def assignTo (candidates : List String) (nonempty : candidates ≠ [])
    (clean : ∀ c ∈ candidates, RustText.Trimmed c ∧ c ≠ "") : AssignmentCache where
  preferredDpId := "dp-1"
  preferredTarget := candidates.headD ""
  candidates := candidates
  assignmentEpoch := 1
  refreshAfter := Duration.fromSecs 30
  expiresAt := Duration.fromSecs 60
  nonempty := nonempty
  clean := clean

def oneTarget : AssignmentCache := assignTo ["dp-1:443"] (by decide) (by decide)
def twoTargets : AssignmentCache := assignTo ["dp-1:443","dp-2:443"] (by decide) (by decide)
def otherTarget : AssignmentCache := assignTo ["dp-3:443"] (by decide) (by decide)

def opening : List (Call ConnectAns) :=
  [⟨.openLedger AppConfig.defaults.agent.commandLedgerPath,.ok ()⟩,⟨.collectHostFacts,()⟩]

def resolving (current : Option AssignmentCache) (a : AssignmentCache) : List (Call ConnectAns) :=
  [⟨.isCancelled,false⟩,⟨.ensureIdentity,.ok identity⟩,
    ⟨.resolveAssignment identity current,.ok a⟩]

def session (a : AssignmentCache) (target : String) (e : SessionEnd target) : Call ConnectAns :=
  ⟨.runSession identity a target,e⟩

def recorded (choices : List (Call ConnectAns)) : Log :=
  ((connectHypervisor AppConfig.defaults choices.length).run recorder choices []).2

def transportFailed : AnyhowError := .msg "transport error"

/-! ### Pacing -/

def sleptBy : Call ConnectAns → Duration
  | ⟨.sleep d,_⟩ => d
  | ⟨.sleepOrCancelled d,false⟩ => d
  | _ => 0

def slept : Log → Duration
  | [] => 0
  | c::gap => sleptBy c + slept gap

theorem le_slept_sleep {d backoff : Duration} (s : Log) (hd : d ≤ backoff) :
    d ≤ slept (sinceLast isSession (⟨.sleep backoff,()⟩::s)) := by
  simp only [sinceLast_cons,isSession,Bool.false_eq_true,if_false,slept,sleptBy]
  exact hd.trans (Nat.le_add_right _ _)

theorem le_slept_failover {d retryIn : Duration} (s : Log) (hd : d ≤ retryIn) :
    d ≤ slept (sinceLast isSession (⟨.sleepOrCancelled retryIn,false⟩::s)) := by
  simp only [sinceLast_cons,isSession,Bool.false_eq_true,if_false,slept,sleptBy]
  exact hd.trans (Nat.le_add_right _ _)

/-- The session recorded last ended with an error on a candidate that was not the last of
its round. -/
def MidRound : Log → Prop
  | ⟨.runSession _ assignment _,e⟩::earlier =>
    (∃ err, e.result = .error err) ∧ attempts earlier + 1 < assignment.candidates.length
  | _ => False

/-- A resolution failed while no cached assignment was alive. -/
def Unavailable : Log → Prop
  | [] => False
  | ⟨.resolveAssignment _ none,.error _⟩::_ => True
  | ⟨.now,now⟩::⟨.resolveAssignment _ (some cached),.error _⟩::rest =>
    cached.expiresAt ≤ now ∨ Unavailable rest
  | _::rest => Unavailable rest

/-- Between the last session and the next, the agent owes a sleep of the base backoff
exactly when the session ended in the middle of a round or no assignment was available. -/
def Paced (config : AppConfig) (gap : Log) (a : Call ConnectAns) (earlier : Log) : Prop :=
  base config ≤ slept gap ↔ MidRound (a::earlier) ∨ Unavailable gap

def PacedSoFar (config : AppConfig) (s : Log) : Prop :=
  ∀ a earlier, fromLast isSession s = a::earlier →
    Paced config (sinceLast isSession s) a earlier

theorem pacedSoFar_step (valid : config.agent.Valid) {head : Head} {s t : Log}
    {o : Head ⊕ Except AnyhowError Unit} (hshape : Shape config s head)
    (hs : PacedSoFar config s) (h : Step config head s o t) (hgo : o.isLeft = true) :
    PacedSoFar config t := by
  have hpos : 0 < base config := valid.base_pos
  intro a earlier hlast
  cases h with
  | stopped | unidentified | fatal | interrupted => simp at hgo
  | resolved identity assignment =>
    have hp := hs a earlier (by simpa [fromLast_cons,isSession] using hlast)
    simpa [Paced,sinceLast_cons,isSession,slept,sleptBy,Unavailable] using hp
  | cached identity e cached now live =>
    have hp := hs a earlier (by simpa [fromLast_cons,isSession] using hlast)
    simpa [Paced,sinceLast_cons,isSession,slept,sleptBy,Unavailable,not_le.mpr live] using hp
  | expired identity e cached now dead =>
    refine iff_of_true ?_ (.inr (by simp [sinceLast_cons,isSession,Unavailable,dead]))
    exact le_slept_sleep _ hshape
  | unavailable identity e =>
    refine iff_of_true ?_ (.inr (by simp [sinceLast_cons,isSession,Unavailable]))
    exact le_slept_sleep _ hshape
  | noTarget hnone => exact absurd hnone (current_ne_none hshape.2)
  | closed next e result =>
    obtain ⟨rfl,rfl⟩ : _ ∧ _ := by simpa [fromLast_cons,isSession] using hlast
    refine iff_of_false ?_ ?_
    · simpa [sinceLast_cons,isSession,slept] using hpos.ne'
    · simp [sinceLast_cons,isSession,MidRound,Unavailable,result]
  | exhausted next e err result now last =>
    obtain ⟨rfl,rfl⟩ : _ ∧ _ := by simpa [fromLast_cons,isSession] using hlast
    have hend := (advance_current hshape.2).mp last
    refine iff_of_false ?_ ?_
    · simpa [sinceLast_cons,isSession,slept,sleptBy] using hpos.ne'
    · simp [sinceLast_cons,isSession,MidRound,Unavailable,result,not_lt.mpr hend]
  | @rotated _ _ selector backoff _ _ next e err result now more =>
    obtain ⟨rfl,rfl⟩ : _ ∧ _ := by simpa [fromLast_cons,isSession] using hlast
    have hmid : attempts _ + 1 < _ := not_le.mp fun hle => more ((advance_current hshape.2).mpr hle)
    refine iff_of_true ?_ (.inl ⟨⟨err,result⟩,hmid⟩)
    have hlow := hshape.2.low.trans (le_failoverDelay selector now)
    exact le_slept_failover _ (hlow.trans (le_max_left _ backoff))

/-- In every run of a validated configuration, between the end of a session and the start
of the next the agent sleeps for the base backoff exactly when the session ended with an
error on a candidate that was not the last of its round, or a resolution in between failed
without a live cached assignment. -/
theorem paced_iff (config : AppConfig) (valid : config.agent.validate = .ok ()) (n : ℕ)
    (choices : List (Call ConnectAns)) :
    Gaps isSession (fun _ gap a earlier => base config ≤ slept gap ↔
        MidRound (a::earlier) ∨ Unavailable gap)
      ((connectHypervisor config n).run recorder choices []).2 := by
  have hvalid := config.agent.validate_ok.mp valid
  refine ((connect_always (L := fun head s => Shape config s head ∧ PacedSoFar config s)
    (P := fun _ _ => True) (fun _ => trivial) ⟨le_rfl,?_⟩ ?_ ?_ n).run choices).1
  · intro a earlier hlast
    simp [fromLast_cons,isSession] at hlast
  · rintro head s ⟨-,hs⟩ identity assignment selector backoff target - - e a earlier hlast
    exact hs a earlier hlast
  · rintro head s o t ⟨hshape,hs⟩ hstep
    cases o with
    | inl head' =>
      exact ⟨shape_step hvalid hshape hstep head' rfl,pacedSoFar_step hvalid hshape hs hstep rfl⟩
    | inr r => trivial

def failover : List (Call ConnectAns) :=
  [⟨.now,0⟩,⟨.sleepOrCancelled (Duration.fromMillis 200),false⟩]

theorem paced_failover : base AppConfig.defaults ≤ slept failover.reverse :=
  (paced_iff AppConfig.defaults AgentConfig.defaults_valid 4
    (opening ++ resolving none twoTargets ++ [session twoTargets "dp-1:443" (.err transportFailed)] ++
      failover ++ [session twoTargets "dp-2:443" .ok])
    (session twoTargets "dp-2:443" .ok) failover.reverse
    (session twoTargets "dp-1:443" (.err transportFailed))
    (opening ++ resolving none twoTargets).reverse
    ⟨[],rfl,rfl,rfl,by decide⟩).mpr (.inl ⟨⟨_,rfl⟩,by decide⟩)

/-- A stream the server closes, and a failure of the last candidate, are followed by the
next session without any sleep. -/
theorem hot_reconnects :
    Consecutive isSession
      (recorded (opening ++ resolving none oneTarget ++ [session oneTarget "dp-1:443" .ok] ++
        resolving (some oneTarget) oneTarget ++ [session oneTarget "dp-1:443" .ok]))
      (session oneTarget "dp-1:443" .ok) (resolving (some oneTarget) oneTarget).reverse
      (session oneTarget "dp-1:443" .ok) (opening ++ resolving none oneTarget).reverse ∧
    slept (resolving (some oneTarget) oneTarget).reverse = 0 ∧
    Consecutive isSession
      (recorded (opening ++ resolving none oneTarget ++
        [session oneTarget "dp-1:443" (.err transportFailed),⟨.now,0⟩] ++
        resolving none oneTarget ++ [session oneTarget "dp-1:443" .ok]))
      (session oneTarget "dp-1:443" .ok) (⟨.now,0⟩::resolving none oneTarget).reverse
      (session oneTarget "dp-1:443" (.err transportFailed))
      (opening ++ resolving none oneTarget).reverse ∧
    slept (⟨.now,0⟩::resolving none oneTarget).reverse = 0 ∧ 0 < base AppConfig.defaults :=
  ⟨⟨[],rfl,rfl,rfl,by decide⟩,rfl,⟨[],rfl,rfl,rfl,by decide⟩,rfl,by decide⟩

/-! ### Changed assignments -/

/-- The resolutions of a gap that succeeded returned the updated assignment. -/
def StillReturns (updated : AssignmentCache) (gap : Log) : Prop :=
  ∀ identity current (a : AssignmentCache), ⟨.resolveAssignment identity current,.ok a⟩ ∈ gap →
    a.candidates = updated.candidates

/-- The session behind one that ended for a changed assignment goes to a target of the
updated assignment exactly when the round was over or its next candidate is one. -/
def Follows (b : Call ConnectAns) (gap : Log) (a : Call ConnectAns) (earlier : Log) : Prop :=
  ∀ identity superseded target updated differs,
    a = ⟨.runSession identity superseded target,.changed updated differs⟩ →
    StillReturns updated gap → ∀ identity' next target' e,
      b = ⟨.runSession identity' next target',e⟩ →
      (target' ∈ updated.candidates ↔
        attempts earlier + 1 = superseded.candidates.length ∨
        ∃ c, superseded.candidates[attempts earlier + 1]? = some c ∧ c ∈ updated.candidates)

/-- Where a changed assignment leaves the loops: with the old round over and the cache
dropped until it is resolved again, or at the next candidate of the old round. -/
def Superseded (s : Log) (head : Head) : Prop :=
  ∀ identity superseded target updated differs earlier,
    fromLast isSession s =
      ⟨.runSession identity superseded target,.changed updated differs⟩::earlier →
    match head with
    | .outer cache _ =>
      cache = none ∧ attempts earlier + 1 = superseded.candidates.length
    | .rotate _ assignment selector _ =>
      (attempts earlier + 1 = superseded.candidates.length ∧
        ∃ i c, ⟨.resolveAssignment i c,.ok assignment⟩ ∈ sinceLast isSession s) ∨
      (assignment = superseded ∧ selector.index = attempts earlier + 1 ∧
        attempts earlier + 1 < superseded.candidates.length)

theorem superseded_step (valid : config.agent.Valid) {head : Head} {s t : Log}
    {o : Head ⊕ Except AnyhowError Unit} (hshape : Shape config s head) (hs : Superseded s head)
    (h : Step config head s o t) : ∀ head', o = .inl head' → Superseded t head' := by
  rintro head' rfl identity superseded target updated differs earlier hlast
  cases h with
  | @resolved cache _ _ i assignment =>
    have hp := hs identity superseded target updated differs earlier
      (by simpa [fromLast_cons,isSession] using hlast)
    exact .inl ⟨hp.2,i,cache,by simp [sinceLast_cons,isSession]⟩
  | cached | expired =>
    have hp := hs identity superseded target updated differs earlier
      (by simpa [fromLast_cons,isSession] using hlast)
    exact absurd hp.1 (by simp)
  | unavailable =>
    exact hs identity superseded target updated differs earlier
      (by simpa [fromLast_cons,isSession] using hlast)
  | noTarget hnone => exact absurd hnone (current_ne_none hshape.2)
  | closed next e result =>
    simp only [fromLast_cons,isSession,if_true] at hlast
    cases hlast
    simp [SessionEnd.result] at result
  | exhausted next e err result now last =>
    have hend := (advance_current hshape.2).mp last
    have hin := hshape.2.inside
    rw [hshape.2.index] at hin
    simp only [fromLast_cons,isSession,Bool.false_eq_true,if_false,if_true] at hlast
    cases hlast
    exact ⟨rfl,by omega⟩
  | rotated next e err result now more =>
    have hmore : attempts s + 1 < _ := not_le.mp fun hle => more ((advance_current hshape.2).mpr hle)
    simp only [fromLast_cons,isSession,Bool.false_eq_true,if_false,if_true] at hlast
    cases hlast
    have hadv := inRotation_advance valid hshape.2 more (t := ⟨.runSession identity superseded target,
      .changed updated differs⟩::s) rfl
    exact .inr ⟨rfl,hadv.index,hmore⟩

theorem follows_of_superseded {identity : AgentIdentityState} {assignment : AssignmentCache}
    {selector : RuntimeTargetSelector} {backoff : Duration} {target : String} {s earlier : Log}
    {a : Call ConnectAns} (e : SessionEnd target)
    (hrotation : InRotation config assignment selector s)
    (hs : Superseded s (.rotate identity assignment selector backoff))
    (next : selector.current = some target) (hlast : fromLast isSession s = a::earlier) :
    Follows ⟨.runSession identity assignment target,e⟩ (sinceLast isSession s) a earlier := by
  rintro i superseded old updated differs rfl still i' a' target' e' hb
  cases hb
  have hcurrent := (current_inRotation hrotation).symm.trans next
  rcases hs i superseded old updated differs earlier hlast with
    ⟨hend,i,c,hresolved⟩ | ⟨rfl,hindex,hlt⟩
  · have hmem : target ∈ assignment.candidates := List.mem_of_getElem? hcurrent
    rw [still i c assignment hresolved] at hmem
    exact iff_of_true hmem (.inl hend)
  · rw [← hrotation.index,hindex] at hcurrent
    constructor
    · exact fun hmem => .inr ⟨target,hcurrent,hmem⟩
    · rintro (hend | ⟨c,hc,hmem⟩)
      · omega
      · rw [hcurrent,Option.some.injEq] at hc
        exact hc ▸ hmem

/-- In every run of a validated configuration, and as long as resolutions return the
updated assignment, the session behind one that ended for a changed assignment goes to a
target of the updated one exactly when the round of the superseded one was over or its next
candidate is such a target. -/
theorem follows_iff (config : AppConfig) (valid : config.agent.validate = .ok ()) (n : ℕ)
    (choices : List (Call ConnectAns)) :
    Gaps isSession Follows ((connectHypervisor config n).run recorder choices []).2 := by
  have hvalid := config.agent.validate_ok.mp valid
  refine ((connect_always (L := fun head s => Shape config s head ∧ Superseded s head)
    (P := fun _ _ => True) (fun _ => trivial) ⟨le_rfl,?_⟩ ?_ ?_ n).run choices).1
  · intro identity superseded target updated differs earlier hlast
    simp [fromLast_cons,isSession] at hlast
  · rintro head s ⟨hshape,hs⟩ identity assignment selector backoff target rfl next e a earlier hlast
    exact follows_of_superseded e hshape.2 hs next hlast
  · rintro head s o t ⟨hshape,hs⟩ hstep
    cases o with
    | inl head' =>
      exact ⟨shape_step hvalid hshape hstep head' rfl,superseded_step hvalid hshape hs hstep head' rfl⟩
    | inr r => trivial

theorem differs_from_other : otherTarget.preferredTarget ≠ "dp-1:443" := by decide

/-- The round of a single candidate is over, so the new assignment is resolved first. -/
theorem follows_other : "dp-3:443" ∈ otherTarget.candidates :=
  (follows_iff AppConfig.defaults AgentConfig.defaults_valid 4
    (opening ++ resolving none oneTarget ++
      [session oneTarget "dp-1:443" (.changed otherTarget differs_from_other),⟨.now,0⟩] ++
      resolving none otherTarget ++ [session otherTarget "dp-3:443" .ok])
    (session otherTarget "dp-3:443" .ok) (⟨.now,0⟩::resolving none otherTarget).reverse
    (session oneTarget "dp-1:443" (.changed otherTarget differs_from_other))
    (opening ++ resolving none oneTarget).reverse ⟨[],rfl,rfl,rfl,by decide⟩
    identity oneTarget "dp-1:443" otherTarget differs_from_other rfl
    (by
      intro i c a ha
      simp [resolving] at ha
      rw [ha.2])
    identity otherTarget "dp-3:443" .ok rfl).mpr (.inl rfl)

/-- With a candidate left in the round, the session behind a changed assignment goes to
that candidate, which the updated assignment does not name. -/
theorem superseded_candidate :
    Consecutive isSession
      (recorded (opening ++ resolving none twoTargets ++
        [session twoTargets "dp-1:443" (.changed otherTarget differs_from_other)] ++ failover ++
        [session twoTargets "dp-2:443" .ok]))
      (session twoTargets "dp-2:443" .ok) failover.reverse
      (session twoTargets "dp-1:443" (.changed otherTarget differs_from_other))
      (opening ++ resolving none twoTargets).reverse ∧
    "dp-2:443" ∉ otherTarget.candidates :=
  ⟨⟨[],rfl,rfl,rfl,by decide⟩,by decide⟩

end ConnectRuns
end KvmAgent
