import KvmAgent.Rotation

/-! With what `connect_hypervisor` opens its sessions and resolves its assignments, in
terms of the answers it has had before. -/
namespace KvmAgent
namespace ConnectFreshness

open Registry Trace ConnectSteps

def enrolled : Log → Option AgentIdentityState
  | [] => none
  | ⟨.ensureIdentity,.ok identity⟩::_ => some identity
  | ⟨.ensureIdentity,.error _⟩::_ => none
  | _::rest => enrolled rest

def tried : Log → ℕ
  | [] => 0
  | ⟨.resolveAssignment ..,_⟩::_ => 0
  | ⟨.runSession ..,_⟩::rest => tried rest + 1
  | _::rest => tried rest

def spent (assignment : AssignmentCache) (earlier : Log) : Except AnyhowError Unit → Bool
  | .ok () => false
  | .error _ => decide (assignment.candidates.length ≤ tried earlier + 1)

/-- The assignment accepted last, unless all its candidates have failed since. -/
def known : Log → Option AssignmentCache
  | [] => none
  | ⟨.resolveAssignment ..,.ok assignment⟩::_ => some assignment
  | ⟨.runSession _ assignment _,e⟩::rest =>
    if spent assignment rest e.result then none else known rest
  | _::rest => known rest

/-- A resolution is made with the identity at hand and tells of the assignment that is
known; a session is opened with that identity and assignment, to the first candidate that
was not tried yet. -/
def Fresh : Call ConnectAns → Log → Prop
  | ⟨.resolveAssignment identity current,_⟩, s => enrolled s = some identity ∧ current = known s
  | ⟨.runSession identity assignment target,_⟩, s =>
    enrolled s = some identity ∧ known s = some assignment ∧
      assignment.candidates[tried s]? = some target
  | _, _ => True

def Holds : Head → Log → Prop
  | .outer cache _, s => cache = known s
  | .rotate identity assignment selector _, s =>
    enrolled s = some identity ∧ known s = some assignment ∧
      selector.targets = assignment.candidates ∧ selector.index = tried s ∧
      selector.index < selector.targets.length

section Steps

variable {config : AppConfig} {assignment : AssignmentCache} {selector : RuntimeTargetSelector}
  {identity : AgentIdentityState} {backoff : Duration} {target : String} {s : Log}

theorem holds_start (backoff : Duration) (henrolled : enrolled s = some identity) (hknown : known s = some assignment)
    (htried : tried s = 0) : Holds (startRound config identity assignment backoff) s :=
  ⟨henrolled,hknown,rfl,htried.symm,List.length_pos_of_ne_nil assignment.nonempty⟩

theorem fresh_session (hs : Holds (.rotate identity assignment selector backoff) s)
    (next : selector.current = some target) (e : SessionEnd target) :
    Fresh ⟨.runSession identity assignment target,e⟩ s := by
  obtain ⟨henrolled,hknown,htargets,hindex,hinside⟩ := hs
  rw [Rotation.current_eq hinside,htargets,hindex] at next
  exact ⟨henrolled,hknown,next⟩

theorem known_session {e : SessionEnd target} (hknown : known s = some assignment)
    (hspent : spent assignment s e.result = false) :
    known (⟨.runSession identity assignment target,e⟩::s) = some assignment := by
  rw [known,hspent]
  exact hknown

/-- A failed session uses its assignment up exactly when the selector is through. -/
theorem spent_iff (hs : Holds (.rotate identity assignment selector backoff) s)
    {r : Except AnyhowError Unit} {err : AnyhowError} (hr : r = .error err) :
    spent assignment s r = true ↔ selector.advance.current = none := by
  obtain ⟨-,-,htargets,hindex,hinside⟩ := hs
  subst hr
  rw [Rotation.advance_last hinside,spent,decide_eq_true_iff,← hindex,← htargets]
  omega

theorem fresh_step {head : Head} {t : Log} {o : Head ⊕ Except AnyhowError Unit}
    (hs : Holds head s) (heach : Each Fresh s) (h : Step config head s o t) :
    Each Fresh t ∧ Sum.elim (Holds · t) (fun _ => True) o := by
  cases h with
  | stopped => exact ⟨⟨trivial,heach⟩,trivial⟩
  | unidentified e => exact ⟨⟨trivial,trivial,heach⟩,trivial⟩
  | @resolved cache backoff _ identity assignment =>
    exact ⟨⟨⟨rfl,hs⟩,trivial,trivial,heach⟩,holds_start backoff rfl rfl rfl⟩
  | @cached backoff _ identity e cached now live =>
    exact ⟨⟨trivial,⟨rfl,hs⟩,trivial,trivial,heach⟩,holds_start backoff rfl hs.symm rfl⟩
  | expired identity e cached now dead =>
    exact ⟨⟨trivial,trivial,⟨rfl,hs⟩,trivial,trivial,heach⟩,hs⟩
  | unavailable identity e => exact ⟨⟨trivial,⟨rfl,hs⟩,trivial,trivial,heach⟩,hs⟩
  | noTarget hnone =>
    rw [Rotation.current_eq hs.2.2.2.2,List.getElem?_eq_none_iff] at hnone
    exact absurd hs.2.2.2.2 (not_lt.mpr hnone)
  | closed next e result =>
    refine ⟨⟨fresh_session hs next e,heach⟩,?_⟩
    exact (known_session hs.2.1 (by rw [result]; rfl)).symm
  | fatal next e err result isFatal => exact ⟨⟨fresh_session hs next e,heach⟩,trivial⟩
  | @exhausted identity assignment selector _ _ target next e err result now last =>
    refine ⟨⟨trivial,fresh_session hs next e,heach⟩,?_⟩
    have hspent : spent assignment s e.result = true := (spent_iff hs result).mpr last
    change none = known (⟨.runSession identity assignment target,e⟩::s)
    rw [known,if_pos hspent]
  | @rotated identity assignment selector _ _ target next e err result now more =>
    refine ⟨⟨trivial,trivial,fresh_session hs next e,heach⟩,?_⟩
    have hspent : spent assignment s e.result = false :=
      Bool.eq_false_iff.mpr fun h => more ((spent_iff hs result).mp h)
    have hknown : known (⟨.runSession identity assignment target,e⟩::_) = some assignment :=
      known_session hs.2.1 hspent
    obtain ⟨henrolled,-,htargets,hindex,hinside⟩ := hs
    have hmore : selector.index + 1 < selector.targets.length := by
      have hlast : selector.targets.length ≠ selector.index + 1 := fun h =>
        more ((Rotation.advance_last hinside).mpr h)
      omega
    obtain ⟨hadvTargets,hadvIndex⟩ := Rotation.advance_more hmore
    refine ⟨henrolled,hknown,hadvTargets.trans htargets,?_,?_⟩
    · rw [hadvIndex,hindex]
      rfl
    · rw [hadvIndex,hadvTargets]
      exact hmore
  | interrupted next e err result now more =>
    exact ⟨⟨trivial,trivial,fresh_session hs next e,heach⟩,trivial⟩

end Steps

/-- In every run of `connect_hypervisor`: each resolution is made with the identity of the
last `ensure_identity` and tells the controlplane of the assignment it accepted last,
unless all its candidates have failed since; each session is opened with that identity and
that assignment, and goes to the first candidate not tried since the last resolution. -/
theorem connect_fresh (config : AppConfig) (n : ℕ) (choices : List (Call ConnectAns)) :
    Each Fresh ((connectHypervisor config n).run recorder choices []).2 :=
  ((connect_each (L := Holds) (P := fun _ _ => True) (fun _ => trivial) trivial
    (fun _ => trivial) rfl (fun _ _ _ _ => fresh_step) n).run choices).1

end ConnectFreshness
end KvmAgent
