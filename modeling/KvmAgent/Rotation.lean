import KvmAgent.ConnectSteps
import Mathlib.Data.List.Infix

/-! One round of `connect_hypervisor`: the rotation through the candidates of an
assignment, until a session closes, fails fatally, the shutdown comes or the list is
through. -/
namespace KvmAgent
namespace Rotation

open Registry Trace ConnectSteps

variable (config : AppConfig)

/-- Where a round leaves the loops: for the outer loop, or with a result. -/
abbrev Exit := Head ⊕ Except AnyhowError Unit

def leave : Head ⊕ Except AnyhowError Unit → Head ⊕ Exit
  | .inl (.rotate identity assignment selector backoff) =>
    .inl (.rotate identity assignment selector backoff)
  | exit => .inr exit

/-- One iteration of `while let Some(target) = selector.current()`. -/
def rotateOnce (head : Head) : Prog ConnectAns (Head ⊕ Exit) := do
  return leave (← iterate config head)

/-- The inner loop of `connect_hypervisor`, for at most `n` iterations. -/
def rotation (n : ℕ) (head : Head) : Prog ConnectAns (Head ⊕ Exit) :=
  Prog.loop (rotateOnce config) n head

def attempted : Log → List String
  | [] => []
  | ⟨.runSession _ _ target,_⟩::earlier => attempted earlier ++ [target]
  | _::earlier => attempted earlier

/-- What ends a round before its list is through: the last session closed or failed
fatally, or the shutdown came while the agent slept. -/
inductive CutShort : Log → Prop
  | closed {identity assignment target earlier} (e : SessionEnd target)
    (result : e.result = .ok ()) : CutShort (⟨.runSession identity assignment target,e⟩::earlier)
  | fatal {identity assignment target earlier} (e : SessionEnd target) (err : AnyhowError)
    (result : e.result = .error err) (isFatal : err.isFatalBootstrapError = true) :
    CutShort (⟨.runSession identity assignment target,e⟩::earlier)
  | shutdown {retryIn earlier} : CutShort (⟨.sleepOrCancelled retryIn,true⟩::earlier)

/-- Before each iteration the selector stands at the first candidate not yet attempted. -/
def Rotating (identity : AgentIdentityState) (assignment : AssignmentCache) (backoff : Duration)
    (head : Head) (s : Log) : Prop :=
  ∃ selector, head = .rotate identity assignment selector backoff ∧
    selector.targets = assignment.candidates ∧ selector.index = (attempted s).length ∧
    selector.index < selector.targets.length ∧ attempted s <+: assignment.candidates

def Ends (assignment : AssignmentCache) (backoff : Duration) (exit : Exit) (s : Log) : Prop :=
  CutShort s ∨
    (attempted s = assignment.candidates ∧ exit = .inl (.outer none (doubled config backoff)))

def left : Head → ℕ
  | .outer .. => 0
  | .rotate _ _ selector _ => selector.targets.length - selector.index

section Selector

variable {selector : RuntimeTargetSelector} {target : String}

theorem current_eq (inside : selector.index < selector.targets.length) :
    selector.current = selector.targets[selector.index]? := by
  have hne : selector.targets ≠ [] := List.ne_nil_of_length_pos (by omega)
  rw [RuntimeTargetSelector.current,if_neg hne,Nat.mod_eq_of_lt inside]

theorem advance_last (inside : selector.index < selector.targets.length) :
    selector.advance.current = none ↔ selector.targets.length = selector.index + 1 := by
  have hne : selector.targets ≠ [] := List.ne_nil_of_length_pos (by omega)
  by_cases hlast : selector.targets.length ≤ selector.index + 1
  · have heq : selector.targets.length = selector.index + 1 := by omega
    simp [RuntimeTargetSelector.advance,RuntimeTargetSelector.current,hne,heq]
  · have hlt : selector.index + 1 < selector.targets.length := by omega
    have hneq : selector.targets.length ≠ selector.index + 1 := by omega
    simp [RuntimeTargetSelector.advance,RuntimeTargetSelector.current,hne,hlast,
      Nat.mod_eq_of_lt hlt,hneq]

theorem advance_more (inside : selector.index + 1 < selector.targets.length) :
    selector.advance.targets = selector.targets ∧ selector.advance.index = selector.index + 1 := by
  have hne : selector.targets ≠ [] := List.ne_nil_of_length_pos (by omega)
  have hnot : ¬selector.targets.length ≤ selector.index + 1 := by omega
  simp [RuntimeTargetSelector.advance,hne,hnot]

end Selector

theorem next_attempted {l candidates : List String} {target : String} (hl : l <+: candidates)
    (next : candidates[l.length]? = some target) : l ++ [target] <+: candidates := by
  have htake : candidates.take (l.length + 1) = l ++ [target] := by
    rw [List.take_add_one,next,← List.prefix_iff_eq_take.mp hl]
    rfl
  exact htake ▸ List.take_prefix _ _

theorem attempted_suffix {t u : Log} (h : t <:+ u) : attempted t <+: attempted u := by
  obtain ⟨later,rfl⟩ := h
  induction later with
  | nil => exact List.prefix_refl _
  | cons c later ih =>
    obtain ⟨o,x⟩ := c
    cases o with
    | runSession => exact ih.trans (List.prefix_append _ _)
    | _ => exact ih

section Rounds

variable {config} {identity : AgentIdentityState} {assignment : AssignmentCache}
  {backoff : Duration}

/-- One iteration of a round attempts the next candidate, and ends the round or comes
closer to its end. -/
theorem rotating_step {head : Head} {s t : Log} {o : Head ⊕ Except AnyhowError Unit}
    (hs : Rotating identity assignment backoff head s) (h : Step config head s o t) :
    attempted t <+: assignment.candidates ∧
    Sum.elim (fun head' => Rotating identity assignment backoff head' t ∧ left head' < left head)
      (Ends config assignment backoff · t) (leave o) := by
  obtain ⟨selector,rfl,htargets,hindex,hinside,hattempted⟩ := hs
  have hcurrent := current_eq hinside
  have hnext {target : String} (next : selector.current = some target) :
      attempted s ++ [target] <+: assignment.candidates := by
    rw [hcurrent,htargets,hindex] at next
    exact next_attempted hattempted next
  cases h with
  | noTarget hnone =>
    rw [hcurrent,List.getElem?_eq_none_iff] at hnone
    omega
  | closed next e result => exact ⟨hnext next,.inl (.closed e result)⟩
  | fatal next e err result isFatal => exact ⟨hnext next,.inl (.fatal e err result isFatal)⟩
  | interrupted next e err result now more => exact ⟨hnext next,.inl .shutdown⟩
  | @exhausted _ _ _ _ _ target next e err result now last =>
    refine ⟨hnext next,.inr ⟨?_,rfl⟩⟩
    have hlength : assignment.candidates.length = selector.index + 1 := by
      rw [← htargets]
      exact (advance_last hinside).mp last
    have hattempts : (attempted s ++ [target]).length = selector.index + 1 := by
      rw [hindex,List.length_append,List.length_singleton]
    exact (hnext next).eq_of_length (by rw [hlength,← hattempts])
  | @rotated _ _ _ _ _ target next e err result now more =>
    have hmore : selector.index + 1 < selector.targets.length := by
      have hnot : selector.targets.length ≠ selector.index + 1 := fun heq =>
        more ((advance_last hinside).mpr heq)
      omega
    obtain ⟨hadvTargets,hadvIndex⟩ := advance_more hmore
    refine ⟨hnext next,⟨selector.advance,rfl,hadvTargets.trans htargets,?_,?_,hnext next⟩,?_⟩
    · rw [hadvIndex,hindex]
      simp [attempted]
    · rw [hadvIndex,hadvTargets]
      exact hmore
    · simp only [left,hadvIndex,hadvTargets]
      omega

theorem rotateOnce_spec {head : Head} {s : Log}
    (hs : Rotating identity assignment backoff head s) :
    (rotateOnce config head).Always recorder (fun t => attempted t <+: assignment.candidates)
      (fun o t => Sum.elim
        (fun head' => Rotating identity assignment backoff head' t ∧ left head' < left head)
        (Ends config assignment backoff · t) o) s := by
  rw [rotateOnce,Prog.always_bind]
  refine (iterate_within head s).mono ?_ ?_
  · rintro t ⟨o,u,hstep,hsuffix⟩
    exact (attempted_suffix hsuffix).trans (rotating_step hs hstep).1
  · intro o t _ hstep
    exact rotating_step hs hstep

theorem rotating_start (config : AppConfig) (identity : AgentIdentityState)
    (assignment : AssignmentCache) (backoff : Duration) :
    Rotating identity assignment backoff (startRound config identity assignment backoff) [] :=
  ⟨_,rfl,rfl,rfl,List.length_pos_of_ne_nil assignment.nonempty,List.nil_prefix⟩

theorem left_pos {head : Head} {s : Log} (hs : Rotating identity assignment backoff head s) :
    0 < left head := by
  obtain ⟨selector,rfl,-,-,hinside,-⟩ := hs
  simp only [left]
  omega

theorem rotation_spec {head : Head} {s : Log} (n : ℕ)
    (hs : Rotating identity assignment backoff head s) :
    (rotation config n head).Always recorder (fun t => attempted t <+: assignment.candidates)
      (fun o t => Sum.elim (Rotating identity assignment backoff · t)
        (Ends config assignment backoff · t) o) s := by
  refine Prog.always_loop ?_ n hs
  intro head s hs
  refine (rotateOnce_spec hs).mono (fun _ ht => ht) ?_
  intro o t _ ho
  cases o with
  | inl head' => exact ho.1
  | inr exit => exact ho

theorem rotation_over {head : Head} {s : Log} {n : ℕ}
    (hs : Rotating identity assignment backoff head s) (hn : left head ≤ n) :
    (rotation config n head).Always recorder (fun t => attempted t <+: assignment.candidates)
      (fun o t => ∃ exit, o = .inr exit ∧ Ends config assignment backoff exit t) s :=
  Prog.always_loop_bounded left (fun _ _ => left_pos) (fun _ _ => rotateOnce_spec) n hs hn

end Rounds

section Responses

open RustText

variable {response : ResolveRuntimeAssignmentResponse}

/-- The trimmed addresses of the candidates that have one, in the order of the server; the
trimmed preferred address where none has. -/
def targetsOf (response : ResolveRuntimeAssignmentResponse) : List String :=
  match (response.candidateDps.map trim).filter (· ≠ "") with
  | [] => [trim response.preferredDpAddr]
  | addresses => addresses

theorem candidatesOf_eq (accepted : candidatesOf response ≠ []) :
    candidatesOf response = targetsOf response := by
  have hsame : (response.candidateDps.filter fun addr => trim addr ≠ "").map trim =
      (response.candidateDps.map trim).filter (· ≠ "") := by
    rw [List.filter_map]
    rfl
  simp only [candidatesOf,hsame,targetsOf] at accepted ⊢
  cases haddresses : (response.candidateDps.map trim).filter (· ≠ "") with
  | nil =>
    simp only [haddresses,true_and] at accepted ⊢
    split at accepted
    · next hpreferred => rw [if_pos hpreferred]
    · exact absurd rfl accepted
  | cons target targets => simp

end Responses

/-- A round attempts the trimmed addresses of its response in their order, each once, and ends
with the list unless it is cut short; it takes no more iterations than there are addresses,
and its index never leaves the list. -/
theorem round_visits (config : AppConfig) (response : ResolveRuntimeAssignmentResponse)
    (accepted : candidatesOf response ≠ []) (expires : SystemTime) (identity : AgentIdentityState)
    (backoff : Duration) (n : ℕ) (choices : List (Call ConnectAns)) :
    let round := (rotation config n
      (startRound config identity (assignmentOf response accepted expires) backoff)).run
        recorder choices []
    attempted round.2 <+: targetsOf response ∧
    (∀ exit, round.1 = some (.inr exit) → CutShort round.2 ∨
      (attempted round.2 = targetsOf response ∧
        exit = .inl (.outer none (doubled config backoff)))) ∧
    (∀ head, round.1 = some (.inl head) → n < (targetsOf response).length ∧
      ∃ selector, head = .rotate identity (assignmentOf response accepted expires) selector backoff ∧
        selector.targets = targetsOf response ∧
        selector.index = (attempted round.2).length ∧
        selector.index < selector.targets.length) := by
  rw [← candidatesOf_eq accepted]
  have hstart := rotating_start config identity (assignmentOf response accepted expires) backoff
  have hround : (rotation config n (startRound config identity
      (assignmentOf response accepted expires) backoff)).Always recorder _ _ [] :=
    rotation_spec n hstart
  obtain ⟨hattempted,hends⟩ := hround.run choices
  refine ⟨hattempted,fun exit hexit => hends _ hexit,fun head hhead => ?_⟩
  obtain ⟨selector,hrotate,htargets,hindex,hinside,-⟩ := hends _ hhead
  refine ⟨?_,selector,hrotate,htargets,hindex,hinside⟩
  by_contra hmany
  have hover : (rotation config n (startRound config identity
      (assignmentOf response accepted expires) backoff)).Always recorder _ _ [] :=
    rotation_over hstart (not_lt.mp hmany)
  obtain ⟨exit,hexit,-⟩ := (hover.run choices).2 _ hhead
  cases hexit

/-- Four candidates: one of them blank, one named twice. -/
def fourCandidates : ResolveRuntimeAssignmentResponse where
  preferredDpId := "dp-2"
  preferredDpAddr := "dp-2:443"
  candidateDps := [" dp-1:443"," ","dp-2:443","dp-1:443 "]
  assignmentEpoch := 1
  refreshAfterSec := 30

def sampleIdentity : AgentIdentityState := ⟨[1],[2],[3],none,some "dp-1:443"⟩

def fourAssignment : AssignmentCache := assignmentOf fourCandidates (by decide) 60000000000

def failing (target : String) (slept : List Duration) : List (Call ConnectAns) :=
  ⟨.runSession sampleIdentity fourAssignment target,.err (.msg "transport error")⟩::
    ⟨.now,0⟩::slept.map fun d => ⟨.sleepOrCancelled d,false⟩

def failingRound : List (Call ConnectAns) :=
  failing "dp-1:443" [Duration.fromMillis 200] ++ failing "dp-2:443" [Duration.fromMillis 400] ++
    failing "dp-1:443" []

theorem failing_round : (rotation AppConfig.defaults 3 (startRound AppConfig.defaults sampleIdentity
    fourAssignment (base AppConfig.defaults))).run recorder failingRound [] =
      (some (.inr (.inl (.outer none (doubled AppConfig.defaults (base AppConfig.defaults))))),
        failingRound.reverse) := rfl

theorem failing_visits :
    attempted failingRound.reverse = ["dp-1:443","dp-2:443","dp-1:443"] ∧
    (CutShort failingRound.reverse ∨
      (attempted failingRound.reverse = targetsOf fourCandidates ∧
        (Sum.inl (.outer none (doubled AppConfig.defaults (base AppConfig.defaults))) : Exit) =
          .inl (.outer none (doubled AppConfig.defaults (base AppConfig.defaults))))) := by
  have hvisits := (round_visits AppConfig.defaults fourCandidates (by decide) 60000000000 sampleIdentity
    (base AppConfig.defaults) 3 failingRound).2.1
  rw [← fourAssignment,failing_round] at hvisits
  exact ⟨rfl,hvisits _ rfl⟩

end Rotation
end KvmAgent
