import KvmAgent.Registry
import KvmAgent.Trace

/-! What `resolve_assignment` makes of a response, and when the refresh task of a session
takes an unchanged response for a changed assignment. -/
namespace KvmAgent
namespace AssignmentRefresh

open RustText Fallible Machine Registry Trace

theorem acceptAssignment_resolves (response : ResolveRuntimeAssignmentResponse)
    {call : Call MachineAns} {s : Trace MachineAns} (hs : call ∈ s) :
    (acceptAssignment response).run.Always recorder (fun _ => True)
      (fun r t => ∀ a, r = .ok a → call ∈ t ∧ Resolves response a) s := by
  unfold acceptAssignment
  split
  · exact ⟨trivial,by simp⟩
  · next accepted =>
    rw [ask_bind_run]
    refine always_record.mpr ⟨trivial,fun now => ?_⟩
    split
    · next expires _ =>
      refine ⟨trivial,?_⟩
      rintro a ha
      cases ha
      exact ⟨List.mem_cons_of_mem _ hs,accepted,expires,rfl⟩
    · exact always_ask.mpr ⟨trivial,fun never => never.elim⟩

theorem resolveAssignment_resolves (config : AppConfig) (identity : AgentIdentityState)
    (facts : HostFacts) (current : Option AssignmentCache) (s : Trace MachineAns) :
    (resolveAssignment config identity facts current).run.Always recorder (fun _ => True)
      (fun r t => ∀ a, r = .ok a → ∃ request response,
        ⟨.resolveRuntimeAssignment request,.ok response⟩ ∈ t ∧ Resolves response a) s := by
  unfold resolveAssignment
  refine always_next (P := fun _ _ => True) ?_ (by simp) fun _ t _ _ => ?_
  · exact (Prog.always_true _ _).mono (fun _ _ => trivial) (fun _ _ _ _ _ _ => trivial)
  rw [always_bind,orFail_run]
  refine always_ask.mpr ⟨trivial,fun r => ?_⟩
  cases r with
  | error e => exact ⟨trivial,trivial,by simp⟩
  | ok response =>
    refine ⟨trivial,(acceptAssignment_resolves response (List.mem_cons_self ..)).mono
      (fun _ hu => hu) ?_⟩
    intro r u _ hr a ha
    exact ⟨_,response,hr a ha⟩

/-- Every resolution that succeeds is one of the response. -/
def Unchanged (response : ResolveRuntimeAssignmentResponse) (s : Trace RefreshAns) : Prop :=
  ∀ current a, ⟨.resolveAssignment current,.ok a⟩ ∈ s → Resolves response a

def Signalled (s : Trace RefreshAns) : Prop := ⟨.signal,()⟩ ∈ s

/-- A task that keeps resolving the same response signals only for a target that is not
the preferred address of the response. -/
theorem refreshTask_quiet {response : ResolveRuntimeAssignmentResponse}
    (assignment : AssignmentCache) {target : String} (hpref : response.preferredDpAddr = target)
    (n : ℕ) :
    (refreshTask assignment target n).Always recorder
      (fun s => Unchanged response s → ¬Signalled s) (fun _ _ => True) [] := by
  have hstep (l : Unit) (s : Trace RefreshAns) (hs : Unchanged response s → ¬Signalled s) :
      (refreshStep assignment target l).Always recorder
        (fun s => Unchanged response s → ¬Signalled s)
        (fun o t => Sum.elim (fun _ => Unchanged response t → ¬Signalled t) (fun _ => True) o) s := by
    have hcons {o : RefreshOp} {x : RefreshAns o} {t : Trace RefreshAns}
        (ht : Unchanged response t → ¬Signalled t) (ho : o ≠ .signal) :
        Unchanged response (⟨o,x⟩::t) → ¬Signalled (⟨o,x⟩::t) := by
      intro hu hsig
      rcases List.mem_cons.mp hsig with he | hmem
      · cases he
        exact ho rfl
      · exact ht (fun c a ha => hu c a (List.mem_cons_of_mem _ ha)) hmem
    refine always_ask.mpr ⟨hs,fun cancelled => ?_⟩
    have h1 := hcons (x := cancelled) (o := .sleepOrCancelled assignment.refreshAfter) hs (by simp)
    cases cancelled with
    | true => exact ⟨h1,trivial⟩
    | false =>
      refine always_ask.mpr ⟨h1,fun r => ?_⟩
      have h2 := hcons (x := r) (o := .resolveAssignment (some assignment)) h1 (by simp)
      cases r with
      | error e => exact ⟨h2,h2⟩
      | ok updated =>
        by_cases hdiffers : updated.preferredTarget ≠ target
        · simp only [if_pos hdiffers]
          have hnot {t : Trace RefreshAns}
              (hmem : ⟨.resolveAssignment (some assignment),.ok updated⟩ ∈ t) :
              Unchanged response t → ¬Signalled t := by
            intro hu
            obtain ⟨accepted,expires,rfl⟩ := hu _ updated hmem
            exact absurd hpref hdiffers
          exact always_ask.mpr ⟨hnot (by simp),fun _ => ⟨hnot (by simp),trivial⟩⟩
        · simp only [if_neg hdiffers]
          exact ⟨h2,h2⟩
  have hloop := Prog.always_loop (h := recorder)
    (L := fun _ s => Unchanged response s → ¬Signalled s) (P := fun _ _ => True)
    (I := fun s => Unchanged response s → ¬Signalled s) hstep n (l := ()) (s := [])
    (by simp [Signalled])
  exact hloop.mono (fun _ hs => hs) (fun _ _ _ _ => trivial)

def signallingCalls (assignment : AssignmentCache) : List (Call RefreshAns) :=
  [⟨.sleepOrCancelled assignment.refreshAfter,false⟩,
    ⟨.resolveAssignment (some assignment),.ok assignment⟩,⟨.signal,()⟩]

theorem signalling_run {assignment : AssignmentCache} {target : String}
    (hdiffers : assignment.preferredTarget ≠ target) :
    ((refreshTask assignment target 1).run recorder (signallingCalls assignment) []).2 =
      (signallingCalls assignment).reverse := by
  simp [refreshTask,Prog.loop,refreshStep,signallingCalls,Prog.run,hdiffers]

/-- While resolutions keep returning the response a session's assignment came from, its
refresh task never signals exactly when the connected target is the preferred address of
the response, letter by letter. -/
theorem refresh_quiet_iff (response : ResolveRuntimeAssignmentResponse)
    (assignment : AssignmentCache) (resolved : Resolves response assignment) (target : String) :
    (∀ (n : ℕ) (choices : List (Call RefreshAns)),
      Unchanged response ((refreshTask assignment target n).run recorder choices []).2 →
        ¬Signalled ((refreshTask assignment target n).run recorder choices []).2) ↔
      response.preferredDpAddr = target := by
  constructor
  · intro hquiet
    by_contra hdiffers
    have hprefers : assignment.preferredTarget ≠ target := by
      obtain ⟨accepted,expires,rfl⟩ := resolved
      exact hdiffers
    have hrun := signalling_run hprefers
    refine hquiet 1 (signallingCalls assignment) ?_ ?_
    · rw [hrun]
      intro current a ha
      simp [signallingCalls] at ha
      exact ha.2 ▸ resolved
    · rw [hrun]
      simp [Signalled,signallingCalls]
  · intro hpref n choices
    exact ((refreshTask_quiet assignment hpref n).run choices).1

def sampleResponse (preferred : String) (candidates : List String) :
    ResolveRuntimeAssignmentResponse where
  preferredDpId := "dp-1"
  preferredDpAddr := preferred
  candidateDps := candidates
  assignmentEpoch := 1
  refreshAfterSec := 30

def twoCandidates : AssignmentCache :=
  assignmentOf (sampleResponse "dp-1:443" ["dp-1:443","dp-2:443"]) (by decide) 60000000000

def paddedPreferred : AssignmentCache :=
  assignmentOf (sampleResponse " dp-1:443" [" dp-1:443"]) (by decide) 60000000000

def quietCalls : List (Call RefreshAns) :=
  [⟨.sleepOrCancelled twoCandidates.refreshAfter,false⟩,
    ⟨.resolveAssignment (some twoCandidates),.ok twoCandidates⟩]

theorem preferred_session_quiet :
    ¬Signalled ((refreshTask twoCandidates "dp-1:443" 1).run recorder quietCalls []).2 :=
  (refresh_quiet_iff (sampleResponse "dp-1:443" ["dp-1:443","dp-2:443"]) twoCandidates
    ⟨by decide,_,rfl⟩ "dp-1:443").mpr rfl 1 quietCalls (by
      intro current a ha
      have hmem : ⟨.resolveAssignment current,.ok a⟩ ∈ quietCalls.reverse := ha
      obtain ⟨-,rfl⟩ : _ ∧ a = twoCandidates := by simpa [quietCalls] using hmem
      exact ⟨by decide,_,rfl⟩)

/-- An unchanged response is taken for a change in a session to a candidate that is not the
preferred one, and in a session to the preferred one when its address comes padded. -/
theorem unchanged_signalled :
    ("dp-2:443" ∈ twoCandidates.candidates ∧
      Resolves (sampleResponse "dp-1:443" ["dp-1:443","dp-2:443"]) twoCandidates ∧
      ((refreshTask twoCandidates "dp-2:443" 1).run recorder (signallingCalls twoCandidates) []).2 =
        (signallingCalls twoCandidates).reverse) ∧
    ("dp-1:443" ∈ paddedPreferred.candidates ∧
      Resolves (sampleResponse " dp-1:443" [" dp-1:443"]) paddedPreferred ∧
      ((refreshTask paddedPreferred "dp-1:443" 1).run recorder (signallingCalls paddedPreferred)
        []).2 = (signallingCalls paddedPreferred).reverse) :=
  ⟨⟨by decide,⟨by decide,_,rfl⟩,rfl⟩,⟨by decide,⟨by decide,_,rfl⟩,rfl⟩⟩

end AssignmentRefresh
end KvmAgent
