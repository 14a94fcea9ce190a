import KvmAgent.Registry
import KvmAgent.Trace

/-! The lifetime `resolve_assignment` gives an assignment, and the responses whose lifetime
does not fit in the integers and clocks it is computed with. -/
namespace KvmAgent
namespace AssignmentLifetime

open RustText Fallible Machine Registry Trace

/-- The assignment refreshes after `max(refresh_after_sec, 5)` seconds and expires exactly
twice as long from `now`. -/
def Exact (response : ResolveRuntimeAssignmentResponse) (now : SystemTime)
    (result : Option (Except AnyhowError AssignmentCache)) : Prop :=
  ∃ a, result = some (.ok a) ∧
    a.refreshAfter = Duration.fromSecs (max response.refreshAfterSec.toInt 5).toNat ∧
    a.expiresAt = now + (2 * a.refreshAfter : ℕ) ∧ now < a.expiresAt

/-- Twice the interval is an `i64`, and that many seconds from `now` are a `SystemTime`. -/
def Fits (response : ResolveRuntimeAssignmentResponse) (now : SystemTime) : Prop :=
  2 * refreshSecs response < 9223372036854775808 ∧
    now + (Duration.fromSecs (2 * refreshSecs response) : ℕ) < SystemTime.limit

instance (response : ResolveRuntimeAssignmentResponse) (now : SystemTime) :
    Decidable (Fits response now) := inferInstanceAs (Decidable (_ ∧ _))

theorem refreshSecs_ge (response : ResolveRuntimeAssignmentResponse) :
    5 ≤ refreshSecs response := by
  unfold refreshSecs
  omega

theorem expiresAt_fits {response : ResolveRuntimeAssignmentResponse} {now : SystemTime}
    (h : Fits response now) :
    expiresAt response now = some (now + (Duration.fromSecs (2 * refreshSecs response) : ℕ)) := by
  rw [expiresAt,if_pos h.1,SystemTime.add,if_pos h.2]

theorem expiresAt_none {response : ResolveRuntimeAssignmentResponse} {now : SystemTime}
    (h : ¬Fits response now) : expiresAt response now = none := by
  unfold expiresAt SystemTime.add
  split
  · next hmul => exact if_neg fun hadd => h ⟨hmul,hadd⟩
  · rfl

theorem twice_fromSecs (n : ℕ) : 2 * Duration.fromSecs n = Duration.fromSecs (2 * n) := by
  unfold Duration.fromSecs
  exact (Nat.mul_assoc 2 n 1000000000).symm

theorem assignmentOf_exact {response : ResolveRuntimeAssignmentResponse} {now : SystemTime}
    (accepted : candidatesOf response ≠ []) :
    Exact response now (some (.ok (assignmentOf response accepted
      (now + (Duration.fromSecs (2 * refreshSecs response) : ℕ))))) := by
  refine ⟨_,rfl,rfl,?_,?_⟩
  · exact congrArg (fun d : ℕ => now + (d : ℤ)) (twice_fromSecs _).symm
  · have hge := refreshSecs_ge response
    have hpos : 0 < Duration.fromSecs (2 * refreshSecs response) :=
      Nat.mul_pos (by omega) (by omega)
    exact Int.lt_add_of_pos_right now (Int.natCast_pos.mpr hpos)

def EndsExact (result : Option (Except AnyhowError AssignmentCache)) (log : Trace MachineAns) :
    Prop :=
  ∀ now request response earlier,
    log = ⟨.now,now⟩::⟨.resolveRuntimeAssignment request,.ok response⟩::earlier →
    candidatesOf response ≠ [] → (Exact response now result ↔ Fits response now)

def NotNow (log : Trace MachineAns) : Prop := ∀ c earlier, log = c::earlier → c.1 ≠ .now

theorem NotNow.endsExact {log : Trace MachineAns} (h : NotNow log)
    (result : Option (Except AnyhowError AssignmentCache)) : EndsExact result log := by
  rintro now request response earlier rfl
  exact absurd rfl (h _ _ rfl)

theorem notNow_cons {c : Call MachineAns} (log : Trace MachineAns) (hc : c.1 ≠ .now) :
    NotNow (c::log) := by
  rintro c' earlier h
  obtain ⟨rfl,-⟩ := List.cons.inj h
  exact hc

theorem channel_uses (config : AppConfig) (identity : AgentIdentityState) :
    (Bootstrap.buildMtlsChannelForControlplane config identity).run.Uses (· ≠ .now) := by
  unfold Bootstrap.buildMtlsChannelForControlplane Bootstrap.buildMtlsChannelForTarget
  refine uses_bind (.call (by simp) fun _ => .ret _) fun _ => ?_
  split
  · exact .ret _
  · split
    · exact .ret _
    · exact .call (by simp) fun _ => .ret _

theorem channel_notNow (config : AppConfig) (identity : AgentIdentityState) :
    (Bootstrap.buildMtlsChannelForControlplane config identity).run.Always recorder NotNow
      (fun _ _ => True) [] := by
  refine (channel_uses config identity).keeps (fun o c s x t ho hc _ => ?_) [] ?_
  · obtain ⟨-,rfl⟩ := recorder_eq_some.mp hc
    exact notNow_cons s ho
  · rintro c earlier ⟨⟩

theorem acceptAssignment_outcome (request : ResolveRuntimeAssignmentRequest)
    (response : ResolveRuntimeAssignmentResponse) (log : Trace MachineAns) :
    (acceptAssignment response).run.Outcome recorder EndsExact
      (⟨.resolveRuntimeAssignment request,.ok response⟩::log) := by
  have hresolve {result} :
      EndsExact result (⟨.resolveRuntimeAssignment request,.ok response⟩::log) :=
    (notNow_cons log (by simp)).endsExact result
  unfold acceptAssignment
  split
  · exact hresolve
  · next accepted =>
    rw [ask_bind_run]
    refine outcome_ask.mpr ⟨hresolve,fun now => ?_⟩
    by_cases hfits : Fits response now
    · rw [expiresAt_fits hfits]
      rintro now' request' response' earlier h -
      cases h
      exact iff_of_true (assignmentOf_exact accepted) hfits
    · rw [expiresAt_none hfits]
      refine outcome_ask.mpr ⟨?_,fun never => never.elim⟩
      rintro now' request' response' earlier h -
      cases h
      exact iff_of_false (by rintro ⟨a,h,-⟩; cases h) hfits

theorem resolveAssignment_outcome (config : AppConfig) (identity : AgentIdentityState)
    (facts : HostFacts) (current : Option AssignmentCache) :
    (resolveAssignment config identity facts current).run.Outcome recorder EndsExact [] := by
  unfold resolveAssignment
  rw [ExceptT.run_bind,Prog.outcome_bind]
  refine (channel_notNow config identity).outcome (fun log hlog => hlog.endsExact none) ?_
  rintro (e | _) log hlog -
  · exact hlog.endsExact _
  · refine outcome_ask.mpr ⟨hlog.endsExact none,fun r => ?_⟩
    cases r with
    | error e => exact (notNow_cons log (by simp)).endsExact _
    | ok response => exact acceptAssignment_outcome _ response log

section Wrapping

/-! In a build without overflow checks the product wraps in `i64`; the cast to `u64` undoes
that, and the clock is left as the only limit. -/

theorem toInt_max (a b : Int64) : (max a b).toInt = max a.toInt b.toInt := by
  have h : max a b = if a ≤ b then b else a := rfl
  rw [h]
  split
  · next hle => exact (max_eq_right (Int64.le_iff_toInt_le.mp hle)).symm
  · next hle => exact (max_eq_left (not_le.mp (mt Int64.le_iff_toInt_le.mpr hle)).le).symm

theorem toUInt64_double {x : Int64} (h : 0 ≤ x) :
    (x * 2).toUInt64.toNat = 2 * x.toInt.toNat := by
  have hx : x.toBitVec.toNat = x.toInt.toNat := Int64.toNat_toBitVec_of_le h
  have hlt := x.toInt_lt
  have hmul : (x * 2).toUInt64.toNat = x.toBitVec.toNat * 2 % 18446744073709551616 := rfl
  rw [hmul,hx]
  omega

/-- `expires_at` with a wrapping product. -/
def wrappedExpiresAt (response : ResolveRuntimeAssignmentResponse) (now : SystemTime) :
    Option SystemTime :=
  now.add (Duration.fromSecs (max response.refreshAfterSec 5 * 2).toUInt64.toNat)

theorem wrappedSecs_eq (response : ResolveRuntimeAssignmentResponse) :
    (max response.refreshAfterSec 5 * 2).toUInt64.toNat = 2 * refreshSecs response := by
  have hmax : (max response.refreshAfterSec 5).toInt = max response.refreshAfterSec.toInt 5 := by
    rw [toInt_max]
    rfl
  have hpos : 0 ≤ max response.refreshAfterSec 5 := Int64.le_iff_toInt_le.mpr (by
    rw [hmax]
    exact (by decide : (0 : Int64).toInt ≤ 5).trans (le_max_right _ _))
  rw [toUInt64_double hpos,hmax]
  rfl

theorem fits_iff {response : ResolveRuntimeAssignmentResponse} {now : SystemTime} (h : 0 ≤ now) :
    Fits response now ↔
      now + (Duration.fromSecs (2 * refreshSecs response) : ℕ) < SystemTime.limit := by
  refine ⟨fun hfits => hfits.2,fun hadd => ⟨?_,hadd⟩⟩
  have hsecs : ((2 * refreshSecs response * 1000000000 : ℕ) : ℤ) <
      9223372036854775808 * 1000000000 :=
    (Int.le_add_of_nonneg_left h).trans_lt hadd
  omega

/-- So the two builds give the same lifetimes and panic at the same responses. -/
theorem wrappedExpiresAt_eq (response : ResolveRuntimeAssignmentResponse) {now : SystemTime}
    (h : 0 ≤ now) : wrappedExpiresAt response now = expiresAt response now := by
  rw [wrappedExpiresAt,wrappedSecs_eq]
  by_cases hfits : Fits response now
  · rw [expiresAt_fits hfits,SystemTime.add,if_pos hfits.2]
  · rw [expiresAt_none hfits,SystemTime.add,if_neg (mt (fits_iff h).mpr hfits)]

end Wrapping

/-- A resolution with an accepted response returns, with the lifetime asked for and no
overflow, exactly where twice the interval fits in an `i64` and the end of the lifetime in a
`SystemTime`; otherwise it panics. -/
theorem lifetime_iff (config : AppConfig) (identity : AgentIdentityState) (facts : HostFacts)
    (current : Option AssignmentCache) (choices : List (Call MachineAns)) (now : SystemTime)
    (request : ResolveRuntimeAssignmentRequest) (response : ResolveRuntimeAssignmentResponse)
    (earlier : Trace MachineAns) (accepted : candidatesOf response ≠ [])
    (log : ((resolveAssignment config identity facts current).run.run recorder choices []).2 =
      ⟨.now,now⟩::⟨.resolveRuntimeAssignment request,.ok response⟩::earlier) :
    Exact response now
        ((resolveAssignment config identity facts current).run.run recorder choices []).1 ↔
      Fits response now :=
  (resolveAssignment_outcome config identity facts current).run choices now request response
    earlier log accepted

def refreshedAfter (secs : Int64) : ResolveRuntimeAssignmentResponse where
  preferredDpId := "dp-1"
  preferredDpAddr := "dp-1:443"
  candidateDps := ["dp-1:443"]
  assignmentEpoch := 1
  refreshAfterSec := secs

def identity : AgentIdentityState := ⟨[1],[2],[3],none,some "cp:443"⟩

def facts : HostFacts := { agentId := "agent", hostId := "host" }

def request : ResolveRuntimeAssignmentRequest := ⟨"agent","host","",0,""⟩

def answering (response : ResolveRuntimeAssignmentResponse) : List (Call MachineAns) :=
  [⟨.endpoint "https://cp:443",.ok ()⟩,
    ⟨.connect "https://cp:443" AppConfig.defaults.agent.connectTimeout
      (some ⟨"cp",[3],some ([1],[2])⟩),.ok ()⟩,
    ⟨.resolveRuntimeAssignment request,.ok response⟩,⟨.now,0⟩]

theorem thirty_seconds :
    Exact (refreshedAfter 30) 0
        ((resolveAssignment AppConfig.defaults identity facts none).run.run recorder
          (answering (refreshedAfter 30)) []).1 ↔
      Fits (refreshedAfter 30) 0 :=
  lifetime_iff AppConfig.defaults identity facts none (answering (refreshedAfter 30)) 0 request
    (refreshedAfter 30) _ (by decide) rfl

/-- Doubling 2^62 seconds overflows. -/
theorem doubling_overflows : ¬∀ (config : AppConfig) (identity : AgentIdentityState)
    (facts : HostFacts) (current : Option AssignmentCache) (choices : List (Call MachineAns))
    (now : SystemTime) (request : ResolveRuntimeAssignmentRequest)
    (response : ResolveRuntimeAssignmentResponse) (earlier : Trace MachineAns),
    candidatesOf response ≠ [] →
    ((resolveAssignment config identity facts current).run.run recorder choices []).2 =
      ⟨.now,now⟩::⟨.resolveRuntimeAssignment request,.ok response⟩::earlier →
    Exact response now
      ((resolveAssignment config identity facts current).run.run recorder choices []).1 := by
  intro h
  obtain ⟨a,ha,-⟩ := h AppConfig.defaults identity facts none
    (answering (refreshedAfter 4611686018427387904)) 0 request (refreshedAfter 4611686018427387904)
    _ (by decide) rfl
  have hnone : ((resolveAssignment AppConfig.defaults identity facts none).run.run recorder
      (answering (refreshedAfter 4611686018427387904)) []).1 = none := rfl
  rw [hnone] at ha
  cases ha

end AssignmentLifetime
end KvmAgent
