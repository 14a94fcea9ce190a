import KvmAgent.ConnectSteps

/-! The backoffs of `connect_hypervisor`: the one of the outer loop and the one of the
target selector stay between the configured bounds, and what is computed from them fits. -/
namespace KvmAgent
namespace Backoff

open Registry Trace ConnectSteps

/-- The backoffs as `load_from_env` reads them: milliseconds in 64 bits. -/
def FromMillis (cfg : AgentConfig) : Prop :=
  ∃ baseMs maxMs : UInt64, cfg.failoverBaseBackoff = Duration.fromMillis baseMs.toNat ∧
    cfg.failoverMaxBackoff = Duration.fromMillis maxMs.toNat

variable (config : AppConfig)

def Bounded (d : Duration) : Prop := base config ≤ d ∧ d ≤ maxBackoff config

def InBounds : Head → Prop
  | .outer _ backoff => Bounded config backoff
  | .rotate _ _ selector backoff =>
    Bounded config backoff ∧ Bounded config selector.backoff ∧
      selector.maxBackoff = maxBackoff config

/-- The modulus of `failover_delay`. -/
def jitterCap (selector : RuntimeTargetSelector) : ℕ :=
  max (selector.backoff.asMillis / 5) 1 % 18446744073709551616

/-- What an iteration computes from its backoffs fits in a `Duration`, and it does not divide
by zero. -/
def NoOverflow : Head → Prop
  | .outer _ backoff => backoff * 2 < Duration.limit
  | .rotate _ _ selector backoff =>
    backoff * 2 < Duration.limit ∧ selector.backoff * 2 < Duration.limit ∧
      jitterCap selector ≠ 0 ∧ ∀ now, selector.failoverDelay now < Duration.limit

/-- A delay slept before a retry is at least the base and at most a fifth above the
maximum. -/
def DelayBounded : Call ConnectAns → Prop
  | ⟨.sleep d,_⟩ | ⟨.sleepOrCancelled d,_⟩ =>
    base config ≤ d ∧ d ≤ maxBackoff config + maxBackoff config / 5
  | _ => True

variable {config}

theorem failoverDelay_eq (selector : RuntimeTargetSelector) (now : SystemTime) :
    selector.failoverDelay now = selector.backoff +
      Duration.fromMillis (now.sinceEpoch.subsecMillis % jitterCap selector) := rfl

theorem bounded_base (valid : base config ≤ maxBackoff config) : Bounded config (base config) :=
  ⟨le_rfl,valid⟩

theorem bounded_doubled {d : Duration} (valid : base config ≤ maxBackoff config)
    (hd : Bounded config d) : Bounded config (doubled config d) :=
  ⟨le_min (hd.1.trans (Nat.le_mul_of_pos_right d (by omega))) valid,min_le_right _ _⟩

theorem bounded_advance {selector : RuntimeTargetSelector}
    (valid : base config ≤ maxBackoff config) (hs : Bounded config selector.backoff)
    (hmax : selector.maxBackoff = maxBackoff config) :
    Bounded config selector.advance.backoff ∧ selector.advance.maxBackoff = maxBackoff config := by
  unfold RuntimeTargetSelector.advance
  split
  · exact ⟨hs,hmax⟩
  · refine ⟨?_,hmax⟩
    rw [hmax]
    exact bounded_doubled valid hs

theorem inBounds_startRound {backoff : Duration} (valid : base config ≤ maxBackoff config)
    (hd : Bounded config backoff) (identity : AgentIdentityState) (assignment : AssignmentCache) :
    InBounds config (startRound config identity assignment backoff) :=
  ⟨hd,bounded_base valid,rfl⟩

theorem millis_le {backoff cap ms : ℕ} (hcap : cap ≤ max (backoff / 1000000 / 5) 1)
    (hms : ms < cap) : ms * 1000000 ≤ backoff / 5 := by
  have hfifth : backoff / 1000000 / 5 * 1000000 ≤ backoff / 5 := by
    rw [Nat.div_right_comm]
    exact Nat.div_mul_le_self _ _
  have hle : ms ≤ backoff / 1000000 / 5 := by omega
  exact (Nat.mul_le_mul_right _ hle).trans hfifth

theorem jitter_le {selector : RuntimeTargetSelector} (now : SystemTime)
    (hpos : jitterCap selector ≠ 0) :
    Duration.fromMillis (now.sinceEpoch.subsecMillis % jitterCap selector) ≤
      selector.backoff / 5 := by
  have hcap : jitterCap selector ≤ max (selector.backoff.asMillis / 5) 1 := Nat.mod_le _ _
  have hlt : now.sinceEpoch.subsecMillis % jitterCap selector < jitterCap selector :=
    Nat.mod_lt _ (Nat.pos_of_ne_zero hpos)
  exact millis_le hcap hlt

theorem delayBounded_sleep {d : Duration} (hd : Bounded config d) :
    DelayBounded config ⟨.sleep d,()⟩ :=
  ⟨hd.1,hd.2.trans (Nat.le_add_right _ _)⟩

section Fits

variable (parsed : FromMillis config.agent)
include parsed

theorem max_fits : 4 * maxBackoff config < Duration.limit ∧
    (maxBackoff config).asMillis < 18446744073709551616 := by
  obtain ⟨baseMs,maxMs,-,hmax⟩ := parsed
  have hlt := maxMs.toNat_lt
  have heq : maxBackoff config = maxMs.toNat * 1000000 := hmax
  rw [heq]
  unfold Duration.limit Duration.asMillis Duration
  omega

theorem jitterCap_ne_zero {selector : RuntimeTargetSelector}
    (hs : Bounded config selector.backoff) : jitterCap selector ≠ 0 := by
  have hms : selector.backoff.asMillis < 18446744073709551616 :=
    (Nat.div_le_div_right hs.2).trans_lt (max_fits parsed).2
  have hcap : max (selector.backoff.asMillis / 5) 1 < 18446744073709551616 := by omega
  rw [jitterCap,Nat.mod_eq_of_lt hcap]
  omega

theorem failoverDelay_bounded {selector : RuntimeTargetSelector}
    (hs : Bounded config selector.backoff) (now : SystemTime) :
    base config ≤ selector.failoverDelay now ∧
      selector.failoverDelay now ≤ maxBackoff config + maxBackoff config / 5 := by
  have hjitter := jitter_le now (jitterCap_ne_zero parsed hs)
  rw [failoverDelay_eq]
  exact ⟨hs.1.trans (Nat.le_add_right _ _),
    Nat.add_le_add hs.2 (hjitter.trans (Nat.div_le_div_right hs.2))⟩

theorem noOverflow {head : Head} (hh : InBounds config head) : NoOverflow head := by
  obtain ⟨hfits,-⟩ := max_fits parsed
  have htwice {d : Duration} (hd : Bounded config d) : d * 2 < Duration.limit := by
    have hle := hd.2
    unfold Duration at *
    omega
  cases head with
  | outer cache backoff => exact htwice hh
  | rotate identity assignment selector backoff =>
    obtain ⟨hbackoff,hs,-⟩ := hh
    refine ⟨htwice hbackoff,htwice hs,jitterCap_ne_zero parsed hs,fun now => ?_⟩
    have hdelay := (failoverDelay_bounded parsed hs now).2
    unfold Duration at *
    omega

theorem delayBounded_failover {selector : RuntimeTargetSelector} {backoff : Duration}
    (hd : Bounded config backoff) (hs : Bounded config selector.backoff) (now : SystemTime)
    (cancelled : Bool) :
    DelayBounded config ⟨.sleepOrCancelled (max (selector.failoverDelay now) backoff),cancelled⟩ := by
  obtain ⟨hlow,hhigh⟩ := failoverDelay_bounded parsed hs now
  exact ⟨hlow.trans (le_max_left _ _),max_le hhigh (hd.2.trans (Nat.le_add_right _ _))⟩

theorem inBounds_step {head : Head} {s t : Log} {o : Head ⊕ Except AnyhowError Unit}
    (valid : base config ≤ maxBackoff config) (hh : InBounds config head)
    (hs : Each (fun c _ => DelayBounded config c) s) (h : Step config head s o t) :
    Each (fun c _ => DelayBounded config c) t ∧
      Sum.elim (fun head' => InBounds config head') (fun _ => True) o := by
  cases h with
  | stopped => exact ⟨⟨trivial,hs⟩,trivial⟩
  | unidentified e => exact ⟨⟨trivial,trivial,hs⟩,trivial⟩
  | resolved identity assignment =>
    exact ⟨⟨trivial,trivial,trivial,hs⟩,inBounds_startRound valid hh identity assignment⟩
  | cached identity e cached now live =>
    exact ⟨⟨trivial,trivial,trivial,trivial,hs⟩,inBounds_startRound valid hh identity cached⟩
  | expired identity e cached now dead =>
    exact ⟨⟨delayBounded_sleep hh,trivial,trivial,trivial,trivial,hs⟩,
      bounded_doubled valid hh⟩
  | unavailable identity e =>
    exact ⟨⟨delayBounded_sleep hh,trivial,trivial,trivial,hs⟩,
      bounded_doubled valid hh⟩
  | noTarget => exact ⟨hs,hh.1⟩
  | closed next e result => exact ⟨⟨trivial,hs⟩,bounded_base valid⟩
  | fatal next e err result isFatal => exact ⟨⟨trivial,hs⟩,trivial⟩
  | exhausted next e err result now last =>
    exact ⟨⟨trivial,trivial,hs⟩,bounded_doubled valid hh.1⟩
  | rotated next e err result now more =>
    obtain ⟨hbackoff,hselector,hmax⟩ := hh
    exact ⟨⟨delayBounded_failover parsed hbackoff hselector now false,trivial,trivial,hs⟩,
      hbackoff,bounded_advance valid hselector hmax⟩
  | interrupted next e err result now more =>
    obtain ⟨hbackoff,hselector,hmax⟩ := hh
    exact ⟨⟨delayBounded_failover parsed hbackoff hselector now true,trivial,trivial,hs⟩,
      trivial⟩

end Fits

/-- With backoffs of 64-bit milliseconds that `validate` accepts, in every run of
`connect_hypervisor` both backoffs stay between base and maximum, nothing computed from
them overflows, the jitter has a modulus, and every delay slept before a retry is at least
the base and at most a fifth above the maximum. -/
theorem backoff_bounded (config : AppConfig) (valid : config.agent.validate = .ok ())
    (parsed : FromMillis config.agent) (n : ℕ) (choices : List (Call ConnectAns)) :
    let run := (connectHypervisor config n).run recorder choices []
    (∀ head, run.1 = some (.inl head) → InBounds config head ∧ NoOverflow head) ∧
    ∀ c ∈ run.2, DelayBounded config c := by
  have hvalid : base config ≤ maxBackoff config :=
    ((AgentConfig.validate_ok config.agent).mp valid).base_le_max
  have hall : (connectHypervisor config n).Always recorder (Each fun c _ => DelayBounded config c)
      (fun o _ => Sum.elim (InBounds config) (fun _ => True) o) [] :=
    connect_each (L := fun head _ => InBounds config head) (P := fun _ _ => True)
      (fun _ => trivial) trivial (fun _ => trivial) (bounded_base hvalid)
      (fun _ _ _ _ hh hs h => inBounds_step parsed hvalid hh hs h) n
  obtain ⟨heach,hhead⟩ := hall.run choices
  refine ⟨fun head hrun => ?_,?_⟩
  · have hh : InBounds config head := hhead _ hrun
    exact ⟨hh,noOverflow parsed hh⟩
  · exact each_forall.mp heach

theorem defaults_fromMillis : FromMillis AgentConfig.defaults := ⟨200,3000,rfl,rfl⟩

def unresolved : List (Call ConnectAns) :=
  [⟨.openLedger AppConfig.defaults.agent.commandLedgerPath,.ok ()⟩,⟨.collectHostFacts,()⟩,
    ⟨.isCancelled,false⟩,⟨.ensureIdentity,.ok ⟨[1],[2],[3],none,none⟩⟩,
    ⟨.resolveAssignment ⟨[1],[2],[3],none,none⟩ none,.error (.msg "unavailable")⟩,
    ⟨.sleep (base AppConfig.defaults),()⟩]

theorem unresolved_bounded :
    (InBounds AppConfig.defaults (.outer none (doubled AppConfig.defaults (base AppConfig.defaults))) ∧
      NoOverflow (.outer none (doubled AppConfig.defaults (base AppConfig.defaults)))) ∧
    ∀ c ∈ unresolved.reverse, DelayBounded AppConfig.defaults c := by
  obtain ⟨hhead,hdelays⟩ := backoff_bounded AppConfig.defaults AgentConfig.defaults_valid
    defaults_fromMillis 1 unresolved
  exact ⟨hhead _ rfl,hdelays⟩

end Backoff
end KvmAgent
