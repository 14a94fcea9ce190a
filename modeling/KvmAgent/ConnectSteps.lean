import KvmAgent.Registry
import KvmAgent.Trace

/-! What one iteration of `connect_hypervisor` can do to the record of its calls. -/
namespace KvmAgent
namespace ConnectSteps

open Registry Trace

variable {config : AppConfig}

abbrev Log := Trace ConnectAns

instance nonempty_answer : ∀ o : ConnectOp, Nonempty (ConnectAns o)
  | .openLedger _ => ⟨.ok ()⟩
  | .collectHostFacts => ⟨()⟩
  | .isCancelled => ⟨true⟩
  | .ensureIdentity => ⟨.error (.msg "")⟩
  | .resolveAssignment .. => ⟨.error (.msg "")⟩
  | .runSession .. => ⟨.ok⟩
  | .now => ⟨0⟩
  | .sleep _ => ⟨()⟩
  | .sleepOrCancelled _ => ⟨true⟩

def isSession : Call ConnectAns → Bool
  | ⟨.runSession ..,_⟩ => true
  | _ => false

@[simp] theorem isSession_session (identity : AgentIdentityState) (assignment : AssignmentCache)
    (target : String) (e : SessionEnd target) :
    isSession ⟨.runSession identity assignment target,e⟩ = true := rfl

/-- One iteration, by the calls it adds to the record and where it goes on or returns. -/
inductive Step (config : AppConfig) : Head → Log → Head ⊕ Except AnyhowError Unit → Log → Prop
  | stopped {cache backoff s} :
    Step config (.outer cache backoff) s (.inr (.ok ())) (⟨.isCancelled,true⟩::s)
  | unidentified {cache backoff s} (e : AnyhowError) :
    Step config (.outer cache backoff) s (.inr (.error e))
      (⟨.ensureIdentity,.error e⟩::⟨.isCancelled,false⟩::s)
  | resolved {cache backoff s} (identity assignment) :
    Step config (.outer cache backoff) s (.inl (startRound config identity assignment backoff))
      (⟨.resolveAssignment identity cache,.ok assignment⟩::⟨.ensureIdentity,.ok identity⟩::
        ⟨.isCancelled,false⟩::s)
  | cached {backoff s} (identity e cached now) (live : now < cached.expiresAt) :
    Step config (.outer (some cached) backoff) s (.inl (startRound config identity cached backoff))
      (⟨.now,now⟩::⟨.resolveAssignment identity (some cached),.error e⟩::
        ⟨.ensureIdentity,.ok identity⟩::⟨.isCancelled,false⟩::s)
  | expired {backoff s} (identity e cached now) (dead : cached.expiresAt ≤ now) :
    Step config (.outer (some cached) backoff) s
      (.inl (.outer (some cached) (doubled config backoff)))
      (⟨.sleep backoff,()⟩::⟨.now,now⟩::⟨.resolveAssignment identity (some cached),.error e⟩::
        ⟨.ensureIdentity,.ok identity⟩::⟨.isCancelled,false⟩::s)
  | unavailable {backoff s} (identity e) :
    Step config (.outer none backoff) s (.inl (.outer none (doubled config backoff)))
      (⟨.sleep backoff,()⟩::⟨.resolveAssignment identity none,.error e⟩::
        ⟨.ensureIdentity,.ok identity⟩::⟨.isCancelled,false⟩::s)
  | noTarget {identity assignment selector backoff s} (none : selector.current = none) :
    Step config (.rotate identity assignment selector backoff) s
      (.inl (.outer (some assignment) backoff)) s
  | closed {identity assignment selector backoff s target} (next : selector.current = some target)
      (e : SessionEnd target) (result : e.result = .ok ()) :
    Step config (.rotate identity assignment selector backoff) s
      (.inl (.outer (some assignment) (base config)))
      (⟨.runSession identity assignment target,e⟩::s)
  | fatal {identity assignment selector backoff s target} (next : selector.current = some target)
      (e : SessionEnd target) (err : AnyhowError) (result : e.result = .error err)
      (isFatal : err.isFatalBootstrapError = true) :
    Step config (.rotate identity assignment selector backoff) s (.inr (.error err))
      (⟨.runSession identity assignment target,e⟩::s)
  | exhausted {identity assignment selector backoff s target}
      (next : selector.current = some target) (e : SessionEnd target) (err : AnyhowError)
      (result : e.result = .error err) (now : SystemTime) (last : selector.advance.current = none) :
    Step config (.rotate identity assignment selector backoff) s
      (.inl (.outer none (doubled config backoff)))
      (⟨.now,now⟩::⟨.runSession identity assignment target,e⟩::s)
  | rotated {identity assignment selector backoff s target} (next : selector.current = some target)
      (e : SessionEnd target) (err : AnyhowError) (result : e.result = .error err)
      (now : SystemTime) (more : selector.advance.current ≠ none) :
    Step config (.rotate identity assignment selector backoff) s
      (.inl (.rotate identity assignment selector.advance backoff))
      (⟨.sleepOrCancelled (max (selector.failoverDelay now) backoff),false⟩::⟨.now,now⟩::
        ⟨.runSession identity assignment target,e⟩::s)
  | interrupted {identity assignment selector backoff s target}
      (next : selector.current = some target) (e : SessionEnd target) (err : AnyhowError)
      (result : e.result = .error err) (now : SystemTime) (more : selector.advance.current ≠ none) :
    Step config (.rotate identity assignment selector backoff) s (.inr (.ok ()))
      (⟨.sleepOrCancelled (max (selector.failoverDelay now) backoff),true⟩::⟨.now,now⟩::
        ⟨.runSession identity assignment target,e⟩::s)

/-- A record some iteration passes through. -/
def Within (config : AppConfig) (head : Head) (s t : Log) : Prop :=
  ∃ o u, Step config head s o u ∧ t <:+ u

theorem Step.within {head : Head} {s t : Log} {o : Head ⊕ Except AnyhowError Unit}
    (h : Step config head s o t) : Within config head s t :=
  ⟨o,t,h,List.suffix_rfl⟩

/-- An iteration is one of the steps, cut short wherever it may be. -/
theorem iterate_within (head : Head) (s : Log) :
    (iterate config head).Always recorder (Within config head s) (Step config head s) s := by
  have hend {o : Head ⊕ Except AnyhowError Unit} {t : Log} (h : Step config head s o t) :
      Within config head s t ∧ Step config head s o t := ⟨h.within,h⟩
  cases head with
  | outer cache backoff =>
    refine always_ask.mpr ⟨⟨_,_,.stopped,⟨[_],rfl⟩⟩,fun cancelled => ?_⟩
    cases cancelled with
    | true => exact hend .stopped
    | false =>
      refine always_ask.mpr ⟨⟨_,_,.unidentified (.msg ""),⟨[_],rfl⟩⟩,fun r => ?_⟩
      cases r with
      | error e => exact hend (.unidentified e)
      | ok identity =>
        cases cache with
        | none =>
          refine always_ask.mpr ⟨⟨_,_,.unavailable identity (.msg ""),⟨[_,_],rfl⟩⟩,fun r => ?_⟩
          cases r with
          | ok assignment => exact hend (.resolved identity assignment)
          | error e =>
            exact always_ask.mpr ⟨⟨_,_,.unavailable identity e,⟨[_],rfl⟩⟩,fun _ =>
              hend (.unavailable identity e)⟩
        | some cached =>
          have hexpired (e : AnyhowError) : Step config (.outer (some cached) backoff) s _ _ :=
            .expired identity e cached cached.expiresAt le_rfl
          refine always_ask.mpr ⟨⟨_,_,hexpired (.msg ""),⟨[_,_,_],rfl⟩⟩,fun r => ?_⟩
          cases r with
          | ok assignment => exact hend (.resolved identity assignment)
          | error e =>
            refine always_ask.mpr ⟨⟨_,_,hexpired e,⟨[_,_],rfl⟩⟩,fun now => ?_⟩
            by_cases hlive : now < cached.expiresAt
            · have hif : now < cached.expiresAt ∧ cached.candidates ≠ [] := ⟨hlive,cached.nonempty⟩
              rw [if_pos hif]
              exact hend (.cached identity e cached now hlive)
            · have hif : ¬(now < cached.expiresAt ∧ cached.candidates ≠ []) := fun h => hlive h.1
              rw [if_neg hif]
              exact always_ask.mpr ⟨⟨_,_,.expired identity e cached now (not_lt.mp hlive),⟨[_],rfl⟩⟩,
                fun _ => hend (.expired identity e cached now (not_lt.mp hlive))⟩
  | rotate identity assignment selector backoff =>
    cases hnext : selector.current with
    | none =>
      simp only [iterate,hnext]
      exact hend (.noTarget hnext)
    | some target =>
      simp only [iterate,hnext]
      refine always_ask.mpr ⟨⟨_,_,.closed hnext .ok rfl,⟨[_],rfl⟩⟩,fun e => ?_⟩
      cases hresult : e.result with
      | ok _ => exact hend (.closed hnext e hresult)
      | error err =>
        by_cases hfatal : err.isFatalBootstrapError = true
        · simp only [hfatal,if_true]
          exact hend (.fatal hnext e err hresult hfatal)
        · simp only [hfatal,failover]
          cases hmore : selector.advance.current with
          | none =>
            exact always_ask.mpr ⟨⟨_,_,.exhausted hnext e err hresult 0 hmore,⟨[_],rfl⟩⟩,
              fun now => hend (.exhausted hnext e err hresult now hmore)⟩
          | some target' =>
            have hne : selector.advance.current ≠ none := by simp [hmore]
            refine always_ask.mpr ⟨⟨_,_,.rotated hnext e err hresult 0 hne,⟨[_,_],rfl⟩⟩,fun now =>
              always_ask.mpr ⟨⟨_,_,.rotated hnext e err hresult now hne,⟨[_],rfl⟩⟩,
              fun cancelled => ?_⟩⟩
            cases cancelled with
            | false => exact hend (.rotated hnext e err hresult now hne)
            | true => exact hend (.interrupted hnext e err hresult now hne)

/-- What holds at the first iteration and is kept by every step holds at every one; a step
that returns proves `P`. -/
theorem connect_within {L : Head → Log → Prop} {P : Except AnyhowError Unit → Log → Prop}
    (hopen : ∀ e, P (.error e) [⟨.openLedger config.agent.commandLedgerPath,.error e⟩])
    (hstart : L (.outer none (base config))
      [⟨.collectHostFacts,()⟩,⟨.openLedger config.agent.commandLedgerPath,.ok ()⟩])
    (hstep : ∀ head s o t, L head s → Step config head s o t →
      Sum.elim (L · t) (P · t) o) (n : ℕ) :
    (connectHypervisor config n).Always recorder
      (fun t => (∃ r, t <:+ [⟨.openLedger config.agent.commandLedgerPath,r⟩]) ∨
        ∃ head s, L head s ∧ Within config head s t)
      (fun o t => Sum.elim (L · t) (P · t) o) [] := by
  refine always_ask.mpr ⟨.inl ⟨.ok (),⟨[_],rfl⟩⟩,fun r => ?_⟩
  cases r with
  | error e => exact ⟨.inl ⟨.error e,List.suffix_rfl⟩,hopen e⟩
  | ok _ =>
    refine always_ask.mpr ⟨.inl ⟨.ok (),List.suffix_rfl⟩,fun _ => ?_⟩
    refine Prog.always_loop (L := L) (P := P) ?_ n hstart
    intro head s hs
    refine (iterate_within head s).mono (fun t ht => .inr ⟨head,s,hs,ht⟩) ?_
    intro o t _ hstep'
    exact hstep head s o t hs hstep'

def Closes (R : Call ConnectAns → Log → Call ConnectAns → Log → Prop) (head : Head) (s : Log) :
    Prop :=
  ∀ identity assignment selector backoff target,
    head = .rotate identity assignment selector backoff → selector.current = some target →
    ∀ e a earlier, fromLast isSession s = a::earlier →
      R ⟨.runSession identity assignment target,e⟩ (sinceLast isSession s) a earlier

/-- A step keeps what is proved of every gap between sessions when the session it opens
closes its gap. -/
theorem gaps_step {R : Call ConnectAns → Log → Call ConnectAns → Log → Prop} {head : Head}
    {s t : Log} {o : Head ⊕ Except AnyhowError Unit} (hs : Gaps isSession R s)
    (closes : Closes R head s) (h : Step config head s o t) : Gaps isSession R t := by
  have hcons {c : Call ConnectAns} {t : Log} (ht : Gaps isSession R t)
      (hc : isSession c = false) : Gaps isSession R (c::t) :=
    gaps_cons ht (by simp [hc])
  have hsession {identity assignment selector backoff target}
      (hhead : head = .rotate identity assignment selector backoff)
      (next : selector.current = some target) (e : SessionEnd target) :
      Gaps isSession R (⟨.runSession identity assignment target,e⟩::s) :=
    gaps_cons hs fun _ a earlier hlast =>
      closes identity assignment selector backoff target hhead next e a earlier hlast
  cases h with
  | stopped => exact hcons hs rfl
  | unidentified => exact hcons (hcons hs rfl) rfl
  | resolved => exact hcons (hcons (hcons hs rfl) rfl) rfl
  | cached => exact hcons (hcons (hcons (hcons hs rfl) rfl) rfl) rfl
  | expired => exact hcons (hcons (hcons (hcons (hcons hs rfl) rfl) rfl) rfl) rfl
  | unavailable => exact hcons (hcons (hcons (hcons hs rfl) rfl) rfl) rfl
  | noTarget => exact hs
  | closed next e | fatal next e => exact hsession rfl next e
  | exhausted next e => exact hcons (hsession rfl next e) rfl
  | rotated next e | interrupted next e => exact hcons (hcons (hsession rfl next e) rfl) rfl

theorem gaps_suffix {R : Call ConnectAns → Log → Call ConnectAns → Log → Prop} {t u : Log}
    (hu : Gaps isSession R u) (ht : t <:+ u) : Gaps isSession R t := by
  obtain ⟨later,rfl⟩ := ht
  rintro b gap a earlier ⟨between,rfl,hkinds⟩
  exact hu b gap a earlier ⟨later ++ between,by simp,hkinds⟩

theorem connect_always {R : Call ConnectAns → Log → Call ConnectAns → Log → Prop}
    {L : Head → Log → Prop} {P : Except AnyhowError Unit → Log → Prop}
    (hopen : ∀ e, P (.error e) [⟨.openLedger config.agent.commandLedgerPath,.error e⟩])
    (hstart : L (.outer none (base config))
      [⟨.collectHostFacts,()⟩,⟨.openLedger config.agent.commandLedgerPath,.ok ()⟩])
    (hclose : ∀ head s, L head s → Closes R head s)
    (hstep : ∀ head s o t, L head s → Step config head s o t →
      Sum.elim (L · t) (P · t) o) (n : ℕ) :
    (connectHypervisor config n).Always recorder (Gaps isSession R)
      (fun o t => Sum.elim (L · t) (P · t) o) [] := by
  have hledger (r : Except AnyhowError Unit) :
      Gaps isSession R [⟨.openLedger config.agent.commandLedgerPath,r⟩] :=
    gaps_cons (gaps_nil R) (by simp [isSession])
  refine (connect_within (L := fun head s => L head s ∧ Gaps isSession R s) (P := P) hopen
    ⟨hstart,gaps_cons (hledger (.ok ())) (by simp [isSession])⟩ ?_ n).mono ?_ ?_
  · rintro head s o t ⟨hinv,hgaps⟩ h
    have ho := hstep head s o t hinv h
    cases o with
    | inl head' => exact ⟨ho,gaps_step hgaps (hclose head s hinv) h⟩
    | inr r => exact ho
  · rintro t (⟨r,ht⟩ | ⟨head,s,⟨hinv,hgaps⟩,o,u,h,ht⟩)
    · exact gaps_suffix (hledger r) ht
    · exact gaps_suffix (gaps_step hgaps (hclose head s hinv) h) ht
  · intro o t _ ho
    cases o with
    | inl head' => exact ho.1
    | inr r => exact ho

theorem connect_each {R : Call ConnectAns → Log → Prop} {L : Head → Log → Prop}
    {P : Except AnyhowError Unit → Log → Prop}
    (hledger : ∀ r, R ⟨.openLedger config.agent.commandLedgerPath,r⟩ [])
    (hfacts : R ⟨.collectHostFacts,()⟩ [⟨.openLedger config.agent.commandLedgerPath,.ok ()⟩])
    (hopen : ∀ e, P (.error e) [⟨.openLedger config.agent.commandLedgerPath,.error e⟩])
    (hstart : L (.outer none (base config))
      [⟨.collectHostFacts,()⟩,⟨.openLedger config.agent.commandLedgerPath,.ok ()⟩])
    (hstep : ∀ head s o t, L head s → Each R s → Step config head s o t →
      Each R t ∧ Sum.elim (L · t) (P · t) o) (n : ℕ) :
    (connectHypervisor config n).Always recorder (Each R)
      (fun o t => Sum.elim (L · t) (P · t) o) [] := by
  refine (connect_within (L := fun head s => L head s ∧ Each R s) (P := P) hopen
    ⟨hstart,hfacts,hledger _,trivial⟩ ?_ n).mono ?_ ?_
  · rintro head s o t ⟨hinv,heach⟩ h
    obtain ⟨ht,ho⟩ := hstep head s o t hinv heach h
    cases o with
    | inl head' => exact ⟨ho,ht⟩
    | inr r => exact ho
  · rintro t (⟨r,ht⟩ | ⟨head,s,⟨hinv,heach⟩,o,u,h,ht⟩)
    · exact each_suffix (u := [_]) ⟨hledger r,trivial⟩ ht
    · exact each_suffix (hstep head s o u hinv heach h).1 ht
  · intro o t _ ho
    cases o with
    | inl head' => exact ho.1
    | inr r => exact ho

end ConnectSteps
end KvmAgent
