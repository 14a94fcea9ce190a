import KvmAgent.IdentitySaves
import KvmAgent.Trace

/-! The two ways the agent tells a bootstrap address with TLS: the check of the
configuration, and the endpoint the enrollment dials. -/
namespace KvmAgent
namespace BootstrapTls

open RustText Fallible Machine IdentityStore Bootstrap IdentityCalls Trace

/-- `validate` takes the address for one with TLS, and wants a CA bundle for it. -/
def Https (addr : String) : Prop := startsWith "https://" (toAsciiLowercase (trim addr)) = true

instance (addr : String) : Decidable (Https addr) := inferInstanceAs (Decidable (_ = true))

/-- A connection is made with TLS, and the token is sent over such a connection only. -/
def SentEncrypted : Call MachineAns → Trace MachineAns → Prop
  | ⟨.connect _ _ tls,_⟩, _ => tls ≠ none
  | ⟨.bootstrapEnrollAgent _,_⟩, s =>
    ∃ uri timeout tls, ⟨.connect uri timeout (some tls),.ok ()⟩ ∈ s
  | _, _ => True

/-- The endpoint is one with TLS, and no enrollment at the address sends anything without. -/
structure Encrypted (addr : String) : Prop where
  endpoint : ∃ target, normalizeBootstrapEndpoint addr = .ok target ∧
    startsWith "https://" target = true
  enrollment : ∀ (ssl : OpenSsl) (store : IdentityStore) (config : AppConfig) (facts : HostFacts),
    config.agent.bootstrapTargetAddr = addr → ∀ choices : List (Call MachineAns),
      Each SentEncrypted ((bootstrapEnroll ssl store config facts).run.run recorder choices []).2

theorem normalize_https {addr : String} (h : startsWith "https://" (trim addr) = true) :
    normalizeBootstrapEndpoint addr = .ok (trim addr) := by
  have hne := ne_empty_of_https h
  simp only [normalizeBootstrapEndpoint,hne,h,if_false,Bool.true_or,if_true]

theorem https_of_normalize {addr target : String} (h : normalizeBootstrapEndpoint addr = .ok target)
    (htls : startsWith "https://" target = true) : startsWith "https://" (trim addr) = true := by
  unfold normalizeBootstrapEndpoint at h
  dsimp only at h
  split at h
  · cases h
  · split at h
    · cases h
      exact htls
    · cases h
      rw [not_https_prefixed] at htls
      cases htls

section Calls

def Aside : MachineOp → Prop
  | .connect .. | .bootstrapEnrollAgent _ => False
  | _ => True

theorem keeps_aside {α : Type} {p : Prog MachineAns α} (hp : p.Uses Aside) :
    p.Keeps recorder (Each SentEncrypted) := by
  refine hp.keeps fun o c s x t ho hc hs => ?_
  obtain ⟨-,rfl⟩ := recorder_eq_some.mp hc
  refine ⟨?_,hs⟩
  cases o with
  | connect | bootstrapEnrollAgent => exact ho.elim
  | _ => trivial

theorem writes_aside (store : IdentityStore) (path : Path) : Writes Aside store path :=
  ⟨fun _ => trivial,trivial,fun _ => trivial,trivial,trivial⟩

end Calls

section Enrolling

attribute [local irreducible] trim

theorem acceptEnrollment_uses {P : MachineOp → Prop} (ssl : OpenSsl) (store : IdentityStore)
    (response : BootstrapEnrollAgentResponse) (hread : ∀ p, P (.read p))
    (hwrites : ∀ path, Writes P store path) : (acceptEnrollment ssl store response).run.Uses P := by
  have htarget (target : String) : (saveRuntimeTargetAddr store target).run.Uses P := by
    unfold saveRuntimeTargetAddr
    split
    · exact .ret _
    · exact writeFile_uses (hwrites _) _
  have hload : (loadIdentity ssl store).run.Uses P :=
    IdentitySaves.loadIdentity_reads.mono fun o ho => by
      obtain ⟨p,-,rfl⟩ := ho
      exact hread p
  unfold acceptEnrollment
  split
  · exact .ret _
  split
  · exact .ret _
  refine uses_bind (uses_context ?_) fun _ => uses_context hload
  exact uses_bind (writeFile_uses (hwrites _) _) fun _ =>
    uses_bind (writeFile_uses (hwrites _) _) fun _ => htarget _

def Connected (s : Trace MachineAns) : Prop :=
  ∃ uri timeout tls, ⟨.connect uri timeout (some tls),.ok ()⟩ ∈ s

theorem keeps_any {α : Type} {p : Machine α} (hp : p.run.Uses Aside) {s : Trace MachineAns}
    (hs : Each SentEncrypted s) :
    p.run.Always recorder (Each SentEncrypted) (fun r _ => ∀ a, r = .ok a → True) s :=
  (keeps_aside hp s hs).mono (fun _ ht => ht) fun _ _ _ _ _ _ => trivial

theorem channel_encrypted {config : AppConfig}
    (https : startsWith "https://" (trim config.agent.bootstrapTargetAddr) = true)
    {s : Trace MachineAns} (hs : Each SentEncrypted s) :
    (buildBootstrapChannel config).run.Always recorder (Each SentEncrypted)
      (fun r t => ∀ a, r = .ok a → Connected t) s := by
  have hplain : ¬startsWith "http://" (trim config.agent.bootstrapTargetAddr) = true := by
    simp [not_http_of_https https]
  unfold buildBootstrapChannel
  rw [normalize_https https]
  refine always_next (P := fun target _ => target = trim config.agent.bootstrapTargetAddr)
    ⟨hs,by rintro _ ⟨⟩; rfl⟩ (by simp) ?_
  rintro _ s hs rfl
  refine always_next (keeps_any (uses_orFail (Prog.uses_op trivial)) hs) (by simp) fun _ s hs _ => ?_
  rw [if_neg hplain]
  refine always_next (keeps_any (uses_orFail (Prog.uses_op trivial)) hs) (by simp)
    fun caPem s hs _ => ?_
  rw [IdentityCalls.always_orFail]
  refine always_record.mpr ⟨hs,fun x => ?_⟩
  have hs' : Each SentEncrypted (⟨.connect (trim config.agent.bootstrapTargetAddr)
      config.agent.connectTimeout (some ⟨serverNameForTarget config
        config.agent.bootstrapTargetAddr,caPem,none⟩),x⟩::s) := ⟨Option.some_ne_none _,hs⟩
  refine ⟨hs',hs',fun _ hx => ?_⟩
  cases x with
  | error e => simp [Except.mapError] at hx
  | ok _ => exact ⟨_,_,_,List.mem_cons_self⟩

/-- No enrollment at a lower-case address with TLS sends anything without. -/
theorem bootstrapEnroll_encrypted (ssl : OpenSsl) (store : IdentityStore) {config : AppConfig}
    (facts : HostFacts)
    (https : startsWith "https://" (trim config.agent.bootstrapTargetAddr) = true) :
    (bootstrapEnroll ssl store config facts).run.Always recorder (Each SentEncrypted)
      (fun _ _ => True) [] := by
  unfold bootstrapEnroll
  split
  · exact ⟨trivial,trivial⟩
  refine always_next (keeps_any (ensurePrivateKey_uses trivial trivial (writes_aside store _)) trivial) (by simp)
    fun key s hs _ => ?_
  refine always_next (keeps_any (uses_context (uses_orFail (Prog.uses_op trivial))) hs) (by simp)
    fun csr s hs _ => ?_
  refine always_next (channel_encrypted https hs) (by simp) fun _ s hs hconnected => ?_
  refine always_next (P := fun _ _ => True) ?_ (by simp) fun response s hs _ => ?_
  · rw [IdentityCalls.always_orFail]
    refine always_record.mpr ⟨hs,fun x => ?_⟩
    have hs' : Each SentEncrypted (⟨.bootstrapEnrollAgent (enrollRequest config facts csr),x⟩::s) :=
      ⟨hconnected,hs⟩
    exact ⟨hs',hs',fun _ _ => trivial⟩
  · exact (keeps_any (acceptEnrollment_uses ssl store response (fun _ => trivial)
      (writes_aside store)) hs).mono (fun _ ht => ht)
      fun _ _ _ _ => trivial

/-- For every address: when `validate` takes it for one with TLS, then the enrollment does
too and sends nothing without, exactly when the scheme is written in lower case. -/
theorem agree_iff (addr : String) :
    (Https addr → Encrypted addr) ↔ (Https addr → startsWith "https://" (trim addr) = true) := by
  refine forall_congr' fun _ => ⟨fun h => ?_,fun h => ⟨⟨trim addr,normalize_https h,h⟩,?_⟩⟩
  · obtain ⟨target,htarget,htls⟩ := h.endpoint
    exact https_of_normalize htarget htls
  · rintro ssl store config facts rfl choices
    exact ((bootstrapEnroll_encrypted ssl store facts h).run choices).1

end Enrolling

/-- An upper-case scheme is asked for a CA bundle and then dialled without TLS. -/
theorem upper_case_plain : ¬∀ addr, Https addr → Encrypted addr := by
  intro h
  obtain ⟨target,htarget,htls⟩ := (h "HTTPS://127.0.0.1:9443" (by decide)).endpoint
  have hlower : startsWith "https://" (trim "HTTPS://127.0.0.1:9443") = true :=
    https_of_normalize htarget htls
  exact absurd hlower (by decide)

end BootstrapTls
end KvmAgent
