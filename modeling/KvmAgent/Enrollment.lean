import KvmAgent.FaultFree

/-! What `bootstrap_enroll` makes of a response: whether it returns an identity, and
whether the store then holds one that can be used. -/
namespace KvmAgent
namespace Enrollment

open RustText Fallible Machine IdentityStore Bootstrap Host IdentityCalls IdentityKeys IdentitySaves
open FaultFree

theorem asBytes_ne_nil {s : String} (h : ¬Blank s) : asBytes s ≠ [] := by
  intro he
  have hdata : s.toByteArray.data = #[] := by simpa [asBytes] using he
  have hs : s = "" := String.toByteArray_inj.mp (ByteArray.ext hdata)
  subst hs
  exact h (by decide)

section Runs

variable [Directories] (ssl : OpenSsl) (store : IdentityStore)

/-- The certificate or the CA bundle is blank, or the certificate is none. -/
def Unusable (response : BootstrapEnrollAgentResponse) : Prop :=
  Blank response.clientCertPem ∨ ssl.certificate (asBytes response.clientCertPem) = none ∨
    Blank response.caCertPem

/-- The responses `bootstrap_enroll` turns down. -/
def Rejected (response : BootstrapEnrollAgentResponse) : Prop :=
  Blank response.agentId ∨ Blank response.runtimeTargetAddr

/-- A machine whose controlplane answers an enrollment with `response`, whatever was asked
for; a generated key is not empty. -/
def answering (response : BootstrapEnrollAgentResponse) : Handler MachineAns HostChoice Host :=
  fun op c h =>
    match c.key with
    | .ok [] => none
    | _ => handler blindSsl store op { c with enrolled := .ok response } h

def enroll (config : AppConfig) (facts : HostFacts) (response : BootstrapEnrollAgentResponse)
    (choices : List HostChoice) (h : Host) : Option (Except AnyhowError AgentIdentityState) × Host :=
  (bootstrapEnroll ssl store config facts).run.run (answering store response) choices h

/-- What `has_usable_client_certificate` says of a machine where nothing fails. -/
def usableNow (h : Host) : Option Bool :=
  ((hasUsableClientCertificate ssl store).run (handler blindSsl store) (List.replicate 5 quiet) h).1

def Kept (h t : Host) : Prop :=
  ∀ p ∈ [store.certPath,store.caPath,store.runtimeTargetStatePath],
    t.files p.place = h.files p.place

/-- An enrollment that returns an identity leaves a usable one, provided that the
certificate of the response has not expired; an unusable response is an error and leaves
certificate, CA bundle and target alone. -/
structure Meets (config : AppConfig) (facts : HostFacts) (response : BootstrapEnrollAgentResponse)
    (choices : List HostChoice) (h : Host) : Prop where
  usable : ∀ state, (enroll ssl store config facts response choices h).1 = some (.ok state) →
    (∀ cert, ssl.certificate (asBytes response.clientCertPem) = some cert →
      (enroll ssl store config facts response choices h).2.clock < cert.notAfter) →
    usableNow ssl store (enroll ssl store config facts response choices h).2 = some true
  refused : Unusable ssl response →
    ∀ state, (enroll ssl store config facts response choices h).1 ≠ some (.ok state)
  kept : Unusable ssl response →
    Kept store h (enroll ssl store config facts response choices h).2

variable {ssl store} {response : BootstrapEnrollAgentResponse} {h t : Host}

section Answering

variable {c : HostChoice}

theorem answering_sub {o : MachineOp} {x : MachineAns o}
    (hc : answering store response o c h = some (x,t)) :
    ∃ c', handler blindSsl store o c' h = some (x,t) := by
  unfold answering at hc
  split at hc
  · cases hc
  · exact ⟨_,hc⟩

theorem answering_key {pem : Bytes}
    (hc : answering store response .generateKey c h = some (.ok pem,t)) : pem ≠ [] := by
  rintro rfl
  unfold answering at hc
  split at hc
  · cases hc
  · next hkey =>
    simp only [handler,perform,Option.some.injEq,Prod.mk.injEq] at hc
    exact hkey hc.1

theorem answering_enroll {request : BootstrapEnrollAgentRequest}
    {x : Except Status BootstrapEnrollAgentResponse}
    (hc : answering store response (.bootstrapEnrollAgent request) c h = some (x,t)) :
    x = .ok response ∧ Later h t := by
  unfold answering at hc
  split at hc
  · cases hc
  · have hissued : issuedFor blindSsl request.csrPem response = true := rfl
    simp only [handler,perform,hissued,if_true,Option.some.injEq,Prod.mk.injEq] at hc
    obtain ⟨rfl,rfl⟩ := hc
    exact ⟨rfl,later_pass h c.elapsed⟩

theorem always_answering {α : Type} {I : Host → Prop} {Q : α → Host → Prop}
    {p : Prog MachineAns α} (hp : p.Always (handler blindSsl store) I Q h) :
    p.Always (answering store response) I Q h := by
  refine Prog.Always.restrict ?_ hp
  intro o c s x t hc
  exact answering_sub hc

end Answering

theorem Kept.refl (h : Host) : Kept store h h := fun _ _ => rfl

theorem Kept.trans {m : Host} (hm : Kept store h m) (ht : Kept store m t) : Kept store h t :=
  fun p hp => (ht p hp).trans (hm p hp)

theorem Kept.later {m : Host} (hm : Kept store h m) (ht : Later m t) : Kept store h t :=
  fun p hp => (congrFun ht.files _).trans (hm p hp)

section Preparing

attribute [local irreducible] trim

variable (separate : Separate store)
include separate

theorem writeKey_kept (pem : Bytes) (ht : Kept store h t) :
    (writeFile store store.keyPath pem).run.Always (answering store response) (Kept store h)
      (fun r u => r = .ok () → u.files.contentAt store.keyPath = pem) t := by
  have hkey : store.keyPath ∈ identityPaths store := by simp [identityPaths]
  obtain ⟨⟨hck,-,-⟩,⟨hkc,hkt⟩,-⟩ := places_ne separate.1
  have hother {p : Path} (hp : p ∈ [store.certPath,store.caPath,store.runtimeTargetStatePath]) :
      p.place ∈ identityPlaces store ∧ p.place ≠ store.keyPath.place := by
    simp only [List.mem_cons,List.not_mem_nil,or_false] at hp
    rcases hp with rfl | rfl | rfl
    · exact ⟨place_mem (by simp [identityPaths]),hck⟩
    · exact ⟨place_mem (by simp [identityPaths]),hkc.symm⟩
    · exact ⟨place_mem (by simp [identityPaths]),hkt.symm⟩
  refine always_answering ((@writeFile_spec blindSsl store _ store.keyPath pem t).mono ?_ ?_)
  · rintro u (hu | hu)
    · exact ht.trans fun p hp => hu.files p.place (tmp_ne separate hkey (hother hp).1)
    · exact ht.trans fun p hp => installed_other separate hkey (hother hp).1 (hother hp).2 hu
  · rintro r u _ (⟨-,hu⟩ | ⟨⟨e,rfl⟩,-⟩) hr
    · exact installed_content separate hkey hu
    · cases hr

theorem newPrivateKey_kept (ht : Kept store h t) :
    (newPrivateKey store).run.Always (answering store response) (Kept store h)
      (fun r u => ∀ pem, r = .ok pem → u.files.contentAt store.keyPath ≠ []) t := by
  unfold newPrivateKey
  refine always_next (P := fun pem _ => pem ≠ []) ?_ (by simp) fun pem u hu hpem => ?_
  · rw [always_orFail]
    refine always_op (o := .generateKey) ht fun c x u hc => ?_
    obtain ⟨c',hc'⟩ := answering_sub hc
    have hu : Kept store h u := by
      cases hc'
      exact ht.later (later_pass t c'.elapsed)
    refine ⟨hu,hu,?_⟩
    rintro pem hx
    cases x with
    | error e => simp [Except.mapError] at hx
    | ok pem' =>
      cases hx
      exact answering_key hc
  · refine always_next (P := fun _ v => v.files.contentAt store.keyPath = pem) ?_ (by simp) ?_
    · exact (writeKey_kept separate pem hu).mono (fun _ hv => hv)
        fun r v _ hv _ hr => hv (by rw [hr])
    · rintro _ v hv hcontent
      exact ⟨hv,fun _ _ => hcontent ▸ hpem⟩

/-- Before the request there is a key, and nothing else has changed. -/
theorem ensurePrivateKey_kept (h : Host) :
    (ensurePrivateKey store).run.Always (answering store response) (Kept store h)
      (fun r t => ∀ pem, r = .ok pem → t.files.contentAt store.keyPath ≠ []) h := by
  refine ⟨Kept.refl h,fun c x t hc => ?_⟩
  obtain ⟨c',hc'⟩ := answering_sub hc
  obtain ⟨hlater,hread⟩ := read_cases hc'
  have ht : Kept store h t := (Kept.refl h).later hlater
  cases x with
  | error e => exact newPrivateKey_kept separate ht
  | ok existing =>
    show Prog.Always _ _ _ (ExceptT.run (if existing ≠ [] then _ else _)) _
    split
    · next hne =>
      refine ⟨ht,fun _ _ => ?_⟩
      rw [hlater.files,hread _ rfl]
      exact hne
    · exact newPrivateKey_kept separate ht

/-- An enrollment comes down to what it does with the response. -/
theorem bootstrapEnroll_always (config : AppConfig) (facts : HostFacts) {I : Host → Prop}
    {Q : Except AnyhowError AgentIdentityState → Host → Prop} (hI : ∀ t, Kept store h t → I t)
    (herr : ∀ e t, Kept store h t → Q (.error e) t)
    (haccept : ∀ t, Kept store h t → t.files.contentAt store.keyPath ≠ [] →
      (acceptEnrollment ssl store response).run.Always (answering store response) I Q t) :
    (bootstrapEnroll ssl store config facts).run.Always (answering store response) I Q h := by
  have hnext {α : Type} {p : Machine α} {f : α → Machine AgentIdentityState} {t : Host}
      (hp : p.run.Always (answering store response) (Kept store h)
        (fun r u => ∀ a, r = .ok a →
          (f a).run.Always (answering store response) I Q u) t) :
      (p >>= f).run.Always (answering store response) I Q t := by
    rw [always_bind]
    refine hp.mono hI ?_
    rintro (e | a) u hu hr
    · exact ⟨hI u hu,herr e u hu⟩
    · exact hr a rfl
  unfold bootstrapEnroll
  split
  · exact ⟨hI h (Kept.refl h),herr _ h (Kept.refl h)⟩
  refine hnext ((ensurePrivateKey_kept separate h).mono (fun _ ht => ht)
    fun r t ht hr key hok => ?_)
  have hkey := hr key hok
  have hlater {t u : Host} (ht : Kept store h t) (hkey : t.files.contentAt store.keyPath ≠ [])
      (hu : Later t u) : Kept store h u ∧ u.files.contentAt store.keyPath ≠ [] :=
    ⟨ht.later hu,hu.files ▸ hkey⟩
  refine hnext ?_
  rw [generateCsr]
  refine always_context ?_
  rw [always_orFail]
  refine always_op (o := .generateCsr ..) ht fun c x u hc => ?_
  obtain ⟨c',hc'⟩ := answering_sub hc
  obtain ⟨hu,hkeyu⟩ := hlater ht hkey (generateCsr_cases hc').1
  refine ⟨hu,hu,hu,fun csr _ => hnext ?_⟩
  refine (always_answering (buildBootstrapChannel_spec config (Later.refl u))).mono
    (fun _ hv => hu.later hv) fun r v hv _ _ _ => ?_
  obtain ⟨hv,hkeyv⟩ := hlater hu hkeyu hv
  refine hnext ?_
  rw [always_orFail]
  refine always_op (o := .bootstrapEnrollAgent ..) hv fun c x w hc => ?_
  obtain ⟨rfl,hw⟩ := answering_enroll hc
  obtain ⟨hw,hkeyw⟩ := hlater hv hkeyv hw
  refine ⟨hw,hw,?_⟩
  rintro _ ⟨⟩
  exact haccept w hw hkeyw

theorem enroll_rejected (config : AppConfig) (facts : HostFacts) (rejected : Rejected response) :
    (bootstrapEnroll ssl store config facts).run.Always (answering store response) (Kept store h)
      (fun r _ => ∀ state, r ≠ .ok state) h := by
  refine bootstrapEnroll_always separate config facts (fun _ ht => ht) (by simp) ?_
  intro t ht _
  unfold acceptEnrollment
  split
  · exact ⟨ht,by simp⟩
  · next hagent =>
    have htarget : trim response.runtimeTargetAddr = "" := rejected.resolve_left hagent
    rw [if_pos htarget]
    exact ⟨ht,by simp⟩

structure Saved (store : IdentityStore) (response : BootstrapEnrollAgentResponse) (t : Host) :
    Prop where
  cert : t.files.contentAt store.certPath = asBytes response.clientCertPem
  ca : t.files.contentAt store.caPath = asBytes response.caCertPem
  key : t.files.contentAt store.keyPath ≠ []

theorem files_of_agree {cert ca : Bytes} {target : String} {files : Files} {u : Host}
    (hu : Agree (temps store) (replaced store cert ca target 3 files) u) :
    u.files store.certPath.place = some ⟨cert,modeFor store store.certPath⟩ ∧
    u.files store.caPath.place = some ⟨ca,modeFor store store.caPath⟩ ∧
    u.files store.keyPath.place = files store.keyPath.place := by
  obtain ⟨⟨hck,hcc,hct⟩,⟨hkc,hkt⟩,hcat⟩ := places_ne separate.1
  have hfile {p : Path} (hp : p ∈ identityPaths store) :
      u.files p.place = replaced store cert ca target 3 files p.place := by
    refine hu p.place ?_
    have hp := place_mem hp
    simp only [temps,savedPaths,List.map_cons,List.map_nil,List.mem_cons,List.not_mem_nil,or_false,not_or]
    exact ⟨tmp_ne separate (by simp [identityPaths]) hp,tmp_ne separate (by simp [identityPaths]) hp,
      tmp_ne separate (by simp [identityPaths]) hp⟩
  refine ⟨?_,?_,?_⟩
  · rw [hfile (by simp [identityPaths])]
    simp [replaced,newFiles,replace,hcc,hct]
  · rw [hfile (by simp [identityPaths])]
    simp [replaced,newFiles,replace,hcat]
  · rw [hfile (by simp [identityPaths])]
    simp [replaced,newFiles,replace,hck.symm,hkc,hkt]

theorem saved_of_agree {t u : Host} (hkey : t.files.contentAt store.keyPath ≠ [])
    (named : ∀ p ∈ savedPaths store, p.place.Named)
    (hu : Agree (temps store) (replaced store (asBytes response.clientCertPem)
      (asBytes response.caCertPem) response.runtimeTargetAddr 3 t.files) u) :
    Saved store response u := by
  obtain ⟨hcert,hca,hkeyFile⟩ := files_of_agree separate hu
  refine ⟨Files.contentAt_some (named _ (by simp [savedPaths])) hcert,
    Files.contentAt_some (named _ (by simp [savedPaths])) hca,?_⟩
  rwa [Files.contentAt_congr hkeyFile]

theorem acceptEnrollment_saved {t : Host} (hkey : t.files.contentAt store.keyPath ≠ []) :
    (acceptEnrollment ssl store response).run.Always (answering store response) (fun _ => True)
      (fun r u => ∀ state, r = .ok state → Saved store response u) t := by
  unfold acceptEnrollment
  split
  · exact ⟨trivial,by simp⟩
  split
  · exact ⟨trivial,by simp⟩
  refine always_next (P := fun _ u => Saved store response u) ?_ (by simp) fun _ u _ hu => ?_
  · refine always_context (always_answering ((saveIdentity_spec blindSsl _ _ _ t).mono
      (fun _ _ => trivial) fun r u _ hr => ⟨trivial,fun a ha => ?_⟩))
    cases r with
    | error e => simp [Except.mapError] at ha
    | ok _ => exact saved_of_agree separate hkey (hr rfl).1 (hr rfl).2
  · have hload : (loadIdentity ssl store).run.Always (handler blindSsl store) (fun _ => True)
        (fun _ v => Saved store response v) u :=
      (loadIdentity_spec (Later.refl u)).mono (fun _ _ => trivial) fun _ v hv _ =>
        ⟨hv.files ▸ hu.cert,hv.files ▸ hu.ca,hv.files ▸ hu.key⟩
    exact always_context ((always_answering hload).mono (fun _ hv => hv)
      fun _ _ _ hv => ⟨trivial,fun _ _ => hv⟩)

theorem enroll_saved (config : AppConfig) (facts : HostFacts) (h : Host) :
    (bootstrapEnroll ssl store config facts).run.Always (answering store response)
      (fun _ => True) (fun r t => ∀ state, r = .ok state → Saved store response t) h :=
  bootstrapEnroll_always separate config facts (fun _ _ => trivial) (by simp)
    fun _ _ hkey => acceptEnrollment_saved separate hkey

end Preparing

section Usable

theorem quiet_handler (store : IdentityStore) : Quiet store (handler blindSsl store) quiet :=
  ⟨fun _ _ => rfl,rfl,rfl,rfl⟩

theorem quiet_answering (store : IdentityStore) (response : BootstrapEnrollAgentResponse) :
    Quiet store (answering store response) { quiet with enrolled := .ok response } :=
  ⟨fun _ _ => rfl,rfl,rfl,rfl⟩

theorem usableNow_of_stands {h : Host} (stands : h.stands ssl store = true)
    (key : h.files.contentAt store.keyPath ≠ []) : usableNow ssl store h = some true := by
  obtain ⟨b,hb,rfl⟩ := returns_run (hasUsable_returns (quiet_handler store) stands key)
  exact hb

theorem usableNow_of_saved (usable : ¬Unusable ssl response) {t : Host}
    (ht : Saved store response t)
    (unexpired : ∀ cert, ssl.certificate (asBytes response.clientCertPem) = some cert →
      t.clock < cert.notAfter) : usableNow ssl store t = some true := by
  obtain ⟨hcert,hrest⟩ := not_or.mp usable
  obtain ⟨hparse,hca⟩ := not_or.mp hrest
  obtain ⟨cert,hcertificate⟩ := Option.ne_none_iff_exists'.mp hparse
  refine usableNow_of_stands (stands_iff.mpr ⟨cert,?_,?_,unexpired cert hcertificate,?_⟩) ht.key
  · rw [ht.cert,hcertificate]
  · rw [ht.cert]
    exact asBytes_ne_nil hcert
  · rw [ht.ca]
    exact asBytes_ne_nil hca

end Usable

section Meeting

attribute [local irreducible] trim

theorem rejected_run (separate : Separate store) (rejected : Rejected response)
    (config : AppConfig) (facts : HostFacts) (choices : List HostChoice) (h : Host) :
    Kept store h (enroll ssl store config facts response choices h).2 ∧
      ∀ state, (enroll ssl store config facts response choices h).1 ≠ some (.ok state) := by
  have hall : (bootstrapEnroll ssl store config facts).run.Always (answering store response)
      (Kept store h) (fun r _ => ∀ state, r ≠ .ok state) h :=
    enroll_rejected separate config facts rejected
  obtain ⟨hkept,hnever⟩ := hall.run choices
  exact ⟨hkept,fun state hok => hnever _ hok state rfl⟩

theorem meets_of_condition (separate : Separate store)
    (condition : Unusable ssl response → Rejected response) (config : AppConfig)
    (facts : HostFacts) (choices : List HostChoice) (h : Host) :
    Meets ssl store config facts response choices h where
  usable state hok unexpired := by
    by_cases hunusable : Unusable ssl response
    · exact absurd hok
        ((rejected_run separate (condition hunusable) config facts choices h).2 state)
    · have hsaved := ((enroll_saved separate config facts h).run choices).2 _ hok state rfl
      exact usableNow_of_saved hunusable hsaved unexpired
  refused hunusable :=
    (rejected_run separate (condition hunusable) config facts choices h).2
  kept hunusable :=
    (rejected_run separate (condition hunusable) config facts choices h).1

end Meeting

section Accepting

attribute [local irreducible] trim

variable {hd : Handler MachineAns HostChoice Host} {c : HostChoice} (works : Quiet store hd c)
include works

theorem saveIdentity_returns
    (named : ∀ p ∈ [store.certPath,store.caPath,store.runtimeTargetStatePath],
      p.place.Named ∧ p.tmpPath.place.Named) (cert ca : Bytes) {target : String}
    (nonblank : ¬Blank target) (h : Host) :
    (saveIdentity store cert ca target).run.Returns hd (· = quiet) (fun r _ => r = .ok ()) 15 h := by
  have hwrite {p : Path} (hp : p ∈ [store.certPath,store.caPath,store.runtimeTargetStatePath])
      (content : Bytes) (t : Host) :
      (writeFile store p content).run.Returns hd (· = quiet) (fun r _ => r = .ok ()) 5 t :=
    writeFile_returns works (named p hp).1 (named p hp).2 content t
  unfold saveIdentity
  refine returns_next (n := 5) (m := 10) ((hwrite (by simp) cert h).mono le_rfl ?_)
  rintro _ t rfl
  refine ⟨(),rfl,returns_next (n := 5) (m := 5) ((hwrite (by simp) ca t).mono le_rfl ?_)⟩
  rintro _ u rfl
  refine ⟨(),rfl,?_⟩
  have hne : ¬trim target = "" := nonblank
  rw [saveRuntimeTargetAddr,if_neg hne]
  exact hwrite (by simp) _ u

end Accepting

end Runs

theorem defaults_endpoint : normalizeBootstrapEndpoint AppConfig.defaults.agent.bootstrapTargetAddr =
    .ok "http://127.0.0.1:9090" := by rfl


theorem defaults_token : ¬Blank AppConfig.defaults.agent.bootstrapToken := by decide

section Sample

attribute [local instance] Directories.plain

theorem defaults_separate : Separate IdentityStore.defaults := by decide

attribute [local irreducible] trim

variable {response : BootstrapEnrollAgentResponse}

theorem acceptEnrollment_returns (ssl : OpenSsl) (accepted : ¬Rejected response) {h : Host}
    {keyFile : File} (key : fileAt h.files IdentityStore.defaults.keyPath = .ok keyFile) :
    (acceptEnrollment ssl IdentityStore.defaults response).run.Returns
      (answering IdentityStore.defaults response) (· = quiet)
      (fun r _ => ∃ state, r = .ok state) 19 h := by
  obtain ⟨hagent,htarget⟩ := not_or.mp accepted
  have hagent' : ¬trim response.agentId = "" := hagent
  have htarget' : ¬trim response.runtimeTargetAddr = "" := htarget
  have hworks := quiet_answering IdentityStore.defaults response
  rw [acceptEnrollment,if_neg hagent',if_neg htarget']
  refine returns_next (n := 15) (m := 4) (returns_context ?_)
  refine ((saveIdentity_returns hworks (by decide) _ _ htarget h).and_always
    (always_answering (saveIdentity_spec blindSsl _ _ _ h))).mono le_rfl ?_
  rintro _ t ⟨rfl,ht⟩
  obtain ⟨hnamed,hagree⟩ := ht rfl
  obtain ⟨hcert,hca,hkey⟩ := files_of_agree defaults_separate hagree
  rw [fileAt_ok] at key
  refine ⟨(),rfl,(),rfl,returns_context ?_⟩
  refine (loadIdentity_returns hworks ssl (fileAt_ok.mpr ⟨hnamed _ (by simp [savedPaths]),hcert⟩)
    (fileAt_ok.mpr ⟨key.1,hkey.trans key.2⟩) (fileAt_ok.mpr ⟨hnamed _ (by simp [savedPaths]),hca⟩)).mono le_rfl ?_
  rintro _ u ⟨-,state,rfl,-⟩
  exact ⟨state,rfl,state,rfl⟩

theorem channel_returns (response : BootstrapEnrollAgentResponse) (h : Host) :
    (buildBootstrapChannel AppConfig.defaults).run.Returns
      (answering IdentityStore.defaults response) (· = quiet) (fun r t => r = .ok () ∧ t = h) 2 h := by
  have hplain : startsWith "http://" "http://127.0.0.1:9090" = true := by decide
  have hendpoint (uri : String) : answering IdentityStore.defaults response (.endpoint uri) quiet h =
      some (.ok (),h) := by
    simp [answering,quiet,handler,perform,pass_zero]
  have hconnect (uri : String) (timeout : Duration) :
      answering IdentityStore.defaults response (.connect uri timeout none) quiet h =
        some (.ok (),h) := by
    simp [answering,quiet,handler,perform,pass_zero]
  unfold buildBootstrapChannel
  rw [defaults_endpoint]
  refine returns_next (n := 0) (m := 2) ⟨_,rfl,?_⟩
  refine returns_next (n := 1) (m := 1) (returns_orFail (returns_op (hendpoint _) ⟨(),rfl,(),rfl,?_⟩))
  rw [if_pos hplain]
  exact returns_orFail (returns_op (hconnect _ _) ⟨(),rfl,rfl,rfl⟩)

theorem bootstrapEnroll_returns (ssl : OpenSsl) (accepted : ¬Rejected response) (facts : HostFacts) :
    (bootstrapEnroll ssl IdentityStore.defaults AppConfig.defaults facts).run.Returns
      (answering IdentityStore.defaults response) (· = quiet)
      (fun r _ => ∃ state, r = .ok state) 24 (enrolledHost IdentityStore.defaults) := by
  have hworks := quiet_answering IdentityStore.defaults response
  have htoken : ¬trim AppConfig.defaults.agent.bootstrapToken = "" := defaults_token
  have hkey : fileAt (enrolledHost IdentityStore.defaults).files IdentityStore.defaults.keyPath =
      .ok ⟨[2],0o600⟩ := by rfl
  generalize enrolledHost IdentityStore.defaults = h at hkey
  have hcsr (key : Bytes) (commonName : String) :
      answering IdentityStore.defaults response (.generateCsr key commonName) quiet h =
        some (.ok "",h) := by
    simp [answering,quiet,handler,perform,pass_zero,blindSsl]
  have henroll (request : BootstrapEnrollAgentRequest) :
      answering IdentityStore.defaults response (.bootstrapEnrollAgent request) quiet h =
        some (.ok response,h) := by
    simp [answering,quiet,handler,perform,pass_zero,issuedFor,blindSsl]
  rw [bootstrapEnroll,if_neg htoken]
  refine returns_next (n := 1) (m := 23) (?_ : (ensurePrivateKey _).run.Returns _ _ _ 1 h)
  rintro _ rfl
  refine ⟨_,h,hworks.read hkey,?_⟩
  refine ⟨[2],rfl,returns_next (n := 1) (m := 22) (returns_context (returns_orFail
    (returns_op (hcsr _ _) ⟨"",rfl,"",rfl,"",rfl,?_⟩)))⟩
  refine returns_next (n := 2) (m := 20) ((channel_returns response h).mono le_rfl ?_)
  rintro _ _ ⟨rfl,rfl⟩
  refine ⟨(),rfl,returns_next (n := 1) (m := 19) (returns_orFail
    (returns_op (henroll _) ⟨response,rfl,response,rfl,?_⟩))⟩
  exact acceptEnrollment_returns ssl accepted hkey

end Sample

section Responses

attribute [local instance] Directories.plain

def sampleFacts : HostFacts := { agentId := "agent", hostId := "host" }

/-- For every response: `bootstrap_enroll` does what it should with it in every run, on
every store, exactly when it is usable or turned down for its agent id or its target. -/
theorem enrollment_iff (ssl : OpenSsl) (response : BootstrapEnrollAgentResponse) :
    (∀ [Directories] (store : IdentityStore), Separate store → ∀ config facts choices h,
      Meets ssl store config facts response choices h) ↔
        (Unusable ssl response → Rejected response) := by
  refine ⟨fun hmeets hunusable => ?_,fun condition _ store separate config facts choices h =>
    meets_of_condition separate condition config facts choices h⟩
  by_contra haccepted
  obtain ⟨r,hr,state,rfl⟩ := returns_run (bootstrapEnroll_returns ssl haccepted sampleFacts)
  have hrun := hmeets IdentityStore.defaults defaults_separate AppConfig.defaults sampleFacts
    (List.replicate 24 quiet) (enrolledHost IdentityStore.defaults)
  exact hrun.refused hunusable state hr

def garbage : BootstrapEnrollAgentResponse where
  agentId := "agent"
  clientCertPem := "garbage"
  caCertPem := "garbage"
  runtimeTargetAddr := "dp-1:443"

instance (response : BootstrapEnrollAgentResponse) : Decidable (Rejected response) :=
  inferInstanceAs (Decidable (_ ∨ _))

/-- It replaces certificate, CA bundle and target, and an identity is returned. -/
theorem garbage_enrolls : ¬∀ [Directories] (ssl : OpenSsl) (store : IdentityStore), Separate store →
    ∀ (config : AppConfig) (facts : HostFacts) (response : BootstrapEnrollAgentResponse)
      (choices : List HostChoice) (h : Host), Meets ssl store config facts response choices h := by
  intro hall
  have haccepted : ¬Rejected garbage := by decide
  obtain ⟨r,hr,state,rfl⟩ := returns_run (bootstrapEnroll_returns blindSsl haccepted sampleFacts)
  have hrun := hall blindSsl IdentityStore.defaults defaults_separate AppConfig.defaults sampleFacts garbage
    (List.replicate 24 quiet) (enrolledHost IdentityStore.defaults)
  exact hrun.refused (.inr (.inl rfl)) state hr

end Responses
end Enrollment
end KvmAgent
