import KvmAgent.IdentityCalls

/-! Whether the stored certificate belongs to the stored key, over enrollments that stop
anywhere, restarts and lost files. -/
namespace KvmAgent
namespace IdentityKeys

open RustText Fallible Machine IdentityStore Bootstrap Host IdentityCalls

section Runs

variable [Directories] {ssl : OpenSsl} {store : IdentityStore}

/-- The identity files are four files, and none is the temporary file of another. -/
def Separate (store : IdentityStore) : Prop :=
  (identityPlaces store).Nodup ∧ ∀ p ∈ identityPaths store, p.tmpPath.place ∉ identityPlaces store

instance (store : IdentityStore) : Decidable (Separate store) :=
  inferInstanceAs (Decidable (_ ∧ _))

/-- The public key of the stored certificate is that of the stored private key. -/
def KeysMatch (ssl : OpenSsl) (store : IdentityStore) (files : Files) : Prop :=
  ∃ cert, ssl.certificate (files.contentAt store.certPath) = some cert ∧
    ssl.publicKey (files.contentAt store.keyPath) = some cert.publicKey

/-- A certificate that would be taken for usable belongs to the key. -/
def Sound (ssl : OpenSsl) (store : IdentityStore) (h : Host) : Prop :=
  h.stands ssl store = true → h.files.contentAt store.keyPath ≠ [] → KeysMatch ssl store h.files

def Safe (ssl : OpenSsl) (store : IdentityStore) (h : Host) : Prop :=
  h.rekeyed = false → Sound ssl store h

def Paired (ssl : OpenSsl) (store : IdentityStore) (h : Host) : Prop :=
  ∀ cert, ssl.certificate (h.files.contentAt store.certPath) = some cert →
    ssl.publicKey (h.files.contentAt store.keyPath) = some cert.publicKey

theorem stands_iff {h : Host} : h.stands ssl store = true ↔
    ∃ cert, ssl.certificate (h.files.contentAt store.certPath) = some cert ∧
      h.files.contentAt store.certPath ≠ [] ∧ h.clock < cert.notAfter ∧
      h.files.contentAt store.caPath ≠ [] := by
  unfold stands
  cases ssl.certificate (h.files.contentAt store.certPath) <;> simp

/-- A certificate that stands later stood before, while its files were the same. -/
theorem stands_of_later {h t : Host} (hcert : t.files store.certPath.place = h.files store.certPath.place)
    (hca : t.files store.caPath.place = h.files store.caPath.place) (hclock : h.clock ≤ t.clock)
    (ht : t.stands ssl store = true) : h.stands ssl store = true := by
  obtain ⟨cert,hparse,hne,hexp,hbundle⟩ := stands_iff.mp ht
  rw [Files.contentAt_congr hcert] at hparse hne
  rw [Files.contentAt_congr hca] at hbundle
  exact stands_iff.mpr ⟨cert,hparse,hne,lt_of_le_of_lt hclock hexp,hbundle⟩

theorem sound_of_later {h t : Host} (hcert : t.files store.certPath.place = h.files store.certPath.place)
    (hkey : t.files store.keyPath.place = h.files store.keyPath.place)
    (hca : t.files store.caPath.place = h.files store.caPath.place) (hclock : h.clock ≤ t.clock)
    (hh : Sound ssl store h) : Sound ssl store t := by
  intro hstands hne
  rw [Files.contentAt_congr hkey] at hne
  have hm := hh (stands_of_later hcert hca hclock hstands) hne
  rwa [KeysMatch,Files.contentAt_congr hcert,Files.contentAt_congr hkey]

theorem sound_of_paired {h : Host} (hh : Paired ssl store h) : Sound ssl store h := by
  intro hstands _
  obtain ⟨cert,hparse,-⟩ := stands_iff.mp hstands
  exact ⟨cert,hparse,hh cert hparse⟩

theorem safe_of_paired {h : Host} (hh : Paired ssl store h) : Safe ssl store h :=
  fun _ => sound_of_paired hh

theorem safe_later {h t : Host} (hh : Safe ssl store h) (ht : Later h t) : Safe ssl store t := by
  intro hr
  rw [ht.rekeyed] at hr
  exact sound_of_later (congrFun ht.files _) (congrFun ht.files _) (congrFun ht.files _)
    ht.clock (hh hr)

theorem paired_of_files {h t : Host} (hcert : t.files store.certPath.place = h.files store.certPath.place)
    (hkey : t.files store.keyPath.place = h.files store.keyPath.place) (hh : Paired ssl store h) :
    Paired ssl store t := by
  rw [Paired,Files.contentAt_congr hcert,Files.contentAt_congr hkey]
  exact hh

theorem place_mem {p : Path} (hp : p ∈ identityPaths store) : p.place ∈ identityPlaces store :=
  List.mem_map_of_mem hp

theorem places_ne (hnodup : (identityPlaces store).Nodup) :
    (store.certPath.place ≠ store.keyPath.place ∧ store.certPath.place ≠ store.caPath.place ∧
      store.certPath.place ≠ store.runtimeTargetStatePath.place) ∧
    (store.keyPath.place ≠ store.caPath.place ∧
      store.keyPath.place ≠ store.runtimeTargetStatePath.place) ∧
    store.caPath.place ≠ store.runtimeTargetStatePath.place := by
  simpa [identityPlaces,identityPaths] using hnodup

section Separate

variable (separate : Separate store)
include separate

theorem tmp_ne {p : Path} {q : Place} (hp : p ∈ identityPaths store)
    (hq : q ∈ identityPlaces store) : q ≠ p.tmpPath.place :=
  fun he => separate.2 p hp (he ▸ hq)

theorem safe_scratch {p : Path} (hp : p ∈ identityPaths store) {h t : Host}
    (hh : Safe ssl store h) (ht : Scratch p.tmpPath.place h t) : Safe ssl store t := by
  intro hr
  rw [ht.rekeyed] at hr
  exact sound_of_later (ht.files _ (tmp_ne separate hp (place_mem (by simp [identityPaths]))))
    (ht.files _ (tmp_ne separate hp (place_mem (by simp [identityPaths]))))
    (ht.files _ (tmp_ne separate hp (place_mem (by simp [identityPaths])))) ht.clock (hh hr)

theorem installed_other {path : Path} {q : Place} {content : Bytes} {h t : Host}
    (hpath : path ∈ identityPaths store) (hq : q ∈ identityPlaces store) (hne : q ≠ path.place)
    (ht : Installed store ssl path content h t) : t.files q = h.files q := by
  rw [ht.files q (tmp_ne separate hpath hq),Function.update_of_ne hne]

theorem installed_content {path : Path} {content : Bytes} {h t : Host}
    (hpath : path ∈ identityPaths store) (ht : Installed store ssl path content h t) :
    t.files.contentAt path = content := by
  have hfile : t.files path.place = some ⟨content,modeFor store path⟩ := by
    rw [ht.files path.place (tmp_ne separate hpath (place_mem hpath)),Function.update_self]
  exact Files.contentAt_some ht.named hfile

/-- A new key may be installed safely, or the installation is a rekeying. -/
theorem safe_new_key {content : Bytes} {h t : Host}
    (ht : Installed store ssl store.keyPath content h t) : Safe ssl store t := by
  intro hr
  obtain ⟨m,hm,hclock,hflag⟩ := ht.rekeyed
  have hnot : m.stands ssl store = false := by
    simp only [hflag,decide_true,Bool.true_and,Bool.or_eq_false_iff] at hr
    exact hr.2
  have hnodup := places_ne separate.1
  have hkey : store.keyPath ∈ identityPaths store := by simp [identityPaths]
  have hsame {q : Place} (hq : q ∈ identityPlaces store) (hne : q ≠ store.keyPath.place) :
      t.files q = m.files q := by
    rw [installed_other separate hkey hq hne ht,hm.files q (tmp_ne separate hkey hq)]
  intro hstands
  have hm' := stands_of_later (hsame (place_mem (by simp [identityPaths])) hnodup.1.1)
    (hsame (place_mem (by simp [identityPaths])) hnodup.2.1.1.symm) hclock hstands
  simp [hnot] at hm'

end Separate

section Reading

attribute [local irreducible] trim

variable {h t : Host}

theorem read_spec (p : Path) (text : String) (ht : Later h t) :
    (io (Prog.op (MachineOp.read p)) text).run.Always (handler ssl store) (Later h)
      (fun r _ => ∀ bytes, r = .ok bytes → h.files.contentAt p = bytes) t := by
  rw [always_io]
  refine always_op (o := .read p) ht fun c x u hc => ?_
  obtain ⟨hu,hread⟩ := read_cases hc
  refine ⟨ht.trans hu,ht.trans hu,?_⟩
  cases x with
  | error e => simp [Except.mapError]
  | ok bytes =>
    rintro _ hb
    cases hb
    rw [← ht.files]
    exact hread bytes rfl

theorem loadTarget_spec (ht : Later h t) :
    (loadRuntimeTargetAddr store).run.Always (handler ssl store) (Later h) (fun _ _ => True) t := by
  unfold loadRuntimeTargetAddr
  rw [ask_bind_run]
  refine ⟨ht,fun c x u hc => ?_⟩
  have hu := ht.trans (read_cases hc).1
  cases x with
  | error e =>
    dsimp only
    split <;> exact ⟨hu,trivial⟩
  | ok bytes =>
    dsimp only
    split
    · split <;> exact ⟨hu,trivial⟩
    · exact ⟨hu,trivial⟩

theorem loadIdentity_spec {reader : OpenSsl} (ht : Later h t) :
    (loadIdentity reader store).run.Always (handler ssl store) (Later h)
      (fun r _ => ∀ state, r = .ok state →
        state.clientCertPem = h.files.contentAt store.certPath ∧
        state.clientKeyPem = h.files.contentAt store.keyPath ∧
        state.caBundlePem = h.files.contentAt store.caPath) t := by
  unfold loadIdentity
  refine always_next (read_spec _ _ ht) (by simp) fun cert t ht hcert => ?_
  refine always_next (read_spec _ _ ht) (by simp) fun key t ht hkey => ?_
  refine always_next (read_spec _ _ ht) (by simp) fun ca t ht hca => ?_
  refine always_next (P := fun _ _ => True) ?_ (by simp) fun target t ht _ => ?_
  · rw [inspect_run,Prog.always_bind]
    exact (loadTarget_spec ht).mono (fun _ hu => hu) (fun _ _ hu _ => ⟨hu,fun _ _ => trivial⟩)
  · refine ⟨ht,?_⟩
    rintro state hs
    cases hs
    exact ⟨hcert.symm,hkey.symm,hca.symm⟩

theorem usable_spec (ht : Later h t) {state : AgentIdentityState}
    (hcert : state.clientCertPem = h.files.contentAt store.certPath)
    (hkey : state.clientKeyPem = h.files.contentAt store.keyPath)
    (hca : state.caBundlePem = h.files.contentAt store.caPath) :
    (usable ssl state).Always (handler ssl store) (Later h)
      (fun b _ => b = true → h.stands ssl store = true ∧ h.files.contentAt store.keyPath ≠ []) t := by
  unfold usable
  split
  · exact ⟨ht,by simp⟩
  · next hne =>
    simp only [not_or,hcert,hkey,hca] at hne
    obtain ⟨hcertne,hkeyne,hcane⟩ := hne
    cases hparse : ssl.certificate state.clientCertPem with
    | none => exact ⟨ht,by simp⟩
    | some cert =>
      refine ⟨ht,fun c x u hc => ?_⟩
      obtain ⟨hlater,hnow⟩ := asn1Now_cases hc
      have hu := ht.trans hlater
      cases x with
      | none => exact ⟨hu,by simp⟩
      | some now =>
        refine ⟨hu,fun hb => ⟨stands_iff.mpr ⟨cert,hcert ▸ hparse,hcertne,?_,hcane⟩,hkeyne⟩⟩
        have hlt : now < cert.notAfter := of_decide_eq_true hb
        rw [hnow now rfl] at hlt
        exact lt_of_le_of_lt hu.clock hlt

theorem hasUsable_spec (ht : Later h t) :
    (hasUsableClientCertificate ssl store).Always (handler ssl store) (Later h)
      (fun b _ => b = true → h.stands ssl store = true ∧ h.files.contentAt store.keyPath ≠ []) t := by
  unfold hasUsableClientCertificate
  rw [Prog.always_bind]
  refine (loadIdentity_spec ht).mono (fun _ hu => hu) ?_
  rintro (e | state) u hu hstate
  · exact ⟨hu,by simp⟩
  · obtain ⟨hcert,hkey,hca⟩ := hstate state rfl
    exact usable_spec hu hcert hkey hca

end Reading

section Enrolling

attribute [local irreducible] trim

variable (separate : Separate store) {h t : Host}
include separate

theorem newPrivateKey_spec (hh : Safe ssl store h) :
    (newPrivateKey store).run.Always (handler ssl store) (Safe ssl store)
      (fun r t => ∀ pem, r = .ok pem → t.files.contentAt store.keyPath = pem) h := by
  have hkey : store.keyPath ∈ identityPaths store := by simp [identityPaths]
  unfold newPrivateKey
  refine always_next (P := fun _ _ => True) ?_ (by simp) fun pem t ht _ => ?_
  · rw [always_orFail]
    refine always_op (o := .generateKey) hh fun c x t hc => ?_
    cases hc
    have ht := safe_later hh (later_pass h c.elapsed)
    exact ⟨ht,ht,fun _ _ => trivial⟩
  · refine always_next (P := fun _ u => u.files.contentAt store.keyPath = pem) ?_ (by simp) ?_
    · refine (writeFile_spec store.keyPath pem t).mono ?_ ?_
      · rintro u (hu | hu)
        · exact safe_scratch separate hkey ht hu
        · exact safe_new_key separate hu
      · rintro r u _ (⟨-,hu⟩ | ⟨⟨e,rfl⟩,-⟩) a hr
        · exact installed_content separate hkey hu
        · cases hr
    · intro _ u hu hcontent
      refine ⟨hu,?_⟩
      rintro _ hp
      cases hp
      exact hcontent

theorem ensurePrivateKey_spec (hh : Safe ssl store h) :
    (ensurePrivateKey store).run.Always (handler ssl store) (Safe ssl store)
      (fun r t => ∀ pem, r = .ok pem → t.files.contentAt store.keyPath = pem) h := by
  refine ⟨hh,fun c x t hc => ?_⟩
  obtain ⟨hlater,hread⟩ := read_cases hc
  have ht := safe_later hh hlater
  cases x with
  | error e => exact newPrivateKey_spec separate ht
  | ok existing =>
    show Prog.Always _ _ _ (ExceptT.run (if existing ≠ [] then _ else _)) _
    split
    · refine ⟨ht,?_⟩
      rintro _ hp
      cases hp
      rw [hlater.files]
      exact hread _ rfl
    · exact newPrivateKey_spec separate ht

theorem writeFile_paired {path : Path} (hpath : path ∈ identityPaths store)
    (hcert : path.place ≠ store.certPath.place) (hkey : path.place ≠ store.keyPath.place) (content : Bytes)
    (hh : Paired ssl store h) :
    (writeFile store path content).run.Always (handler ssl store) (Paired ssl store)
      (fun _ _ => True) h := by
  refine (writeFile_spec path content h).mono ?_ (fun _ _ _ _ => trivial)
  rintro t (ht | ht)
  · exact paired_of_files (ht.files _ (tmp_ne separate hpath (place_mem (by simp [identityPaths]))))
      (ht.files _ (tmp_ne separate hpath (place_mem (by simp [identityPaths])))) hh
  · exact paired_of_files
      (installed_other separate hpath (place_mem (by simp [identityPaths])) hcert.symm ht)
      (installed_other separate hpath (place_mem (by simp [identityPaths])) hkey.symm ht) hh

/-- A certificate for the stored key makes the store paired before its CA bundle and
target follow. -/
theorem saveIdentity_safe {cert ca : Bytes} {target : String} (hh : Safe ssl store h)
    (issued : ∀ c, ssl.certificate cert = some c →
      ssl.publicKey (h.files.contentAt store.keyPath) = some c.publicKey) :
    (saveIdentity store cert ca target).run.Always (handler ssl store) (Safe ssl store)
      (fun _ _ => True) h := by
  obtain ⟨⟨hck,hcc,hct⟩,⟨hkc,hkt⟩,hcat⟩ := places_ne separate.1
  have hcertmem : store.certPath ∈ identityPaths store := by simp [identityPaths]
  have hpaired {t : Host} (ht : Installed store ssl store.certPath cert h t) :
      Paired ssl store t := by
    intro c hc
    rw [installed_content separate hcertmem ht] at hc
    rw [Files.contentAt_congr (installed_other separate hcertmem
      (place_mem (by simp [identityPaths])) hck.symm ht)]
    exact issued c hc
  unfold saveIdentity
  refine always_next (P := fun _ t => Paired ssl store t) ?_ (by simp) fun _ t _ ht => ?_
  · refine (writeFile_spec store.certPath cert h).mono ?_ ?_
    · rintro t (ht | ht)
      · exact safe_scratch separate hcertmem hh ht
      · exact safe_of_paired (hpaired ht)
    · rintro r t _ (⟨-,ht⟩ | ⟨⟨e,rfl⟩,-⟩) a hr
      · exact hpaired ht
      · cases hr
  · have hrest : (do
        writeFile store store.caPath ca
        saveRuntimeTargetAddr store target : Machine Unit).run.Always (handler ssl store)
        (Paired ssl store) (fun _ _ => True) t := by
      refine always_next (P := fun _ _ => True) ?_ (by simp) fun _ u hu _ => ?_
      · exact (writeFile_paired separate (by simp [identityPaths]) hcc.symm hkc.symm ca
          ht).mono (fun _ hu => hu) (fun _ _ _ _ _ _ => trivial)
      · unfold saveRuntimeTargetAddr
        split
        · exact ⟨hu,trivial⟩
        · exact writeFile_paired separate (by simp [identityPaths]) hct.symm hkt.symm _ hu
    exact hrest.mono (fun _ hu => safe_of_paired hu) (fun _ _ _ _ => trivial)

omit separate in
theorem buildBootstrapChannel_spec (config : AppConfig) (ht : Later h t) :
    (buildBootstrapChannel config).run.Always (handler ssl store) (Later h) (fun _ _ => True) t := by
  have hconnect (uri : String) (timeout : Duration) (tls : Option ClientTlsConfig) {t : Host}
      (ht : Later h t) : (orFail (Prog.op (MachineOp.connect uri timeout tls))
        TransportError.toError).run.Always (handler ssl store) (Later h) (fun _ _ => True) t := by
    rw [always_orFail]
    refine always_op (o := .connect ..) ht fun c x u hc => ?_
    cases hc
    exact ⟨ht.trans (later_pass t c.elapsed),ht.trans (later_pass t c.elapsed),trivial⟩
  unfold buildBootstrapChannel
  refine always_next (P := fun _ _ => True) ?_ (by simp) fun target t ht _ => ?_
  · exact ⟨ht,fun _ _ => trivial⟩
  refine always_next (P := fun _ _ => True) ?_ (by simp) fun _ t ht _ => ?_
  · rw [always_orFail]
    refine always_op (o := .endpoint target) ht fun c x u hc => ?_
    cases hc
    exact ⟨ht.trans (later_pass t c.elapsed),ht.trans (later_pass t c.elapsed),fun _ _ => trivial⟩
  split
  · exact hconnect _ _ _ ht
  · refine always_next (P := fun _ _ => True) ?_ (by simp) fun _ t ht _ => hconnect _ _ _ ht
    exact (read_spec _ _ ht).mono (fun _ hu => hu) (fun _ _ _ _ _ _ => trivial)

theorem acceptEnrollment_safe {response : BootstrapEnrollAgentResponse} (hh : Safe ssl store h)
    (issued : ∀ c, ssl.certificate (asBytes response.clientCertPem) = some c →
      ssl.publicKey (h.files.contentAt store.keyPath) = some c.publicKey) :
    (acceptEnrollment ssl store response).run.Always (handler ssl store) (Safe ssl store)
      (fun _ _ => True) h := by
  have hload {t : Host} (ht : Safe ssl store t) :
      (loadIdentity ssl store).run.Always (handler ssl store) (Safe ssl store)
        (fun _ _ => True) t :=
    (loadIdentity_spec (Later.refl t)).mono (fun _ hu => safe_later ht hu) (fun _ _ _ _ => trivial)
  unfold acceptEnrollment
  split
  · exact ⟨hh,trivial⟩
  split
  · exact ⟨hh,trivial⟩
  refine always_next (P := fun _ _ => True) ?_ (by simp) fun _ t ht _ => ?_
  · exact always_context ((saveIdentity_safe separate hh issued).mono (fun _ hu => hu)
      (fun _ _ hu _ => ⟨hu,fun _ _ => trivial⟩))
  · exact always_context ((hload ht).mono (fun _ hu => hu) (fun _ _ hu _ => ⟨hu,trivial⟩))

theorem bootstrapEnroll_safe (config : AppConfig) (facts : HostFacts) (hh : Safe ssl store h) :
    (bootstrapEnroll ssl store config facts).run.Always (handler ssl store) (Safe ssl store)
      (fun _ _ => True) h := by
  unfold bootstrapEnroll
  split
  · exact ⟨hh,trivial⟩
  refine always_next (ensurePrivateKey_spec separate hh) (by simp) fun key t ht hkey => ?_
  refine always_next (P := fun csr u => u.files.contentAt store.keyPath = key ∧
    ssl.csrPublicKey csr = ssl.publicKey key) ?_ (by simp) fun csr u hu hcsr => ?_
  · rw [generateCsr]
    refine always_context ?_
    rw [always_orFail]
    refine always_op (o := .generateCsr ..) ht fun c x u hc => ?_
    obtain ⟨hlater,hpub⟩ := generateCsr_cases hc
    have hu := safe_later ht hlater
    refine ⟨hu,hu,hu,?_⟩
    rintro text hx
    cases x with
    | error e => simp [Except.mapError] at hx
    | ok text' =>
      cases hx
      exact ⟨by rw [hlater.files,hkey],hpub text rfl⟩
  refine always_next (P := fun _ v => Later u v) ?_ (by simp) fun _ v hv hlater => ?_
  · exact (buildBootstrapChannel_spec config (Later.refl u)).mono (fun _ hv => safe_later hu hv)
      (fun _ _ hv _ _ _ => hv)
  refine always_next (P := fun response w => ∀ c,
    ssl.certificate (asBytes response.clientCertPem) = some c →
      ssl.publicKey (w.files.contentAt store.keyPath) = some c.publicKey) ?_ (by simp)
    fun response w hw issued => acceptEnrollment_safe separate hw issued
  rw [always_orFail]
  refine always_op (o := .bootstrapEnrollAgent ..) hv fun c x w hc => ?_
  obtain ⟨hlater',hissued⟩ := enroll_cases hc
  have hw := safe_later hv hlater'
  refine ⟨hw,hw,?_⟩
  rintro response hx cert hcert
  cases x with
  | error s => simp [Except.mapError] at hx
  | ok response' =>
    cases hx
    rw [hlater'.files,hlater.files,hcsr.1,← hcsr.2]
    exact hissued response rfl cert hcert

theorem ensureIdentity_safe (config : AppConfig) (facts : HostFacts) (hh : Safe ssl store h) :
    (ensureIdentity ssl store config facts).run.Always (handler ssl store) (Safe ssl store)
      (fun _ _ => True) h := by
  unfold ensureIdentity
  refine always_next (P := fun _ _ => True) ?_ (by simp) fun b t ht _ => ?_
  · show Prog.Always _ _ _ (_ >>= _) _
    rw [Prog.always_bind]
    exact (hasUsable_spec (Later.refl h)).mono (fun _ hu => safe_later hh hu)
      (fun _ _ hu _ => ⟨safe_later hh hu,fun _ _ => trivial⟩)
  · split
    · exact (loadIdentity_spec (Later.refl t)).mono (fun _ hu => safe_later ht hu)
        (fun _ _ _ _ => trivial)
    · exact bootstrapEnroll_safe separate config facts ht

omit separate in
theorem safe_emptied {p : Place} (hother : ∀ q, q ≠ p → t.files q = h.files q)
    (hempty : ∀ f, t.files p = some f → f.content = []) (hclock : t.clock = h.clock)
    (hrekeyed : t.rekeyed = h.rekeyed) (hh : Safe ssl store h) : Safe ssl store t := by
  intro hr hstands hne
  obtain ⟨cert,-,hcertne,-,hcane⟩ := stands_iff.mp hstands
  have hnot {q : Path} (hq : t.files.contentAt q ≠ []) : q.place ≠ p := by
    rintro rfl
    obtain ⟨-,f,hf,hcontent⟩ := Files.contentAt_ne_nil hq
    exact hq (hcontent ▸ hempty f hf)
  exact sound_of_later (hother _ (hnot hcertne)) (hother _ (hnot hne)) (hother _ (hnot hcane))
    hclock.ge (hh (hrekeyed ▸ hr)) hstands hne

theorem safe_step (e : Event) (hh : Safe ssl store h) : Safe ssl store (step ssl store h e) := by
  cases e with
  | ensureIdentity config facts choices =>
    exact ((ensureIdentity_safe separate config facts hh).run choices).1
  | remove p =>
    exact safe_emptied (p := p) (h := h) (fun q hq => by simp [step,hq]) (by simp [step]) rfl rfl hh
  | clear p =>
    refine safe_emptied (p := p) (h := h) (fun q hq => by simp [step,hq]) ?_ rfl rfl hh
    rintro f hf
    simp only [step,Function.update_self,Option.map_eq_some_iff] at hf
    obtain ⟨g,-,rfl⟩ := hf
    rfl
  | wait elapsed => exact safe_later hh (later_pass h elapsed)

end Enrolling

/-- The certificate file, if present, was issued for the key file, if present. -/
def Issued (ssl : OpenSsl) (store : IdentityStore) (files : Files) : Prop :=
  ∀ certFile keyFile, files store.certPath.place = some certFile → files store.keyPath.place = some keyFile →
    ∀ cert, ssl.certificate certFile.content = some cert →
      ssl.publicKey keyFile.content = some cert.publicKey

theorem safe_of_issued {h : Host} (hh : Issued ssl store h.files) : Safe ssl store h := by
  intro _ hstands hne
  obtain ⟨cert,hparse,hcertne,-,-⟩ := stands_iff.mp hstands
  obtain ⟨-,certFile,hcert,hcertContent⟩ := Files.contentAt_ne_nil hcertne
  obtain ⟨-,keyFile,hkey,hkeyContent⟩ := Files.contentAt_ne_nil hne
  refine ⟨cert,hparse,?_⟩
  rw [← hkeyContent]
  exact hh certFile keyFile hcert hkey cert (hcertContent ▸ hparse)

/-- In every run in which no key is installed beside a standing certificate, a certificate
that `has_usable_client_certificate` accepts belongs to the stored key. -/
theorem usable_keys_match (ssl : OpenSsl) (store : IdentityStore) (separate : Separate store)
    (h : Host) (issued : Issued ssl store h.files) (events : List Event)
    (kept : (after ssl store h events).rekeyed = false) (choices : List HostChoice)
    (accepted : ((hasUsableClientCertificate ssl store).run (handler ssl store) choices
      (after ssl store h events)).1 = some true) :
    KeysMatch ssl store (after ssl store h events).files := by
  have hsafe : Safe ssl store (after ssl store h events) :=
    after_invariant ssl store (fun _ e hh => safe_step separate e hh) (safe_of_issued issued) events
  obtain ⟨hstands,hne⟩ := ((hasUsable_spec (Later.refl (after ssl store h events))).run
    choices).2 true accepted rfl
  exact hsafe kept hstands hne

instance (ssl : OpenSsl) (store : IdentityStore) (files : Files) :
    Decidable (KeysMatch ssl store files) :=
  decidable_of_iff ((ssl.certificate (files.contentAt store.certPath)).any fun cert =>
      ssl.publicKey (files.contentAt store.keyPath) = some cert.publicKey) (by
    simp [KeysMatch,Option.any_eq_true])

end Runs

section Samples

attribute [local instance] Directories.plain

/-- Two keys, a certificate for each until time 100, a signing request for each. -/
def sampleSsl : OpenSsl where
  certificate pem :=
    if pem = asBytes "certificate 1" then some ⟨100,"Jan  1 00:01:40 1970 GMT",[1]⟩
    else if pem = asBytes "certificate 2" then some ⟨100,"Jan  1 00:01:40 1970 GMT",[2]⟩
    else none
  publicKey pem :=
    if pem = asBytes "key 1" then some [1] else if pem = asBytes "key 2" then some [2] else none
  csrPublicKey pem := if pem = "request 1" then some [1] else if pem = "request 2" then some [2] else none

def tlsFacts : HostFacts where
  agentId := "agent-1"
  hostId := "node-1"

def emptyHost : Host := ⟨fun _ => none,0o022,0,false⟩

def enrolling : HostChoice where
  key := .ok (asBytes "key 1")
  csr := .ok "request 1"
  enrolled := .ok ⟨"agent-1","certificate 1","ca","dp-1:443"⟩

def failing : HostChoice where
  key := .ok (asBytes "key 2")
  csr := .ok "request 2"

def enrollment : Event := .ensureIdentity AppConfig.defaults tlsFacts (List.replicate 31 enrolling)

theorem enrolled_keys_match :
    KeysMatch sampleSsl IdentityStore.defaults (after sampleSsl IdentityStore.defaults emptyHost [enrollment]).files :=
  usable_keys_match sampleSsl IdentityStore.defaults (by decide) emptyHost (by simp [Issued,emptyHost]) [enrollment]
    (by decide) (List.replicate 5 {}) (by decide)

/-- The key file of an enrolled agent is lost, its next `ensure_identity` generates a key
and finds the controlplane unavailable: the old certificate is accepted beside the new key. -/
theorem lost_key_mismatch :
    ((hasUsableClientCertificate sampleSsl IdentityStore.defaults).run (handler sampleSsl IdentityStore.defaults)
      (List.replicate 5 {}) (after sampleSsl IdentityStore.defaults emptyHost [enrollment,.remove IdentityStore.defaults.keyPath.place,
        .ensureIdentity AppConfig.defaults tlsFacts (List.replicate 31 failing)])).1 = some true ∧
    ¬KeysMatch sampleSsl IdentityStore.defaults (after sampleSsl IdentityStore.defaults emptyHost [enrollment,
      .remove IdentityStore.defaults.keyPath.place,
      .ensureIdentity AppConfig.defaults tlsFacts (List.replicate 31 failing)]).files := by
  decide

end Samples
end IdentityKeys
end KvmAgent
