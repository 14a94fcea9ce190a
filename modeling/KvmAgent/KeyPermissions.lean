import Mathlib.Data.Nat.Bitwise
import KvmAgent.IdentitySaves

/-! The permissions of the files that hold the private key, at every point at which calls of
`ensure_private_key` may stop. -/
namespace KvmAgent
namespace KeyPermissions

open RustText Fallible Machine IdentityStore Host IdentityCalls

/-- No permission for the group or others. -/
def Hidden (mode : ℕ) : Prop := mode &&& 0o077 = 0

instance (mode : ℕ) : Decidable (Hidden mode) := inferInstanceAs (Decidable (_ = _))

section Definitions

variable [Directories] (ssl : OpenSsl) (store : IdentityStore)

/-- The key file and its temporary file are hidden wherever they hold any bytes. -/
def Private (h : Host) : Prop :=
  ∀ p, p = store.keyPath.place ∨ p = store.keyPath.tmpPath.place →
    ∀ f, h.files p = some f → f.content ≠ [] → Hidden f.mode

def after (h : Host) (calls : List (List HostChoice)) : Host :=
  calls.foldl (fun h choices =>
    ((ensurePrivateKey store).run.run (handler ssl store) choices h).2) h

/-- At no point of any calls can the group or others read the key. -/
def NeverReadable (h : Host) : Prop := ∀ calls, Private store (after ssl store h calls)

/-- What is there already is hidden, and new files are created hidden; where the key path leads
to no file, a temporary file that is there is never replaced. Where the temporary path leads to
no file either, no key is written. -/
structure Masked (h : Host) : Prop where
  existing : Private store h
  leftover : store.keyPath.tmpPath.place.Named →
    ∀ f, h.files store.keyPath.tmpPath.place = some f → Hidden f.mode
  created : store.keyPath.tmpPath.place.Named → h.umask &&& 0o066 = 0o066 ∨
    (h.files store.keyPath.tmpPath.place ≠ none ∧ ¬store.keyPath.place.Named)

def KeyOps : MachineOp → Prop
  | .createDirAll _ | .generateKey => True
  | .read p => p = store.keyPath
  | .create p | .write p _ => p = store.keyPath.tmpPath
  | .setPermissions p mode => p = store.keyPath.tmpPath ∧ mode = 0o600
  | .rename p q => p = store.keyPath.tmpPath ∧ q = store.keyPath
  | _ => False

end Definitions

section Modes

theorem and_low (m umask : ℕ) (hm : 511 &&& m = m) : m &&& umask = m &&& (umask % 512) := by
  have hlow : umask &&& 511 = umask % 512 := Nat.and_two_pow_sub_one_eq_mod umask 9
  calc m &&& umask = (511 &&& m) &&& umask := by rw [hm]
    _ = m &&& (umask &&& 511) := by rw [Nat.and_comm 511 m,Nat.and_assoc,Nat.and_comm 511 umask]
    _ = m &&& (umask % 512) := by rw [hlow]

/-- A new file is hidden if the umask takes both permissions to read and write away. -/
theorem hidden_created_iff (umask : ℕ) :
    Hidden (0o666 - (0o666 &&& umask)) ↔ umask &&& 0o066 = 0o066 := by
  have hbits : ∀ low < 512, Hidden (0o666 - (0o666 &&& low)) ↔ 0o066 &&& low = 0o066 := by
    decide +kernel
  rw [and_low 0o666 umask (by decide),Nat.and_comm umask,and_low 0o066 umask (by decide)]
  exact hbits _ (Nat.mod_lt umask (by decide))

end Modes

section Operations

variable [Directories] {ssl : OpenSsl} {store : IdentityStore} {h t : Host}

omit [Directories] in
theorem ensurePrivateKey_keyOps (store : IdentityStore) :
    (ensurePrivateKey store).run.Uses (KeyOps store) :=
  ensurePrivateKey_uses rfl trivial
    ⟨fun _ => trivial,rfl,fun _ => rfl,⟨rfl,if_pos ⟨rfl,rfl⟩⟩,rfl,rfl⟩

theorem masked_of_files (hh : Masked store h) (hfiles : t.files = h.files)
    (humask : t.umask = h.umask) : Masked store t := by
  obtain ⟨hexisting,hleftover,hcreated⟩ := hh
  rw [Private,← hfiles] at hexisting
  rw [← hfiles] at hleftover hcreated
  rw [← humask] at hcreated
  exact ⟨hexisting,hleftover,hcreated⟩

/-- Where nothing has changed but the temporary file, which is hidden, the machine is still
masked. -/
theorem masked_tmp (hh : Masked store h) {f : File} (hmode : Hidden f.mode)
    (hfiles : t.files = Function.update h.files store.keyPath.tmpPath.place (some f))
    (humask : t.umask = h.umask) : Masked store t := by
  have htmp : t.files store.keyPath.tmpPath.place = some f := by
    rw [hfiles,Function.update_self]
  have hkey : t.files store.keyPath.place = h.files store.keyPath.place := by
    rw [hfiles,Function.update_of_ne (Path.place_tmpPath_ne _)]
  refine ⟨?_,?_,?_⟩
  · rintro p (rfl | rfl) g hg hne
    · rw [hkey] at hg
      exact hh.existing _ (.inl rfl) g hg hne
    · rw [htmp] at hg
      cases hg
      exact hmode
  · intro _ g hg
    rw [htmp] at hg
    cases hg
    exact hmode
  · rw [humask,htmp]
    exact fun hnamed => (hh.created hnamed).imp_right fun h => ⟨by simp,h.2⟩

theorem masked_renamed (hh : Masked store h) (hname : store.keyPath.place.Named)
    (htmpName : store.keyPath.tmpPath.place.Named)
    (hfiles : t.files = h.files.rename store.keyPath.tmpPath.place store.keyPath.place)
    (humask : t.umask = h.umask) : Masked store t := by
  have htmp : t.files store.keyPath.tmpPath.place = none := by
    rw [hfiles,Files.rename,Function.update_of_ne (Path.place_tmpPath_ne _).symm,
      Function.update_self]
  have hkey : t.files store.keyPath.place = h.files store.keyPath.tmpPath.place := by
    rw [hfiles,Files.rename,Function.update_self]
  refine ⟨?_,?_,?_⟩
  · rintro p (rfl | rfl) f hf _
    · rw [hkey] at hf
      exact hh.leftover htmpName f hf
    · rw [htmp] at hf
      cases hf
  · intro _ f hf
    rw [htmp] at hf
    cases hf
  · rw [humask]
    exact fun hnamed => (hh.created hnamed).imp_right fun h => absurd hname h.2

theorem masked_step {o : MachineOp} {c : HostChoice} {x : MachineAns o} (ho : KeyOps store o)
    (hc : handler ssl store o c h = some (x,t)) (hh : Masked store h) : Masked store t := by
  cases o with
  | createDirAll p =>
    have hlater := createDirAll_later hc
    exact masked_of_files hh hlater.files hlater.umask
  | generateKey =>
    cases hc
    exact masked_of_files hh rfl rfl
  | read p =>
    have hlater := (read_cases hc).1
    exact masked_of_files hh hlater.files hlater.umask
  | create p =>
    obtain rfl : p = store.keyPath.tmpPath := ho
    rcases fileOp_cases hc with ⟨e,-,rfl⟩ | ⟨a,-,hr⟩
    · exact masked_of_files hh rfl rfl
    · unfold asFile at hr
      split at hr
      · next hnamed =>
        cases hr
        refine masked_tmp hh ?_ rfl rfl
        cases hleftover : h.files store.keyPath.tmpPath.place with
        | some f => simpa [Host.pass,hleftover] using hh.leftover hnamed f hleftover
        | none =>
          have humask := (hh.created hnamed).resolve_right fun hnone => hnone.1 hleftover
          simpa [Host.pass,hleftover] using (hidden_created_iff h.umask).mpr humask
      · cases hr
  | write p bytes =>
    obtain rfl : p = store.keyPath.tmpPath := ho
    rcases fileOp_cases hc with ⟨e,-,rfl⟩ | ⟨a,-,hr⟩
    · exact masked_of_files hh rfl rfl
    · obtain ⟨f,hnamed,hf,hr⟩ := ok_of_fileAt hr
      cases hr
      have hf' : h.files store.keyPath.tmpPath.place = some f := hf
      exact masked_tmp hh (f := { f with content := f.content ++ _ }) (hh.leftover hnamed f hf')
        (by rw [Files.append,hf]; rfl) rfl
  | setPermissions p mode =>
    obtain ⟨rfl,rfl⟩ := ho
    rcases fileOp_cases hc with ⟨e,-,rfl⟩ | ⟨a,-,hr⟩
    · exact masked_of_files hh rfl rfl
    · obtain ⟨f,-,hf,hr⟩ := ok_of_fileAt hr
      cases hr
      exact masked_tmp hh (f := { f with mode := 0o600 }) (show Hidden 0o600 by decide)
        (by rw [Files.setMode,hf]; rfl) rfl
  | rename p q =>
    obtain ⟨rfl,rfl⟩ := ho
    rcases fileOp_cases hc with ⟨e,-,rfl⟩ | ⟨a,-,hr⟩
    · exact masked_of_files hh rfl rfl
    · obtain ⟨f,htmpName,-,hr⟩ := ok_of_fileAt hr
      unfold asFile at hr
      split at hr
      · next hname =>
        cases hr
        exact masked_renamed hh hname htmpName rfl rfl
      · cases hr
  | _ => exact ho.elim

theorem masked_after (ssl : OpenSsl) (hh : Masked store h) (calls : List (List HostChoice)) :
    Masked store (after ssl store h calls) := by
  induction calls generalizing h with
  | nil => exact hh
  | cons choices calls ih =>
    have hkeeps := (ensurePrivateKey_keyOps store).keeps (h := handler ssl store) (I := Masked store)
      fun o c s x t ho hc hs => masked_step ho hc hs
    exact ih ((hkeeps h hh).run choices).1

end Operations

section Runs

variable [Directories] {ssl : OpenSsl} {store : IdentityStore} {h : Host} {p q : Path}

theorem create_ok (hp : p.place.Named) (h : Host) :
    handler ssl store (.create p) {} h =
      some (.ok (),{ h.pass 0 with files := h.files.create h.umask p.place }) := by
  simp [handler,perform,fileOp,asFile,hp,Except.map,Host.pass]

theorem write_ok (hp : p.place.Named) (hf : h.files p.place ≠ none) (b : UInt8) :
    handler ssl store (.write p [b]) {} h =
      some (.ok 1,{ h.pass 0 with files := h.files.append p.place [b] }) := by
  obtain ⟨f,hf⟩ := exists_fileAt hp hf
  simp [handler,perform,fileOp,Host.pass,hf,Bind.bind,Except.bind]

theorem setPermissions_ok (hp : p.place.Named) (hf : h.files p.place ≠ none) (mode : ℕ) :
    handler ssl store (.setPermissions p mode) {} h =
      some (.ok (),{ h.pass 0 with files := h.files.setMode p.place mode }) := by
  obtain ⟨f,hf⟩ := exists_fileAt hp hf
  simp [handler,perform,fileOp,Host.pass,hf,Bind.bind,Except.bind]

theorem always_rename {I : Host → Prop} {R : Except IoError Unit → Host → Prop}
    (hp : p.place.Named) (hf : h.files p.place ≠ none) (hq : q.place.Named)
    (hop : (Prog.op (MachineOp.rename p q)).Always (handler ssl store) I R h) :
    ∃ t r, t.umask = h.umask ∧ t.files = h.files.rename p.place q.place ∧ R r t := by
  have hrename : ∃ rekeyed, handler ssl store (.rename p q) {} h =
      some (.ok (),{ h.pass 0 with files := h.files.rename p.place q.place, rekeyed := rekeyed }) := by
    obtain ⟨f,hf⟩ := exists_fileAt hp hf
    simp [handler,perform,fileOp,asFile,Host.pass,hf,hq,Bind.bind,Except.bind,Except.map]
  obtain ⟨rekeyed,hrename⟩ := hrename
  obtain ⟨-,hR⟩ := hop.2 {} _ _ hrename
  refine ⟨_,_,?_,?_,hR⟩ <;> rfl

/-- A call that writes one byte comes to where the byte is in the temporary file, and from
there to its end. -/
theorem writeFile_reaches {I : Host → Prop} {Q : Except AnyhowError Unit → Host → Prop} {b : UInt8}
    (htmp : p.tmpPath.place.Named)
    (hw : (writeFile store p [b]).run.Always (handler ssl store) I Q h) :
    (∃ t, t.files = (h.files.create h.umask p.tmpPath.place).append p.tmpPath.place [b] ∧ I t) ∧
      (p.place.Named → ∃ t r, t.umask = h.umask ∧ t.files p.tmpPath.place = none ∧ Q r t) := by
  have hrest (h : Host) (hw : (do
      io (fsWrite p.tmpPath [b]) ("write identity file " ++ p.tmpPath.display)
      io (Prog.op (MachineOp.setPermissions p.tmpPath (modeFor store p)))
        ("set identity file permissions " ++ p.tmpPath.display)
      io (Prog.op (MachineOp.rename p.tmpPath p))
        ("replace identity file " ++ p.display) : Machine Unit).run.Always (handler ssl store) I Q h) :
      (∃ t, t.files = (h.files.create h.umask p.tmpPath.place).append p.tmpPath.place [b] ∧ I t) ∧
        (p.place.Named → ∃ t r, t.umask = h.umask ∧ t.files p.tmpPath.place = none ∧ Q r t) := by
    rw [always_bind,always_io] at hw
    have hwrite := hw.2 {} _ _ (create_ok htmp h)
    change Prog.Always _ _ _ (writeAll p.tmpPath 1 [b]) _ at hwrite
    rw [writeAll_step _ _ (List.cons_ne_nil b [])] at hwrite
    have hthere : (h.files.create h.umask p.tmpPath.place) p.tmpPath.place ≠ none := by simp [Files.create]
    obtain ⟨hI,-,hnext⟩ := hwrite.2 {} _ _ (write_ok htmp (by exact hthere) b)
    refine ⟨⟨_,rfl,hI⟩,fun hp => ?_⟩
    change Prog.Always _ _ _ _ _ at hnext
    rw [always_bind,always_io] at hnext
    have hthere' : ((h.files.create h.umask p.tmpPath.place).append p.tmpPath.place [b]) p.tmpPath.place ≠ none := by
      simp [Files.create,Files.append]
    obtain ⟨-,-,hlast⟩ := hnext.2 {} _ _ (setPermissions_ok htmp (by exact hthere') _)
    change Prog.Always _ _ _ _ _ at hlast
    rw [always_io] at hlast
    have hthere'' : (((h.files.create h.umask p.tmpPath.place).append p.tmpPath.place [b]).setMode p.tmpPath.place
        (modeFor store p)) p.tmpPath.place ≠ none := by
      simp [Files.create,Files.append,Files.setMode]
    obtain ⟨t,r,humask,hfiles,-,hQ⟩ := always_rename htmp (by exact hthere'') hp hlast
    refine ⟨t,_,humask,?_,hQ⟩
    rw [hfiles]
    simp [Files.rename,(Path.place_tmpPath_ne p).symm]
  unfold writeFile at hw
  cases hparent : p.parent with
  | none =>
    rw [hparent] at hw
    exact hrest h hw
  | some parent =>
    rw [hparent] at hw
    dsimp only at hw
    rw [always_bind,always_io] at hw
    obtain ⟨-,hw⟩ := hw.2 {} (.ok ()) (h.pass 0) rfl
    exact hrest (h.pass 0) hw.2

/-- Where no key can be read, a call with a key of one byte writes it. -/
theorem ensurePrivateKey_reaches {I : Host → Prop} {Q : Except AnyhowError Bytes → Host → Prop}
    (htmp : store.keyPath.tmpPath.place.Named)
    (hw : (ensurePrivateKey store).run.Always (handler ssl store) I Q h) :
    (∃ t, t.files = (h.files.create h.umask store.keyPath.tmpPath.place).append
      store.keyPath.tmpPath.place [1] ∧ I t) ∧ (store.keyPath.place.Named →
        ∃ t r, t.umask = h.umask ∧ t.files store.keyPath.tmpPath.place = none ∧ Q r t) := by
  have hread := hw.2 { fault := some noSuchFile } (.error noSuchFile) (h.pass 0) rfl
  change (newPrivateKey store).run.Always _ _ _ _ at hread
  unfold newPrivateKey at hread
  rw [always_bind,always_orFail] at hread
  obtain ⟨-,-,hkey⟩ := hread.2 { key := .ok [1] } (.ok [1]) ((h.pass 0).pass 0) rfl
  change Prog.Always _ _ _ _ _ at hkey
  rw [always_bind] at hkey
  obtain ⟨hwritten,hdone⟩ := writeFile_reaches htmp hkey
  refine ⟨hwritten,fun hname => ?_⟩
  obtain ⟨t,r,humask,hnone,hQ⟩ := hdone hname
  cases r with
  | error e => exact ⟨t,_,humask,hnone,hQ.2⟩
  | ok _ => exact ⟨t,_,humask,hnone,hQ.2⟩

theorem always_private (hh : NeverReadable ssl store h) :
    (ensurePrivateKey store).run.Always (handler ssl store) (Private store)
      (fun _ t => NeverReadable ssl store t) h :=
  Prog.always_of_run fun choices => ⟨hh [choices],fun _ _ calls => hh (choices::calls)⟩

/-- The temporary file with a byte in it has the mode it was created with. -/
theorem hidden_of_never (hname : store.keyPath.tmpPath.place.Named)
    (hh : NeverReadable ssl store h) :
    Hidden (((h.files store.keyPath.tmpPath.place).map File.mode).getD
      (0o666 - (0o666 &&& h.umask))) := by
  obtain ⟨⟨t,hfiles,hprivate⟩,-⟩ := ensurePrivateKey_reaches hname (always_private hh)
  have htmp : t.files store.keyPath.tmpPath.place = some ⟨[1],
      ((h.files store.keyPath.tmpPath.place).map File.mode).getD (0o666 - (0o666 &&& h.umask))⟩ := by
    simp [hfiles,Files.create,Files.append]
  exact hprivate _ (.inr rfl) _ htmp (by simp)

end Runs

/-- Whatever keys are generated, and wherever calls stop and are made again, the group and
others never have any permission for the key exactly when the machine is masked. -/
theorem neverReadable_iff [Directories] (ssl : OpenSsl) (store : IdentityStore) (h : Host) :
    NeverReadable ssl store h ↔ Masked store h := by
  have humasked (hname : store.keyPath.tmpPath.place.Named) (h : Host)
      (hh : NeverReadable ssl store h) (hnone : h.files store.keyPath.tmpPath.place = none) :
      h.umask &&& 0o066 = 0o066 := by
    have hhidden := hidden_of_never hname hh
    rw [hnone] at hhidden
    exact (hidden_created_iff h.umask).mp hhidden
  refine ⟨fun hh => ⟨hh [],fun hname f hf => ?_,fun hname => ?_⟩,
    fun hh calls => (masked_after ssl hh calls).existing⟩
  · have hhidden := hidden_of_never hname hh
    rw [hf] at hhidden
    exact hhidden
  · by_cases hnone : h.files store.keyPath.tmpPath.place = none
    · exact .inl (humasked hname h hh hnone)
    · by_cases hkey : store.keyPath.place.Named
      · -- a first call takes the temporary file away, and a second one creates it anew
        obtain ⟨-,hdone⟩ := ensurePrivateKey_reaches hname (always_private hh)
        obtain ⟨t,_,humask,hgone,ht⟩ := hdone hkey
        rw [← humask]
        exact .inl (humasked hname t ht hgone)
      · exact .inr ⟨hnone,hkey⟩

section Samples

attribute [local instance] Directories.plain

def freshHost : Host := ⟨fun _ => none,0o022,0,false⟩

/-- A key of three bytes is generated, and its call stops when they are written. -/
def writtenKey : List HostChoice :=
  [{ fault := some noSuchFile },{ key := .ok [107,101,121] },{},{},{}]

theorem writtenKey_readable :
    (after IdentitySaves.blindSsl IdentityStore.defaults freshHost [writtenKey]).files
      IdentityStore.defaults.keyPath.tmpPath.place = some ⟨[107,101,121],0o644⟩ ∧
    ¬∀ (ssl : OpenSsl) (store : IdentityStore) (h : Host), h.files = (fun _ => none) →
      NeverReadable ssl store h := by
  have hfile : (after IdentitySaves.blindSsl IdentityStore.defaults freshHost [writtenKey]).files
      IdentityStore.defaults.keyPath.tmpPath.place = some ⟨[107,101,121],0o644⟩ := by decide
  refine ⟨hfile,fun h => ?_⟩
  have hprivate := h IdentitySaves.blindSsl IdentityStore.defaults freshHost rfl [writtenKey]
  exact absurd (hprivate _ (.inr rfl) _ hfile (by simp)) (by decide)

end Samples
end KeyPermissions
end KvmAgent
