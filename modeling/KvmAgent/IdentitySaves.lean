import KvmAgent.IdentityCalls

/-! What a `save_identity` that fails or dies anywhere leaves for `load_identity` to find. -/
namespace KvmAgent
namespace IdentitySaves

open RustText Fallible Machine IdentityStore Bootstrap Host IdentityCalls

section Runs

variable [Directories] {ssl : OpenSsl} {store : IdentityStore}

/-- The paths of the files `save_identity` replaces, in its order. -/
def savedPaths (store : IdentityStore) : List Path :=
  [store.certPath,store.caPath,store.runtimeTargetStatePath]

/-- The files of `t` are `files` but for the temporary ones. -/
def Agree (temps : List Place) (files : Files) (t : Host) : Prop :=
  ∀ q, q ∉ temps → t.files q = files q

def replace (store : IdentityStore) (files : Files) (file : Path × Bytes) : Files :=
  Function.update files file.1.place (some ⟨file.2,modeFor store file.1⟩)

/-- The three files of an enrollment, in the order `save_identity` replaces them. -/
def newFiles (store : IdentityStore) (cert ca : Bytes) (target : String) : List (Path × Bytes) :=
  [(store.certPath,cert),(store.caPath,ca),(store.runtimeTargetStatePath,asBytes (trim target))]

def replaced (store : IdentityStore) (cert ca : Bytes) (target : String) (k : ℕ) (files : Files) :
    Files :=
  ((newFiles store cert ca target).take k).foldl (replace store) files

def temps (store : IdentityStore) : List Place :=
  (savedPaths store).map fun p => p.tmpPath.place

omit [Directories] in
theorem agree_scratch {temps : List Place} {files : Files} {p : Place} {h t : Host} (hp : p ∈ temps)
    (hh : Agree temps files h) (ht : Scratch p h t) : Agree temps files t := by
  intro q hq
  have hqp : q ≠ p := fun he => hq (he ▸ hp)
  rw [ht.files q hqp,hh q hq]

theorem agree_installed {temps : List Place} {files : Files} {path : Path} {content : Bytes}
    {h t : Host} (hp : path.tmpPath.place ∈ temps) (hh : Agree temps files h)
    (ht : Installed store ssl path content h t) :
    Agree temps (replace store files (path,content)) t := by
  intro q hq
  have hqp : q ≠ path.tmpPath.place := fun he => hq (he ▸ hp)
  rw [ht.files q hqp]
  by_cases hpath : q = path.place
  · subst hpath
    simp [replace]
  · simp [replace,hpath,hh q hq]

/-- Writing one more file moves on by one replacement, or not at all. -/
theorem writeFile_agree {ts : List Place} {files : Files} {path : Path} (content : Bytes)
    {h : Host} (hp : path.tmpPath.place ∈ ts) (hh : Agree ts files h) :
    (writeFile store path content).run.Always (handler ssl store)
      (fun t => Agree ts files t ∨ Agree ts (replace store files (path,content)) t)
      (fun r t => r = .ok () →
        path.place.Named ∧ Agree ts (replace store files (path,content)) t) h := by
  refine (writeFile_spec path content h).mono ?_ ?_
  · rintro t (ht | ht)
    · exact .inl (agree_scratch hp hh ht)
    · exact .inr (agree_installed hp hh ht)
  · rintro r t _ (⟨-,ht⟩ | ⟨⟨e,rfl⟩,-⟩) hr
    · exact ⟨ht.named,agree_installed hp hh ht⟩
    · cases hr

section Programs

attribute [local irreducible] trim

theorem saveIdentity_spec (ssl : OpenSsl) (cert ca : Bytes) (target : String) (h : Host) :
    (saveIdentity store cert ca target).run.Always (handler ssl store)
      (fun t => ∃ k ≤ 3, Agree (temps store) (replaced store cert ca target k h.files) t)
      (fun r t => r = .ok () → (∀ p ∈ savedPaths store, p.place.Named) ∧
        Agree (temps store) (replaced store cert ca target 3 h.files) t) h := by
  have h0 : Agree (temps store) (replaced store cert ca target 0 h.files) h := fun _ _ => rfl
  have hsteps (k : ℕ) (t : Host) (hk : k ≤ 2)
      (ht : Agree (temps store) (replaced store cert ca target k h.files) t ∨
        Agree (temps store) (replaced store cert ca target (k+1) h.files) t) :
      ∃ k ≤ 3, Agree (temps store) (replaced store cert ca target k h.files) t := by
    rcases ht with ht | ht
    · exact ⟨k,by omega,ht⟩
    · exact ⟨k+1,by omega,ht⟩
  have hthird (t : Host) (ht : Agree (temps store) (replaced store cert ca target 2 h.files) t) :
      (saveRuntimeTargetAddr store target).run.Always (handler ssl store)
        (fun t => ∃ k ≤ 3, Agree (temps store) (replaced store cert ca target k h.files) t)
        (fun r t => r = .ok () → store.runtimeTargetStatePath.place.Named ∧
          Agree (temps store) (replaced store cert ca target 3 h.files) t) t := by
    unfold saveRuntimeTargetAddr
    split
    · exact ⟨⟨2,by omega,ht⟩,by simp⟩
    · exact (writeFile_agree _ (by simp [temps,savedPaths]) ht).mono (fun u hu => hsteps 2 u le_rfl hu)
        (fun _ _ _ hu => hu)
  unfold saveIdentity
  rw [always_bind]
  refine (writeFile_agree cert (by simp [temps,savedPaths]) h0).mono
    (fun t ht => hsteps 0 t (by omega) ht) ?_
  intro r t ht0 ht
  cases r with
  | error e => exact ⟨hsteps 0 t (by omega) ht0,by simp⟩
  | ok _ =>
    show Prog.Always _ _ _ _ _
    rw [always_bind]
    refine (writeFile_agree ca (by simp [temps,savedPaths]) (ht rfl).2).mono
      (fun u hu => hsteps 1 u (by omega) hu) ?_
    intro r u hu0 hu
    cases r with
    | error e => exact ⟨hsteps 1 u (by omega) hu0,by simp⟩
    | ok _ =>
      exact (hthird u (hu rfl).2).mono (fun _ hv => hv)
        fun _ _ _ hv hr => ⟨by simp [savedPaths,(ht rfl).1,(hu rfl).1,(hv hr).1],(hv hr).2⟩

def ReadsAt (paths : List Path) (o : MachineOp) : Prop := ∃ p ∈ paths, o = .read p

/-- Programs that only read cannot tell machines apart whose files agree there. -/
theorem run_readsAt {α : Type} {paths : List Path} {p : Prog MachineAns α}
    (hp : p.Uses (ReadsAt paths)) {h t : Host} (hagree : ∀ q ∈ paths, h.files q.place = t.files q.place)
    (choices : List HostChoice) :
    (p.run (handler ssl store) choices h).1 = (p.run (handler ssl store) choices t).1 := by
  induction hp generalizing h t choices with
  | ret a => rfl
  | @call o k ho _ ih =>
    obtain ⟨q,hq,rfl⟩ := ho
    cases choices with
    | nil => rfl
    | cons c cs =>
      have hsame : fileAt h.files q = fileAt t.files q := by simp [fileAt,hagree q hq]
      have hpass (r : Except IoError Bytes) :
          ((k r).run (handler ssl store) cs (h.pass c.elapsed)).1 =
            ((k r).run (handler ssl store) cs (t.pass c.elapsed)).1 :=
        ih r (h := h.pass c.elapsed) (t := t.pass c.elapsed) hagree cs
      cases hf : fileAt t.files q with
      | error e =>
        cases hc : c.fault <;>
          simp [Prog.run,handler,perform,fileOp,Host.pass,Bind.bind,Except.bind,hc,hsame,hf] <;>
            exact hpass _
      | ok f =>
        cases hc : c.fault <;>
          simp [Prog.run,handler,perform,fileOp,Host.pass,Bind.bind,Except.bind,hc,hsame,hf] <;>
            exact hpass _

omit [Directories] in
theorem loadIdentity_reads :
    (loadIdentity ssl store).run.Uses (ReadsAt (identityPaths store)) := by
  have hread {p : Path} (hp : p ∈ identityPaths store) (text : String) :
      (io (Prog.op (MachineOp.read p)) text).run.Uses (ReadsAt (identityPaths store)) :=
    Prog.uses_bind (Prog.uses_op ⟨p,hp,rfl⟩) fun _ => .ret _
  have htarget : (loadRuntimeTargetAddr store).run.Uses (ReadsAt (identityPaths store)) := by
    unfold loadRuntimeTargetAddr
    rw [Fallible.ask_bind_run]
    refine .call ⟨store.runtimeTargetStatePath,by simp [identityPaths],rfl⟩ fun r => ?_
    rcases r with e | bytes
    · dsimp only
      split <;> exact .ret _
    · dsimp only
      split
      · split <;> exact .ret _
      · exact .ret _
  refine Fallible.uses_bind (hread (by simp [identityPaths]) _) fun cert => ?_
  refine Fallible.uses_bind (hread (by simp [identityPaths]) _) fun key => ?_
  refine Fallible.uses_bind (hread (by simp [identityPaths]) _) fun ca => ?_
  exact Fallible.uses_bind (Prog.uses_bind htarget fun _ => .ret _) fun target => .ret _

end Programs

def loads (ssl : OpenSsl) (store : IdentityStore) (choices : List HostChoice) (h : Host) :
    Option (Except AnyhowError AgentIdentityState) :=
  ((loadIdentity ssl store).run.run (handler ssl store) choices h).1

/-- The machine after a `save_identity` that may have stopped anywhere. -/
def saved (ssl : OpenSsl) (store : IdentityStore) (cert ca : Bytes) (target : String)
    (choices : List HostChoice) (h : Host) : Option (Except AnyhowError Unit) × Host :=
  (saveIdentity store cert ca target).run.run (handler ssl store) choices h

/-- Wherever `save_identity` stops, `load_identity` finds the first `k` of certificate, CA
bundle and target replaced and nothing else changed; all three when it returned `Ok`. -/
theorem save_replaces_in_order (ssl : OpenSsl) (store : IdentityStore)
    (apart : ∀ p ∈ temps store, p ∉ identityPlaces store) (cert ca : Bytes) (target : String)
    (choices : List HostChoice) (h : Host) :
    ∃ k ≤ 3, ((saved ssl store cert ca target choices h).1 = some (.ok ()) → k = 3) ∧
      ∀ later, loads ssl store later (saved ssl store cert ca target choices h).2 =
        loads ssl store later { h with files := replaced store cert ca target k h.files } := by
  obtain ⟨hstop,hdone⟩ := (saveIdentity_spec ssl cert ca target h).run choices
  have hloads {k : ℕ} (hk : Agree (temps store) (replaced store cert ca target k h.files)
      (saved ssl store cert ca target choices h).2) (later : List HostChoice) :
      loads ssl store later (saved ssl store cert ca target choices h).2 =
        loads ssl store later { h with files := replaced store cert ca target k h.files } :=
    run_readsAt loadIdentity_reads
      (fun q hq => hk q.place fun htemp => apart _ htemp (List.mem_map_of_mem hq)) later
  by_cases hok : (saved ssl store cert ca target choices h).1 = some (.ok ())
  · exact ⟨3,le_rfl,fun _ => rfl,hloads (hdone _ hok rfl).2⟩
  · obtain ⟨k,hk,hagree⟩ := hstop
    exact ⟨k,hk,fun hr => absurd hr hok,hloads hagree⟩

end Runs

def blindSsl : OpenSsl := ⟨fun _ => none,fun _ => none,fun _ => none⟩

section Samples

attribute [local instance] Directories.plain

def enrolledHost (store : IdentityStore) : Host where
  files p :=
    if p = store.certPath.place then some ⟨[1],0o640⟩
    else if p = store.keyPath.place then some ⟨[2],0o600⟩
    else if p = store.caPath.place then some ⟨[3],0o640⟩
    else if p = store.runtimeTargetStatePath.place then some ⟨asBytes "dp-1:443",0o640⟩
    else none
  umask := 0o022
  clock := 0

def loadedTriple (store : IdentityStore) (h : Host) : Option (Bytes × Bytes × Option String) :=
  match loads blindSsl store (List.replicate 4 {}) h with
  | some (.ok state) => some (state.clientCertPem,state.caBundlePem,state.runtimeTargetAddr)
  | _ => none

/-- A save that succeeds replaces all three files, one that is cut behind its first rename only
the first. -/
theorem sample_save_replaces :
    loads blindSsl IdentityStore.defaults (List.replicate 4 {})
      (saved blindSsl IdentityStore.defaults [11] [13] "dp-2:443" (List.replicate 15 {})
        (enrolledHost IdentityStore.defaults)).2 =
    loads blindSsl IdentityStore.defaults (List.replicate 4 {})
      { enrolledHost IdentityStore.defaults with
        files := replaced IdentityStore.defaults [11] [13] "dp-2:443" 3
          (enrolledHost IdentityStore.defaults).files } ∧
    loads blindSsl IdentityStore.defaults (List.replicate 4 {})
      (saved blindSsl IdentityStore.defaults [11] [13] "dp-2:443" (List.replicate 8 {})
        (enrolledHost IdentityStore.defaults)).2 =
    loads blindSsl IdentityStore.defaults (List.replicate 4 {})
      { enrolledHost IdentityStore.defaults with
        files := replaced IdentityStore.defaults [11] [13] "dp-2:443" 1
          (enrolledHost IdentityStore.defaults).files } := by
  constructor
  · obtain ⟨k,-,hdone,hloads⟩ := save_replaces_in_order blindSsl IdentityStore.defaults (by decide)
      [11] [13] "dp-2:443" (List.replicate 15 {}) (enrolledHost IdentityStore.defaults)
    obtain rfl : k = 3 := hdone (by decide)
    exact hloads _
  · obtain ⟨k,hk,-,hloads⟩ := save_replaces_in_order blindSsl IdentityStore.defaults (by decide)
      [11] [13] "dp-2:443" (List.replicate 8 {}) (enrolledHost IdentityStore.defaults)
    have hloads := hloads (List.replicate 4 {})
    obtain rfl | rfl | rfl | rfl : k = 0 ∨ k = 1 ∨ k = 2 ∨ k = 3 := by omega
    · exact absurd hloads (by decide)
    · exact hloads
    · exact absurd hloads (by decide)
    · exact absurd hloads (by decide)

/-- A store whose CA bundle lies where the certificate's temporary file goes. -/
def aliasedStore : IdentityStore := { IdentityStore.defaults with caPath := IdentityStore.defaults.certPath.tmpPath }

/-- A death behind the first rename leaves the new certificate beside the old CA bundle and
target; and where the CA bundle lies at the temporary name of the certificate, a death
before it leaves the new certificate as the CA bundle of the old one. -/
theorem save_mixes :
    loadedTriple IdentityStore.defaults (enrolledHost IdentityStore.defaults) = some ([1],[3],some "dp-1:443") ∧
    loadedTriple IdentityStore.defaults (saved blindSsl IdentityStore.defaults [11] [13] "dp-2:443"
      (List.replicate 15 {}) (enrolledHost IdentityStore.defaults)).2 = some ([11],[13],some "dp-2:443") ∧
    loadedTriple IdentityStore.defaults (saved blindSsl IdentityStore.defaults [11] [13] "dp-2:443"
      (List.replicate 5 {}) (enrolledHost IdentityStore.defaults)).2 = some ([11],[3],some "dp-1:443") ∧
    loadedTriple aliasedStore (saved blindSsl aliasedStore [11] [13] "dp-2:443"
      (List.replicate 3 {}) (enrolledHost aliasedStore)).2 = some ([1],[11],some "dp-1:443") := by
  decide

end Samples
end IdentitySaves
end KvmAgent
