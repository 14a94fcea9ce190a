import KvmAgent.WireIdentity

/-! What the tasks leave on the disk: which files they touch, and what is complete and where it
comes from when it is renamed into place. -/
namespace KvmAgent
namespace InstalledFiles

open RustText Fallible Machine Bootstrap Registry Session Trace RuntimeChannels IdentityStore WireIdentity

/-- What the file at `p` was made of since it was created: the bytes it took, and the mode it was
given. -/
def made (p : Path) : Trace WireAns → Option (Bytes × Option ℕ)
  | [] => none
  | ⟨.machine (.create q),.ok ()⟩::s => if q = p then some ([],none) else made p s
  | ⟨.machine (.write q bytes),.ok k⟩::s =>
    if q = p then (made p s).map fun m => (m.1 ++ bytes.take k,m.2) else made p s
  | ⟨.machine (.setPermissions q mode),.ok ()⟩::s =>
    if q = p then (made p s).map fun m => (m.1,some mode) else made p s
  | _::s => made p s

def lastKey : Trace WireAns → Option Bytes
  | [] => none
  | ⟨.machine .generateKey,.ok pem⟩::_ => some pem
  | _::s => lastKey s

def lastEnrolled : Trace WireAns → Option BootstrapEnrollAgentResponse
  | [] => none
  | ⟨.machine (.bootstrapEnrollAgent _),.ok response⟩::_ => some response
  | _::s => lastEnrolled s

/-- What belongs in each of the four files. -/
inductive Belongs (store : IdentityStore) (key : Option Bytes)
    (enrolled : Option BootstrapEnrollAgentResponse) : Path → Bytes → Prop
  | key {pem : Bytes} (generated : key = some pem) : Belongs store key enrolled store.keyPath pem
  | cert {response : BootstrapEnrollAgentResponse} (answer : enrolled = some response)
      (named : ¬Blank response.agentId) :
      Belongs store key enrolled store.certPath (asBytes response.clientCertPem)
  | ca {response : BootstrapEnrollAgentResponse} (answer : enrolled = some response)
      (named : ¬Blank response.agentId) :
      Belongs store key enrolled store.caPath (asBytes response.caCertPem)
  | target {response : BootstrapEnrollAgentResponse} (answer : enrolled = some response)
      (nonblank : ¬Blank response.runtimeTargetAddr) : Belongs store key enrolled
        store.runtimeTargetStatePath (asBytes (trim response.runtimeTargetAddr))

/-- Only directories of the four files are made and only their temporary files written, and what
is renamed into place is complete, has the mode of its path, and belongs there. -/
def Careful (store : IdentityStore) (o : WireOp) (earlier : Trace WireAns) : Prop :=
  match o with
  | .machine (.createDirAll p) => ∃ path ∈ store.identityPaths, path.parent = some p
  | .machine (.create p) | .machine (.write p _) => ∃ path ∈ store.identityPaths, p = path.tmpPath
  | .machine (.setPermissions p mode) =>
    ∃ path ∈ store.identityPaths, p = path.tmpPath ∧ mode = modeFor store path
  | .machine (.rename p path) => p = path.tmpPath ∧ ∃ content,
      Belongs store (lastKey earlier) (lastEnrolled earlier) path content ∧
        made p earlier = some (content,some (modeFor store path))
  | _ => True

abbrev Tidy (store : IdentityStore) : Trace WireAns → Prop :=
  Each fun c earlier => Careful store c.1 earlier

variable {crates : Crates} {ssl : OpenSsl} {store : IdentityStore} {config : AppConfig}
variable {facts : HostFacts} {s base : Trace WireAns} {α : Type}

section Writing

def Quiet : MachineOp → Prop
  | .generateKey | .bootstrapEnrollAgent _ => False
  | _ => True

theorem lastKey_cons {o : MachineOp} {x : MachineAns o} (ho : Quiet o) :
    lastKey (⟨.machine o,x⟩::s) = lastKey s := by
  cases o <;> first | exact ho.elim | rfl

theorem lastEnrolled_cons {o : MachineOp} {x : MachineAns o} (ho : Quiet o) :
    lastEnrolled (⟨.machine o,x⟩::s) = lastEnrolled s := by
  cases o <;> first | exact ho.elim | rfl

/-- Since `base` no key was generated and nothing enrolled. -/
structure Filing (store : IdentityStore) (base s : Trace WireAns) : Prop where
  tidy : Tidy store s
  key : lastKey s = lastKey base
  enrolled : lastEnrolled s = lastEnrolled base

theorem Filing.cons {o : MachineOp} {x : MachineAns o} (hs : Filing store base s) (ho : Quiet o)
    (hc : Careful store (.machine o) s) : Filing store base (⟨.machine o,x⟩::s) :=
  ⟨⟨hc,hs.tidy⟩,(lastKey_cons ho).trans hs.key,(lastEnrolled_cons ho).trans hs.enrolled⟩

variable {path : Path} {content : Bytes}

theorem writeAll_made (hpath : path ∈ store.identityPaths) (n : ℕ) {bytes acc : Bytes}
    (hn : bytes.length ≤ n) (hs : Filing store base s)
    (hmade : made path.tmpPath s = some (acc,none)) :
    (writeAll path.tmpPath n bytes).Always machineRecorder (Filing store base)
      (fun r t => r = .ok () → made path.tmpPath t = some (acc ++ bytes,none)) s := by
  induction n generalizing bytes acc s with
  | zero =>
    obtain rfl : bytes = [] := List.eq_nil_of_length_eq_zero (Nat.le_zero.mp hn)
    exact ⟨hs,fun _ => by rwa [List.append_nil]⟩
  | succ n ih =>
    by_cases hb : bytes = []
    · subst hb
      exact ⟨hs,fun _ => by rwa [List.append_nil]⟩
    rw [IdentityCalls.writeAll_step _ n hb]
    refine ⟨hs,fun c x t hc => ?_⟩
    obtain ⟨-,rfl⟩ := recorder_eq_some.mp hc
    have hnext : Filing store base (⟨.machine (.write path.tmpPath bytes),x⟩::s) :=
      hs.cons trivial ⟨path,hpath,rfl⟩
    rcases x with e | (_ | k)
    · exact ⟨hnext,by simp⟩
    · exact ⟨hnext,by simp⟩
    · have htaken : made path.tmpPath (⟨.machine (.write path.tmpPath bytes),.ok (k+1)⟩::s) =
          some (acc ++ bytes.take (k+1),none) := by simp [made,hmade]
      have hrest : (bytes.drop (k+1)).length ≤ n := by
        rw [List.length_drop]
        omega
      refine (ih hrest hnext htaken).mono (fun _ hu => hu) fun r u _ hu hr => ?_
      rw [hu hr,List.append_assoc,List.take_append_drop]

theorem fsWrite_made (hpath : path ∈ store.identityPaths) (content : Bytes)
    (hs : Filing store base s) :
    (fsWrite path.tmpPath content).Always machineRecorder (Filing store base)
      (fun r t => r = .ok () → made path.tmpPath t = some (content,none)) s := by
  refine Prog.always_bind.mpr (always_call hs fun x => ?_)
  have hnext : Filing store base (⟨.machine (.create path.tmpPath),x⟩::s) :=
    hs.cons trivial ⟨path,hpath,rfl⟩
  refine ⟨hnext,?_⟩
  cases x with
  | error e => exact ⟨hnext,by simp⟩
  | ok _ =>
    have hcreated : made path.tmpPath (⟨.machine (.create path.tmpPath),.ok ()⟩::s) = some ([],none) := by
      simp [made]
    exact writeAll_made hpath content.length le_rfl hnext hcreated

theorem writeFile_filing (hpath : path ∈ store.identityPaths)
    (hbelongs : Belongs store (lastKey base) (lastEnrolled base) path content) :
    (writeFile store path content).run.Keeps machineRecorder (Filing store base) := by
  have hrest : (do
      io (fsWrite path.tmpPath content) ("write identity file " ++ path.tmpPath.display)
      io (Prog.op (MachineOp.setPermissions path.tmpPath (modeFor store path)))
        ("set identity file permissions " ++ path.tmpPath.display)
      io (Prog.op (MachineOp.rename path.tmpPath path))
        ("replace identity file " ++ path.display) : Machine Unit).run.Keeps machineRecorder
      (Filing store base) := by
    intro s hs
    refine always_next (P := fun _ t => made path.tmpPath t = some (content,none)) ?_ (by simp)
      fun _ s hs hmade => ?_
    · rw [IdentityCalls.always_io]
      refine (fsWrite_made hpath content hs).mono (fun _ ht => ht) fun r t ht hr => ⟨ht,?_⟩
      cases r with
      | error e => exact fun _ h => nomatch h
      | ok _ => exact fun _ _ => hr rfl
    refine always_next (P := fun _ t =>
      made path.tmpPath t = some (content,some (modeFor store path))) ?_ (by simp) fun _ s hs hmade => ?_
    · rw [IdentityCalls.always_io]
      refine always_call hs fun x => ?_
      have hnext : Filing store base
          (⟨.machine (.setPermissions path.tmpPath (modeFor store path)),x⟩::s) :=
        hs.cons trivial ⟨path,hpath,rfl,rfl⟩
      refine ⟨hnext,hnext,?_⟩
      cases x with
      | error e => exact fun _ h => nomatch h
      | ok _ => exact fun _ _ => by simp [made,hmade]
    · rw [IdentityCalls.always_io]
      refine always_call hs fun x => ?_
      have hnext : Filing store base (⟨.machine (.rename path.tmpPath path),x⟩::s) := by
        refine hs.cons trivial ⟨rfl,content,?_,hmade⟩
        rw [hs.key,hs.enrolled]
        exact hbelongs
      exact ⟨hnext,hnext,trivial⟩
  unfold writeFile
  cases hparent : path.parent with
  | none => exact hrest
  | some parent =>
    intro s hs
    refine always_next (P := fun _ _ => True) ?_ (by simp) fun _ t ht _ => hrest t ht
    rw [IdentityCalls.always_io]
    refine always_call hs fun x => ?_
    have hnext : Filing store base (⟨.machine (.createDirAll parent),x⟩::s) :=
      hs.cons trivial ⟨path,hpath,hparent⟩
    exact ⟨hnext,hnext,fun _ _ => trivial⟩

theorem reads_filing {p : Prog MachineAns α} {paths : List Path}
    (hp : p.Uses (IdentitySaves.ReadsAt paths)) : p.Keeps machineRecorder (Filing store base) :=
  machine_uses_keeps hp fun o x s ho hs => by
    obtain ⟨q,-,rfl⟩ := ho
    exact hs.cons trivial trivial

end Writing

section Enrolling

attribute [local irreducible] trim

theorem newPrivateKey_tidy : (newPrivateKey store).run.Keeps machineRecorder (Tidy store) := by
  intro s hs
  unfold newPrivateKey
  refine always_next (P := fun pem t => lastKey t = some pem) ?_ (by simp) fun pem t ht hkey => ?_
  · rw [IdentityCalls.always_orFail]
    refine always_call hs fun x => ⟨⟨trivial,hs⟩,⟨trivial,hs⟩,?_⟩
    cases x with
    | error e => exact fun _ h => nomatch h
    | ok pem =>
      rintro _ ⟨⟩
      rfl
  refine always_next (P := fun _ _ => True) ?_ (by simp) fun _ u hu _ => ⟨hu,trivial⟩
  have hwrite : (writeFile store store.keyPath pem).run.Keeps machineRecorder (Filing store t) :=
    writeFile_filing (by simp [identityPaths]) (.key hkey)
  exact (hwrite t ⟨ht,rfl,rfl⟩).mono (fun _ hu => hu.tidy) fun _ _ _ _ _ _ => trivial

def Orderly (store : IdentityStore) (o : WireOp) : Prop := ∀ earlier, Careful store o earlier

theorem machine_tidy {p : Prog MachineAns α} (hp : p.Uses fun o => Orderly store (.machine o)) :
    p.Keeps machineRecorder (Tidy store) :=
  machine_uses_keeps hp fun _ _ s ho hs => ⟨ho s,hs⟩

theorem context_keeps {I : Trace WireAns → Prop} {p : Machine α} {text : String}
    (hp : p.run.Keeps machineRecorder I) : (context p text).run.Keeps machineRecorder I := by
  rw [context_run]
  exact Prog.keeps_bind hp fun _ => Prog.keeps_ret _

theorem acceptEnrollment_filing {response : BootstrapEnrollAgentResponse}
    (henrolled : lastEnrolled base = some response) :
    (acceptEnrollment ssl store response).run.Keeps machineRecorder (Filing store base) := by
  unfold acceptEnrollment
  split
  · exact Prog.keeps_ret _
  split
  · exact Prog.keeps_ret _
  next hnamed hnonblank =>
  have hcert : (writeFile store store.certPath (asBytes response.clientCertPem)).run.Keeps
      machineRecorder (Filing store base) :=
    writeFile_filing (by simp [identityPaths]) (.cert henrolled hnamed)
  have hca : (writeFile store store.caPath (asBytes response.caCertPem)).run.Keeps machineRecorder
      (Filing store base) := writeFile_filing (by simp [identityPaths]) (.ca henrolled hnamed)
  have htarget : (saveRuntimeTargetAddr store response.runtimeTargetAddr).run.Keeps machineRecorder
      (Filing store base) := by
    unfold saveRuntimeTargetAddr
    rw [if_neg hnonblank]
    exact writeFile_filing (by simp [identityPaths]) (.target henrolled hnonblank)
  refine Fallible.keeps_bind (context_keeps ?_) fun _ =>
    context_keeps (reads_filing IdentitySaves.loadIdentity_reads)
  exact Fallible.keeps_bind hcert fun _ => Fallible.keeps_bind hca fun _ => htarget

theorem bootstrapEnroll_tidy : (bootstrapEnroll ssl store config facts).run.Keeps machineRecorder
    (Tidy store) := by
  have hkey : (ensurePrivateKey store).run.Keeps machineRecorder (Tidy store) := by
    intro s hs
    unfold ensurePrivateKey
    rw [Fallible.ask_bind_run]
    refine ⟨hs,fun c r t hc => ?_⟩
    obtain ⟨-,rfl⟩ := recorder_eq_some.mp hc
    have hnext : Tidy store (⟨.machine (.read store.keyPath),r⟩::s) := ⟨trivial,hs⟩
    cases r with
    | error e => exact newPrivateKey_tidy _ hnext
    | ok existing =>
      dsimp only
      split
      · exact ⟨hnext,trivial⟩
      · exact newPrivateKey_tidy _ hnext
  have hcsr (key : Bytes) (name : String) : (IdentityStore.generateCsr key name).run.Keeps
      machineRecorder (Tidy store) :=
    machine_tidy (IdentityCalls.uses_orFail (Prog.uses_op fun _ => trivial))
  have hchannel : (buildBootstrapChannel config).run.Keeps machineRecorder (Tidy store) :=
    machine_tidy (bootstrapChannel_uses (fun _ _ => trivial) (fun _ _ => trivial)
      fun _ _ _ _ => trivial)
  unfold bootstrapEnroll
  split
  · exact Prog.keeps_ret _
  refine Fallible.keeps_bind hkey fun key => Fallible.keeps_bind (context_keeps (hcsr key _)) fun csr =>
    Fallible.keeps_bind hchannel fun _ => ?_
  intro s hs
  refine always_next (P := fun response t => lastEnrolled t = some response) ?_ (by simp)
    fun response t ht henrolled => ?_
  · rw [IdentityCalls.always_orFail]
    refine always_call hs fun x => ⟨⟨trivial,hs⟩,⟨trivial,hs⟩,?_⟩
    cases x with
    | error e => exact fun _ h => nomatch h
    | ok response =>
      rintro _ ⟨⟩
      rfl
  · exact (acceptEnrollment_filing henrolled t ⟨ht,rfl,rfl⟩).mono (fun _ hu => hu.tidy)
      fun _ _ _ _ => trivial

theorem ensureIdentity_tidy : (onMachine (ensureIdentity ssl store config facts)).Keeps recorder
    (Tidy store) := by
  refine onMachine_keeps ?_
  unfold ensureIdentity
  refine Fallible.keeps_bind ?_ fun usable => ?_
  · exact machine_tidy (Prog.uses_bind (usable_uses (fun _ _ => trivial) fun _ => trivial)
      fun _ => .ret _)
  split
  · exact machine_tidy (loadIdentity_uses fun _ _ => trivial)
  · exact bootstrapEnroll_tidy

end Enrolling

section Tasks

-- where the zone is blank the telemetry task is idle, which changes no file either
attribute [local irreducible] trim

def Files : WireOp → Prop
  | .machine (.createDirAll _) | .machine (.create _) | .machine (.write ..) => True
  | .machine (.setPermissions ..) | .machine (.rename ..) => True
  | _ => False

def Unfiled (I : Trace WireAns → Prop) : Prop :=
  ∀ o (x : WireAns o) s, ¬Files o → I s → I (⟨o,x⟩::s)

theorem unfiled_tidy : Unfiled (Tidy store) := fun o x s ho hs => by
  have hcareful : Careful store o s := by
    unfold Careful
    split <;> first | exact absurd trivial ho | trivial
  exact ⟨hcareful,hs⟩

theorem unfiled_each : Unfiled (Each fun c _ => ¬Files c.1) := fun _ _ _ ho hs => ⟨ho,hs⟩

variable {I : Trace WireAns → Prop} {identity : AgentIdentityState} {assignment : AssignmentCache}
variable {target : String}

theorem unfiled_op (hI : Unfiled I) {o : WireOp} (ho : ¬Files o) : (Prog.op o).Keeps recorder I :=
  uses_keeps (Prog.uses_op ho) hI

theorem unfiled_machine (hI : Unfiled I) {p : Machine α} (hp : p.run.Uses fun o => ¬Files (.machine o)) :
    (onMachine p).Keeps recorder I :=
  onMachine_keeps (machine_uses_keeps hp fun o x s ho hs => hI (.machine o) x s ho hs)

theorem resolveAssignment_unfiled (hI : Unfiled I) (current : Option AssignmentCache) :
    (onMachine (resolveAssignment config identity facts current)).Keeps recorder I :=
  unfiled_machine hI (resolveAssignment_uses (fun _ => id) (fun _ _ _ => id) id id (fun _ _ => id)
    identity current)

theorem sessionOp_unfiled (hI : Unfiled I) (o : Op) :
    (sessionOp config identity assignment target o).Keeps recorder I := by
  cases o with
  | channel addr =>
    exact unfiled_machine hI (mtlsChannel_uses (fun _ => id) (fun _ _ _ => id) addr identity)
  | spawn task streamId => cases task <;> exact unfiled_op hI id
  | _ => exact unfiled_op hI id

inductive SessionTask (config : AppConfig) (facts : HostFacts) : Wire (Unit ⊕ Unit) → Prop
  | refresh (identity : AgentIdentityState) (assignment : AssignmentCache) (target : String) (n : ℕ) :
    SessionTask config facts (RuntimeChannels.refreshTask config facts identity assignment target n)
  | heartbeat (streamId : String) (n : ℕ) : SessionTask config facts (heartbeatTask facts streamId n)
  | telemetry (n : ℕ) : SessionTask config facts (telemetryTask config n)

theorem sessionTask_unfiled (hI : Unfiled I) {p : Wire (Unit ⊕ Unit)} (hp : SessionTask config facts p) :
    p.Keeps recorder I := by
  cases hp with
  | refresh identity assignment target n =>
    refine Prog.keeps_via _ fun o => ?_
    cases o with
    | resolveAssignment current => exact resolveAssignment_unfiled hI current
    | _ => exact unfiled_op hI id
  | heartbeat streamId n => exact Prog.keeps_via _ fun o => unfiled_op hI id
  | telemetry n =>
    unfold telemetryTask
    split
    · exact Prog.keeps_ret _
    refine Prog.keeps_loop (fun _ => Prog.keeps_bind (unfiled_op hI id) fun fired => ?_) n ()
    cases fired with
    | false => exact Prog.keeps_ret _
    | true =>
      refine Prog.keeps_bind (unfiled_op hI id) fun built => ?_
      cases built with
      | false => exact Prog.keeps_ret _
      | true => exact Prog.keeps_bind (unfiled_op hI id) fun _ => Prog.keeps_ret _

theorem connectTask_tidy (rounds n : ℕ) :
    (connectTask crates ssl store config facts rounds n).Keeps recorder (Tidy store) := by
  refine Prog.keeps_via _ fun o => ?_
  cases o with
  | ensureIdentity => exact ensureIdentity_tidy
  | resolveAssignment identity current => exact resolveAssignment_unfiled unfiled_tidy current
  | runSession identity assignment target =>
    refine Prog.keeps_bind (Prog.keeps_via _ (sessionOp_unfiled unfiled_tidy)) fun r => ?_
    rcases r with _ | (e | _)
    · exact Prog.keeps_bind (unfiled_op unfiled_tidy id) fun never => never.elim
    · exact Prog.keeps_ret _
    · exact Prog.keeps_ret _
  | _ => exact unfiled_op unfiled_tidy id

theorem record_tidy {given : Option Channel} (h : TaskRecord crates ssl store config facts given s) :
    Tidy store s := by
  have hrun {p : Wire (Unit ⊕ Unit)} (hp : SessionTask config facts p) (choices : List (Call WireAns)) :
      Tidy store (p.run recorder choices []).2 :=
    ((sessionTask_unfiled unfiled_tidy hp [] trivial).run choices).1
  cases h with
  | connect rounds n choices => exact ((connectTask_tidy rounds n [] trivial).run choices).1
  | refresh _ _ n choices => exact hrun (.refresh _ _ _ n) choices
  | heartbeat _ _ n choices => exact hrun (.heartbeat _ n) choices
  | telemetry _ _ n choices => exact hrun (.telemetry n) choices

end Tasks

variable (crates ssl store config facts)

/-- In the records of all tasks: what is installed is complete and in its place, and the tasks of a
session change no file at all. -/
structure DiskKept : Prop where
  tidy : ∀ given s, TaskRecord crates ssl store config facts given s →
    Each (fun c earlier => Careful store c.1 earlier) s
  untouched : ∀ p, SessionTask config facts p → ∀ choices, ∀ c ∈ (p.run recorder choices []).2,
    ¬Files c.1

/-- Whatever is answered and wherever a task is cut short, no file is put in place but a complete
one, with its own mode, that holds the last key generated or what was last enrolled. -/
theorem disk_kept : DiskKept crates ssl store config facts where
  tidy _ _ hs := record_tidy hs
  untouched _ hp choices :=
    each_forall.mp ((sessionTask_unfiled unfiled_each hp [] trivial).run choices).1

end InstalledFiles
end KvmAgent
