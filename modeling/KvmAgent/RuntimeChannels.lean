import KvmAgent.BootstrapTls
import KvmAgent.FrameNumbers
import KvmAgent.MtlsEndpoint
import KvmAgent.Registry

/-! The tasks of `connect_hypervisor` down to their connections and RPCs: over which
connection each RPC is sent. -/
namespace KvmAgent
namespace RuntimeChannels

open RustText Fallible Machine Bootstrap Registry Session Trace MtlsEndpoint

/-- What the tasks call: the operations of `connect_hypervisor`, of the machine, of a session
and of the tasks it starts. A refresh task is started with what it resolves for. -/
inductive WireOp
  | agent (o : ConnectOp)
  | machine (o : MachineOp)
  | session (o : Op)
  | refresh (o : RefreshOp)
  | spawnRefresh (identity : AgentIdentityState) (assignment : AssignmentCache) (target : String)
  | tick
  | buildSnapshot
  | pushTelemetrySnapshot
  | unfinished
  deriving DecidableEq

/-- `tick` answers whether the ticker fired before the shutdown token, `buildSnapshot` whether
there is a snapshot; `unfinished` is a session that goes on. -/
@[reducible] def WireAns : WireOp → Type
  | .agent o => ConnectAns o
  | .machine o => MachineAns o
  | .session o => Ans o
  | .refresh o => RefreshAns o
  | .spawnRefresh .. => Unit
  | .tick | .buildSnapshot => Bool
  | .pushTelemetrySnapshot => Except Status Unit
  | .unfinished => Empty

abbrev Wire (α : Type) := Prog WireAns α

variable (crates : Crates) (ssl : OpenSsl) (store : IdentityStore) (config : AppConfig)
  (facts : HostFacts)

def onMachine {α : Type} (p : Machine α) : Wire (Except AnyhowError α) :=
  p.run.via fun o => Prog.op (WireOp.machine o)

section Tasks

def sessionOp (identity : AgentIdentityState) (assignment : AssignmentCache) (target : String) :
    (o : Op) → Wire (Ans o)
  | .channel addr => onMachine (buildMtlsChannelForTarget config addr identity)
  | .spawn .refresh _ => Prog.op (WireOp.spawnRefresh identity assignment target)
  | o => Prog.op (WireOp.session o)

/-- What the rotation sees of the end of a session. -/
def sessionEnd (target : String) : Unit ⊕ Except AnyhowError Unit → Wire (SessionEnd target)
  | .inr (.ok ()) => return .ok
  | .inr (.error e) => return .err e
  | .inl () => do
    let never ← Prog.op WireOp.unfinished
    never.elim

/-- The operations of `connect_hypervisor`, with at most `rounds` rounds for each session. -/
def connectOp (rounds : ℕ) : (o : ConnectOp) → Wire (ConnectAns o)
  | .ensureIdentity => onMachine (ensureIdentity ssl store config facts)
  | .resolveAssignment identity current =>
    onMachine (resolveAssignment config identity facts current)
  | .runSession identity assignment target => do
    sessionEnd target (← (runSession crates facts target rounds).via
      (sessionOp config identity assignment target))
  | o => Prog.op (WireOp.agent o)

def connectTask (rounds n : ℕ) : Wire (Head ⊕ Except AnyhowError Unit) :=
  (connectHypervisor config n).via (connectOp crates ssl store config facts rounds)

def refreshOp (identity : AgentIdentityState) : (o : RefreshOp) → Wire (RefreshAns o)
  | .resolveAssignment current => onMachine (resolveAssignment config identity facts current)
  | o => Prog.op (WireOp.refresh o)

def refreshTask (identity : AgentIdentityState) (assignment : AssignmentCache) (target : String)
    (n : ℕ) : Wire (Unit ⊕ Unit) :=
  (Registry.refreshTask assignment target n).via (refreshOp config facts identity)

/-- The heartbeat task of a session; its frames go through the session's channel. -/
def heartbeatTask (streamId : String) (n : ℕ) : Wire (Unit ⊕ Unit) :=
  (runHeartbeatLoop (hostRegistrationFromFacts facts) streamId n).via fun o =>
    Prog.op (WireOp.session o)

/-- One round of `run_telemetry_loop`. -/
def telemetryStep : Unit → Wire (Unit ⊕ Unit) := fun _ => do
  match ← Prog.op WireOp.tick with
  | false => return .inr ()
  | true =>
    match ← Prog.op WireOp.buildSnapshot with
    | false => return .inl ()
    | true =>
      let _ ← Prog.op WireOp.pushTelemetrySnapshot
      return .inl ()

/-- The telemetry task of a session; without a zone it stays idle. -/
def telemetryTask (n : ℕ) : Wire (Unit ⊕ Unit) :=
  if trim config.zoneId = "" then .ret (.inr ()) else Prog.loop telemetryStep n ()

end Tasks

section Connections

/-- A connection, by the endpoint and the TLS configuration it was made with. -/
structure Channel where
  uri : String
  tls : Option ClientTlsConfig
  deriving DecidableEq

/-- The connection a task talks over: the last one it made, or else the one it was handed. -/
def latest (given : Option Channel) : Trace WireAns → Option Channel
  | [] => given
  | ⟨.machine (.connect uri _ tls),.ok ()⟩::_ => some ⟨uri,tls⟩
  | _::s => latest given s

inductive Rpc
  | bootstrapEnrollAgent | resolveRuntimeAssignment | agentControlStream | pushTelemetrySnapshot
  deriving DecidableEq

def rpcOf : WireOp → Option Rpc
  | .machine (.bootstrapEnrollAgent _) => some .bootstrapEnrollAgent
  | .machine (.resolveRuntimeAssignment _) => some .resolveRuntimeAssignment
  | .session .openStream => some .agentControlStream
  | .pushTelemetrySnapshot => some .pushTelemetrySnapshot
  | _ => none

/-- The records of the tasks of a `connect_hypervisor`, each with the connection the task was
handed: the telemetry client moves into its task, the others make their own. -/
inductive TaskRecord : Option Channel → Trace WireAns → Prop
  | connect (rounds n : ℕ) (choices : List (Call WireAns)) :
    TaskRecord none ((connectTask crates ssl store config facts rounds n).run recorder choices []).2
  | refresh {given : Option Channel} {s earlier : Trace WireAns} {identity : AgentIdentityState}
    {assignment : AssignmentCache} {target : String} (spawner : TaskRecord given s)
    (spawned : ⟨.spawnRefresh identity assignment target,()⟩::earlier <:+ s) (n : ℕ)
    (choices : List (Call WireAns)) :
    TaskRecord none ((refreshTask config facts identity assignment target n).run recorder choices []).2
  | heartbeat {given : Option Channel} {s earlier : Trace WireAns} {streamId : String}
    (spawner : TaskRecord given s)
    (spawned : ⟨.session (.spawn .heartbeat streamId),()⟩::earlier <:+ s) (n : ℕ)
    (choices : List (Call WireAns)) :
    TaskRecord none ((heartbeatTask facts streamId n).run recorder choices []).2
  | telemetry {given : Option Channel} {s earlier : Trace WireAns} {streamId : String}
    (spawner : TaskRecord given s)
    (spawned : ⟨.session (.spawn .telemetry streamId),()⟩::earlier <:+ s) (n : ℕ)
    (choices : List (Call WireAns)) :
    TaskRecord (latest given earlier) ((telemetryTask config n).run recorder choices []).2

/-- Both sides of the connection are authenticated by TLS. -/
structure Channel.Mtls (ch : Channel) : Prop where
  https : startsWith "https://" ch.uri = true
  tls : ∃ name ca cert key, ch.tls = some ⟨name,ca,some (cert,key)⟩ ∧
    ca ≠ [] ∧ cert ≠ [] ∧ key ≠ []

def Secure (ch : Option Channel) : Prop := ∃ c, ch = some c ∧ c.Mtls

end Connections

section Securing

attribute [local irreducible] trim

/-- The call goes over the task's connection or hands it on, and must find it secure. -/
def NeedsMtls : WireOp → Prop
  | .machine (.resolveRuntimeAssignment _) | .session .openStream
  | .session (.spawn .telemetry _) | .pushTelemetrySnapshot => True
  | _ => False

def Guarded (given : Option Channel) : Trace WireAns → Prop :=
  Each fun c earlier => NeedsMtls c.1 → Secure (latest given earlier)

variable {crates ssl store config facts}
variable {given : Option Channel} {s : Trace WireAns} {α : Type}

theorem guarded_cons {c : Call WireAns} (hs : Guarded given s)
    (hc : NeedsMtls c.1 → Secure (latest given s)) : Guarded given (c::s) := ⟨hc,hs⟩

theorem keeps_plain {p : Wire α} (hp : p.Uses fun o => ¬NeedsMtls o) :
    p.Keeps recorder (Guarded given) :=
  hp.keeps fun o c s x t ho hc hs => by
    obtain ⟨-,rfl⟩ := recorder_eq_some.mp hc
    exact ⟨fun hneeds => absurd hneeds ho,hs⟩

section OnMachine

abbrev machineRecorder : Handler MachineAns (Call WireAns) (Trace WireAns) :=
  fun o => recorder (WireOp.machine o)

theorem always_onMachine {p : Machine α} {I : Trace WireAns → Prop}
    {Q : Except AnyhowError α → Trace WireAns → Prop} :
    (onMachine p).Always recorder I Q s ↔ p.run.Always machineRecorder I Q s :=
  Prog.always_via_op

theorem always_call {o : MachineOp} {I : Trace WireAns → Prop}
    {R : MachineAns o → Trace WireAns → Prop} (hs : I s)
    (hR : ∀ x, I (⟨.machine o,x⟩::s) ∧ R x (⟨.machine o,x⟩::s)) :
    (Prog.op o).Always machineRecorder I R s :=
  ⟨hs,fun c x t hc => by
    obtain ⟨-,rfl⟩ := recorder_eq_some.mp hc
    exact hR x⟩

/-- The builder returns a secure connection, or none. -/
theorem builder_secure (target : String) (identity : AgentIdentityState) (hs : Guarded given s) :
    (onMachine (buildMtlsChannelForTarget config target identity)).Always recorder (Guarded given)
      (fun r t => r = .ok () → Secure (latest given t)) s := by
  rw [always_onMachine]
  unfold buildMtlsChannelForTarget
  refine always_next (P := fun _ _ => True) ?_ (by simp) fun _ s hs _ => ?_
  · rw [IdentityCalls.always_orFail]
    exact always_call hs fun x => ⟨⟨False.elim,hs⟩,⟨False.elim,hs⟩,fun _ _ => trivial⟩
  split
  · exact ⟨hs,by simp⟩
  split
  · exact ⟨hs,by simp⟩
  next hca hidentity =>
  obtain ⟨hcert,hkey⟩ := not_or.mp hidentity
  rw [IdentityCalls.always_orFail]
  refine always_call hs fun x => ⟨⟨False.elim,hs⟩,⟨False.elim,hs⟩,fun hx => ?_⟩
  cases x with
  | error e => simp [Except.mapError] at hx
  | ok _ =>
    exact ⟨_,rfl,normalize_startsWith target,_,_,_,_,rfl,hca,hcert,hkey⟩

theorem resolve_keeps (identity : AgentIdentityState) (current : Option AssignmentCache) :
    (onMachine (resolveAssignment config identity facts current)).Keeps recorder (Guarded given) := by
  intro s hs
  rw [always_onMachine]
  unfold resolveAssignment
  refine always_next (P := fun _ t => Secure (latest given t)) ?_ (by simp) fun _ t ht hsecure => ?_
  · exact (always_onMachine.mp (builder_secure _ identity hs)).mono (fun _ hu => hu)
      fun r _ _ hr a ha => hr (by cases a; exact ha)
  refine always_next (P := fun _ _ => True) ?_ (by simp) fun response u hu _ => ?_
  · rw [IdentityCalls.always_orFail]
    exact always_call ht fun x => ⟨⟨fun _ => hsecure,ht⟩,⟨fun _ => hsecure,ht⟩,fun _ _ => trivial⟩
  · unfold acceptAssignment
    split
    · exact ⟨hu,trivial⟩
    · rw [Fallible.ask_bind_run]
      refine ⟨hu,fun c now v hc => ?_⟩
      obtain ⟨-,rfl⟩ := recorder_eq_some.mp hc
      have hv : Guarded given (⟨.machine .now,now⟩::u) := ⟨False.elim,hu⟩
      dsimp only
      split
      · exact ⟨hv,trivial⟩
      · rw [Fallible.ask_bind_run]
        exact ⟨hv,fun _ never => never.elim⟩

def Enrolls (o : MachineOp) : Prop := ∀ request, o ≠ .resolveRuntimeAssignment request

theorem writes_enrolls (store : IdentityStore) (path : Path) :
    IdentityCalls.Writes Enrolls store path :=
  ⟨by simp [Enrolls],by simp [Enrolls],by simp [Enrolls],by simp [Enrolls],by simp [Enrolls]⟩

theorem bootstrapChannel_enrolls : (buildBootstrapChannel config).run.Uses Enrolls := by
  have hcall {α ε : Type} {p : Prog MachineAns (Except ε α)} {f : ε → AnyhowError}
      (hp : p.Uses Enrolls) : (orFail p f).run.Uses Enrolls := IdentityCalls.uses_orFail hp
  unfold buildBootstrapChannel
  refine uses_bind (.ret _) fun target => ?_
  refine uses_bind (hcall (Prog.uses_op (by simp [Enrolls]))) fun _ => ?_
  split
  · exact hcall (Prog.uses_op (by simp [Enrolls]))
  · exact uses_bind (hcall (Prog.uses_op (by simp [Enrolls]))) fun _ =>
      hcall (Prog.uses_op (by simp [Enrolls]))

theorem ensureIdentity_enrolls : (ensureIdentity ssl store config facts).run.Uses Enrolls := by
  have hload : (IdentityStore.loadIdentity ssl store).run.Uses Enrolls :=
    IdentitySaves.loadIdentity_reads.mono fun o ho => by
      obtain ⟨p,-,rfl⟩ := ho
      simp [Enrolls]
  have husable : (IdentityStore.hasUsableClientCertificate ssl store).Uses Enrolls := by
    unfold IdentityStore.hasUsableClientCertificate
    refine Prog.uses_bind hload fun r => ?_
    cases r with
    | error e => exact .ret _
    | ok state =>
      dsimp only
      unfold IdentityStore.usable
      split
      · exact .ret _
      · cases ssl.certificate state.clientCertPem with
        | none => exact .ret _
        | some cert =>
          refine .call (by simp [Enrolls]) fun now => ?_
          cases now <;> exact .ret _
  have henroll : (bootstrapEnroll ssl store config facts).run.Uses Enrolls := by
    unfold bootstrapEnroll
    split
    · exact .ret _
    refine uses_bind (IdentityCalls.ensurePrivateKey_uses (by simp [Enrolls]) (by simp [Enrolls])
      (writes_enrolls store _)) fun key => ?_
    refine uses_bind (uses_context (IdentityCalls.uses_orFail
      (Prog.uses_op (by simp [Enrolls])))) fun csr => ?_
    refine uses_bind bootstrapChannel_enrolls fun _ => ?_
    refine uses_bind (IdentityCalls.uses_orFail (Prog.uses_op (by simp [Enrolls]))) fun response => ?_
    exact BootstrapTls.acceptEnrollment_uses ssl store response (by simp [Enrolls])
      (writes_enrolls store)
  unfold ensureIdentity
  refine uses_bind (Prog.uses_bind husable fun _ => .ret _) fun usable => ?_
  split
  · exact hload
  · exact henroll

theorem identity_keeps :
    (onMachine (ensureIdentity ssl store config facts)).Keeps recorder (Guarded given) :=
  ensureIdentity_enrolls.keeps_via fun o ho => keeps_plain (.call
    (by cases o <;> simp [Enrolls] at ho <;> simp [NeedsMtls]) .ret)

end OnMachine

section Sessions

variable {identity : AgentIdentityState} {assignment : AssignmentCache} {target streamId : String}

def Talks : Op → Prop
  | .channel _ | .openStream | .spawn .. => False
  | _ => True

theorem talks_keeps {p : Prog Ans α} (hp : p.Uses Talks) :
    (p.via (sessionOp config identity assignment target)).Keeps recorder (Guarded given) :=
  hp.keeps_via fun o ho => by
    cases o <;> simp [Talks] at ho <;>
      exact keeps_plain (.call (by simp [NeedsMtls]) .ret)

theorem inventory_talks (left : ℕ) (last : Option AnyhowError) :
    (Registration.sendHostInventory facts streamId left last).run.Uses Talks := by
  induction left generalizing last with
  | zero => cases last <;> exact .ret _
  | succ left ih =>
    refine .call trivial fun seq => .call trivial fun pools => .call trivial fun now =>
      .call trivial fun r => ?_
    cases r with
    | ok _ => exact .ret _
    | error err =>
      dsimp only
      split
      · exact .call trivial fun _ => ih _
      · exact ih _

theorem step_talks : (sessionStep crates facts streamId ()).Uses Talks := by
  have hmessage (message : Option HypervisorMessage) :
      (Registration.handleServerMessage crates facts streamId message).run.Uses Talks := by
    unfold Registration.handleServerMessage
    rcases message with - | (⟨_,_,_⟩ | ⟨_,_⟩ | command)
    · exact .ret _
    · exact inventory_talks _ _
    · exact .ret _
    · refine uses_bind ((FrameNumbers.commandReply_uses command).mono fun o ho => ?_) fun reply => ?_
      · cases o <;> simp [FrameNumbers.Answering] at ho <;> trivial
      · exact .call trivial fun _ => .call trivial fun _ => .call trivial fun _ => .ret _
  refine Prog.uses_bind (Prog.uses_op trivial) fun event => ?_
  cases event with
  | message body =>
    refine Prog.uses_bind (hmessage body) fun r => ?_
    cases r <;> exact .ret _
  | _ => exact .ret _

theorem heartbeat_keeps (streamId : String) (n : ℕ) :
    (heartbeatTask facts streamId n).Keeps recorder (Guarded given) := by
  have hstep (l : Unit) :
      (heartbeatStep (hostRegistrationFromFacts facts) streamId l).Uses Talks := by
    refine Prog.uses_bind (Prog.uses_op trivial) fun fired => ?_
    cases fired with
    | false => exact .ret _
    | true =>
      refine .call trivial fun seq => .call trivial fun now => .call trivial fun r => ?_
      cases r <;> exact .ret _
  refine (Prog.uses_loop hstep n ()).keeps_via fun o ho => ?_
  cases o <;> simp [Talks] at ho <;> exact keeps_plain (.call (by simp [NeedsMtls]) .ret)

theorem openSession_keeps :
    ((openSession facts target).run.via (sessionOp config identity assignment target)).Keeps
      recorder (Guarded given) := by
  intro s hs
  refine Prog.always_via_call.mpr ((builder_secure target identity hs).mono (fun _ ht => ht) ?_)
  intro r s hs hsecure
  cases r with
  | error e => exact ⟨hs,trivial⟩
  | ok _ =>
    have hstream := hsecure rfl
    refine always_record.mpr ⟨hs,fun now => always_record.mpr ⟨⟨False.elim,hs⟩,fun seq =>
      always_record.mpr ⟨⟨False.elim,False.elim,hs⟩,fun r => ?_⟩⟩⟩
    have hs3 : Guarded given (⟨.session (.send (registerFrame facts (newStreamId facts.agentId now)
        seq)),r⟩::⟨.session .fetchAdd,seq⟩::⟨.session .now,now⟩::s) :=
      ⟨False.elim,False.elim,False.elim,hs⟩
    cases r with
    | error e => exact ⟨hs3,trivial⟩
    | ok _ =>
      refine always_record.mpr ⟨hs3,fun r => ?_⟩
      have hs4 := guarded_cons (c := ⟨.session .openStream,r⟩) hs3 fun _ => hstream
      cases r with
      | error e => exact ⟨hs4,trivial⟩
      | ok _ =>
        refine always_record.mpr ⟨hs4,fun _ => ?_⟩
        have hs5 := guarded_cons (c := ⟨.session (.spawn .heartbeat (newStreamId facts.agentId now)),()⟩)
          hs4 False.elim
        refine Prog.always_via_call.mpr ((builder_secure target identity hs5).mono
          (fun _ ht => ht) ?_)
        intro r t ht hsecure
        cases r with
        | error e => exact ⟨ht,trivial⟩
        | ok _ =>
          have htelemetry := hsecure rfl
          refine always_record.mpr ⟨ht,fun _ => always_record.mpr ⟨⟨fun _ => htelemetry,ht⟩,
            fun _ => ?_⟩⟩
          exact ⟨⟨False.elim,fun _ => htelemetry,ht⟩,trivial⟩

theorem session_keeps (rounds : ℕ) :
    ((runSession crates facts target rounds).via (sessionOp config identity assignment target)).Keeps
      recorder (Guarded given) := by
  unfold runSession
  rw [Prog.via_bind]
  refine Prog.keeps_bind openSession_keeps fun r => ?_
  cases r with
  | error e => exact Prog.keeps_ret _
  | ok streamId =>
    refine talks_keeps (Prog.uses_bind (Prog.uses_loop (fun _ => step_talks) rounds ()) fun r => ?_)
    cases r with
    | inl _ => exact .ret _
    | inr result => exact .call trivial fun _ => .call trivial fun _ => .call trivial fun _ => .ret _

end Sessions

section Records

theorem connectOp_keeps (rounds : ℕ) (o : ConnectOp) :
    (connectOp crates ssl store config facts rounds o).Keeps recorder (Guarded given) := by
  cases o with
  | ensureIdentity => exact identity_keeps
  | resolveAssignment identity current => exact resolve_keeps identity current
  | runSession identity assignment target =>
    refine Prog.keeps_bind (session_keeps rounds) fun r => ?_
    rcases r with _ | (e | _)
    · exact keeps_plain (.call (by simp [NeedsMtls]) fun never => never.elim)
    · exact Prog.keeps_ret _
    · exact Prog.keeps_ret _
  | _ => exact keeps_plain (.call (by simp [NeedsMtls]) .ret)

theorem refreshOp_keeps (identity : AgentIdentityState) (o : RefreshOp) :
    (refreshOp config facts identity o).Keeps recorder (Guarded given) := by
  cases o with
  | resolveAssignment current => exact resolve_keeps identity current
  | _ => exact keeps_plain (.call (by simp [NeedsMtls]) .ret)

/-- A task that was handed a secure connection and makes no other stays on it. -/
theorem telemetry_keeps (hgiven : Secure given) (n : ℕ) :
    (telemetryTask config n).Keeps recorder
      (fun s => Guarded given s ∧ latest given s = given) := by
  have hstep (l : Unit) : (telemetryStep l).Keeps recorder
      (fun s => Guarded given s ∧ latest given s = given) := by
    rintro s ⟨hs,hlatest⟩
    have hsecure : Secure (latest given s) := hlatest.symm ▸ hgiven
    refine always_ask.mpr ⟨⟨hs,hlatest⟩,fun fired => ?_⟩
    cases fired with
    | false => exact ⟨⟨⟨False.elim,hs⟩,hlatest⟩,trivial⟩
    | true =>
      refine always_ask.mpr ⟨⟨⟨False.elim,hs⟩,hlatest⟩,fun built => ?_⟩
      cases built with
      | false => exact ⟨⟨⟨False.elim,False.elim,hs⟩,hlatest⟩,trivial⟩
      | true =>
        exact always_ask.mpr ⟨⟨⟨False.elim,False.elim,hs⟩,hlatest⟩,fun _ =>
          ⟨⟨⟨fun _ => hsecure,False.elim,False.elim,hs⟩,hlatest⟩,trivial⟩⟩
  unfold telemetryTask
  split
  · exact Prog.keeps_ret _
  · exact Prog.keeps_loop hstep n ()

theorem guarded_record (h : TaskRecord crates ssl store config facts given s) : Guarded given s := by
  induction h with
  | connect rounds n choices =>
    have hkeeps : (connectTask crates ssl store config facts rounds n).Keeps recorder (Guarded none) :=
      Prog.keeps_via _ (connectOp_keeps rounds)
    exact ((hkeeps [] trivial).run choices).1
  | @refresh _ _ _ identity assignment target _ _ n choices _ =>
    have hkeeps : (refreshTask config facts identity assignment target n).Keeps recorder
        (Guarded none) := Prog.keeps_via _ (refreshOp_keeps identity)
    exact ((hkeeps [] trivial).run choices).1
  | @heartbeat _ _ _ streamId _ _ n choices _ =>
    exact ((heartbeat_keeps streamId n [] trivial).run choices).1
  | telemetry _ spawned n choices ih =>
    have hgiven := (each_suffix ih spawned).1 trivial
    exact (((telemetry_keeps hgiven n) [] ⟨trivial,rfl⟩).run choices).1.1

theorem needsMtls_of_rpc {o : WireOp} {rpc : Rpc} (ho : rpcOf o = some rpc)
    (hrpc : rpc ≠ .bootstrapEnrollAgent) : NeedsMtls o := by
  unfold rpcOf at ho
  split at ho
  · cases ho
    exact absurd rfl hrpc
  · trivial
  · trivial
  · trivial
  · cases ho

end Records

end Securing

/-- A connection of the builder is one to the endpoint of the target, with the whole
identity. -/
def Dials (config : AppConfig) (target : String) (identity : AgentIdentityState) :
    Call MachineAns → Prop
  | ⟨.connect uri _ tls,_⟩ => uri = normalizeMtlsEndpoint target ∧
      tls = some ⟨serverNameForTarget config target,identity.caBundlePem,
        some (identity.clientCertPem,identity.clientKeyPem)⟩ ∧
      identity.caBundlePem ≠ [] ∧ identity.clientCertPem ≠ [] ∧ identity.clientKeyPem ≠ []
  | _ => True

theorem builder_dials (target : String) (identity : AgentIdentityState) :
    (buildMtlsChannelForTarget config target identity).run.Always recorder
      (Each fun c _ => Dials config target identity c) (fun _ _ => True) [] := by
  unfold buildMtlsChannelForTarget
  refine always_next (P := fun _ _ => True) ?_ (by simp) fun _ s hs _ => ?_
  · rw [IdentityCalls.always_orFail]
    exact always_record.mpr ⟨trivial,fun x => ⟨⟨trivial,trivial⟩,⟨trivial,trivial⟩,fun _ _ => trivial⟩⟩
  split
  · exact ⟨hs,trivial⟩
  split
  · exact ⟨hs,trivial⟩
  next hca hidentity =>
  obtain ⟨hcert,hkey⟩ := not_or.mp hidentity
  rw [IdentityCalls.always_orFail]
  refine always_record.mpr ⟨hs,fun x => ?_⟩
  exact ⟨⟨⟨rfl,rfl,hca,hcert,hkey⟩,hs⟩,⟨⟨rfl,rfl,hca,hcert,hkey⟩,hs⟩,trivial⟩

/-- Runtime endpoints cannot be downgraded: neither by how an address is written nor on the
way to a connection, and no task sends a request but the enrollment without mTLS. -/
structure NoDowngrade : Prop where
  https : ∀ addr, startsWith "https://" (normalizeMtlsEndpoint addr) = true
  idempotent : ∀ addr,
    normalizeMtlsEndpoint (normalizeMtlsEndpoint addr) = normalizeMtlsEndpoint addr
  schemes : ∀ addr, Trimmed addr → Schemeless addr →
    normalizeMtlsEndpoint addr = "https://" ++ addr ∧
    normalizeMtlsEndpoint ("http://" ++ addr) = normalizeMtlsEndpoint addr ∧
    normalizeMtlsEndpoint ("https://" ++ addr) = normalizeMtlsEndpoint addr
  builder : ∀ (target : String) (identity : AgentIdentityState) (choices : List (Call MachineAns)),
    ∀ c ∈ ((buildMtlsChannelForTarget config target identity).run.run recorder choices []).2,
      Dials config target identity c
  rpcs : ∀ given s, TaskRecord crates ssl store config facts given s →
    ∀ c earlier, c::earlier <:+ s → ∀ rpc, rpcOf c.1 = some rpc → rpc ≠ .bootstrapEnrollAgent →
      Secure (latest given earlier)

theorem no_downgrade : NoDowngrade crates ssl store config facts where
  https := normalize_startsWith
  idempotent := endpoint_idem
  schemes addr htrim hnone := by
    rw [normalize_http htrim hnone,normalize_https htrim,normalize_schemeless htrim hnone]
    exact ⟨rfl,rfl,rfl⟩
  builder target identity choices :=
    each_forall.mp ((builder_dials config target identity).run choices).1
  rpcs given s hs c earlier hsuffix rpc hrpc hne :=
    (each_suffix (guarded_record hs) hsuffix).1 (needsMtls_of_rpc hrpc hne)

def enrolledSsl : OpenSsl where
  certificate pem := if pem = [1] then some ⟨100,"Jan  1 00:01:40 1970 GMT",[1]⟩ else none
  publicKey _ := none
  csrPublicKey _ := none

/-- A node that is enrolled asks for its assignment over the connection it has made. -/
theorem resolution_sent : ∃ s c earlier,
    TaskRecord crates enrolledSsl IdentityStore.defaults AppConfig.defaults facts none s ∧
    c::earlier <:+ s ∧ rpcOf c.1 = some .resolveRuntimeAssignment := by
  have hstart := Reaches.start (p := connectTask crates enrolledSsl IdentityStore.defaults
    AppConfig.defaults facts 1 1)
  have hopened := Reaches.answer (Reaches.answer hstart (.ok ())) ()
  have hlive := Reaches.answer hopened false
  have hcert := Reaches.answer (Reaches.answer (Reaches.answer hlive (.ok [1])) (.ok [2])) (.ok [3])
  have husable := Reaches.answer (Reaches.answer hcert (.error ⟨true,"not found"⟩)) (some 0)
  have hloaded := Reaches.answer (Reaches.answer (Reaches.answer husable (.ok [1])) (.ok [2])) (.ok [3])
  have hidentity := Reaches.answer hloaded (.error ⟨true,"not found"⟩)
  have hconnected := Reaches.answer (Reaches.answer hidentity (.ok ())) (.ok ())
  have hsent := Reaches.answer hconnected (.error ⟨.unavailable,"unavailable",[]⟩)
  obtain ⟨choices,hrun⟩ := hsent.exists_run
  have hrecord : TaskRecord crates enrolledSsl IdentityStore.defaults AppConfig.defaults facts none _ :=
    .connect 1 1 choices
  rw [hrun] at hrecord
  exact ⟨_,_,_,hrecord,List.suffix_rfl,rfl⟩

end RuntimeChannels
end KvmAgent
