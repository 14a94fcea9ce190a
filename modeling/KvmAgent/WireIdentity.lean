import KvmAgent.HostProbe
import KvmAgent.NodeSnapshot
import KvmAgent.RuntimeChannels

/-! Who the agent says it is: every request and every frame of every task names the node of the
configuration, whatever name the controlplane answers with. -/
namespace KvmAgent
namespace WireIdentity

open RustText Fallible Machine Bootstrap Registry Session Registration Trace RuntimeChannels HostProbe

/-- The agent and the host that a message of the control stream is from. -/
def sender : AgentMessage → String × String
  | .registerHost body => (body.agentId,body.hostId)
  | .heartbeat body => (body.agentId,body.hostId)
  | .hostInventory body => (body.agentId,body.hostId)
  | .commandResult body => (body.agentId,body.hostId)

def OwnStream (id streamId : String) : Prop := ∃ now, streamId = newStreamId id now

/-- What is sent names the node, and its zone and token are the configured ones. -/
def Names (config : AppConfig) (id : String) : WireOp → Prop
  | .machine (.generateCsr _ commonName) => commonName = "vm-agent:" ++ id
  | .machine (.bootstrapEnrollAgent request) => request.requestedAgentId = id ∧
      request.bootstrapToken = config.agent.bootstrapToken ∧ ¬Blank request.bootstrapToken
  | .machine (.resolveRuntimeAssignment request) =>
      request.agentId = id ∧ request.hostId = id ∧ request.zoneId = config.zoneId
  | .session (.send frame) => sender frame.message = (id,id) ∧ OwnStream id frame.streamId
  | .session (.spawn _ streamId) => OwnStream id streamId
  | _ => True

/-- An enrollment sends a signing request that was made in the name of the node. -/
def Signed (id : String) : Call WireAns → Trace WireAns → Prop
  | ⟨.machine (.bootstrapEnrollAgent request),_⟩, earlier =>
      ∃ key, ⟨.machine (.generateCsr key ("vm-agent:" ++ id)),.ok request.csrPem⟩ ∈ earlier
  | _, _ => True

def Speaks (config : AppConfig) (id : String) : Trace WireAns → Prop :=
  Each fun c earlier => Names config id c.1 ∧ Signed id c earlier

def Plain (config : AppConfig) (id : String) (o : WireOp) : Prop :=
  Names config id o ∧ ∀ request, o ≠ .machine (.bootstrapEnrollAgent request)

variable {crates : Crates} {ssl : OpenSsl} {store : IdentityStore} {config : AppConfig}
variable {facts : HostFacts} {id : String} {s : Trace WireAns} {α : Type}

section Plain

theorem speaks_cons {o : WireOp} {x : WireAns o} (ho : Plain config id o) (hs : Speaks config id s) :
    Speaks config id (⟨o,x⟩::s) := by
  refine ⟨⟨ho.1,?_⟩,hs⟩
  unfold Signed
  split
  next heq =>
    cases heq
    exact absurd rfl (ho.2 _)
  · trivial

theorem plain_keeps {p : Wire α} (hp : p.Uses (Plain config id)) :
    p.Keeps recorder (Speaks config id) := uses_keeps hp fun _ _ _ ho hs => speaks_cons ho hs

section OnMachine

variable {I : Trace WireAns → Prop}

theorem machine_uses_keeps {p : Prog MachineAns α} {P : MachineOp → Prop} (hp : p.Uses P)
    (hI : ∀ o (x : MachineAns o) s, P o → I s → I (⟨.machine o,x⟩::s)) : p.Keeps machineRecorder I :=
  hp.keeps fun o c s x t ho hc hs => by
    obtain ⟨-,rfl⟩ := recorder_eq_some.mp hc
    exact hI o x s ho hs

theorem onMachine_keeps {p : Machine α} (hp : p.run.Keeps machineRecorder I) :
    (onMachine p).Keeps recorder I := fun s hs => always_onMachine.mpr (hp s hs)

end OnMachine

abbrev PlainOp (config : AppConfig) (id : String) (o : MachineOp) : Prop :=
  Plain config id (.machine o)

theorem machine_keeps {p : Prog MachineAns α} (hp : p.Uses (PlainOp config id)) :
    p.Keeps machineRecorder (Speaks config id) :=
  machine_uses_keeps hp fun _ _ _ ho hs => speaks_cons ho hs

end Plain

section Enrolling

attribute [local irreducible] trim

variable {P : MachineOp → Prop}

theorem loadIdentity_uses (hread : ∀ p, P (.read p)) : (IdentityStore.loadIdentity ssl store).run.Uses P :=
  IdentitySaves.loadIdentity_reads.mono fun o ho => by
    obtain ⟨p,-,rfl⟩ := ho
    exact hread p

theorem usable_uses (hread : ∀ p, P (.read p)) (hnow : P .asn1Now) :
    (IdentityStore.hasUsableClientCertificate ssl store).Uses P := by
  unfold IdentityStore.hasUsableClientCertificate
  refine Prog.uses_bind (loadIdentity_uses hread) fun r => ?_
  cases r with
  | error e => exact .ret _
  | ok state =>
    dsimp only
    unfold IdentityStore.usable
    split
    · exact .ret _
    · cases ssl.certificate state.clientCertPem with
      | none => exact .ret _
      | some cert =>
        refine .call hnow fun now => ?_
        cases now <;> exact .ret _

theorem bootstrapChannel_uses (hread : ∀ p, P (.read p)) (hendpoint : ∀ uri, P (.endpoint uri))
    (hconnect : ∀ uri timeout tls, P (.connect uri timeout tls)) :
    (buildBootstrapChannel config).run.Uses P := by
  have hcall {α ε : Type} {p : Prog MachineAns (Except ε α)} {f : ε → AnyhowError} (hp : p.Uses P) :
      (orFail p f).run.Uses P := IdentityCalls.uses_orFail hp
  unfold buildBootstrapChannel
  refine uses_bind (.ret _) fun target => ?_
  refine uses_bind (hcall (Prog.uses_op (hendpoint _))) fun _ => ?_
  split
  · exact hcall (Prog.uses_op (hconnect _ _ _))
  · exact uses_bind (hcall (Prog.uses_op (hread _))) fun _ => hcall (Prog.uses_op (hconnect _ _ _))

theorem mtlsChannel_uses (hendpoint : ∀ uri, P (.endpoint uri))
    (hconnect : ∀ uri timeout tls, P (.connect uri timeout tls)) (target : String)
    (identity : AgentIdentityState) : (buildMtlsChannelForTarget config target identity).run.Uses P := by
  have hcall {α ε : Type} {p : Prog MachineAns (Except ε α)} {f : ε → AnyhowError} (hp : p.Uses P) :
      (orFail p f).run.Uses P := IdentityCalls.uses_orFail hp
  unfold buildMtlsChannelForTarget
  refine uses_bind (hcall (Prog.uses_op (hendpoint _))) fun _ => ?_
  split
  · exact .ret _
  split
  · exact .ret _
  · exact hcall (Prog.uses_op (hconnect _ _ _))

theorem resolveAssignment_uses (hendpoint : ∀ uri, P (.endpoint uri))
    (hconnect : ∀ uri timeout tls, P (.connect uri timeout tls)) (hnow : P .now) (hpanic : P .panic)
    (hresolve : ∀ epoch dpId,
      P (.resolveRuntimeAssignment ⟨facts.agentId,facts.hostId,config.zoneId,epoch,dpId⟩))
    (identity : AgentIdentityState) (current : Option AssignmentCache) :
    (resolveAssignment config identity facts current).run.Uses P := by
  unfold resolveAssignment
  refine uses_bind (mtlsChannel_uses hendpoint hconnect _ identity) fun _ => ?_
  refine uses_bind (IdentityCalls.uses_orFail (Prog.uses_op (hresolve _ _))) fun response => ?_
  unfold acceptAssignment
  split
  · exact .ret _
  · rw [Fallible.ask_bind_run]
    refine .call hnow fun now => ?_
    split
    · exact .ret _
    · rw [Fallible.ask_bind_run]
      exact .call hpanic fun never => never.elim

theorem plain_machine {o : MachineOp} (ho : Names config id (.machine o))
    (hne : ∀ request, o ≠ .bootstrapEnrollAgent request) : PlainOp config id o :=
  ⟨ho,fun request h => hne request (by cases h; rfl)⟩

theorem writes_plain (path : Path) : IdentityCalls.Writes (PlainOp config id) store path where
  createDirAll _ := plain_machine trivial (by simp)
  create := plain_machine trivial (by simp)
  write _ := plain_machine trivial (by simp)
  setPermissions := plain_machine trivial (by simp)
  rename := plain_machine trivial (by simp)

/-- The enrollment asks for the name of the node, and takes none from the answer. -/
theorem bootstrapEnroll_speaks (store : IdentityStore) (facts : HostFacts) :
    (bootstrapEnroll ssl store config facts).run.Keeps machineRecorder (Speaks config facts.agentId) := by
  have hread (p : Path) : PlainOp config facts.agentId (.read p) := plain_machine trivial (by simp)
  intro s hs
  unfold bootstrapEnroll
  split
  · exact ⟨hs,trivial⟩
  next htoken =>
  refine always_next (P := fun _ _ => True) ?_ (by simp) fun key s hs _ => ?_
  · have hkey : (IdentityStore.ensurePrivateKey store).run.Uses (PlainOp config facts.agentId) :=
      IdentityCalls.ensurePrivateKey_uses (hread _) (plain_machine trivial (by simp)) (writes_plain _)
    exact (machine_keeps hkey s hs).mono (fun _ ht => ht) fun _ _ _ _ _ _ => trivial
  refine always_next (P := fun csrPem t =>
    ⟨.machine (.generateCsr key ("vm-agent:" ++ facts.agentId)),.ok csrPem⟩ ∈ t) ?_ (by simp)
    fun csrPem s hs hcsr => ?_
  · refine IdentityCalls.always_context ?_
    unfold IdentityStore.generateCsr
    rw [IdentityCalls.always_orFail]
    have hplain : PlainOp config facts.agentId (.generateCsr key ("vm-agent:" ++ facts.agentId)) :=
      plain_machine rfl (by simp)
    refine always_call hs fun x => ?_
    have hnext := speaks_cons (x := x) hplain hs
    refine ⟨hnext,hnext,hnext,fun csrPem hx => ?_⟩
    cases x with
    | error e => simp [Except.mapError] at hx
    | ok pem =>
      cases hx
      exact List.mem_cons_self
  refine always_next (P := fun _ t =>
    ⟨.machine (.generateCsr key ("vm-agent:" ++ facts.agentId)),.ok csrPem⟩ ∈ t) ?_ (by simp)
    fun _ s hs hcsr => ?_
  · have hchannel : (buildBootstrapChannel config).run.Uses (PlainOp config facts.agentId) :=
      bootstrapChannel_uses hread (fun _ => plain_machine trivial (by simp))
        fun _ _ _ => plain_machine trivial (by simp)
    have hmem : (buildBootstrapChannel config).run.Keeps machineRecorder fun t : Trace WireAns =>
        ⟨.machine (.generateCsr key ("vm-agent:" ++ facts.agentId)),.ok csrPem⟩ ∈ t :=
      hchannel.keeps fun o c s x t _ hc hs => by
        obtain ⟨-,rfl⟩ := recorder_eq_some.mp hc
        exact List.mem_cons_of_mem _ hs
    refine ((machine_keeps hchannel s hs).and (hmem s hcsr)).mono (fun _ ht => ht.1) ?_
    exact fun _ t ht _ _ _ => ht.2
  refine always_next (P := fun _ _ => True) ?_ (by simp) fun response s hs _ => ?_
  · rw [IdentityCalls.always_orFail]
    refine always_call hs fun x => ?_
    have hnext : Speaks config facts.agentId
        (⟨.machine (.bootstrapEnrollAgent (enrollRequest config facts csrPem)),x⟩::s) :=
      ⟨⟨⟨rfl,rfl,htoken⟩,key,hcsr⟩,hs⟩
    exact ⟨hnext,hnext,fun _ _ => trivial⟩
  · exact machine_keeps (BootstrapTls.acceptEnrollment_uses ssl store response hread writes_plain) s hs

theorem ensureIdentity_speaks (ssl : OpenSsl) (store : IdentityStore) (facts : HostFacts) :
    (onMachine (ensureIdentity ssl store config facts)).Keeps recorder (Speaks config facts.agentId) := by
  have hread (p : Path) : PlainOp config facts.agentId (.read p) := plain_machine trivial (by simp)
  refine onMachine_keeps ?_
  unfold ensureIdentity
  refine Fallible.keeps_bind ?_ fun usable => ?_
  · exact machine_keeps (Prog.uses_bind (usable_uses hread (plain_machine trivial (by simp)))
      fun _ => .ret _)
  split
  · exact machine_keeps (loadIdentity_uses hread)
  · exact bootstrapEnroll_speaks store facts

theorem resolveAssignment_speaks (hid : facts.hostId = facts.agentId) (identity : AgentIdentityState)
    (current : Option AssignmentCache) :
    (onMachine (resolveAssignment config identity facts current)).Keeps recorder
      (Speaks config facts.agentId) := by
  have hplain {o : MachineOp} (ho : Names config facts.agentId (.machine o))
      (hne : ∀ request, o ≠ .bootstrapEnrollAgent request) : PlainOp config facts.agentId o :=
    plain_machine ho hne
  refine onMachine_keeps (machine_keeps ?_)
  exact resolveAssignment_uses (fun _ => hplain trivial (by simp))
    (fun _ _ _ => hplain trivial (by simp)) (hplain trivial (by simp)) (hplain trivial (by simp))
    (fun _ _ => hplain ⟨rfl,hid,rfl⟩ (by simp)) identity current

end Enrolling

section Sessions

variable {identity : AgentIdentityState} {assignment : AssignmentCache} {target streamId : String}

abbrev SessionOp (config : AppConfig) (id : String) (o : Op) : Prop := Names config id (.session o)

theorem sessionOp_keeps (o : Op) (ho : SessionOp config id o) :
    (sessionOp config identity assignment target o).Keeps recorder (Speaks config id) := by
  cases o with
  | channel addr =>
    exact onMachine_keeps (machine_keeps (mtlsChannel_uses (fun _ => plain_machine trivial (by simp))
      (fun _ _ _ => plain_machine trivial (by simp)) addr identity))
  | spawn task streamId =>
    cases task with
    | refresh => exact plain_keeps (.call ⟨trivial,by simp⟩ .ret)
    | _ => exact plain_keeps (.call ⟨ho,by simp⟩ .ret)
  | _ => exact plain_keeps (.call ⟨ho,by simp⟩ .ret)

theorem always_said {o : Op} {k : Ans o → Prog Ans α} {Q : α → Trace WireAns → Prop}
    (ho : SessionOp config id o) (hs : Speaks config id s)
    (hk : ∀ x t, Speaks config id t →
      ((k x).via (sessionOp config identity assignment target)).Always recorder
        (Speaks config id) Q t) :
    ((Prog.call o k).via (sessionOp config identity assignment target)).Always recorder
      (Speaks config id) Q s :=
  Prog.always_via_call.mpr ((sessionOp_keeps o ho s hs).mono (fun _ ht => ht) fun x t ht _ => hk x t ht)

theorem openSession_speaks (hid : facts.hostId = facts.agentId)
    (hs : Speaks config facts.agentId s) :
    ((openSession facts target).run.via (sessionOp config identity assignment target)).Always
      recorder (Speaks config facts.agentId)
      (fun r _ => ∀ streamId, r = .ok streamId → OwnStream facts.agentId streamId) s := by
  refine always_said trivial hs fun r s hs => ?_
  cases r with
  | error e => exact ⟨hs,by simp⟩
  | ok _ =>
    refine always_said trivial hs fun now s hs => always_said trivial hs fun seq s hs => ?_
    have hown : OwnStream facts.agentId (newStreamId facts.agentId now) := ⟨now,rfl⟩
    have hfrom : sender (registerFrame facts (newStreamId facts.agentId now) seq).message =
        (facts.agentId,facts.agentId) := congrArg (facts.agentId,·) hid
    refine always_said ⟨hfrom,hown⟩ hs fun r s hs => ?_
    cases r with
    | error e => exact ⟨hs,by simp⟩
    | ok _ =>
      refine always_said trivial hs fun r s hs => ?_
      cases r with
      | error e => exact ⟨hs,by simp⟩
      | ok _ =>
        refine always_said hown hs fun _ s hs => always_said trivial hs fun r s hs => ?_
        cases r with
        | error e => exact ⟨hs,by simp⟩
        | ok _ =>
          refine always_said hown hs fun _ s hs => always_said hown hs fun _ s hs => ⟨hs,?_⟩
          intro streamId hr
          cases hr
          exact hown

theorem inventory_names (hid : facts.hostId = facts.agentId) (hown : OwnStream facts.agentId streamId)
    (left : ℕ) (last : Option AnyhowError) :
    (sendHostInventory facts streamId left last).run.Uses (SessionOp config facts.agentId) := by
  induction left generalizing last with
  | zero => cases last <;> exact .ret _
  | succ left ih =>
    refine .call trivial fun seq => .call trivial fun pools => .call trivial fun now => ?_
    refine .call ⟨congrArg (facts.agentId,·) hid,hown⟩ fun r => ?_
    cases r with
    | ok _ => exact .ret _
    | error err =>
      dsimp only
      split
      · exact .call trivial fun _ => ih _
      · exact ih _

/-- Whatever the server sends, and under whatever name, the answer is the node's. -/
theorem message_names (hid : facts.hostId = facts.agentId) (hown : OwnStream facts.agentId streamId)
    (message : Option HypervisorMessage) :
    (handleServerMessage crates facts streamId message).run.Uses
      (SessionOp config facts.agentId) := by
  unfold handleServerMessage
  rcases message with - | (⟨_,_,_⟩ | ⟨_,_⟩ | command)
  · exact .ret _
  · exact inventory_names hid hown _ _
  · exact .ret _
  · refine uses_bind ((FrameNumbers.commandReply_uses command).mono fun o ho => ?_) fun reply => ?_
    · cases o <;> simp [FrameNumbers.Answering] at ho <;> trivial
    · refine .call trivial fun seq => .call trivial fun now => ?_
      exact .call ⟨congrArg (facts.agentId,·) hid,hown⟩ fun _ => .ret _

theorem session_speaks (hid : facts.hostId = facts.agentId) (rounds : ℕ) :
    ((runSession crates facts target rounds).via (sessionOp config identity assignment target)).Keeps
      recorder (Speaks config facts.agentId) := by
  intro s hs
  unfold runSession
  rw [Prog.via_bind]
  refine Prog.always_bind.mpr ((openSession_speaks hid hs).mono (fun _ ht => ht) ?_)
  intro r s hs hstream
  cases r with
  | error e => exact ⟨hs,trivial⟩
  | ok streamId =>
    have hown := hstream streamId rfl
    have hstep (l : Unit) :
        (sessionStep crates facts streamId l).Uses (SessionOp config facts.agentId) := by
      refine Prog.uses_bind (Prog.uses_op trivial) fun event => ?_
      cases event with
      | message body =>
        refine Prog.uses_bind (message_names hid hown body) fun r => ?_
        cases r <;> exact .ret _
      | _ => exact .ret _
    refine (Prog.uses_bind (Prog.uses_loop hstep rounds ()) fun r => ?_).keeps_via sessionOp_keeps s hs
    cases r with
    | inl _ => exact .ret _
    | inr result => exact .call trivial fun _ => .call trivial fun _ => .call trivial fun _ => .ret _

end Sessions

section Tasks

attribute [local irreducible] trim

theorem connectOp_speaks (hid : facts.hostId = facts.agentId) (rounds : ℕ) (o : ConnectOp) :
    (connectOp crates ssl store config facts rounds o).Keeps recorder
      (Speaks config facts.agentId) := by
  cases o with
  | ensureIdentity => exact ensureIdentity_speaks ssl store facts
  | resolveAssignment identity current => exact resolveAssignment_speaks hid identity current
  | runSession identity assignment target =>
    refine Prog.keeps_bind (session_speaks hid rounds) fun r => ?_
    rcases r with _ | (e | _)
    · exact plain_keeps (.call ⟨trivial,by simp⟩ fun never => never.elim)
    · exact Prog.keeps_ret _
    · exact Prog.keeps_ret _
  | _ => exact plain_keeps (.call ⟨trivial,by simp⟩ .ret)

theorem refreshOp_speaks (hid : facts.hostId = facts.agentId) (identity : AgentIdentityState)
    (o : RefreshOp) : (refreshOp config facts identity o).Keeps recorder
      (Speaks config facts.agentId) := by
  cases o with
  | resolveAssignment current => exact resolveAssignment_speaks hid identity current
  | _ => exact plain_keeps (.call ⟨trivial,by simp⟩ .ret)

theorem heartbeat_speaks {streamId : String} (hid : facts.hostId = facts.agentId)
    (hown : OwnStream facts.agentId streamId) (n : ℕ) :
    (heartbeatTask facts streamId n).Keeps recorder (Speaks config facts.agentId) := by
  have hstep (l : Unit) : (heartbeatStep (hostRegistrationFromFacts facts) streamId l).Uses
      (SessionOp config facts.agentId) := by
    refine Prog.uses_bind (Prog.uses_op trivial) fun fired => ?_
    cases fired with
    | false => exact .ret _
    | true =>
      refine .call trivial fun seq => .call trivial fun now => ?_
      refine .call ⟨congrArg (facts.agentId,·) hid,hown⟩ fun r => ?_
      cases r <;> exact .ret _
  exact (Prog.uses_loop hstep n ()).keeps_via fun o ho => plain_keeps (.call ⟨ho,by simp⟩ .ret)

theorem telemetry_speaks (n : ℕ) : (telemetryTask config n).Keeps recorder (Speaks config id) := by
  refine plain_keeps ?_
  unfold telemetryTask
  split
  · exact .ret _
  refine Prog.uses_loop (fun _ => .call ⟨trivial,by simp⟩ fun fired => ?_) n ()
  cases fired with
  | false => exact .ret _
  | true =>
    refine .call ⟨trivial,by simp⟩ fun built => ?_
    cases built with
    | false => exact .ret _
    | true => exact .call ⟨trivial,by simp⟩ fun _ => .ret _

/-- Every task speaks as the node, in whatever order the tasks are started. -/
theorem record_speaks (hid : facts.hostId = facts.agentId) {given : Option Channel}
    (h : TaskRecord crates ssl store config facts given s) : Speaks config facts.agentId s := by
  induction h with
  | connect rounds n choices =>
    have hkeeps : (connectTask crates ssl store config facts rounds n).Keeps recorder
        (Speaks config facts.agentId) := Prog.keeps_via _ (connectOp_speaks hid rounds)
    exact ((hkeeps [] trivial).run choices).1
  | @refresh _ _ _ identity assignment target _ _ n choices _ =>
    have hkeeps : (refreshTask config facts identity assignment target n).Keeps recorder
        (Speaks config facts.agentId) := Prog.keeps_via _ (refreshOp_speaks hid identity)
    exact ((hkeeps [] trivial).run choices).1
  | @heartbeat _ _ _ streamId _ spawned n choices ih =>
    -- the stream is the one the session opened and handed on
    have hown : OwnStream facts.agentId streamId := (each_suffix ih spawned).1.1
    have hkeeps : (heartbeatTask facts streamId n).Keeps recorder (Speaks config facts.agentId) :=
      heartbeat_speaks hid hown n
    exact ((hkeeps [] trivial).run choices).1
  | telemetry _ _ n choices _ =>
    have hkeeps : (telemetryTask config n).Keeps recorder (Speaks config facts.agentId) :=
      telemetry_speaks n
    exact ((hkeeps [] trivial).run choices).1

end Tasks

section Facts

/-- Whatever the host answers, the facts are of the node of the configuration. -/
theorem facts_named (config : Configuration) : Finds (collectHostFacts config) fun facts _ =>
    facts.agentId = config.app.nodeId ∧ facts.hostId = config.app.nodeId :=
  finds_skip fun _ => finds_skip fun _ => finds_skip fun _ => finds_skip fun _ => finds_skip fun _ =>
    finds_skip fun _ => finds_skip fun _ => finds_skip fun _ => finds_skip fun _ =>
      finds_ret fun _ => ⟨rfl,rfl⟩

def Signs (facts : HostFacts) (zone : String)
    (item : NodeSnapshot.PushHypervisorTelemetrySnapshotRequest) : Prop :=
  item.agentId = facts.agentId ∧ item.nodeId = facts.hostId ∧ item.zone = trim zone

theorem buildSnapshot_signs (toLowercase : String → String) (zone : String)
    (last : Telemetry.Baselines) : Finds (NodeSnapshot.buildSnapshot toLowercase facts zone last)
      fun r _ => Signs facts zone r.1 :=
  finds_skip fun _ => finds_skip fun _ => finds_skip fun _ => finds_skip fun _ => finds_skip fun _ =>
    finds_ret fun _ => ⟨rfl,rfl,rfl⟩

theorem snapshots_sign (toLowercase : String → String) (facts : HostFacts) (zone : String) (n : ℕ)
    (choices : List (Call NodeSnapshot.TelemetryAns)) :
    NodeSnapshot.Pushes (fun item _ => Signs facts zone item)
      ((NodeSnapshot.runTelemetryLoop toLowercase facts zone n).run recorder choices []).2 :=
  (NodeSnapshot.kept_of_builds (R := fun _ _ => True) (finds_skip fun _ => finds_skip fun _ =>
    finds_skip fun _ => finds_skip fun _ => finds_ret fun _ _ => trivial)
    (fun last _ _ => (buildSnapshot_signs toLowercase zone last).mono fun _ _ h _ => ⟨h,fun _ => trivial⟩)
    n choices).1

end Facts

variable (crates ssl store)

/-- With these facts every task speaks as the node of the configuration and in its zone, and the
telemetry is the node's. -/
structure OneName (config : Configuration) (facts : HostFacts) : Prop where
  tasks : ∀ given s, TaskRecord crates ssl store config.agentPart facts given s →
    Speaks config.agentPart config.app.nodeId s
  telemetry : ∀ toLowercase n choices item r, ⟨.pushTelemetrySnapshot item,r⟩ ∈
    ((NodeSnapshot.runTelemetryLoop toLowercase facts config.app.zoneId n).run recorder choices []).2 →
    item.agentId = config.app.nodeId ∧ item.nodeId = config.app.nodeId ∧
      item.zone = trim config.app.zoneId

/-- From the configuration on, and whatever the host, the controlplane and the commands say, the
agent has one name. -/
theorem one_name (config : Configuration) : (collectHostFacts config).Always recorder (fun _ => True)
    (fun facts _ => OneName crates ssl store config facts) [] := by
  refine (facts_named config).always.mono (fun _ _ => trivial) fun facts _ _ h => ?_
  obtain ⟨hagentId,hhostId⟩ := h
  have hid : facts.hostId = facts.agentId := hhostId.trans hagentId.symm
  refine ⟨fun given s hs => hagentId ▸ record_speaks hid hs,?_⟩
  intro toLowercase n choices item r hitem
  obtain ⟨later,earlier,hrecord⟩ := List.append_of_mem hitem
  have hpushes := snapshots_sign toLowercase facts config.app.zoneId n choices
  obtain ⟨hagent,hnode,hzone⟩ := (each_suffix hpushes ⟨later,hrecord.symm⟩).1 item rfl
  exact ⟨hagent.trans hagentId,hnode.trans hhostId,hzone⟩

end WireIdentity
end KvmAgent
