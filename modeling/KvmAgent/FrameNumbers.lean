import KvmAgent.FrameStream

/-! What each thread of a session keeps to on its own: every frame it sends carries the
number it drew last, and the message loop sends the register frame before all else. -/
namespace KvmAgent
namespace FrameNumbers

open Fallible RustText Registration CommandLedger Session FrameStream Trace

/-- The number a thread has drawn and not yet sent. -/
def inHand : Trace Ans → Option UInt64
  | [] => none
  | ⟨.fetchAdd,v⟩::_ => some v
  | ⟨.send _,_⟩::_ => none
  | _::s => inHand s

def CarriesNumber : Call Ans → Trace Ans → Prop
  | ⟨.send f,_⟩, s => inHand s = some f.seq
  | _, _ => True

def Numbered : Trace Ans → Prop := Each CarriesNumber

def isDelivery : Call Ans → Bool
  | ⟨.send _,.ok ()⟩ => true
  | _ => false

def isDraw : Call Ans → Bool
  | ⟨.fetchAdd,_⟩ => true
  | _ => false

/-- Until a frame is in the channel, a thread sends the register frame only, under the
first number it drew, and starts no task. -/
def Introduces (facts : HostFacts) : Call Ans → Trace Ans → Prop
  | ⟨.send f,_⟩, s => s.any isDelivery = false →
      s.countP isDraw = 1 ∧ ∃ streamId, f = registerFrame facts streamId f.seq
  | ⟨.spawn ..,_⟩, s => s.any isDelivery = true
  | _, _ => True

def Introduced (facts : HostFacts) (s : Trace Ans) : Prop :=
  Each (Introduces facts) s ∧ s.any isDelivery = true

def Quiet (o : Op) : Prop := Aside o ∧ ∀ streamId, o ≠ .spawn .heartbeat streamId

section Programs

attribute [local irreducible] trim

variable {crates : Crates} {facts : HostFacts} {streamId : String}

theorem inHand_aside {c : Call Ans} (hc : Aside c.1) (s : Trace Ans) :
    inHand (c::s) = inHand s := by
  obtain ⟨o,x⟩ := c
  cases o <;> simp [Aside] at hc <;> rfl

theorem numbered_aside {c : Call Ans} (hc : Aside c.1) {s : Trace Ans} (hs : Numbered s) :
    Numbered (c::s) := by
  refine ⟨?_,hs⟩
  obtain ⟨o,x⟩ := c
  cases o <;> simp [Aside] at hc <;> trivial

theorem aside_counts {c : Call Ans} (hc : Aside c.1) : isDelivery c = false ∧ isDraw c = false := by
  obtain ⟨o,x⟩ := c
  cases o <;> simp [Aside] at hc <;> exact ⟨rfl,rfl⟩

theorem keeps_aside {α : Type} {p : Prog Ans α} (hp : p.Uses Aside) :
    p.Keeps recorder Numbered :=
  hp.keeps fun o c s x t ho hc hs => by
    obtain ⟨-,rfl⟩ := recorder_eq_some.mp hc
    exact numbered_aside (c := ⟨o,x⟩) ho hs

theorem always_introduced {α : Type} {p : Prog Ans α} {s : Trace Ans}
    (hs : Introduced facts s) : p.Always recorder (Introduced facts) (fun _ _ => True) s := by
  induction p generalizing s with
  | ret a => exact ⟨hs,trivial⟩
  | call o k ih =>
    refine always_record.mpr ⟨hs,fun x => ih x ⟨⟨?_,hs.1⟩,?_⟩⟩
    · cases o <;> simp [Introduces,hs.2]
    · simp [hs.2]

def Answering : Op → Prop
  | .now | .select .. | .insert _ | .update .. | .execute _ => True
  | _ => False

theorem beginOrGet_uses (commandId commandType payloadJson : String) :
    (beginOrGet crates commandId commandType payloadJson).run.Uses Answering := by
  have hload (site : Statement) : (loadRecord site (trim commandId)).run.Uses Answering :=
    Prog.uses_op trivial
  unfold beginOrGet
  dsimp only
  split
  · exact .ret _
  refine uses_bind (uses_ask trivial) fun now => uses_bind (hload _) fun found => ?_
  cases found with
  | some record =>
    dsimp only
    split <;> exact .ret _
  | none =>
    refine uses_bind (Prog.uses_op trivial) fun _ => uses_bind (hload _) fun inserted => ?_
    cases inserted <;> exact .ret _

theorem commandReply_uses (command : AgentCommand) :
    (commandReply crates command).run.Uses Answering := by
  have hcomplete (status resultJson errorMessage : String) :
      (complete command.commandId status resultJson errorMessage).run.Uses Answering :=
    .call trivial fun _ => Prog.uses_op trivial
  unfold commandReply
  refine uses_bind (beginOrGet_uses _ _ _) fun r => ?_
  cases r with
  | «existing» _ => exact .ret _
  | payloadMismatch _ => exact .ret _
  | new _ =>
    refine .call trivial fun r => ?_
    cases r with
    | ok value => exact uses_bind (hcomplete ..) fun _ => .ret _
    | error err => exact uses_bind (hcomplete ..) fun _ => .ret _

theorem commandReply_quiet (command : AgentCommand) :
    (commandReply crates command).run.Uses Quiet :=
  (commandReply_uses command).mono fun o ho => by
    cases o <;> simp [Answering] at ho <;> simp [Quiet,Aside]

theorem sendReply_numbered (command : AgentCommand) (reply : Reply) :
    (sendReply facts streamId command reply).run.Keeps recorder Numbered := by
  intro s hs
  have hnumber (seq : UInt64) (now : SystemTime) :
      inHand (⟨.now,now⟩::⟨.fetchAdd,seq⟩::s) = some seq := rfl
  have hs' : Each CarriesNumber s := hs
  simp [sendReply,Numbered,CarriesNumber,hs',hnumber,commandResultFrame]

theorem sendHostInventory_numbered (left : ℕ) (last : Option AnyhowError) :
    (sendHostInventory facts streamId left last).run.Keeps recorder Numbered := by
  induction left generalizing last with
  | zero => cases last <;> exact Prog.keeps_ret _
  | succ left ih =>
    intro s hs
    have hnumber (seq : UInt64) (pools : List StoragePool) (now : SystemTime) :
        inHand (⟨.now,now⟩::⟨.discoverStoragePools,pools⟩::⟨.fetchAdd,seq⟩::s) = some seq := rfl
    have hs' : Each CarriesNumber s := hs
    have ih' (last : Option AnyhowError) (t : Trace Ans) (ht : Each CarriesNumber t) :
        (sendHostInventory facts streamId left last).run.Always recorder (Each CarriesNumber)
          (fun _ _ => True) t := ih last t ht
    suffices h : ∀ seq pools now r, _ by
      simpa [sendHostInventory,Numbered,CarriesNumber,hs',hnumber,hostInventoryFrame] using h
    rintro seq pools now (err | ⟨⟩)
    · by_cases hl : left = 0
      · subst hl
        simp [CarriesNumber,hs',hnumber,ih']
      · simp [hl,CarriesNumber,hs',hnumber,ih']
    · simp [CarriesNumber,hs',hnumber]

theorem handleServerMessage_numbered (message : Option HypervisorMessage) :
    (handleServerMessage crates facts streamId message).run.Keeps recorder Numbered := by
  unfold handleServerMessage
  rcases message with - | (⟨_,_,_⟩ | ⟨_,_⟩ | command)
  · exact Prog.keeps_ret _
  · exact sendHostInventory_numbered _ _
  · exact Prog.keeps_ret _
  · exact keeps_bind (keeps_aside ((commandReply_quiet command).mono fun _ h => h.1)) fun reply =>
      sendReply_numbered command reply

theorem sessionStep_numbered : (sessionStep crates facts streamId ()).Keeps recorder Numbered := by
  refine Prog.keeps_bind (keeps_aside (Prog.uses_op (by simp [Aside]))) fun event => ?_
  cases event with
  | message body =>
    refine Prog.keeps_bind (handleServerMessage_numbered body) fun r => ?_
    cases r <;> exact Prog.keeps_ret _
  | _ => exact Prog.keeps_ret _

theorem openSession_numbered (target : String) :
    (openSession facts target).run.Keeps recorder Numbered := by
  refine keeps_bind (keeps_aside (Prog.uses_op (by simp [Aside]))) fun _ => ?_
  refine keeps_bind (keeps_aside (uses_ask (by simp [Aside]))) fun now s hs => ?_
  refine always_record.mpr ⟨hs,fun seq => always_record.mpr ⟨⟨trivial,hs⟩,fun r => ?_⟩⟩
  have hsent : Numbered (⟨.send (registerFrame facts (newStreamId facts.agentId now) seq),r⟩::
      ⟨.fetchAdd,seq⟩::s) := ⟨rfl,trivial,hs⟩
  cases r with
  | error e => exact ⟨hsent,trivial⟩
  | ok _ =>
    refine keeps_aside ?_ _ hsent
    refine uses_bind (Prog.uses_op (by simp [Aside])) fun _ => ?_
    refine uses_bind (uses_ask (by simp [Aside])) fun _ => ?_
    refine uses_bind (Prog.uses_op (by simp [Aside])) fun _ => ?_
    refine uses_bind (uses_ask (by simp [Aside])) fun _ => ?_
    exact uses_bind (uses_ask (by simp [Aside])) fun _ => .ret _

theorem mainThread_numbered (target : String) (rounds : ℕ) :
    (mainThread crates facts target rounds).Keeps recorder Numbered := by
  refine Prog.keeps_bind (Prog.keeps_bind (openSession_numbered target) fun r => ?_)
    fun _ => Prog.keeps_ret _
  cases r with
  | error e => exact Prog.keeps_ret _
  | ok streamId =>
    refine Prog.keeps_bind (Prog.keeps_loop (fun _ => sessionStep_numbered) rounds ()) fun r => ?_
    cases r with
    | inl _ => exact Prog.keeps_ret _
    | inr result =>
      refine keeps_aside ?_
      refine Prog.uses_bind (Prog.uses_op (by simp [Aside])) fun _ => ?_
      refine Prog.uses_bind (Prog.uses_op (by simp [Aside])) fun _ => ?_
      exact Prog.uses_bind (Prog.uses_op (by simp [Aside])) fun _ => .ret _

theorem heartbeatStep_numbered (registration : HostRegistration) :
    (heartbeatStep registration streamId ()).Keeps recorder Numbered := by
  refine Prog.keeps_bind (keeps_aside (Prog.uses_op (by simp [Aside]))) fun fired => ?_
  cases fired with
  | false => exact Prog.keeps_ret _
  | true =>
    intro s hs
    refine always_ask.mpr ⟨hs,fun seq => always_ask.mpr ⟨⟨trivial,hs⟩,fun now =>
      always_ask.mpr ⟨⟨trivial,trivial,hs⟩,fun r => ?_⟩⟩⟩
    cases r <;> exact ⟨⟨rfl,trivial,trivial,hs⟩,trivial⟩

theorem heartbeatThread_numbered (beats : ℕ) :
    (heartbeatThread facts beats streamId).Keeps recorder Numbered :=
  Prog.keeps_bind (Prog.keeps_loop (fun _ => heartbeatStep_numbered _) beats ()) fun _ =>
    Prog.keeps_ret _

theorem openSession_introduces (target : String) :
    (openSession facts target).run.Always recorder (Each (Introduces facts))
      (fun r s => ∀ streamId, r = .ok streamId → Introduced facts s) [] := by
  refine always_record.mpr ⟨trivial,fun r => ?_⟩
  cases r with
  | error e => exact ⟨⟨trivial,trivial⟩,by simp⟩
  | ok _ =>
    refine always_record.mpr ⟨⟨trivial,trivial⟩,fun now => always_record.mpr
      ⟨⟨trivial,trivial,trivial⟩,fun seq => always_record.mpr
      ⟨⟨trivial,trivial,trivial,trivial⟩,fun r => ?_⟩⟩⟩
    have hregister : Each (Introduces facts)
        (⟨.send (registerFrame facts (newStreamId facts.agentId now) seq),r⟩::⟨.fetchAdd,seq⟩::
          ⟨.now,now⟩::[⟨.channel target,.ok ()⟩]) :=
      ⟨fun _ => ⟨rfl,_,rfl⟩,trivial,trivial,trivial,trivial⟩
    cases r with
    | error e => exact ⟨hregister,by simp⟩
    | ok _ => exact (always_introduced ⟨hregister,rfl⟩).mono (fun _ ht => ht.1) fun _ _ ht _ _ _ => ht

theorem mainThread_introduces (target : String) (rounds : ℕ) :
    (mainThread crates facts target rounds).Always recorder (Each (Introduces facts))
      (fun _ _ => True) [] := by
  unfold mainThread runSession
  rw [Prog.bind_assoc]
  refine Prog.always_bind.mpr ((openSession_introduces target).mono (fun _ ht => ht)
    fun r t ht hr => ?_)
  cases r with
  | error e => exact ⟨ht,trivial⟩
  | ok streamId => exact (always_introduced (hr streamId rfl)).mono (fun _ ht => ht.1) (by simp)

end Programs
end FrameNumbers
end KvmAgent
