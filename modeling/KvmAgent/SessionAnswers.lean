import KvmAgent.FrameCounts

/-! The conversation of a session: what the message loop says, against what the server has
asked of it. -/
namespace KvmAgent
namespace SessionAnswers

open Fallible Registration Session FrameStream FrameNumbers FrameCounts Trace

/-- The messages a message loop has received that call for an answer, in their order; an
acknowledged heartbeat and a frame without a body are only logged. -/
def asked : Trace Ans → List HypervisorMessage
  | [] => []
  | ⟨.sessionEvent,.message (some (.heartbeatAck ..))⟩::s => asked s
  | ⟨.sessionEvent,.message (some m)⟩::s => asked s ++ [m]
  | _::s => asked s

def delivered : Trace Ans → List AgentToHypervisor
  | [] => []
  | ⟨.send f,.ok ()⟩::s => delivered s ++ [f]
  | _::s => delivered s

/-- What a frame answers: an acknowledged registration is answered with the inventory of
the host, a command with its result. -/
inductive Answers (facts : HostFacts) (streamId : String) :
    HypervisorMessage → AgentToHypervisor → Prop
  | inventory {hostId status nodeId : String} (seq : UInt64) (pools : List StoragePool)
    (now : SystemTime) : Answers facts streamId (.registerAck hostId status nodeId)
      (hostInventoryFrame facts streamId seq pools now)
  | result (command : AgentCommand) (reply : Reply) (seq : UInt64) (now : SystemTime) :
    Answers facts streamId (.command command)
      (commandResultFrame facts streamId command reply seq now)

/-- The host is registered, and then each message is answered by one frame, in order. -/
def Conversation (facts : HostFacts) (streamId : String) (asked : List HypervisorMessage)
    (said : List AgentToHypervisor) : Prop :=
  ∃ seq answers, said = registerFrame facts streamId seq::answers ∧
    List.Forall₂ (Answers facts streamId) asked answers

def Settled (facts : HostFacts) (streamId : String) (s : Trace Ans) : Prop :=
  Conversation facts streamId (asked s) (delivered s)

def Owing (facts : HostFacts) (streamId : String) (m : HypervisorMessage) (s : Trace Ans) : Prop :=
  ∃ earlier, asked s = earlier ++ [m] ∧ Conversation facts streamId earlier (delivered s)

def Silent (s : Trace Ans) : Prop := asked s = [] ∧ delivered s = []

/-- The loop waits for the next message only when it owes nothing. -/
def TakesTurns (facts : HostFacts) : Call Ans → Trace Ans → Prop
  | ⟨.sessionEvent,_⟩, s => ∃ streamId, Settled facts streamId s
  | _, _ => True

structure Converses (facts : HostFacts) (s : Trace Ans) : Prop where
  turns : Each (TakesTurns facts) s
  stage : Silent s ∨ ∃ streamId, Settled facts streamId s ∨ ∃ m, Owing facts streamId m s

def Mute (o : Op) : Prop := o ≠ .sessionEvent ∧ ∀ f, o ≠ .send f

section Talk

variable {crates : Crates} {facts : HostFacts} {streamId : String} {m : HypervisorMessage}
  {f : AgentToHypervisor} {s : Trace Ans} {c : Call Ans}

theorem Conversation.answer {earlier : List HypervisorMessage} {said : List AgentToHypervisor}
    (h : Conversation facts streamId earlier said) (hf : Answers facts streamId m f) :
    Conversation facts streamId (earlier ++ [m]) (said ++ [f]) := by
  obtain ⟨seq,answers,rfl,hall⟩ := h
  exact ⟨seq,answers ++ [f],rfl,List.rel_append hall (.cons hf .nil)⟩

theorem asked_mute (hc : Mute c.1) : asked (c::s) = asked s := by
  obtain ⟨o,x⟩ := c
  cases o <;> simp [Mute] at hc <;> rfl

theorem delivered_mute (hc : Mute c.1) : delivered (c::s) = delivered s := by
  obtain ⟨o,x⟩ := c
  cases o <;> simp [Mute] at hc <;> rfl

theorem takesTurns_mute (hc : Mute c.1) : TakesTurns facts c s := by
  obtain ⟨o,x⟩ := c
  cases o <;> simp [Mute] at hc <;> trivial

theorem owing_mute (hc : Mute c.1) (hs : Owing facts streamId m s) :
    Owing facts streamId m (c::s) := by
  rwa [Owing,asked_mute hc,delivered_mute hc]

theorem settled_mute (hc : Mute c.1) (hs : Settled facts streamId s) :
    Settled facts streamId (c::s) := by
  rwa [Settled,asked_mute hc,delivered_mute hc]

theorem silent_mute (hc : Mute c.1) (hs : Silent s) : Silent (c::s) := by
  rwa [Silent,asked_mute hc,delivered_mute hc]

theorem owing_send (hs : Owing facts streamId m s) (hf : Answers facts streamId m f)
    (r : Except AnyhowError Unit) : match r with
      | .ok () => Settled facts streamId (⟨.send f,r⟩::s)
      | .error _ => Owing facts streamId m (⟨.send f,r⟩::s) := by
  obtain ⟨earlier,hasked,h⟩ := hs
  cases r with
  | error e => exact ⟨earlier,hasked,h⟩
  | ok _ =>
    have hanswered := h.answer hf
    rwa [← hasked] at hanswered

theorem Converses.mute (hc : Mute c.1) (hs : Converses facts s) : Converses facts (c::s) where
  turns := ⟨takesTurns_mute hc,hs.turns⟩
  stage := by
    rcases hs.stage with h | ⟨streamId,h | ⟨m,h⟩⟩
    · exact .inl (silent_mute hc h)
    · exact .inr ⟨streamId,.inl (settled_mute hc h)⟩
    · exact .inr ⟨streamId,.inr ⟨m,owing_mute hc h⟩⟩

theorem mute_keeps {α : Type} {p : Prog Ans α} (hp : p.Uses Mute) :
    p.Keeps recorder (Converses facts) :=
  hp.keeps fun o c s x t ho hc hs => by
    obtain ⟨-,rfl⟩ := recorder_eq_some.mp hc
    exact hs.mute (c := ⟨o,x⟩) ho

/-- What a program owes that answers `m`. -/
def Answering (facts : HostFacts) (streamId : String) (m : HypervisorMessage)
    (p : Prog Ans (Except AnyhowError Unit)) : Prop :=
  ∀ s, Each (TakesTurns facts) s → Owing facts streamId m s →
    p.Always recorder (Converses facts)
      (fun r t => r = .ok () → Settled facts streamId t) s

theorem converses_owing (hturns : Each (TakesTurns facts) s) (h : Owing facts streamId m s) :
    Converses facts s :=
  ⟨hturns,.inr ⟨streamId,.inr ⟨m,h⟩⟩⟩

theorem converses_settled (h : Settled facts streamId s) (hturns : Each (TakesTurns facts) s) :
    Converses facts s :=
  ⟨hturns,.inr ⟨streamId,.inl h⟩⟩

theorem answering_mute {o : Op} {k : Ans o → Prog Ans (Except AnyhowError Unit)} (ho : Mute o)
    (hk : ∀ x, Answering facts streamId m (k x)) : Answering facts streamId m (.call o k) :=
  fun _ hturns hs => always_record.mpr ⟨converses_owing hturns hs,fun x =>
    hk x _ ⟨takesTurns_mute (c := ⟨o,x⟩) ho,hturns⟩ (owing_mute (c := ⟨o,x⟩) ho hs)⟩

theorem answering_error (e : AnyhowError) : Answering facts streamId m (.ret (.error e)) :=
  fun _ hturns hs => ⟨converses_owing hturns hs,by simp⟩

theorem answering_send {k : Except AnyhowError Unit → Prog Ans (Except AnyhowError Unit)}
    (hf : Answers facts streamId m f) (hok : k (.ok ()) = .ret (.ok ()))
    (herr : ∀ e, Answering facts streamId m (k (.error e))) :
    Answering facts streamId m (.call (.send f) k) := by
  intro s hturns hs
  refine always_record.mpr ⟨converses_owing hturns hs,fun r => ?_⟩
  have hsent := owing_send hs hf r
  cases r with
  | error e => exact herr e _ ⟨trivial,hturns⟩ hsent
  | ok _ =>
    rw [hok]
    exact ⟨converses_settled hsent ⟨trivial,hturns⟩,fun _ => hsent⟩

theorem answering_bind {α : Type} {p : Fallible Ans α} {f : α → Fallible Ans Unit}
    (hp : p.run.Uses Mute) (hf : ∀ a, Answering facts streamId m (f a).run) :
    Answering facts streamId m (p >>= f).run := by
  rw [ExceptT.run_bind]
  generalize p.run = q at hp
  induction hp with
  | ret r =>
    cases r with
    | error e => exact answering_error e
    | ok a => exact hf a
  | call ho _ ih => exact answering_mute ho ih

theorem sendReply_answers (command : AgentCommand) (reply : Reply) :
    Answering facts streamId (.command command)
      (sendReply facts streamId command reply).run :=
  answering_mute (by simp [Mute]) fun seq => answering_mute (by simp [Mute]) fun now =>
    answering_send (.result command reply seq now) rfl fun _ => answering_error _

/-- However many attempts it takes, one inventory gets into the channel, or none and the
session ends. -/
theorem sendHostInventory_answers {hostId status nodeId : String} (left : ℕ)
    (last : Option AnyhowError) (h : left ≠ 0 ∨ last ≠ none) :
    Answering facts streamId (.registerAck hostId status nodeId)
      (sendHostInventory facts streamId left last).run := by
  induction left generalizing last with
  | zero =>
    cases last with
    | none => simp at h
    | some err => exact answering_error _
  | succ left ih =>
    refine answering_mute (by simp [Mute]) fun seq => answering_mute (by simp [Mute]) fun pools =>
      answering_mute (by simp [Mute]) fun now => answering_send (.inventory seq pools now) rfl
        fun err => ?_
    have hnext := ih (some err) (.inr (by simp))
    cases left with
    | zero => exact hnext
    | succ left => exact answering_mute (by simp [Mute]) fun _ => hnext

theorem commandReply_mute (command : AgentCommand) : (commandReply crates command).run.Uses Mute :=
  (commandReply_uses command).mono fun o ho => by
    cases o <;> simp [FrameNumbers.Answering] at ho <;> simp [Mute]

theorem handleServerMessage_answers (message : Option HypervisorMessage)
    (hturns : Each (TakesTurns facts) s) (hs : Settled facts streamId s) :
    (handleServerMessage crates facts streamId message).run.Always recorder (Converses facts)
      (fun r t => r = .ok () → Settled facts streamId t)
      (⟨.sessionEvent,.message message⟩::s) := by
  have hturns' : Each (TakesTurns facts) (⟨.sessionEvent,.message message⟩::s) :=
    ⟨⟨streamId,hs⟩,hturns⟩
  rcases message with - | (⟨hostId,status,nodeId⟩ | ⟨hostId,status⟩ | command)
  · exact ⟨converses_settled hs hturns',fun _ => hs⟩
  · exact sendHostInventory_answers _ _ (.inl (by decide)) _ hturns' ⟨asked s,rfl,hs⟩
  · exact ⟨converses_settled hs hturns',fun _ => hs⟩
  · have hmute : (commandReply crates command).run.Uses Mute := commandReply_mute command
    rw [handleServerMessage]
    generalize commandReply crates command = p at hmute ⊢
    exact answering_bind hmute (fun reply => sendReply_answers command reply) _ hturns'
      ⟨asked s,rfl,hs⟩

theorem sessionStep_settled (hturns : Each (TakesTurns facts) s) (hs : Settled facts streamId s) :
    (sessionStep crates facts streamId ()).Always recorder (Converses facts)
      (fun o t => Sum.elim (fun _ => Each (TakesTurns facts) t ∧ Settled facts streamId t)
        (fun _ => True) o) s := by
  refine always_ask.mpr ⟨converses_settled hs hturns,fun event => ?_⟩
  have hturns' (event : SessionEvent) : Each (TakesTurns facts) (⟨.sessionEvent,event⟩::s) :=
    ⟨⟨streamId,hs⟩,hturns⟩
  cases event with
  | message body =>
    refine Prog.always_bind.mpr ((handleServerMessage_answers body hturns hs).mono
      (fun _ ht => ht) fun r t ht hr => ?_)
    cases r with
    | error e => exact ⟨ht,trivial⟩
    | ok _ => exact ⟨ht,ht.turns,hr rfl⟩
  | refreshEnded => exact ⟨converses_settled hs (hturns' _),hturns' _,hs⟩
  | _ => exact ⟨converses_settled hs (hturns' _),trivial⟩

theorem openSession_settled (target : String) :
    (openSession facts target).run.Always recorder (Converses facts)
      (fun r t => ∀ streamId, r = .ok streamId → Settled facts streamId t) [] := by
  have hstart : Converses facts [] := ⟨trivial,.inl ⟨rfl,rfl⟩⟩
  refine always_record.mpr ⟨hstart,fun r => ?_⟩
  have hchannel := hstart.mute (c := ⟨.channel target,r⟩) (by simp [Mute])
  cases r with
  | error e => exact ⟨hchannel,by simp⟩
  | ok _ =>
    refine always_record.mpr ⟨hchannel,fun now => ?_⟩
    have hnow := hchannel.mute (c := ⟨.now,now⟩) (by simp [Mute])
    refine always_record.mpr ⟨hnow,fun seq => ?_⟩
    have hseq := hnow.mute (c := ⟨.fetchAdd,seq⟩) (by simp [Mute])
    refine always_record.mpr ⟨hseq,fun r => ?_⟩
    cases r with
    | error e => exact ⟨⟨⟨trivial,hseq.turns⟩,.inl ⟨rfl,rfl⟩⟩,by simp⟩
    | ok _ =>
      have hsettled : Settled facts (newStreamId facts.agentId now)
          [⟨.send (registerFrame facts (newStreamId facts.agentId now) seq),.ok ()⟩,
            ⟨.fetchAdd,seq⟩,⟨.now,now⟩,⟨.channel target,.ok ()⟩] := ⟨seq,[],rfl,.nil⟩
      have hregistered := converses_settled hsettled ⟨trivial,hseq.turns⟩
      refine always_record.mpr ⟨hregistered,fun r => ?_⟩
      have hstream := hregistered.mute (c := ⟨.openStream,r⟩) (by simp [Mute])
      cases r with
      | error e => exact ⟨hstream,by simp⟩
      | ok _ =>
        refine always_record.mpr ⟨hstream,fun _ => ?_⟩
        have hbeats := hstream.mute
          (c := ⟨.spawn .heartbeat (newStreamId facts.agentId now),()⟩) (by simp [Mute])
        refine always_record.mpr ⟨hbeats,fun r => ?_⟩
        have hclient := hbeats.mute (c := ⟨.channel target,r⟩) (by simp [Mute])
        cases r with
        | error e => exact ⟨hclient,by simp⟩
        | ok _ =>
          refine always_record.mpr ⟨hclient,fun _ => ?_⟩
          have htelemetry := hclient.mute
            (c := ⟨.spawn .telemetry (newStreamId facts.agentId now),()⟩) (by simp [Mute])
          refine always_record.mpr ⟨htelemetry,fun _ => ?_⟩
          have hrefresh := htelemetry.mute
            (c := ⟨.spawn .refresh (newStreamId facts.agentId now),()⟩) (by simp [Mute])
          refine ⟨hrefresh,?_⟩
          rintro streamId ⟨⟩
          exact hsettled

theorem mainThread_converses (target : String) (rounds : ℕ) :
    (mainThread crates facts target rounds).Always recorder (Converses facts)
      (fun _ _ => True) [] := by
  unfold mainThread runSession
  rw [Prog.bind_assoc]
  refine Prog.always_bind.mpr ((openSession_settled target).mono (fun _ ht => ht)
    fun r t ht hr => ?_)
  cases r with
  | error e => exact ⟨ht,trivial⟩
  | ok streamId =>
    have hstep (l : Unit) (v : Trace Ans) (hl : Each (TakesTurns facts) v ∧ Settled facts streamId v) :
        (sessionStep crates facts streamId l).Always recorder (Converses facts)
          (fun o t => Sum.elim (fun _ => Each (TakesTurns facts) t ∧ Settled facts streamId t)
            (fun _ => True) o) v := sessionStep_settled hl.1 hl.2
    have hloop := Prog.always_loop
      (L := fun _ t => Each (TakesTurns facts) t ∧ Settled facts streamId t)
      (P := fun _ _ => True) hstep rounds (l := ()) ⟨ht.turns,hr streamId rfl⟩
    rw [Prog.bind_assoc]
    refine Prog.always_bind.mpr (hloop.mono (fun _ hu => hu) fun o u hu _ => ?_)
    cases o with
    | inl _ => exact ⟨hu,trivial⟩
    | inr result =>
      exact mute_keeps (.call (by simp [Mute]) fun _ => .call (by simp [Mute]) fun _ =>
        .call (by simp [Mute]) fun _ => .ret _) u hu

end Talk

section Beats

variable {facts : HostFacts} {streamId : String}

/-- All a heartbeat task says is that the host is online. -/
def IsBeat (facts : HostFacts) (f : AgentToHypervisor) : Prop :=
  ∃ now, f = heartbeatFrame (hostRegistrationFromFacts facts) f.streamId f.seq now

def OnlyBeats (facts : HostFacts) (s : Trace Ans) : Prop := ∀ f ∈ delivered s, IsBeat facts f

theorem heartbeatStep_beats : (heartbeatStep (hostRegistrationFromFacts facts) streamId ()).Keeps
    recorder (OnlyBeats facts) := by
  intro s hs
  refine always_ask.mpr ⟨hs,fun fired => ?_⟩
  cases fired with
  | false => exact ⟨hs,trivial⟩
  | true =>
    refine always_ask.mpr ⟨hs,fun seq => always_ask.mpr ⟨hs,fun now =>
      always_ask.mpr ⟨hs,fun r => ?_⟩⟩⟩
    cases r with
    | error e => exact ⟨hs,trivial⟩
    | ok _ =>
      refine ⟨fun f hf => ?_,trivial⟩
      rcases List.mem_append.mp hf with hf | hf
      · exact hs f hf
      · rw [List.mem_singleton.mp hf]
        exact ⟨now,rfl⟩

theorem heartbeatThread_beats (beats : ℕ) :
    (heartbeatThread facts beats streamId).Keeps recorder (OnlyBeats facts) :=
  Prog.keeps_bind (Prog.keeps_loop (fun _ => heartbeatStep_beats) beats ()) fun _ =>
    Prog.keeps_ret _

end Beats

section Stream

variable (facts : HostFacts) (beats : ℕ)

def Keeping : SessionThread → Trace Ans → Prop
  | .main => Converses facts
  | .heartbeat => OnlyBeats facts

def said (frames : List Frame) : List AgentToHypervisor :=
  (frames.filter (·.producer = .main)).map (·.body)

@[simp] theorem said_nil : said [] = [] := rfl

@[simp] theorem said_append (earlier later : List Frame) :
    said (earlier ++ later) = said earlier ++ said later := by
  simp [said]

variable {facts beats} {w : State} {i : SessionThread} {o : Op} {x : Ans o} {t : Stream}
  {k : Ans o → Prog Ans Unit}

theorem session_keeping (o : Op) (j : SessionThread) (p : Prog Ans Unit)
    (h : (session facts beats).spawns o = some (j,p)) :
    p.Always recorder (Keeping facts j) (fun _ _ => True) [] := by
  cases o with
  | spawn task streamId =>
    cases task with
    | heartbeat =>
      cases h
      exact heartbeatThread_beats beats [] (by simp [OnlyBeats,delivered])
    | _ => cases h
  | _ => cases h

theorem never_main (o : Op) (l : SessionThread) (q : Prog Ans Unit)
    (h : (session facts beats).spawns o = some (l,q)) : l ≠ .main := by
  cases o with
  | spawn task streamId => cases task <;> cases h; simp
  | _ => cases h

/-- The frames that enter the channel by an answer are those the answered thread has
delivered by it. -/
theorem answered_frames (h : Answered i w.shared ⟨o,x⟩ t) : ∃ new,
    t.frames = w.shared.frames ++ new ∧ (∀ e ∈ new, e.producer = i) ∧
      ∀ past, delivered (⟨o,x⟩::past) = delivered past ++ new.map (·.body) := by
  cases h with
  | pushed f isOpen => exact ⟨[⟨i,_,f⟩],frames_push,by simp,fun past => rfl⟩
  | taken => exact ⟨[],by simp [Stream.take,Stream.frames],by simp,fun past => by simp [delivered]⟩
  | refused f e isClosed =>
    exact ⟨[],by simp [Stream.letGo,Stream.frames],by simp,fun past => by simp [delivered]⟩
  | aside c other =>
    refine ⟨[],by simp,by simp,fun past => ?_⟩
    cases o <;> simp [Aside] at other <;> simp [delivered]

theorem said_of_main {new : List Frame} (h : ∀ e ∈ new, e.producer = .main) :
    said new = new.map (·.body) := by
  rw [said,List.filter_eq_self.mpr fun e he => by simpa using h e he]

theorem said_of_heartbeat {new : List Frame} (h : ∀ e ∈ new, e.producer = .heartbeat) :
    said new = [] := by
  rw [said,List.filter_eq_nil_iff.mpr fun e he => by simp [h e he],List.map_nil]

theorem step_delivered (beats : ℕ) (hw : Threads.Local (Keeping facts) w.pool) (a : Action) :
    ∃ new, ((session facts beats).step w a).shared.frames.drop w.shared.frames.length = new ∧
      delivered (((session facts beats).step w a).pool .main).past =
        delivered (w.pool .main).past ++ said new ∧
      ∀ e ∈ new, e.producer = .heartbeat → IsBeat facts e.body := by
  rcases (session facts beats).step_cases w a with h | ⟨e,h⟩ | ⟨i,c,o,k,x,t,hrest,hh,h⟩
  · exact ⟨[],by simp [h],by simp [h],by simp⟩
  · refine ⟨[],?_,by simp [h],by simp⟩
    rw [h]
    exact List.drop_eq_nil_of_le (frames_outside e).length_le
  · obtain ⟨new,hframes,hproducer,hdelivered⟩ := answered_frames (handler_answered hh)
    rw [h]
    refine ⟨new,by simp [hframes],?_,fun e he hheartbeat => ?_⟩
    · dsimp only
      rw [Threads.answered_unspawned (fun l q => never_main o l q)]
      cases i with
      | main => simp [hdelivered,said_of_main hproducer]
      | heartbeat => simp [said_of_heartbeat hproducer]
    · obtain rfl : .heartbeat = i := hheartbeat.symm.trans (hproducer e he)
      have hlocal := hw .heartbeat
      rw [hrest] at hlocal
      have hbeats : OnlyBeats facts (⟨o,x⟩::(w.pool .heartbeat).past) :=
        ((always_record.mp hlocal).2 x).here
      refine hbeats e.body ?_
      rw [hdelivered]
      exact List.mem_append_right _ (List.mem_map_of_mem he)

theorem step_keeping (hw : Threads.Local (Keeping facts) w.pool) (a : Action) :
    Threads.Local (Keeping facts) ((session facts beats).step w a).pool := by
  rcases (session facts beats).step_cases w a with h | ⟨e,h⟩ | ⟨i,c,o,k,x,t,hrest,-,h⟩
  · rwa [h]
  · rwa [h]
  · rw [h]
    exact Threads.local_answered session_keeping hw hrest x

theorem enqueued_delivered (beats : ℕ) (hw : Threads.Local (Keeping facts) w.pool) (actions : List Action) :
    delivered (((session facts beats).after w actions).pool .main).past =
        delivered (w.pool .main).past ++ said (enqueued facts beats w actions) ∧
      ∀ e ∈ enqueued facts beats w actions, e.producer = .heartbeat → IsBeat facts e.body := by
  induction actions generalizing w with
  | nil => simp [enqueued,Threads.after]
  | cons a actions ih =>
    obtain ⟨new,hnew,hmain,hbeats⟩ := step_delivered beats hw a
    obtain ⟨hlater,hlaterBeats⟩ := ih (step_keeping hw a)
    have hafter : (session facts beats).after w (a::actions) =
        (session facts beats).after ((session facts beats).step w a) actions := rfl
    refine ⟨?_,fun e he => ?_⟩
    · rw [hafter,hlater,hmain]
      simp [enqueued,hnew]
    · rcases List.mem_append.mp he with he | he
      · exact hbeats e (hnew ▸ he)
      · exact hlaterBeats e he

end Stream

section Main

variable (crates : Crates) (facts : HostFacts) (target : String) (rounds beats : ℕ)

theorem opening_keeping :
    Threads.Local (Keeping facts) (opening crates facts target rounds).pool := by
  intro i
  cases i with
  | main => exact mainThread_converses target rounds
  | heartbeat => exact ⟨by simp [Keeping,OnlyBeats,delivered,Threads.idle,opening],trivial⟩

theorem session_local (actions : List Action) : Threads.Local (Keeping facts)
    ((session facts beats).after (opening crates facts target rounds) actions).pool :=
  Threads.after_invariant _
    (fun w a (hw : Threads.Local (Keeping facts) w.pool) => step_keeping hw a)
    (opening_keeping crates facts target rounds) actions

theorem mem_said {frames : List Frame} {f : AgentToHypervisor} (h : f ∈ said frames) :
    ∃ e ∈ frames, e.body = f := by
  obtain ⟨e,he,rfl⟩ := List.mem_map.mp h
  exact ⟨e,List.mem_of_mem_filter he,rfl⟩

theorem one_stream (actions : List Action) : ∃ streamId,
    ∀ e ∈ enqueued facts beats (opening crates facts target rounds) actions,
      e.body.streamId = streamId := by
  obtain ⟨v,hv,-,hframes,hnamed,-⟩ := enqueued_counted facts beats crates target rounds actions
  rw [← hframes]
  cases hall : v.shared.frames with
  | nil => exact ⟨"",by simp⟩
  | cons d rest =>
    refine ⟨d.body.streamId,fun e he => ?_⟩
    obtain ⟨a,ha,hd⟩ := hnamed _ (hv.named d (hall ▸ List.mem_cons_self))
    obtain ⟨b,hb,he⟩ := hnamed _ (hv.named e (hall ▸ he))
    rw [ha,Option.some.injEq] at hb
    rw [hd,he,hb]

/-- The message loop waits for what the server says next. -/
def Listening (w : State) : Prop := ∃ k, (w.pool .main).rest = .call .sessionEvent k

/-- However the threads of a session are scheduled and whatever they are answered: in the
stream the session named, the heartbeat task says only that the host is online, and the
message loop says nothing before it is asked, or registers the host and then answers each
message that calls for it by one frame, in the order it received them; it is behind by the
last message at most, and by none when it waits for the next. -/
theorem answers_in_order (actions : List Action) :
    let w := (session facts beats).after (opening crates facts target rounds) actions
    let frames := enqueued facts beats (opening crates facts target rounds) actions
    let asked := asked (w.pool .main).past
    ∃ streamId, (∀ e ∈ frames, e.body.streamId = streamId) ∧
      (∀ e ∈ frames, e.producer = .heartbeat → IsBeat facts e.body) ∧
      (asked = [] ∧ said frames = [] ∨ Conversation facts streamId asked (said frames) ∨
        ∃ earlier m, asked = earlier ++ [m] ∧ Conversation facts streamId earlier (said frames)) ∧
      (Listening w → Conversation facts streamId asked (said frames)) := by
  intro w frames asked
  have hlocal := session_local crates facts target rounds beats actions .main
  have hconverses : Converses facts (w.pool .main).past := hlocal.here
  obtain ⟨hdelivered,hbeats⟩ := enqueued_delivered beats
    (opening_keeping crates facts target rounds) actions
  have hsaid : delivered (w.pool .main).past = said frames := hdelivered
  obtain ⟨streamId,hstream⟩ := one_stream crates facts target rounds beats actions
  have hsame {streamId' : String} {earlier : List HypervisorMessage}
      (h : Conversation facts streamId' earlier (said frames)) : streamId' = streamId := by
    obtain ⟨seq,answers,hregister,-⟩ := h
    obtain ⟨e,he,hbody⟩ := mem_said (hregister ▸ List.mem_cons_self)
    rw [← hstream e he,hbody]
    rfl
  refine ⟨streamId,hstream,hbeats,?_,?_⟩
  · rcases hconverses.stage with hsilent | ⟨streamId',hsettled | ⟨m,earlier,hasked,h⟩⟩
    · exact .inl ⟨hsilent.1,hsaid ▸ hsilent.2⟩
    · rw [Settled,hsaid] at hsettled
      exact .inr (.inl (hsame hsettled ▸ hsettled))
    · rw [hsaid] at h
      exact .inr (.inr ⟨earlier,m,hasked,hsame h ▸ h⟩)
  · rintro ⟨k,hrest⟩
    rw [hrest] at hlocal
    have hnext : Converses facts (⟨.sessionEvent,.closed⟩::(w.pool .main).past) :=
      ((always_record.mp hlocal).2 _).here
    obtain ⟨streamId',hsettled⟩ := hnext.turns.1
    rw [Settled,hsaid] at hsettled
    exact hsame hsettled ▸ hsettled

end Main
end SessionAnswers
end KvmAgent
