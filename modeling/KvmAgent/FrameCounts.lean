import KvmAgent.FrameOrder

/-! The numbers of a session without gaps: each producer sends the number it took before
it takes another, and a frame is refused only when the channel is closed. -/
namespace KvmAgent
namespace FrameCounts

open Fallible Registration CommandLedger Session FrameStream FrameNumbers FrameOrder Trace

/-- What is left of a producer of the stream `streamId`; the flag says whether it has a
number in hand. It takes one only with empty hands, sends it in a frame of the stream, and
starts no heartbeat task. -/
inductive Speaks {α : Type} (streamId : String) : Bool → Prog Ans α → Prop
  | ret (a : α) : Speaks streamId false (.ret a)
  | draw {k : UInt64 → Prog Ans α} (hk : ∀ v, Speaks streamId true (k v)) :
    Speaks streamId false (.call .fetchAdd k)
  | send {f : AgentToHypervisor} {k : Except AnyhowError Unit → Prog Ans α}
    (hf : f.streamId = streamId) (hk : ∀ r, Speaks streamId false (k r)) :
    Speaks streamId true (.call (.send f) k)
  | aside {b : Bool} {o : Op} {k : Ans o → Prog Ans α} (ho : Quiet o)
    (hk : ∀ x, Speaks streamId b (k x)) : Speaks streamId b (.call o k)

/-- What is left of the message loop before it starts the heartbeat task; `opened` is the
time it named the stream by. -/
inductive Opens (agentId : String) : (opened : Option SystemTime) → Bool → Prog Ans Unit → Prop
  | ret {opened : Option SystemTime} : Opens agentId opened false (.ret ())
  | name {k : SystemTime → Prog Ans Unit} (hk : ∀ now, Opens agentId (some now) false (k now)) :
    Opens agentId none false (.call .now k)
  | draw {opened : Option SystemTime} {k : UInt64 → Prog Ans Unit}
    (hk : ∀ v, Opens agentId opened true (k v)) : Opens agentId opened false (.call .fetchAdd k)
  | send {now : SystemTime} {f : AgentToHypervisor} {k : Except AnyhowError Unit → Prog Ans Unit}
    (hf : f.streamId = newStreamId agentId now) (hk : ∀ r, Opens agentId (some now) false (k r)) :
    Opens agentId (some now) true (.call (.send f) k)
  | start {now : SystemTime} {streamId : String} {k : Unit → Prog Ans Unit}
    (hid : streamId = newStreamId agentId now) (hk : Speaks streamId false (k ())) :
    Opens agentId (some now) false (.call (.spawn .heartbeat streamId) k)
  | aside {opened : Option SystemTime} {b : Bool} {o : Op} {k : Ans o → Prog Ans Unit}
    (ho : Quiet o) (hnow : o ≠ .now) (hk : ∀ x, Opens agentId opened b (k x)) :
    Opens agentId opened b (.call o k)

def openedAt : Trace Ans → Option SystemTime
  | [] => none
  | ⟨.now,now⟩::s => (openedAt s).or (some now)
  | _::s => openedAt s

section Programs

variable {crates : Crates} {facts : HostFacts} {streamId : String} {α β : Type}

theorem speaks_bind {b : Bool} {p : Prog Ans β} {f : β → Prog Ans α} (hp : Speaks streamId b p)
    (hf : ∀ a, Speaks streamId false (f a)) : Speaks streamId b (p >>= f) := by
  induction hp with
  | ret a => exact hf a
  | draw _ ih => exact .draw ih
  | send h _ ih => exact .send h ih
  | aside ho _ ih => exact .aside ho ih

theorem speaks_quiet {p : Prog Ans α} (hp : p.Uses Quiet) : Speaks streamId false p := by
  induction hp with
  | ret a => exact .ret a
  | call ho _ ih => exact .aside ho ih

theorem speaks_loop {S R : Type} {body : S → Prog Ans (S ⊕ R)}
    (hbody : ∀ l, Speaks streamId false (body l)) (n : ℕ) (l : S) :
    Speaks streamId false (Prog.loop body n l) := by
  induction n generalizing l with
  | zero => exact .ret _
  | succ n ih =>
    refine speaks_bind (hbody l) fun o => ?_
    cases o with
    | inl t => exact ih t
    | inr r => exact .ret _

theorem sendReply_speaks (command : AgentCommand) (reply : Reply) :
    Speaks streamId false (sendReply facts streamId command reply).run :=
  .draw fun _ => .aside (by simp [Quiet,Aside]) fun _ => .send rfl fun _ => .ret _

theorem sendHostInventory_speaks (left : ℕ) (last : Option AnyhowError) :
    Speaks streamId false (sendHostInventory facts streamId left last).run := by
  induction left generalizing last with
  | zero => cases last <;> exact .ret _
  | succ left ih =>
    refine .draw fun _ => .aside (by simp [Quiet,Aside]) fun _ => .aside (by simp [Quiet,Aside])
      fun _ => .send rfl fun r => ?_
    cases r with
    | ok _ => exact .ret _
    | error err =>
      cases left with
      | zero => exact ih (some err)
      | succ left => exact .aside (by simp [Quiet,Aside]) fun _ => ih (some err)

theorem handleServerMessage_speaks (message : Option HypervisorMessage) :
    Speaks streamId false (handleServerMessage crates facts streamId message).run := by
  unfold handleServerMessage
  rcases message with - | (⟨_,_,_⟩ | ⟨_,_⟩ | command)
  · exact .ret _
  · exact sendHostInventory_speaks _ _
  · exact .ret _
  · rw [ExceptT.run_bind]
    refine speaks_bind (speaks_quiet (commandReply_quiet command)) fun r => ?_
    cases r with
    | error e => exact .ret _
    | ok reply => exact sendReply_speaks command reply

theorem sessionStep_speaks : Speaks streamId false (sessionStep crates facts streamId ()) := by
  refine speaks_bind (speaks_quiet (Prog.uses_op (by simp [Quiet,Aside]))) fun event => ?_
  cases event with
  | message body =>
    refine speaks_bind (handleServerMessage_speaks body) fun r => ?_
    cases r <;> exact .ret _
  | _ => exact .ret _

theorem heartbeatThread_speaks (beats : ℕ) :
    Speaks streamId false (heartbeatThread facts beats streamId) := by
  refine speaks_bind (speaks_loop (fun _ => ?_) beats ()) fun _ => .ret _
  refine .aside (by simp [Quiet,Aside]) fun fired => ?_
  cases fired with
  | false => exact .ret _
  | true =>
    refine .draw fun _ => .aside (by simp [Quiet,Aside]) fun _ => .send rfl fun r => ?_
    cases r <;> exact .ret _

theorem messageLoop_speaks (rounds : ℕ) :
    Speaks streamId false
      (Prog.loop (sessionStep crates facts streamId) rounds () >>= fun
        | .inl () => (.ret (.inl ()) : Prog Ans (Unit ⊕ Except AnyhowError Unit))
        | .inr result =>
          Prog.op (Op.abort .heartbeat) >>= fun _ => Prog.op (Op.abort .telemetry) >>= fun _ =>
            Prog.op (Op.abort .refresh) >>= fun _ => .ret (.inr result)) := by
  refine speaks_bind (speaks_loop (fun _ => sessionStep_speaks) rounds ()) fun r => ?_
  cases r with
  | inl _ => exact .ret _
  | inr result =>
    refine speaks_quiet (.call (by simp [Quiet,Aside]) fun _ => .call (by simp [Quiet,Aside])
      fun _ => .call (by simp [Quiet,Aside]) fun _ => .ret _)

theorem mainThread_opens (target : String) (rounds : ℕ) :
    Opens facts.agentId none false (mainThread crates facts target rounds) := by
  refine .aside (by simp [Quiet,Aside]) (by simp) fun r => ?_
  cases r with
  | error e => exact .ret
  | ok _ =>
    refine .name fun now => .draw fun seq => .send rfl fun r => ?_
    cases r with
    | error e => exact .ret
    | ok _ =>
      refine .aside (by simp [Quiet,Aside]) (by simp) fun r => ?_
      cases r with
      | error e => exact .ret
      | ok _ =>
        refine .start rfl (.aside (by simp [Quiet,Aside]) fun r => ?_)
        cases r with
        | error e => exact .ret _
        | ok _ =>
          refine .aside (by simp [Quiet,Aside]) fun _ => .aside (by simp [Quiet,Aside]) fun _ => ?_
          exact speaks_bind (messageLoop_speaks rounds) fun _ => .ret _

end Programs

section Answers

variable {facts : HostFacts} {beats : ℕ} {streamId agentId : String} {α : Type} {b : Bool}
  {opened : Option SystemTime} {i : SessionThread} {s t : Stream} {o : Op} {x : Ans o}

theorem Speaks.free {k : UInt64 → Prog Ans α} (h : Speaks streamId b (.call .fetchAdd k)) :
    b = false := by
  cases h with
  | draw hk => rfl
  | aside ho hk => simp [Quiet,Aside] at ho

theorem Speaks.stream {f : AgentToHypervisor} {k : Ans (.send f) → Prog Ans α}
    (h : Speaks streamId b (.call (.send f) k)) : f.streamId = streamId := by
  cases h with
  | send hf hk => exact hf
  | aside ho hk => simp [Quiet,Aside] at ho

theorem quiet_spawns (ho : Quiet o) : (session facts beats).spawns o = none := by
  cases o with
  | spawn task streamId => cases task <;> simp [Quiet] at ho <;> rfl
  | _ => rfl

theorem Speaks.spawns {k : Ans o → Prog Ans α} (h : Speaks streamId b (.call o k)) :
    (session facts beats).spawns o = none := by
  cases h with
  | draw hk => rfl
  | send hf hk => rfl
  | aside ho hk => exact quiet_spawns ho

theorem Speaks.answered {k : Ans o → Prog Ans α} (hp : Speaks streamId (s.held i).isSome (.call o k))
    (h : Answered i s ⟨o,x⟩ t) : Speaks streamId (t.held i).isSome (k x) := by
  generalize hb : (s.held i).isSome = b at hp
  cases hp with
  | draw hk =>
    cases h with
    | taken => simpa [Stream.take] using hk _
    | aside c other => simp [Aside] at other
  | send hf hk =>
    cases h with
    | refused f e isClosed => simpa [Stream.letGo] using hk _
    | pushed f isOpen => simpa [Stream.push,Stream.letGo] using hk _
    | aside c other => simp [Aside] at other
  | aside ho hk =>
    cases h with
    | aside c other => simpa [hb] using hk x
    | _ => simp [Quiet,Aside] at ho

theorem Opens.free {k : UInt64 → Prog Ans Unit} (h : Opens agentId opened b (.call .fetchAdd k)) :
    b = false := by
  cases h with
  | draw hk => rfl
  | aside ho hnow hk => simp [Quiet,Aside] at ho

theorem Opens.stream {f : AgentToHypervisor} {k : Ans (.send f) → Prog Ans Unit}
    (h : Opens agentId opened b (.call (.send f) k)) :
    ∃ now, opened = some now ∧ f.streamId = newStreamId agentId now := by
  cases h with
  | send hf hk => exact ⟨_,rfl,hf⟩
  | aside ho hnow hk => simp [Quiet,Aside] at ho

/-- An answer to a message loop that opens its session starts the heartbeat task or leaves
it to go on alone. -/
theorem Opens.answered {past : Trace Ans} {k : Ans o → Prog Ans Unit}
    (hp : Opens agentId (openedAt past) (s.held i).isSome (.call o k))
    (h : Answered i s ⟨o,x⟩ t) :
    (session facts beats).spawns o = none ∧
        Opens agentId (openedAt (⟨o,x⟩::past)) (t.held i).isSome (k x) ∨
      ∃ now, openedAt past = some now ∧ o = .spawn .heartbeat (newStreamId agentId now) ∧
        t = s ∧ s.held i = none ∧ Speaks (newStreamId agentId now) false (k x) := by
  generalize hb : (s.held i).isSome = b at hp
  generalize hopened : openedAt past = opened at hp
  cases hp with
  | name hk =>
    cases h with
    | aside c other => exact .inl ⟨rfl,by simpa [openedAt,hopened,hb] using hk x⟩
  | draw hk =>
    cases h with
    | taken => exact .inl ⟨rfl,by simpa [openedAt,Stream.take,hopened] using hk _⟩
    | aside c other => simp [Aside] at other
  | send hf hk =>
    cases h with
    | refused f e isClosed => exact .inl ⟨rfl,by simpa [openedAt,Stream.letGo,hopened] using hk _⟩
    | pushed f isOpen =>
      exact .inl ⟨rfl,by simpa [openedAt,Stream.push,Stream.letGo,hopened] using hk _⟩
    | aside c other => simp [Aside] at other
  | start hid hk =>
    subst hid
    cases h with
    | aside c other => exact .inr ⟨_,rfl,rfl,rfl,by simpa using hb,hk⟩
  | aside ho hnow hk =>
    have hopenedAt : openedAt (⟨o,x⟩::past) = openedAt past := by cases o <;> simp [openedAt] at hnow ⊢
    cases h with
    | aside c other => exact .inl ⟨quiet_spawns ho,by simpa [hopenedAt,hopened,hb] using hk x⟩
    | _ => simp [Quiet,Aside] at ho

theorem openedAt_cons {now : SystemTime} {past : Trace Ans} (h : openedAt past = some now)
    (c : Call Ans) : openedAt (c::past) = some now := by
  obtain ⟨o,x⟩ := c
  cases o <;> simp [openedAt,h]

end Answers

section States

variable (facts : HostFacts)

structure Alone (w : State) : Prop where
  talk : Opens facts.agentId (openedAt (w.pool .main).past) (w.shared.held .main).isSome
    (w.pool .main).rest
  idle : (w.pool .heartbeat).rest = .ret ()
  free : w.shared.held .heartbeat = none

structure Accompanied (w : State) (now : SystemTime) : Prop where
  opened : openedAt (w.pool .main).past = some now
  talk : ∀ i, Speaks (newStreamId facts.agentId now) (w.shared.held i).isSome (w.pool i).rest

def Named (w : State) (streamId : String) : Prop :=
  ∃ now, openedAt (w.pool .main).past = some now ∧ streamId = newStreamId facts.agentId now

structure Counted (w : State) : Prop where
  ordered : Ordered facts w
  complete : w.shared.closed = false → w.shared.tickets.Complete 1
  named : ∀ e ∈ w.shared.frames, Named facts w e.body.streamId
  stage : Alone facts w ∨ ∃ now, Accompanied facts w now

variable {facts} {crates : Crates} {target : String} {rounds beats : ℕ} {w : State}
  {i : SessionThread} {o : Op} {k : Ans o → Prog Ans Unit} {x : Ans o} {t : Stream}

theorem opening_counted : Counted facts (opening crates facts target rounds) where
  ordered := opening_ordered
  complete _ := .new 1
  named := by simp [opening,Stream.frames]
  stage := .inl ⟨mainThread_opens target rounds,rfl,rfl⟩

theorem Alone.main (h : Alone facts w) (hrest : (w.pool i).rest = .call o k) : i = .main := by
  cases i with
  | main => rfl
  | heartbeat => simp [h.idle] at hrest

theorem Counted.free (hw : Counted facts w) {k : Ans .fetchAdd → Prog Ans Unit}
    (hrest : (w.pool i).rest = .call .fetchAdd k) : w.shared.held i = none := by
  have hfree : (w.shared.held i).isSome = false := by
    rcases hw.stage with halone | ⟨now,hacc⟩
    · obtain rfl := halone.main hrest
      exact (hrest ▸ halone.talk).free
    · exact (hrest ▸ hacc.talk i).free
  simpa using hfree

theorem Counted.stream (hw : Counted facts w) {f : AgentToHypervisor}
    {k : Ans (.send f) → Prog Ans Unit} (hrest : (w.pool i).rest = .call (.send f) k) :
    Named facts w f.streamId := by
  rcases hw.stage with halone | ⟨now,hacc⟩
  · obtain rfl := halone.main hrest
    exact (hrest ▸ halone.talk).stream
  · exact ⟨now,hacc.opened,(hrest ▸ hacc.talk i).stream⟩

/-- Only the heartbeat task is ever started, so the message loop keeps its calls. -/
theorem main_past (facts : HostFacts) (beats : ℕ) (pool : SessionThread → Thread Ans) (rest : Prog Ans Unit) :
    ((session facts beats).answered pool i o x rest .main).past = (pool .main).past ∨
      ((session facts beats).answered pool i o x rest .main).past = ⟨o,x⟩::(pool .main).past := by
  have hmoved : (Function.update pool i ⟨rest,⟨o,x⟩::(pool i).past⟩ .main).past =
      (pool .main).past ∨ (Function.update pool i ⟨rest,⟨o,x⟩::(pool i).past⟩ .main).past =
      ⟨o,x⟩::(pool .main).past := by
    cases i with
    | main => exact .inr (by simp)
    | heartbeat => exact .inl (by simp)
  unfold Threads.answered
  cases hs : (session facts beats).spawns o with
  | none => exact hmoved
  | some jp =>
    have hj : jp.1 ≠ .main := by
      cases o with
      | spawn task streamId => cases task <;> cases hs; simp
      | _ => cases hs
    simpa [hj.symm] using hmoved

theorem openedAt_answered {now : SystemTime} (h : openedAt (w.pool .main).past = some now)
    (rest : Prog Ans Unit) :
    openedAt ((session facts beats).answered w.pool i o x rest .main).past = some now := by
  rcases main_past facts beats w.pool rest with hp | hp
  · rw [hp]
    exact h
  · rw [hp]
    exact openedAt_cons h _

theorem counted_outside (hw : Counted facts w) (e : Outside) :
    Counted facts { w with shared := outside e w.shared } where
  ordered := ordered_outside hw.ordered e
  complete hopen := by
    cases e with
    | receive =>
      have hcomplete := hw.complete (closed_receive.symm.trans hopen)
      simpa [Stream.tickets,frames_receive] using hcomplete
    | close => simp [outside] at hopen
  named f hf := hw.named f ((frames_outside e).subset hf)
  stage := by
    rcases hw.stage with halone | ⟨now,hacc⟩
    · exact .inl ⟨by simpa using halone.talk,halone.idle,by simpa using halone.free⟩
    · exact .inr ⟨now,hacc.opened,by simpa using hacc.talk⟩

theorem stage_answered (hw : Counted facts w) (hrest : (w.pool i).rest = .call o k)
    (h : Answered i w.shared ⟨o,x⟩ t) :
    Alone facts ⟨(session facts beats).answered w.pool i o x (k x),t⟩ ∨
      ∃ now, Accompanied facts ⟨(session facts beats).answered w.pool i o x (k x),t⟩ now := by
  rcases hw.stage with halone | ⟨now,hacc⟩
  · obtain rfl := halone.main hrest
    have hidle := halone.idle
    have hfree : t.held .heartbeat = none := (h.held_other (by simp)).trans halone.free
    rcases (hrest ▸ halone.talk).answered h with
      ⟨hspawns,hopens⟩ | ⟨now,hopened,rfl,rfl,hmain,hspeaks⟩
    · rw [Threads.answered_none hspawns]
      exact .inl ⟨by simpa using hopens,by simpa using hidle,hfree⟩
    · refine .inr ⟨now,openedAt_answered hopened _,fun j => ?_⟩
      cases j with
      | main => simpa [Threads.answered,session,spawns,hmain] using hspeaks
      | heartbeat =>
        simpa [Threads.answered,session,spawns,hfree] using heartbeatThread_speaks beats
  · refine .inr ⟨now,openedAt_answered hacc.opened _,fun j => ?_⟩
    have htalk := hrest ▸ hacc.talk i
    rw [Threads.answered_none htalk.spawns]
    by_cases hj : j = i
    · subst hj
      simpa using htalk.answered h
    · simpa [hj,h.held_other hj] using hacc.talk j

theorem counted_answered (hw : Counted facts w) (hrest : (w.pool i).rest = .call o k)
    (h : Answered i w.shared ⟨o,x⟩ t) :
    Counted facts ⟨(session facts beats).answered w.pool i o x (k x),t⟩ where
  ordered := ordered_answered hw.ordered hrest h
  complete hopen := by
    have hcomplete := hw.complete (h.closed_eq.symm.trans hopen)
    cases h with
    | taken => exact hcomplete.draw (hw.free hrest)
    | refused f e isClosed => simp [Stream.letGo,isClosed] at hopen
    | aside c other => exact hcomplete
    | pushed f isOpen =>
      obtain ⟨m,hm,-⟩ := held_of_send hw.ordered hrest
      rw [tickets_push,hm]
      exact hcomplete.put hm f
  named e he := by
    have hold (streamId : String) (hn : Named facts w streamId) :
        Named facts ⟨(session facts beats).answered w.pool i o x (k x),t⟩ streamId := by
      obtain ⟨now,hopened,hid⟩ := hn
      exact ⟨now,openedAt_answered hopened _,hid⟩
    rcases h.frames_eq with hframes | ⟨f,-,hc,hframes⟩
    · exact hold _ (hw.named e (hframes ▸ he))
    · cases hc
      rw [hframes] at he
      rcases List.mem_append.mp he with he | he
      · exact hold _ (hw.named e he)
      · rw [List.mem_singleton.mp he]
        exact hold _ (hw.stream hrest)
  stage := stage_answered hw hrest h

theorem counted_step (hw : Counted facts w) (a : Action) :
    Counted facts ((session facts beats).step w a) := by
  rcases (session facts beats).step_cases w a with h | ⟨e,h⟩ | ⟨i,c,o,k,x,t,hrest,hh,h⟩
  · rwa [h]
  · rw [h]
    exact counted_outside hw e
  · rw [h]
    exact counted_answered hw hrest (handler_answered hh)

end States

section Enqueued

variable (facts : HostFacts) (beats : ℕ)

/-- The frames some steps put into the channel, whatever became of them. -/
def enqueued (w : State) : List Action → List Frame
  | [] => []
  | a::actions =>
    let t := (session facts beats).step w a
    t.shared.frames.drop w.shared.frames.length ++ enqueued t actions

variable {w : State}

theorem frames_step (w : State) (a : Action) :
    ((session facts beats).step w a).shared.closed = w.shared.closed ∧
        (w.shared.frames <+: ((session facts beats).step w a).shared.frames ∧
        (w.shared.closed = true → ((session facts beats).step w a).shared.frames = w.shared.frames)) ∨
      ((session facts beats).step w a).shared.closed = true ∧
        ((session facts beats).step w a).shared.frames.Sublist w.shared.frames := by
  rcases (session facts beats).step_cases w a with h | ⟨e,h⟩ | ⟨i,c,o,k,x,t,hrest,hh,h⟩
  · rw [h]
    exact .inl ⟨rfl,List.prefix_rfl,fun _ => rfl⟩
  · rw [h]
    cases e with
    | receive => exact .inl ⟨closed_receive,by simp [session,frames_receive]⟩
    | close => exact .inr ⟨rfl,frames_outside .close⟩
  · rw [h]
    have hanswered := handler_answered hh
    refine .inl ⟨hanswered.closed_eq,?_⟩
    rcases hanswered.frames_eq with hframes | ⟨f,hopen,-,hframes⟩
    · simp [hframes]
    · simp [hframes,hopen]

theorem enqueued_closed (hclosed : w.shared.closed = true) (actions : List Action) :
    enqueued facts beats w actions = [] ∧
      ((session facts beats).after w actions).shared.closed = true := by
  induction actions generalizing w with
  | nil => exact ⟨rfl,hclosed⟩
  | cons a actions ih =>
    rcases frames_step facts beats w a with ⟨hc,-,hsame⟩ | ⟨hc,hsub⟩
    · have hh := ih (hc.trans hclosed)
      exact ⟨by simp [enqueued,hsame hclosed,hh.1],hh.2⟩
    · have hh := ih hc
      exact ⟨by simp [enqueued,List.drop_eq_nil_of_le hsub.length_le,hh.1],hh.2⟩

theorem enqueued_open (hopen : w.shared.closed = false) (actions : List Action) :
    ∃ earlier later, actions = earlier ++ later ∧
      ((session facts beats).after w earlier).shared.closed = false ∧
      ((session facts beats).after w earlier).shared.frames =
        w.shared.frames ++ enqueued facts beats w actions ∧
      (((session facts beats).after w actions).shared.closed = false → later = []) := by
  induction actions generalizing w with
  | nil => exact ⟨[],[],rfl,hopen,by simp [enqueued,Threads.after],fun _ => rfl⟩
  | cons a actions ih =>
    rcases frames_step facts beats w a with ⟨hc,⟨new,hnew⟩,-⟩ | ⟨hc,hsub⟩
    · obtain ⟨earlier,later,rfl,hearlier,hframes,hlast⟩ := ih (hc.trans hopen)
      refine ⟨a::earlier,later,rfl,hearlier,?_,hlast⟩
      have hdrop : ((session facts beats).step w a).shared.frames.drop w.shared.frames.length = new := by
        rw [← hnew,List.drop_left]
      simp only [enqueued,hdrop]
      rw [← List.append_assoc,hnew]
      exact hframes
    · have hh := enqueued_closed facts beats hc actions
      refine ⟨[],a::actions,rfl,hopen,?_,fun h => ?_⟩
      · simp [enqueued,Threads.after,List.drop_eq_nil_of_le hsub.length_le,hh.1]
      · exact absurd (hh.2.symm.trans h) (by simp)

variable (crates : Crates) (target : String) (rounds : ℕ)

theorem session_counted (actions : List Action) :
    Counted facts ((session facts beats).after (opening crates facts target rounds) actions) :=
  Threads.after_invariant _ (fun w a (hw : Counted facts w) => counted_step hw a) opening_counted
    actions

theorem openedAt_after {now : SystemTime} (h : openedAt (w.pool .main).past = some now)
    (actions : List Action) :
    openedAt (((session facts beats).after w actions).pool .main).past = some now := by
  refine Threads.after_invariant _ (fun w a (hw : openedAt (w.pool .main).past = some now) => ?_) h
    actions
  rcases (session facts beats).step_cases w a with h | ⟨e,h⟩ | ⟨i,c,o,k,x,t,-,-,h⟩
  · rwa [h]
  · rwa [h]
  · rw [h]
    exact openedAt_answered hw (k x)

/-- The frames a session enqueued stood in its channel at a moment that was reached. -/
theorem enqueued_counted (actions : List Action) :
    ∃ v, Counted facts v ∧ v.shared.closed = false ∧
      v.shared.frames = enqueued facts beats (opening crates facts target rounds) actions ∧
      (∀ streamId, Named facts v streamId → Named facts
        ((session facts beats).after (opening crates facts target rounds) actions) streamId) ∧
      (((session facts beats).after (opening crates facts target rounds) actions).shared.closed =
        false → v = (session facts beats).after (opening crates facts target rounds) actions) := by
  obtain ⟨earlier,later,rfl,hopen,hframes,hlast⟩ :=
    enqueued_open facts beats (w := opening crates facts target rounds) rfl actions
  have hafter : (session facts beats).after (opening crates facts target rounds) (earlier ++ later) =
      (session facts beats).after
        ((session facts beats).after (opening crates facts target rounds) earlier) later :=
    (session facts beats).after_append _ earlier later
  refine ⟨_,session_counted facts beats crates target rounds earlier,hopen,hframes,?_,fun h => by simp [hlast h]⟩
  rintro streamId ⟨now,hnow,hid⟩
  exact ⟨now,hafter ▸ openedAt_after facts beats hnow later,hid⟩

end Enqueued

instance : Fintype SessionThread := ⟨{.main,.heartbeat},fun i => by cases i <;> decide⟩

section Numbers

variable {facts : HostFacts} {w : State}

/-- Numbers up to the end of the `u64` range keep their identity as sequence numbers. -/
theorem ofNat_inj {m n : ℕ} (hm : 1 ≤ m ∧ m ≤ 18446744073709551616)
    (hn : 1 ≤ n ∧ n ≤ 18446744073709551616) (h : UInt64.ofNat m = UInt64.ofNat n) : m = n := by
  have hmod := congrArg UInt64.toNat h
  simp only [UInt64.toNat_ofNat'] at hmod
  omega

theorem Counted.positive (hw : Counted facts w) {e : Frame} (he : e ∈ w.shared.frames) :
    1 ≤ e.number :=
  (hw.ordered.tickets.drawn e he).1

theorem Counted.headed (hw : Counted facts w) (hopen : w.shared.closed = false) {e : Frame}
    (he : e ∈ w.shared.frames) : ∃ streamId rest,
      w.shared.frames = ⟨.main,1,registerFrame facts streamId 1⟩::rest := by
  rcases hw.ordered.start with hwait | hhead | ⟨hclosed,-⟩
  · simp [hwait.empty] at he
  · exact hhead
  · simp [hopen] at hclosed

theorem Counted.number_le (hw : Counted facts w) (hopen : w.shared.closed = false) {e : Frame}
    (he : e ∈ w.shared.frames) : e.number ≤ w.shared.frames.length + 1 := by
  have hlt := (hw.complete hopen).number_lt hw.ordered.tickets he
  have hcard : Fintype.card SessionThread = 2 := rfl
  have hlog : w.shared.tickets.log = w.shared.frames := rfl
  rw [hcard,hlog] at hlt
  omega

theorem Counted.number_inj (hw : Counted facts w) {d e : Frame} (hd : d ∈ w.shared.frames)
    (he : e ∈ w.shared.frames) (h : d.number = e.number) : d = e :=
  List.inj_on_of_nodup_map hw.ordered.tickets.numbers_nodup hd he h

theorem Counted.seqs_nodup (hw : Counted facts w)
    (hrange : ∀ e ∈ w.shared.frames, e.number ≤ 18446744073709551616) :
    (w.shared.frames.map fun e => e.body.seq).Nodup := by
  refine List.Nodup.map_on ?_ hw.ordered.tickets.numbers_nodup.of_map
  intro d hd e he h
  refine hw.number_inj hd he (ofNat_inj ⟨hw.positive hd,hrange d hd⟩ ⟨hw.positive he,hrange e he⟩ ?_)
  rw [← hw.ordered.seq d hd,← hw.ordered.seq e he,h]

end Numbers

section Main

variable (crates : Crates) (facts : HostFacts) (target : String) (rounds beats : ℕ)

/-- However the threads of a session are scheduled, and while it enqueues fewer than
`2 ^ 64` frames: every frame is of the stream the session named, the first one enqueued is
the one under 1 and is the register frame, no two have one sequence number, and while the
channel is open and no thread has a number in hand they have exactly the numbers up to
their count. -/
theorem frames_numbered_densely (actions : List Action)
    (short : (enqueued facts beats (opening crates facts target rounds) actions).length <
      18446744073709551616) :
    let frames := enqueued facts beats (opening crates facts target rounds) actions
    let w := (session facts beats).after (opening crates facts target rounds) actions
    (∀ e ∈ frames, Named facts w e.body.streamId) ∧
    (∀ e, frames.head? = some e ↔ e ∈ frames ∧ e.body.seq = 1) ∧
    (∀ e ∈ frames, e.body.seq = 1 → ∃ streamId, e.body = registerFrame facts streamId 1) ∧
    (frames.map fun e => e.body.seq).Nodup ∧
    (w.shared.closed = false → (∀ i, w.shared.held i = none) →
      ∀ n, n ∈ frames.map (fun e => e.body.seq.toNat) ↔ 1 ≤ n ∧ n ≤ frames.length) := by
  obtain ⟨v,hv,hopen,hframes,hnamed,hlast⟩ :=
    enqueued_counted facts beats crates target rounds actions
  rw [← hframes] at short ⊢
  have hrange (e : Frame) (he : e ∈ v.shared.frames) : e.number ≤ 18446744073709551616 :=
    (hv.number_le hopen he).trans (by omega)
  have hone {e : Frame} (he : e ∈ v.shared.frames) (h : e.body.seq = 1) :
      ∃ streamId rest, e = ⟨.main,1,registerFrame facts streamId 1⟩ ∧
        v.shared.frames = e::rest := by
    obtain ⟨streamId,rest,hhead⟩ := hv.headed hopen he
    have hnumber : e.number = 1 := ofNat_inj ⟨hv.positive he,hrange e he⟩ (by simp)
      ((hv.ordered.seq e he).symm.trans h)
    have heq := hv.number_inj he (hhead ▸ List.mem_cons_self) hnumber
    exact ⟨streamId,rest,heq,heq ▸ hhead⟩
  refine ⟨fun e he => hnamed _ (hv.named e he),fun e => ⟨fun he => ?_,?_⟩,?_,hv.seqs_nodup hrange,?_⟩
  · have hmem : e ∈ v.shared.frames := List.mem_of_head? he
    obtain ⟨streamId,rest,hhead⟩ := hv.headed hopen hmem
    rw [hhead] at he
    exact ⟨hmem,by cases he; rfl⟩
  · rintro ⟨he,hseq⟩
    obtain ⟨-,rest,-,hhead⟩ := hone he hseq
    simp [hhead]
  · intro e he hseq
    obtain ⟨streamId,-,rfl,-⟩ := hone he hseq
    exact ⟨streamId,rfl⟩
  · intro hclosed hfree n
    have hdense := ((hv.complete hopen).dense hv.ordered.tickets (hlast hclosed ▸ hfree)).2 n
    have hmap : v.shared.frames.map (fun e => e.body.seq.toNat) = v.shared.frames.map Entry.number := by
      refine List.map_congr_left fun e he => ?_
      have hlt : e.number < 18446744073709551616 := by
        have hmem := (((hv.complete hopen).dense hv.ordered.tickets (hlast hclosed ▸ hfree)).2
          e.number).mp (List.mem_map_of_mem he)
        have hlog : v.shared.tickets.log = v.shared.frames := rfl
        rw [hlog] at hmem
        omega
      rw [hv.ordered.seq e he,UInt64.toNat_ofNat']
      omega
    rw [hmap]
    have hlog : v.shared.tickets.log = v.shared.frames := rfl
    rw [hlog] at hdense
    rw [hdense]
    omega

/-- While the heartbeat task is held up the sequence numbers have a gap; once it has sent
its frame they are 1, 2 and 3. -/
theorem overtaking_dense :
    2 ∈ (enqueued { agentId := "agent", hostId := "host" } 1 (opening ⟨id,fun _ => .ok .null⟩
      { agentId := "agent", hostId := "host" } "dp" 1) overtaking).map fun e => e.body.seq.toNat :=
  ((frames_numbered_densely ⟨id,fun _ => .ok .null⟩ { agentId := "agent", hostId := "host" } "dp" 1 1
    overtaking (by decide)).2.2.2.2 (by decide) (fun i => by cases i <;> decide) 2).mpr (by decide)

end Main
end FrameCounts
end KvmAgent
