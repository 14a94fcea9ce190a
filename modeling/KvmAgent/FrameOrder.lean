import KvmAgent.FrameNumbers

/-! The order in which the frames of a session leave the channel, however its threads are
scheduled: the register frame is the first and has number 1, no number is used twice, and
the frames of one thread leave in the order they were numbered. Frames of different
threads may overtake each other. -/
namespace KvmAgent
namespace FrameOrder

open Registration Session FrameStream FrameNumbers Trace

variable (facts : HostFacts)

def Keeping : SessionThread → Trace Ans → Prop
  | .main, s => Numbered s ∧ Each (Introduces facts) s
  | .heartbeat, s => Numbered s

/-- The first frame is the register frame, unless the channel was closed before it left. -/
def Headed (s : Stream) : Prop :=
  (∃ streamId rest, s.frames = ⟨.main,1,registerFrame facts streamId 1⟩::rest) ∨
    (s.closed = true ∧ s.frames = [])

/-- No frame is in the channel yet, and only the message loop has run. -/
structure Waiting (w : State) : Prop where
  empty : w.shared.frames = []
  idle : (w.pool .heartbeat).rest = .ret ()
  undelivered : (w.pool .main).past.any isDelivery = false
  drawn : w.shared.next = (w.pool .main).past.countP isDraw + 1
  latest : ∀ m, w.shared.held .main = some m → m+1 = w.shared.next

structure Ordered (w : State) : Prop where
  threads : Threads.Local (Keeping facts) w.pool
  hand : ∀ i v, inHand (w.pool i).past = some v →
    ∃ m, w.shared.held i = some m ∧ v = UInt64.ofNat m
  tickets : w.shared.tickets.Ordered 1
  seq : ∀ e ∈ w.shared.frames, e.body.seq = UInt64.ofNat e.number
  start : Waiting w ∨ Headed facts w.shared

variable {facts} {crates : Crates} {target : String} {rounds beats : ℕ}

theorem Keeping.numbered {i : SessionThread} {s : Trace Ans} (h : Keeping facts i s) :
    Numbered s := by
  cases i with
  | main => exact h.1
  | heartbeat => exact h

theorem opening_ordered : Ordered facts (opening crates facts target rounds) where
  threads i := by
    cases i with
    | main => exact ((mainThread_numbered target rounds [] trivial).and
        (mainThread_introduces target rounds)).mono (fun _ ht => ht) (by simp)
    | heartbeat => exact ⟨trivial,trivial⟩
  hand i v h := by cases i <;> cases h
  tickets := Tickets.Ordered.new 1
  seq := by simp [opening,Stream.frames]
  start := .inl ⟨rfl,rfl,rfl,rfl,by simp [opening]⟩

theorem headed_answered {i : SessionThread} {c : Call Ans} {s t : Stream}
    (hs : Headed facts s) (h : Answered i s c t) : Headed facts t := by
  cases h with
  | taken => exact hs
  | refused f e => exact hs
  | aside c other => exact hs
  | pushed f isOpen =>
    rcases hs with ⟨streamId,rest,hs⟩ | ⟨hclosed,-⟩
    · exact .inl ⟨streamId,rest ++ [⟨i,(s.held i).getD 0,f⟩],by simp [hs]⟩
    · simp [isOpen] at hclosed

theorem headed_outside {s : Stream} (hs : Headed facts s) (e : Outside) :
    Headed facts (outside e s) := by
  cases e with
  | receive =>
    unfold Headed
    rw [frames_receive]
    rwa [closed_receive]
  | close =>
    cases hleft : s.left with
    | nil => exact .inr ⟨rfl,by simp [outside,Stream.frames,hleft]⟩
    | cons f left =>
      rcases hs with ⟨streamId,rest,hs⟩ | ⟨-,hs⟩
      · refine .inl ⟨streamId,left,?_⟩
        simp only [Stream.frames,hleft,List.cons_append] at hs
        simp [outside,Stream.frames,hleft,(List.cons.inj hs).1]
      · simp [Stream.frames,hleft] at hs

theorem ordered_outside {w : State} (hw : Ordered facts w) (e : Outside) :
    Ordered facts { w with shared := outside e w.shared } where
  threads := hw.threads
  hand := by simpa using hw.hand
  tickets := by
    simp only [tickets_outside]
    exact hw.tickets.keep (frames_outside e)
  seq f hf := hw.seq f ((frames_outside e).subset hf)
  start := by
    rcases hw.start with hwait | hhead
    · have hempty : (outside e w.shared).frames = [] :=
        List.sublist_nil.mp (hwait.empty ▸ frames_outside e)
      exact .inl ⟨hempty,hwait.idle,hwait.undelivered,by simpa using hwait.drawn,
        by simpa using hwait.latest⟩
    · exact .inr (headed_outside hhead e)

theorem keeping_answered {w : State} (hw : Ordered facts w) {i : SessionThread} {o : Op}
    {k : Ans o → Prog Ans Unit} (hrest : (w.pool i).rest = .call o k) (x : Ans o) :
    Keeping facts i (⟨o,x⟩::(w.pool i).past) := by
  have hi := hw.threads i
  rw [hrest] at hi
  exact ((always_record.mp hi).2 x).here

theorem held_of_send {w : State} (hw : Ordered facts w) {i : SessionThread}
    {f : AgentToHypervisor} {k : Ans (.send f) → Prog Ans Unit}
    (hrest : (w.pool i).rest = .call (.send f) k) :
    ∃ m, w.shared.held i = some m ∧ f.seq = UInt64.ofNat m :=
  hw.hand i f.seq (keeping_answered hw hrest (.ok ())).numbered.1

theorem session_threads (i : SessionThread) (o : Op) (p : Prog Ans Unit)
    (h : (session facts beats).spawns o = some (i,p)) :
    p.Always recorder (Keeping facts i) (fun _ _ => True) [] := by
  cases o with
  | spawn task streamId =>
    cases task with
    | heartbeat =>
      obtain ⟨rfl,rfl⟩ := Prod.mk.inj (Option.some.inj h)
      exact heartbeatThread_numbered beats [] trivial
    | _ => cases h
  | _ => cases h

theorem hand_answered {w : State} (hw : Ordered facts w) {i : SessionThread} {o : Op} {x : Ans o}
    {t : Stream} (h : Answered i w.shared ⟨o,x⟩ t) (rest : Prog Ans Unit) (j : SessionThread)
    (v : UInt64) (hv : inHand ((session facts beats).answered w.pool i o x rest j).past = some v) :
    ∃ m, t.held j = some m ∧ v = UInt64.ofNat m := by
  rcases Threads.answered_past w.pool i o x rest j with hpast | hpast
  · rw [hpast] at hv
    cases hv
  rw [hpast] at hv
  by_cases hj : j = i
  · subst hj
    simp only [if_true] at hv
    cases h with
    | taken =>
      cases hv
      exact ⟨w.shared.next,by simp [Stream.take],rfl⟩
    | refused f e => cases hv
    | pushed f isOpen => cases hv
    | aside c other =>
      rw [inHand_aside other] at hv
      exact hw.hand j v hv
  · simp only [hj,if_false] at hv
    obtain ⟨m,hm,hmv⟩ := hw.hand j v hv
    exact ⟨m,(h.held_other hj).trans hm,hmv⟩

theorem waiting_answered {w : State} (hw : Ordered facts w) (hwait : Waiting w)
    {i : SessionThread} {o : Op} {k : Ans o → Prog Ans Unit} (hrest : (w.pool i).rest = .call o k)
    {x : Ans o} {t : Stream} (h : Answered i w.shared ⟨o,x⟩ t) :
    Waiting ⟨(session facts beats).answered w.pool i o x (k x),t⟩ ∨ Headed facts t := by
  have hi : i = .main := by
    cases i with
    | main => rfl
    | heartbeat => simp [hwait.idle] at hrest
  subst hi
  have hintro : Introduces facts ⟨o,x⟩ (w.pool .main).past := (keeping_answered hw hrest x).2.1
  have hnone : (session facts beats).spawns o = none := by
    cases o with
    | spawn task streamId => simp [Introduces,hwait.undelivered] at hintro
    | _ => rfl
  rw [Threads.answered_none hnone]
  have hidle := hwait.idle
  have hundelivered := hwait.undelivered
  have hdrawn := hwait.drawn
  cases h with
  | taken =>
    refine .inl ⟨hwait.empty,by simpa using hidle,?_,?_,?_⟩
    · simpa [isDelivery] using hundelivered
    · simpa [List.countP_cons,isDraw,Stream.take] using hdrawn
    · simp [Stream.take]
  | refused f e =>
    refine .inl ⟨hwait.empty,by simpa using hidle,?_,?_,?_⟩
    · simpa [isDelivery] using hundelivered
    · simpa [isDraw,Stream.letGo] using hdrawn
    · simp [Stream.letGo]
  | aside c other =>
    obtain ⟨hdelivery,hdraw⟩ := aside_counts other
    refine .inl ⟨hwait.empty,by simpa using hidle,?_,?_,hwait.latest⟩
    · simpa [hdelivery] using hundelivered
    · simpa [List.countP_cons,hdraw] using hdrawn
  | pushed f isOpen =>
    obtain ⟨m,hm,hmf⟩ := held_of_send hw hrest
    obtain ⟨hcount,streamId,hf⟩ := hintro hundelivered
    have hlatest := hwait.latest m hm
    have hone : m = 1 := by omega
    subst hone
    rw [hmf] at hf
    exact .inr (.inl ⟨streamId,[],by rw [frames_push,hwait.empty,hm,hf]; rfl⟩)

theorem ordered_answered {w : State} (hw : Ordered facts w) {i : SessionThread} {o : Op}
    {k : Ans o → Prog Ans Unit} (hrest : (w.pool i).rest = .call o k) {x : Ans o} {t : Stream}
    (h : Answered i w.shared ⟨o,x⟩ t) :
    Ordered facts ⟨(session facts beats).answered w.pool i o x (k x),t⟩ where
  threads := Threads.local_answered (fun o j p => session_threads j o p) hw.threads hrest x
  hand := hand_answered hw h (k x)
  tickets := by
    cases h with
    | taken => exact hw.tickets.draw i
    | refused f e => exact hw.tickets.release i
    | aside c other => exact hw.tickets
    | pushed f isOpen =>
      obtain ⟨m,hm,-⟩ := held_of_send hw hrest
      rw [tickets_push,hm]
      exact hw.tickets.put hm f
  seq e he := by
    cases h with
    | taken => exact hw.seq e he
    | refused f err => exact hw.seq e he
    | aside c other => exact hw.seq e he
    | pushed f isOpen =>
      obtain ⟨m,hm,hmf⟩ := held_of_send hw hrest
      rw [frames_push,hm] at he
      rcases List.mem_append.mp he with he | he
      · exact hw.seq e he
      · rw [List.mem_singleton.mp he]
        exact hmf
  start := by
    rcases hw.start with hwait | hhead
    · exact waiting_answered hw hwait hrest h
    · exact .inr (headed_answered hhead h)

theorem ordered_step {w : State} (hw : Ordered facts w)
    (a : Action) : Ordered facts ((session facts beats).step w a) := by
  rcases (session facts beats).step_cases w a with h | ⟨e,h⟩ | ⟨i,c,o,k,x,t,hrest,hh,h⟩
  · rwa [h]
  · rw [h]
    exact ordered_outside hw e
  · rw [h]
    exact ordered_answered hw hrest (handler_answered hh)

theorem Ordered.first_left {w : State} (hw : Ordered facts w) {e : Frame}
    (he : w.shared.left.head? = some e) :
    ∃ streamId, e = ⟨.main,1,registerFrame facts streamId 1⟩ := by
  obtain ⟨left,hleft⟩ : ∃ left, w.shared.left = e::left := List.head?_eq_some_iff.mp he
  have hframes : w.shared.frames = e::(left ++ w.shared.queue) := by simp [Stream.frames,hleft]
  rcases hw.start with hwait | ⟨streamId,rest,hhead⟩ | ⟨-,hempty⟩
  · have hempty := hwait.empty
    simp [hframes] at hempty
  · rw [hframes] at hhead
    exact ⟨streamId,(List.cons.inj hhead).1⟩
  · simp [hframes] at hempty

variable (crates facts target rounds beats)

theorem session_ordered (actions : List Action) :
    Ordered facts ((session facts beats).after (opening crates facts target rounds) actions) :=
  Threads.after_invariant _ (fun w a (hw : Ordered facts w) => ordered_step hw a) opening_ordered
    actions

/-- However the threads of a session are scheduled and whatever they are answered, the
register frame leaves the channel first and has number 1, each frame carries the number
its thread drew for it, no number is used twice, and the frames of one thread leave in
the order of their numbers. -/
theorem frames_leave_numbered (actions : List Action) :
    let frames := sent crates facts target rounds beats actions
    (∀ e, frames.head? = some e → ∃ streamId, e = ⟨.main,1,registerFrame facts streamId 1⟩) ∧
    (∀ e ∈ frames, 1 ≤ e.number ∧ e.body.seq = UInt64.ofNat e.number) ∧
    (frames.map Entry.number).Nodup ∧
    ∀ i, (frames.filter (·.producer = i)).Pairwise fun d e => d.number < e.number := by
  intro frames
  have h := session_ordered facts crates target rounds beats actions
  have hleft : frames.Sublist (Stream.frames _) := List.sublist_append_left frames _
  have hkept := h.tickets.keep hleft
  exact ⟨fun e he => h.first_left he,fun e he => ⟨(hkept.drawn e he).1,h.seq e (hleft.subset he)⟩,
    hkept.numbers_nodup,hkept.producer_sorted⟩

/-- The frames leave under increasing sequence numbers, the register frame first. -/
def InOrder (frames : List Frame) : Prop :=
  (frames.map fun e => e.body.seq).Pairwise (· < ·) ∧
    ∀ e, frames.head? = some e → ∃ body, e.body.message = .registerHost body

def counted (i : SessionThread) : Action := .run i ⟨.fetchAdd,(0:UInt64)⟩

def opened : List Action :=
  [.run .main ⟨.channel "dp",.ok ()⟩,.run .main ⟨.now,(0:ℤ)⟩,counted .main,counted .main,
    .run .main ⟨.openStream,.ok ()⟩,.run .main ⟨.spawn .heartbeat "agent-0",()⟩,
    .run .main ⟨.channel "dp",.ok ()⟩,.run .main ⟨.spawn .telemetry "agent-0",()⟩,
    .run .main ⟨.spawn .refresh "agent-0",()⟩]

/-- The heartbeat task draws 2 and is held up, while the message loop answers an
acknowledgement with the inventory under 3. -/
def overtaking : List Action := opened ++
  [.run .heartbeat ⟨.tick,true⟩,counted .heartbeat,
    .run .main ⟨.sessionEvent,.message (some (.registerAck "host" "ok" "node"))⟩,counted .main,
    .run .main ⟨.discoverStoragePools,([] : List StoragePool)⟩,.run .main ⟨.now,(0:ℤ)⟩,
    counted .main,.run .heartbeat ⟨.now,(0:ℤ)⟩,counted .heartbeat,
    .env .receive,.env .receive,.env .receive]

def overtaken : List Frame :=
  sent ⟨id,fun _ => .ok .null⟩ { agentId := "agent", hostId := "host" } "dp" 1 1 overtaking

theorem heartbeat_overtaken : ¬∀ crates facts target rounds beats actions,
    InOrder (sent crates facts target rounds beats actions) := by
  intro h
  have hseqs : overtaken.map (fun e => e.body.seq) = [1,3,2] := by decide
  have hordered : InOrder overtaken := h _ _ _ _ _ _
  have hsorted := hordered.1
  rw [hseqs] at hsorted
  exact absurd hsorted (by decide)

end FrameOrder
end KvmAgent
