import KvmAgent.ConnectRuns
import KvmAgent.FrameCounts

/-! The frames of all sessions of an agent. A frame is known by its stream and its number,
numbers begin anew with each session, and a stream is named by the second it was opened
in. -/
namespace KvmAgent
namespace StreamIdentity

open Session FrameStream FrameCounts

/-- One session: where it goes, how far its loops may get, and its steps. -/
structure SessionRun where
  target : String
  rounds : ℕ
  beats : ℕ
  actions : List Action

variable (crates : Crates) (facts : HostFacts)

namespace SessionRun

def ended (r : SessionRun) : State :=
  (session facts r.beats).after (opening crates facts r.target r.rounds) r.actions

def frames (r : SessionRun) : List Frame :=
  enqueued facts r.beats (opening crates facts r.target r.rounds) r.actions

/-- The second the session named its stream by. -/
def second (r : SessionRun) : Option ℕ :=
  (openedAt ((r.ended crates facts).pool .main).past).map fun now => now.sinceEpoch.asSecs

def identities (r : SessionRun) : List (String × UInt64) :=
  (r.frames crates facts).map fun e => (e.body.streamId,e.body.seq)

end SessionRun

/-- No two frames of the run are known by the same pair. -/
def Distinct (runs : List SessionRun) : Prop :=
  (runs.flatMap (SessionRun.identities crates facts)).Nodup

def Clocked (runs : List SessionRun) : Prop :=
  (runs.filterMap fun r => openedAt ((r.ended crates facts).pool .main).past).Pairwise (· ≤ ·)

/-- No session comes to the end of the `u64` range with the frames it enqueues. -/
def Unwrapped (runs : List SessionRun) : Prop :=
  ∀ r ∈ runs, ∀ e ∈ r.frames crates facts, e.number ≤ 18446744073709551616

/-- Sessions that enqueue a frame name their streams in different seconds. -/
def Apart (runs : List SessionRun) : Prop :=
  runs.Pairwise fun r q => r.frames crates facts ≠ [] → q.frames crates facts ≠ [] →
    r.second crates facts ≠ q.second crates facts

instance (runs : List SessionRun) : Decidable (Distinct crates facts runs) :=
  inferInstanceAs (Decidable (List.Nodup _))

instance (runs : List SessionRun) : Decidable (Clocked crates facts runs) :=
  inferInstanceAs (Decidable (List.Pairwise _ _))

variable {crates facts}

theorem newStreamId_inj {agentId : String} {a b : SystemTime} :
    newStreamId agentId a = newStreamId agentId b ↔ a.sinceEpoch.asSecs = b.sinceEpoch.asSecs := by
  constructor
  · intro h
    have hrepr : Nat.repr a.sinceEpoch.asSecs = Nat.repr b.sinceEpoch.asSecs :=
      String.append_right_inj _ |>.mp h
    have hdigits : Nat.toDigits 10 a.sinceEpoch.asSecs = Nat.toDigits 10 b.sinceEpoch.asSecs := by
      simpa [Nat.repr] using congrArg String.toList hrepr
    have hvalue := congrArg (Nat.ofDigitChars 10 · 0) hdigits
    simpa only [Nat.ofDigitChars_ten_toDigits] using hvalue
  · intro h
    simp only [newStreamId,h]

section Wrapping

variable {w : State}

/-- A counter that passes the end of its range repeats a number: at most one number below
that of an enqueued frame is missing, and it is in the hand of the other thread. -/
theorem unwrapped_of_nodup (hw : Counted facts w) (hopen : w.shared.closed = false)
    (hnodup : (w.shared.frames.map fun e => e.body.seq).Nodup) {e : Frame}
    (he : e ∈ w.shared.frames) : e.number ≤ 18446744073709551616 := by
  have hsame {d f : Frame} (hd : d ∈ w.shared.frames) (hf : f ∈ w.shared.frames)
      (h : d.number % 18446744073709551616 = f.number % 18446744073709551616) :
      d.number = f.number := by
    have hseq : d.body.seq = f.body.seq := by
      rw [hw.ordered.seq d hd,hw.ordered.seq f hf,← UInt64.toNat_inj]
      simpa only [UInt64.toNat_ofNat'] using h
    rw [List.inj_on_of_nodup_map hnodup hd hf hseq]
  obtain ⟨streamId,rest,hhead⟩ := hw.headed hopen he
  have hfirst : (⟨.main,1,registerFrame facts streamId 1⟩ : Frame) ∈ w.shared.frames :=
    hhead ▸ List.mem_cons_self
  have hbelow {m : ℕ} (hlow : 1 ≤ m) (hlt : m < e.number) :
      (∃ i, i ≠ e.producer ∧ w.shared.held i = some m) ∨ ∃ d ∈ w.shared.frames, d.number = m :=
    (hw.complete hopen).below hw.ordered.tickets he hlow hlt
  have hone {d : Frame} (hd : d ∈ w.shared.frames) (h : d.number % 18446744073709551616 = 1) :
      d.number = 1 := hsame hd hfirst h
  by_contra hgt
  have hpast : 18446744073709551617 < e.number := by
    by_contra hle
    have hh := hone he (by omega)
    omega
  rcases hbelow (m := e.number - 18446744073709551616) (by omega) (by omega) with
    ⟨i,hi,hheld⟩ | ⟨d,hd,hdn⟩
  · rcases hbelow (m := 18446744073709551617) (by omega) hpast with ⟨j,hj,hheld'⟩ | ⟨d,hd,hdn⟩
    · have hij : i = j := by
        cases i <;> cases j <;> cases hp : e.producer <;> simp [hp] at hi hj ⊢
      rw [hij,hheld',Option.some.injEq] at hheld
      have hh := hone he (by omega)
      omega
    · have hh := hone hd (by omega)
      omega
  · have hh := hsame hd he (by omega)
    omega

end Wrapping

/-- The frames of one session are told apart by their numbers as long as these stay in
the range of the counter. -/
theorem identities_nodup_iff (r : SessionRun) : (r.identities crates facts).Nodup ↔
    ∀ e ∈ r.frames crates facts, e.number ≤ 18446744073709551616 := by
  obtain ⟨v,hv,hopen,hframes,hnamed,-⟩ :=
    enqueued_counted facts r.beats crates r.target r.rounds r.actions
  have hidentities : r.identities crates facts =
      v.shared.frames.map fun e => (e.body.streamId,e.body.seq) := by
    rw [hframes]
    rfl
  have hsame : r.frames crates facts = v.shared.frames := hframes.symm
  rw [hidentities,hsame]
  constructor
  · intro h e he
    refine unwrapped_of_nodup hv hopen ?_ he
    refine List.Nodup.map_on ?_ h.of_map
    intro d hd f hf hseq
    refine List.inj_on_of_nodup_map h hd hf ?_
    obtain ⟨a,ha,hida⟩ := hv.named d hd
    obtain ⟨b,hb,hidb⟩ := hv.named f hf
    rw [ha,Option.some.injEq] at hb
    rw [hida,hidb,hb,hseq]
  · intro h
    have hnodup := hv.seqs_nodup h
    refine List.Nodup.map_on ?_ hnodup.of_map
    intro d hd f hf hpair
    exact List.inj_on_of_nodup_map hnodup hd hf (Prod.mk.inj hpair).2

theorem frames_named (r : SessionRun) (h : r.frames crates facts ≠ []) :
    ∃ now, r.second crates facts = some now.sinceEpoch.asSecs ∧
      (∀ p ∈ r.identities crates facts, p.1 = newStreamId facts.agentId now) ∧
      (newStreamId facts.agentId now,1) ∈ r.identities crates facts := by
  obtain ⟨v,hv,hopen,hframes,hnamed,-⟩ :=
    enqueued_counted facts r.beats crates r.target r.rounds r.actions
  have hsame : r.frames crates facts = v.shared.frames := hframes.symm
  obtain ⟨e,he⟩ := List.exists_mem_of_ne_nil _ h
  obtain ⟨streamId,rest,hhead⟩ := hv.headed hopen (hsame ▸ he)
  have hfirst : (⟨.main,1,registerFrame facts streamId 1⟩ : Frame) ∈ v.shared.frames :=
    hhead ▸ List.mem_cons_self
  obtain ⟨now,hnow,hid⟩ := hnamed _ (hv.named _ hfirst)
  have hstream (f : Frame) (hf : f ∈ v.shared.frames) :
      f.body.streamId = newStreamId facts.agentId now := by
    obtain ⟨now',hnow',hid'⟩ := hnamed _ (hv.named f hf)
    rw [hnow,Option.some.injEq] at hnow'
    rw [hid',hnow']
  refine ⟨now,by simp [SessionRun.second,SessionRun.ended,hnow],?_,?_⟩
  · intro p hp
    obtain ⟨f,hf,rfl⟩ := List.mem_map.mp hp
    exact hstream f (hsame ▸ hf)
  · exact List.mem_map.mpr ⟨_,hsame ▸ hfirst,Prod.ext hid rfl⟩

theorem disjoint_iff (r q : SessionRun) :
    (r.identities crates facts).Disjoint (q.identities crates facts) ↔
      (r.frames crates facts ≠ [] → q.frames crates facts ≠ [] →
        r.second crates facts ≠ q.second crates facts) := by
  by_cases hr : r.frames crates facts = []
  · simp [SessionRun.identities,hr]
  by_cases hq : q.frames crates facts = []
  · simp [SessionRun.identities,hq]
  obtain ⟨a,ha,hastream,hafirst⟩ := frames_named r hr
  obtain ⟨b,hb,hbstream,hbfirst⟩ := frames_named q hq
  constructor
  · rintro h - - hsecond
    rw [ha,hb,Option.some.injEq,← newStreamId_inj] at hsecond
    exact h hafirst (hsecond ▸ hbfirst)
  · intro h p hpr hpq
    have hid := (hastream p hpr).symm.trans (hbstream p hpq)
    exact h hr hq (by rw [ha,hb,newStreamId_inj.mp hid])

variable (crates facts)

/-- Over any run of sessions no two frames are known by the same stream and number exactly
when no session wraps its counter around and sessions that enqueue a frame open their
streams in different seconds. -/
theorem distinct_iff (runs : List SessionRun) :
    Distinct crates facts runs ↔ Unwrapped crates facts runs ∧ Apart crates facts runs := by
  unfold Distinct
  rw [List.nodup_flatMap]
  refine and_congr ⟨fun h r hr => (identities_nodup_iff r).mp (h r hr),
    fun h r hr => (identities_nodup_iff r).mpr (h r hr)⟩ ?_
  exact List.pairwise_iff_forall_sublist.trans <| (forall₃_congr fun r q _ =>
    disjoint_iff r q).trans List.pairwise_iff_forall_sublist.symm

/-- A session whose server takes the register frame and closes the stream. -/
def closedAtOnce : SessionRun :=
  ⟨"dp-1:443",1,1,
    [.run .main ⟨.channel "dp-1:443",.ok ()⟩,.run .main ⟨.now,(0:ℤ)⟩,FrameOrder.counted .main,
      FrameOrder.counted .main,.run .main ⟨.openStream,.ok ()⟩,
      .run .main ⟨.spawn .heartbeat "agent-0",()⟩,.run .main ⟨.channel "dp-1:443",.ok ()⟩,
      .run .main ⟨.spawn .telemetry "agent-0",()⟩,.run .main ⟨.spawn .refresh "agent-0",()⟩,
      .env .receive,.run .main ⟨.sessionEvent,.closed⟩,.run .main ⟨.abort .heartbeat,()⟩,
      .run .main ⟨.abort .telemetry,()⟩,.run .main ⟨.abort .refresh,()⟩]⟩

/-- The agent goes on to the next session without a sleep, and in the same second both
register frames are the first of the same stream. -/
theorem reconnected_within_second :
    (¬∀ crates facts runs, Clocked crates facts runs → Distinct crates facts runs) ∧
    Trace.Consecutive ConnectSteps.isSession
      (ConnectRuns.recorded (ConnectRuns.opening ++
        ConnectRuns.resolving none ConnectRuns.oneTarget ++
        [ConnectRuns.session ConnectRuns.oneTarget "dp-1:443" .ok] ++
        ConnectRuns.resolving (some ConnectRuns.oneTarget) ConnectRuns.oneTarget ++
        [ConnectRuns.session ConnectRuns.oneTarget "dp-1:443" .ok]))
      (ConnectRuns.session ConnectRuns.oneTarget "dp-1:443" .ok)
      (ConnectRuns.resolving (some ConnectRuns.oneTarget) ConnectRuns.oneTarget).reverse
      (ConnectRuns.session ConnectRuns.oneTarget "dp-1:443" .ok)
      (ConnectRuns.opening ++ ConnectRuns.resolving none ConnectRuns.oneTarget).reverse ∧
    ConnectRuns.slept
      (ConnectRuns.resolving (some ConnectRuns.oneTarget) ConnectRuns.oneTarget).reverse = 0 := by
  refine ⟨fun h => ?_,⟨[],rfl,rfl,rfl,by decide⟩,rfl⟩
  have hdistinct := h ⟨id,fun _ => .ok .null⟩ { agentId := "agent", hostId := "host" }
    [closedAtOnce,closedAtOnce] (by decide)
  exact absurd hdistinct (by decide)

end StreamIdentity
end KvmAgent
