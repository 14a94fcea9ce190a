import KvmAgent.NodeSnapshot
import KvmAgent.RuntimeChannels

/-! The telemetry task in its other two views: the counters it reports are those of `Telemetry`,
and on the wire it is the task of `RuntimeChannels`. -/
namespace KvmAgent
namespace TelemetryViews

open RustText Telemetry NodeSnapshot PhysicalRam Trace RuntimeChannels

variable {toLowercase : String → String} {facts : HostFacts} {zone : String}

section Counters

/-- The metrics report what was counted: the share of the processor, and the bytes over the
seconds between the readings, at least a tenth. -/
structure Reports (counted : Telemetry.Snapshot) (node : NodeTelemetryMetrics) : Prop where
  cpu : node.cpuUsedPercent = match counted.cpu with
    | some d => if d.total = 0 then .ofNat 0 else .ofUInt64 d.used / .ofUInt64 d.total * .ofNat 100
    | none => .ofNat 0
  io : match counted.io with
    | some d => ∃ between : Duration, d.elapsed = max between (Duration.fromMillis 100) ∧
        let secs := fmax (asSecsF64 between) (.ofScientific 1 (-1))
        node.networkRxBps = (.ofUInt64 d.netRx / secs : F64).toInt64 ∧
        node.networkTxBps = (.ofUInt64 d.netTx / secs : F64).toInt64 ∧
        node.diskReadBps = (.ofUInt64 d.diskRead / secs : F64).toUInt64 ∧
        node.diskWriteBps = (.ofUInt64 d.diskWrite / secs : F64).toUInt64
    | none => node.networkRxBps = 0 ∧ node.networkTxBps = 0 ∧ node.diskReadBps = 0 ∧
        node.diskWriteBps = 0

theorem snapshotOf_reports (m : Moment) (last : Baselines) (usage : F64 × F64)
    (collectedAt : Timestamp) (vms : List VmTelemetryMetrics) :
    Reports (Telemetry.buildSnapshot m last).1
      (snapshotOf facts zone last (baselines m) usage collectedAt vms).node := by
  obtain ⟨lastCpu,lastIo⟩ := last
  constructor
  · cases lastCpu with
    | none => rfl
    | some prev =>
      cases hcpu : (readCpuStats m).toOption <;>
        simp [Telemetry.buildSnapshot,snapshotOf,baselines,cpuPercent,calculateCpuPercent,hcpu]
  · cases lastIo with
    | none => exact ⟨rfl,rfl,rfl,rfl⟩
    | some prev => exact ⟨_,rfl,rfl,rfl,rfl,rfl⟩

def readings (m : Moment) : Trace TelemetryAns :=
  [⟨.now,m.now⟩,⟨.readToString "/proc/diskstats",m.diskstats⟩,
    ⟨.readToString "/proc/net/dev",m.netDev⟩,⟨.readToString "/proc/stat",m.stat⟩]

theorem readings_lasts (m : Moment) : Lasts fun s => readings m <:+: s := fun _ _ h => List.infix_cons h

theorem readMoment_reads : Finds readMoment fun m own => readings m <:+: own := fun _ own =>
  always_ask.mpr ⟨trivial,fun stat => always_ask.mpr ⟨trivial,fun netDev =>
    always_ask.mpr ⟨trivial,fun diskstats => always_ask.mpr ⟨trivial,fun now =>
      ⟨trivial,readings ⟨stat,netDev,diskstats,now⟩ ++ own,rfl,[],own,rfl⟩⟩⟩⟩⟩

theorem buildSnapshot_reports (last : Baselines) :
    Finds (NodeSnapshot.buildSnapshot toLowercase facts zone last) fun r own => ∃ m,
      readings m <:+: own ∧ r.2 = baselines m ∧ Reports (Telemetry.buildSnapshot m last).1 r.1.node :=
  finds_bind readMoment_reads readings_lasts fun m =>
    finds_skip fun _ => finds_skip fun _ => finds_skip fun _ => finds_skip fun _ =>
      finds_ret fun _ hread => ⟨m,hread,rfl,snapshotOf_reports m last _ _ _⟩

def pushed (s : Trace TelemetryAns) : List NodeTelemetryMetrics := s.filterMap fun
  | ⟨.pushTelemetrySnapshot item,_⟩ => some item.node
  | _ => none

theorem pushed_append {own : Trace TelemetryAns} (hown : ∀ c ∈ own, Looks c.1) (s : Trace TelemetryAns) :
    pushed (own ++ s) = pushed s := by
  have hnone : pushed own = [] := by
    refine List.filterMap_eq_nil_iff.mpr fun ⟨o,x⟩ hc => ?_
    have ho := hown _ hc
    cases o with
    | pushTelemetrySnapshot item => exact ho.elim
    | _ => rfl
  rw [pushed,List.filterMap_append]
  exact congrArg (· ++ pushed s) hnone

/-- The record read `start` and then one moment from each tick to the next, and its snapshots
report what the telemetry loop counts over them. -/
structure Watched (start : Moment) (ticks : List Moment) (s : Trace TelemetryAns) : Prop where
  read : List.Forall₂ (fun m calls => readings m <:+: calls) (start::ticks).reverse (s.splitOnP isTick)
  reported : List.Forall₂ Reports (Telemetry.runTelemetryLoop start ticks) (pushed s).reverse

theorem runTelemetryLoop_snoc (start : Moment) (ticks : List Moment) (m : Moment) :
    Telemetry.runTelemetryLoop start (ticks ++ [m]) = Telemetry.runTelemetryLoop start ticks ++
      [(Telemetry.buildSnapshot m (baselines (ticks.getLastD start))).1] := by
  induction ticks generalizing start with
  | nil => rfl
  | cons tick ticks ih =>
    have hnext := ih tick
    rw [List.getLastD_cons]
    exact congrArg ((Telemetry.buildSnapshot tick (baselines start)).1 :: ·) hnext

theorem splitOnP_round {own : Trace TelemetryAns} (hown : ∀ c ∈ own, isTick c = false)
    (fired : Bool) (s : Trace TelemetryAns) :
    (own ++ ⟨.tick,fired⟩::s).splitOnP isTick = own :: s.splitOnP isTick := by
  induction own with
  | nil => simp [List.splitOnP_cons_eq_if_modifyHead,isTick]
  | cons c own ih =>
    obtain ⟨hc,hrest⟩ := List.forall_mem_cons.mp hown
    rw [List.cons_append,List.splitOnP_cons_eq_if_modifyHead,hc,ih hrest]
    rfl

theorem watched_round {start : Moment} {ticks : List Moment} {s own : Trace TelemetryAns} {m : Moment}
    {item : PushHypervisorTelemetrySnapshotRequest} (hs : Watched start ticks s)
    (hown : ∀ c ∈ own, Looks c.1) (hread : readings m <:+: own)
    (hitem : Reports (Telemetry.buildSnapshot m (baselines (ticks.getLastD start))).1 item.node)
    (x : Except Status Unit) : Watched start (ticks ++ [m])
      (⟨.pushTelemetrySnapshot item,x⟩::(own ++ ⟨.tick,true⟩::s)) := by
  constructor
  · have hround : ∀ c ∈ (⟨.pushTelemetrySnapshot item,x⟩::own : Trace TelemetryAns), isTick c = false :=
      List.forall_mem_cons.mpr ⟨rfl,looks_not_tick hown⟩
    have hsplit := splitOnP_round hround true s
    rw [List.cons_append] at hsplit
    rw [hsplit,← List.cons_append,List.reverse_append]
    exact .cons (List.infix_cons hread) hs.read
  · have hpushed : pushed (⟨.pushTelemetrySnapshot item,x⟩::(own ++ ⟨.tick,true⟩::s)) =
        item.node :: pushed s := by
      have hrest := pushed_append hown (⟨.tick,true⟩::s)
      exact congrArg (item.node :: ·) hrest
    rw [hpushed,runTelemetryLoop_snoc,List.reverse_cons]
    exact List.rel_append hs.reported (.cons hitem .nil)

/-- What a run has reported by any of its pushes are the snapshots that the telemetry loop counts
over the moments it has read. -/
theorem telemetry_counts (toLowercase : String → String) (facts : HostFacts) (zone : String) (n : ℕ)
    (choices : List (Call TelemetryAns)) :
    Pushes (fun item earlier => ∃ start ticks, ∀ x,
        Watched start ticks (⟨.pushTelemetrySnapshot item,x⟩::earlier))
      ((NodeSnapshot.runTelemetryLoop toLowercase facts zone n).run recorder choices []).2 := by
  refine (kept_of_builds (R := fun last s => ∃ start ticks,
    last = baselines (ticks.getLastD start) ∧ Watched start ticks s) ?_ ?_ n choices).1
  · refine readMoment_reads.mono fun m own hread hown => ⟨m,[],rfl,?_,?_⟩
    · have hone : own.splitOnP isTick = [own] := List.splitOnP_eq_singleton (looks_not_tick hown)
      rw [hone]
      exact .cons hread .nil
    · have hnone := pushed_append hown []
      rw [List.append_nil] at hnone
      rw [hnone]
      exact .nil
  · rintro _ s ⟨start,ticks,rfl,hs⟩
    refine (buildSnapshot_reports _).mono fun r own hmade hown => ?_
    obtain ⟨m,hread,hcurr,hitem⟩ := hmade
    have hround := watched_round hs hown hread hitem
    refine ⟨⟨start,ticks ++ [m],hround⟩,fun x => ⟨start,ticks ++ [m],?_,hround x⟩⟩
    rw [hcurr,List.getLastD_concat]

end Counters

section Wire

/-- What is seen of a call on the wire; a snapshot is built before it is pushed. -/
def shown : Call TelemetryAns → Trace WireAns
  | ⟨.tick,fired⟩ => [⟨.tick,fired⟩]
  | ⟨.pushTelemetrySnapshot _,x⟩ => [⟨.pushTelemetrySnapshot,x⟩,⟨.buildSnapshot,true⟩]
  | _ => []

def onWire (s : Trace TelemetryAns) : Trace WireAns := s.flatMap shown

theorem onWire_looks {o : TelemetryOp} (ho : Looks o) (x : TelemetryAns o) (s : Trace TelemetryAns) :
    onWire (⟨o,x⟩::s) = onWire s := by
  cases o with
  | tick => exact ho.elim
  | pushTelemetrySnapshot item => exact ho.elim
  | _ => rfl

def Follows (p : Wire (Unit ⊕ Unit)) (s : Trace TelemetryAns) : Prop := ∃ q, Reaches p (onWire s) q

theorem loop_follows {p : Wire (Unit ⊕ Unit)} (n : ℕ) (last : Baselines) {s : Trace TelemetryAns}
    (hs : Reaches p (onWire s) (Prog.loop RuntimeChannels.telemetryStep n ())) :
    (Prog.loop (NodeSnapshot.telemetryStep toLowercase facts zone) n last).Always recorder (Follows p)
      (fun _ _ => True) s := by
  induction n generalizing last s with
  | zero => exact ⟨⟨_,hs⟩,trivial⟩
  | succ n ih =>
    rw [Prog.loop,Prog.always_bind]
    refine always_ask.mpr ⟨⟨_,hs⟩,fun fired => ?_⟩
    have htick := Reaches.answer hs fired
    cases fired with
    | false => exact ⟨⟨_,htick⟩,⟨_,htick⟩,trivial⟩
    | true =>
      have hbuild : (NodeSnapshot.buildSnapshot toLowercase facts zone last).Keeps recorder
          fun t => onWire t = onWire (⟨.tick,true⟩::s) :=
        uses_keeps (buildSnapshot_looks last) fun o x t ho ht => (onWire_looks ho x t).trans ht
      refine (Prog.always_bind (p := NodeSnapshot.buildSnapshot toLowercase facts zone last)).mpr
        ((hbuild _ rfl).mono (fun t ht => ?_) ?_)
      · rw [Follows,ht]
        exact ⟨_,htick⟩
      rintro ⟨item,curr⟩ t ht -
      have hwire := htick
      rw [show (⟨.tick,true⟩::onWire s : Trace WireAns) = onWire t from ht.symm] at hwire
      refine always_ask.mpr ⟨⟨_,hwire⟩,fun x => ?_⟩
      have hpush := Reaches.answer (Reaches.answer hwire true) x
      exact ⟨⟨_,hpush⟩,ih curr hpush⟩

/-- On the wire every run of the telemetry loop is one of `RuntimeChannels.telemetryStep`. -/
theorem telemetry_onWire (toLowercase : String → String) (facts : HostFacts) (zone : String) (n : ℕ)
    (choices : List (Call TelemetryAns)) : ∃ choices',
      onWire ((NodeSnapshot.runTelemetryLoop toLowercase facts zone n).run recorder choices []).2 =
        ((Prog.loop RuntimeChannels.telemetryStep n ()).run recorder choices' []).2 := by
  have hread : readMoment.Keeps recorder fun t => onWire t = [] :=
    uses_keeps readMoment_looks fun o x t ho ht => (onWire_looks ho x t).trans ht
  have hrun : (NodeSnapshot.runTelemetryLoop toLowercase facts zone n).Always recorder
      (Follows (Prog.loop RuntimeChannels.telemetryStep n ())) (fun _ _ => True) [] := by
    refine (Prog.always_bind (p := readMoment)).mpr ((hread [] rfl).mono (fun t ht => ?_) ?_)
    · rw [Follows,ht]
      exact ⟨_,.start⟩
    · intro m t ht _
      refine loop_follows n (baselines m) ?_
      rw [ht]
      exact .start
  obtain ⟨q,hq⟩ := (hrun.run choices).1
  obtain ⟨choices',hchoices⟩ := hq.exists_run
  exact ⟨choices',hchoices.symm⟩

/-- The telemetry loop that a session starts, where there is a zone, is a task of the wire. -/
theorem telemetry_record {crates : Crates} {ssl : OpenSsl} {store : IdentityStore}
    {config : AppConfig} {given : Option Channel} {s earlier : Trace WireAns} {streamId : String}
    (hzone : trim config.zoneId ≠ "") (spawner : TaskRecord crates ssl store config facts given s)
    (spawned : ⟨.session (.spawn .telemetry streamId),()⟩::earlier <:+ s) (n : ℕ)
    (choices : List (Call TelemetryAns)) :
    TaskRecord crates ssl store config facts (latest given earlier)
      (onWire ((NodeSnapshot.runTelemetryLoop toLowercase facts config.zoneId n).run recorder choices []).2) := by
  obtain ⟨choices',hchoices⟩ := telemetry_onWire toLowercase facts config.zoneId n choices
  have htask : telemetryTask config n = Prog.loop RuntimeChannels.telemetryStep n () := if_neg hzone
  rw [hchoices,← htask]
  exact .telemetry spawner spawned n choices'

end Wire
end TelemetryViews
end KvmAgent
