import KvmAgent.LedgerWorld

/-! What one call of the message handler can do to the world, up to any point at which it
returns or the process dies. Every property of the ledger is read off these effects. -/
namespace KvmAgent
namespace LedgerCalls

open RustText CommandLedger Registration World

attribute [local irreducible] trim

variable (crates : Crates)

/-- A record is about a command when type and payload hash agree; this is the comparison
of `begin_or_get`. -/
def About (command : AgentCommand) (record : LedgerRecord) : Prop :=
  record.commandType = trim command.type ∧
    record.payloadHash = hashPayload crates command.payloadJson

instance (command : AgentCommand) (record : LedgerRecord) : Decidable (About crates command record) :=
  inferInstanceAs (Decidable (_ ∧ _))

def entryRow (command : AgentCommand) (now : ℤ) : Row :=
  newRow crates (trim command.commandId) (trim command.type) command.payloadJson now

@[simp] theorem entryRow_commandId (command : AgentCommand) (now : ℤ) :
    (entryRow crates command now).commandId = trim command.commandId := rfl

theorem entryRow_about (command : AgentCommand) (now : ℤ) :
    About crates command (entryRow crates command now).toLedgerRecord := ⟨rfl,by
  simp [entryRow,newRow]⟩

/-- Faults that leave the table as it was. -/
def EarlyFaults (F : List Statement) : Prop := ∀ s ∈ F, s = .lookup ∨ s = .insert

/-- The effects of `begin_or_get`: `none` stands for a call cut short. -/
inductive BeginEffect (command : AgentCommand) (w : World) :
    Option (Except AnyhowError BeginOrGet) → World → Prop
  | untouched {out : Option (Except AnyhowError BeginOrGet)} (F : List Statement)
      (early : EarlyFaults F) (noAnswer : ∀ b, out ≠ some (.ok b)) :
      BeginEffect command w out { w with faults := F ++ w.faults }
  | existing {row : Row} (found : w.table.find (trim command.commandId) = some row)
      (about : About crates command row.toLedgerRecord) :
      BeginEffect command w (some (.ok (.existing row.toLedgerRecord))) w
  | mismatch {row : Row} (found : w.table.find (trim command.commandId) = some row)
      (other : ¬About crates command row.toLedgerRecord) :
      BeginEffect command w (some (.ok (.payloadMismatch row.toLedgerRecord))) w
  | cut {now : ℤ} {t : Table} (inserted : w.table.insert (entryRow crates command now) = some t) :
      BeginEffect command w none { w with table := t }
  | unverified {now : ℤ} {t : Table} {out : Option (Except AnyhowError BeginOrGet)}
      (inserted : w.table.insert (entryRow crates command now) = some t)
      (noAnswer : ∀ b, out ≠ some (.ok b)) :
      BeginEffect command w out { w with table := t, faults := .verification::w.faults }
  | new {now : ℤ} {t : Table} (inserted : w.table.insert (entryRow crates command now) = some t) :
      BeginEffect command w (some (.ok (.new (entryRow crates command now).toLedgerRecord)))
        { w with table := t }

theorem beginOrGet_effect (command : AgentCommand) (w : World) :
    (beginOrGet crates command.commandId command.type command.payloadJson).run.Always handler
      (BeginEffect crates command w none)
      (fun r t => BeginEffect crates command w (some r) t) w := by
  have hcut : BeginEffect crates command w none w := .untouched [] (by simp [EarlyFaults]) (by simp)
  have herr (e : AnyhowError) : BeginEffect crates command w (some (.error e)) w :=
    .untouched [] (by simp [EarlyFaults]) (by simp)
  have hfault (s : Statement) (hs : s = .lookup ∨ s = .insert) :
      BeginEffect crates command w none (w.failed s) ∧
      ∀ e, BeginEffect crates command w (some (.error e)) (w.failed s) :=
    ⟨.untouched [s] (by simpa [EarlyFaults] using hs) (by simp),
      fun e => .untouched [s] (by simpa [EarlyFaults] using hs) (by simp)⟩
  unfold beginOrGet
  by_cases hblank : trim command.commandId = ""
  · simp [hblank,hcut,herr]
  cases hfind : w.table.find (trim command.commandId) with
  | some row =>
    by_cases hab : About crates command row.toLedgerRecord
    · have h := hab
      simp only [About] at h
      simp [hblank,loadRecord,hfind,hcut,hfault,h,BeginEffect.existing hfind hab]
    · have h : ¬row.commandType = trim command.type ∨
          ¬row.payloadHash = hashPayload crates command.payloadJson := not_and_or.mp hab
      simp [hblank,loadRecord,hfind,hcut,hfault,h,BeginEffect.mismatch hfind hab]
  | none =>
    have hins (now : ℤ) (t : Table) (ht : w.table.insert (entryRow crates command now) = some t) :
        t.find (trim command.commandId) = some (entryRow crates command now) := by
      rw [Table.find_insert ht]
      simp [entryRow,newRow]
    suffices h : ∀ now, _ by simpa [hblank,loadRecord,hfind,hcut,hfault] using h
    intro now
    rw [always_insert (by exact hfind)]
    refine ⟨hcut,fun err => ?_,fun t ht => ?_⟩
    · simp [hfault]
    · have hrow : (t.find (trim command.commandId)) = some (entryRow crates command now.unixNow) :=
        hins _ _ ht
      have hc : BeginEffect crates command w none { w with table := t } := .cut ht
      have hvcut : BeginEffect crates command w none
          (World.failed { w with table := t } .verification) := .unverified ht (by simp)
      have hverr (e : AnyhowError) : BeginEffect crates command w (some (.error e))
          (World.failed { w with table := t } .verification) := .unverified ht (by simp)
      simp [hrow,hc,hvcut,hverr,BeginEffect.new ht]

/-- The frames a call sends for a reply: none when it stopped before or the channel was
closed, else the one result frame. -/
def Answers (facts : HostFacts) (streamId : String) (command : AgentCommand) (reply : Reply)
    (frames : List AgentToHypervisor) : Prop :=
  frames = [] ∨ ∃ seq now, frames = [commandResultFrame facts streamId command reply seq now]

def completedTable (t : Table) (command : AgentCommand) (reply : Reply) (now : ℤ) : Table :=
  t.update (trim command.commandId) (trim reply.status) (normalizeResultJson reply.resultJson)
    (trim reply.errorMessage) now

inductive CallEffect (facts : HostFacts) (streamId : String) (command : AgentCommand) (w : World) :
    Option (Except AnyhowError Unit) → World → Prop
  | untouched {out : Option (Except AnyhowError Unit)} (F : List Statement) (early : EarlyFaults F) :
      CallEffect facts streamId command w out { w with faults := F ++ w.faults }
  | existing {out : Option (Except AnyhowError Unit)} {row : Row} {frames : List AgentToHypervisor}
      (found : w.table.find (trim command.commandId) = some row)
      (about : About crates command row.toLedgerRecord)
      (sends : Answers facts streamId command (existingReply row.toLedgerRecord) frames) :
      CallEffect facts streamId command w out { w with sent := frames ++ w.sent }
  | mismatch {out : Option (Except AnyhowError Unit)} {row : Row} {frames : List AgentToHypervisor}
      (found : w.table.find (trim command.commandId) = some row)
      (other : ¬About crates command row.toLedgerRecord)
      (sends : Answers facts streamId command mismatchReply frames) :
      CallEffect facts streamId command w out { w with sent := frames ++ w.sent }
  | unverified {out : Option (Except AnyhowError Unit)} {now : ℤ} {t : Table} (F : List Statement)
      (inserted : w.table.insert (entryRow crates command now) = some t)
      (only : ∀ s ∈ F, s = .verification) (returned : out ≠ none → .verification ∈ F) :
      CallEffect facts streamId command w out { w with table := t, faults := F ++ w.faults }
  | uncompleted {out : Option (Except AnyhowError Unit)} {now : ℤ} {t : Table} (F : List Statement)
      (outcome : Except AnyhowError String)
      (inserted : w.table.insert (entryRow crates command now) = some t)
      (only : ∀ s ∈ F, s = .complete) (returned : out ≠ none → .complete ∈ F) :
      CallEffect facts streamId command w out
        { w with table := t, faults := F ++ w.faults, invoked := (command,outcome)::w.invoked }
  | completed {out : Option (Except AnyhowError Unit)} {now now' : ℤ} {t : Table}
      {frames : List AgentToHypervisor} (outcome : Except AnyhowError String)
      (inserted : w.table.insert (entryRow crates command now) = some t)
      (sends : Answers facts streamId command (outcomeReply outcome) frames) :
      CallEffect facts streamId command w out
        { w with
          table := completedTable t command (outcomeReply outcome) now'
          invoked := (command,outcome)::w.invoked
          sent := frames ++ w.sent }

variable (facts : HostFacts) (streamId : String)

theorem sendReply_effect {I : World → Prop} {Q : Except AnyhowError Unit → World → Prop}
    (command : AgentCommand) (reply : Reply) (w : World)
    (hI : ∀ frames, Answers facts streamId command reply frames →
      I { w with sent := frames ++ w.sent })
    (hQ : ∀ r frames, Answers facts streamId command reply frames →
      Q r { w with sent := frames ++ w.sent }) :
    (sendReply facts streamId command reply).run.Always handler I Q w := by
  have hI0 : I w := hI [] (.inl rfl)
  have hQ0 (r : Except AnyhowError Unit) : Q r w := hQ r [] (.inl rfl)
  have hI1 (seq : UInt64) (now : SystemTime) :=
    hI [commandResultFrame facts streamId command reply seq now] (.inr ⟨seq,now,rfl⟩)
  have hQ1 (r : Except AnyhowError Unit) (seq : UInt64) (now : SystemTime) :=
    hQ r [commandResultFrame facts streamId command reply seq now] (.inr ⟨seq,now,rfl⟩)
  simp only [List.singleton_append] at hI1 hQ1
  simp [sendReply,hI0,hQ0,hI1,hQ1]

theorem complete_effect {I : World → Prop} {Q : Except AnyhowError Unit → World → Prop}
    (command : AgentCommand) (reply : Reply) (w : World) (hI : I w)
    (hfail : I (w.failed .complete) ∧ ∀ err, Q (.error err) (w.failed .complete))
    (hdone : ∀ now, I { w with table := completedTable w.table command reply now } ∧
      Q (.ok ()) { w with table := completedTable w.table command reply now }) :
    (complete command.commandId reply.status reply.resultJson reply.errorMessage).run.Always
      handler I Q w := by
  unfold completedTable at hdone
  simp [complete,hI,hfail,hdone]

/-- Behind a fresh row: the execution, the completing `UPDATE` and the reply. -/
theorem executeAndComplete_effect (command : AgentCommand) (w : World) {now : ℤ} {t : Table}
    (inserted : w.table.insert (entryRow crates command now) = some t) :
    (executeAndComplete command).run.Always handler (CallEffect crates facts streamId command w none)
      (Fallible.Next (CallEffect crates facts streamId command w none)
        (fun r t => CallEffect crates facts streamId command w (some r) t)
        fun reply t => (sendReply facts streamId command reply).run.Always handler
          (CallEffect crates facts streamId command w none)
          (fun r t => CallEffect crates facts streamId command w (some r) t) t)
      { w with table := t } := by
  have hstart : CallEffect crates facts streamId command w none { w with table := t } :=
    .unverified [] inserted (by simp) (by simp)
  have hexec (o : Except AnyhowError String) : CallEffect crates facts streamId command w none
      { w with table := t, invoked := (command,o)::w.invoked } :=
    .uncompleted [] o inserted (by simp) (by simp)
  have hfail (o : Except AnyhowError String) (out : Option (Except AnyhowError Unit)) :
      CallEffect crates facts streamId command w out
        (World.failed { w with table := t, invoked := (command,o)::w.invoked } .complete) :=
    .uncompleted [.complete] o inserted (by simp) (by simp)
  rw [executeAndComplete_eq,Fallible.always_bind,Fallible.ask_run,always_execute]
  refine ⟨hstart,fun o => ⟨hexec o,?_⟩⟩
  rw [Fallible.next_ok,Fallible.always_bind]
  apply complete_effect command (outcomeReply o) _ (hexec _)
    ⟨hfail _ none,fun err => ⟨hfail _ none,hfail _ none,hfail _ _⟩⟩
  intro now'
  exact ⟨.completed _ inserted (.inl rfl),.completed _ inserted (.inl rfl),
    sendReply_effect facts streamId command _ _
      (fun _ hs => .completed _ inserted hs) (fun _ _ hs => .completed _ inserted hs)⟩

theorem handleCommand_effect (command : AgentCommand) (w : World) :
    (handleServerMessage crates facts streamId (some (.command command))).run.Always handler
      (CallEffect crates facts streamId command w none)
      (fun r t => CallEffect crates facts streamId command w (some r) t) w := by
  have hcut (t : World) (h : BeginEffect crates command w none t) :
      CallEffect crates facts streamId command w none t := by
    cases h with
    | untouched F early noAnswer => exact .untouched F early
    | cut inserted => exact .unverified [] inserted (by simp) (by simp)
    | unverified inserted noAnswer => exact .unverified [.verification] inserted (by simp) (by simp)
  rw [handleServerMessage,Fallible.always_bind,commandReply,Fallible.always_bind]
  refine (beginOrGet_effect crates command w).mono hcut ?_
  rintro r t - h
  cases h with
  | untouched F early noAnswer =>
    cases r with
    | ok b => exact absurd rfl (noAnswer b)
    | error e => exact ⟨.untouched F early,.untouched F early,.untouched F early⟩
  | unverified inserted noAnswer =>
    cases r with
    | ok b => exact absurd rfl (noAnswer b)
    | error e => exact ⟨.unverified [_] inserted (by simp) (by simp),
        .unverified [_] inserted (by simp) (by simp),.unverified [_] inserted (by simp) (by simp)⟩
  | existing found about =>
    exact ⟨.untouched [] (by simp [EarlyFaults]),sendReply_effect facts streamId command _ w
      (fun _ hs => .existing found about hs) (fun _ _ hs => .existing found about hs)⟩
  | mismatch found other =>
    exact ⟨.untouched [] (by simp [EarlyFaults]),sendReply_effect facts streamId command _ w
      (fun _ hs => .mismatch found other hs) (fun _ _ hs => .mismatch found other hs)⟩
  | new inserted => exact executeAndComplete_effect crates facts streamId command w inserted

def Inventories (frames : List AgentToHypervisor) : Prop :=
  ∀ f ∈ frames, ∀ body, f.message ≠ .commandResult body

theorem sendHostInventory_effect {I : World → Prop} {Q : Except AnyhowError Unit → World → Prop}
    (hI : ∀ frames v, Inventories frames → I v → I { v with sent := frames ++ v.sent })
    (hQ : ∀ r v, I v → Q r v) (left : ℕ) (last : Option AnyhowError) (w : World) (hw : I w) :
    (sendHostInventory facts streamId left last).run.Always handler I Q w := by
  induction left generalizing last with
  | zero => cases last <;> exact ⟨hw,hQ _ _ hw⟩
  | succ left ih =>
    have hsent (seq : UInt64) (pools : List StoragePool) (now : SystemTime) :
        I { w with sent := hostInventoryFrame facts streamId seq pools now::w.sent } :=
      hI [_] w (by simp [Inventories,hostInventoryFrame]) hw
    by_cases hl : left = 0 <;>
      simp [sendHostInventory,hl,hw,hsent,hQ,ih]

inductive EventEffect (w : World) : Event → World → Prop
  | ignored {facts : HostFacts} {streamId : String} {message : Option HypervisorMessage}
      {choices : List Choice} (down : w.up = false) :
      EventEffect w (.deliver facts streamId message choices) w
  | acknowledged {facts : HostFacts} {streamId : String} {message : Option HypervisorMessage}
      {choices : List Choice} {up : Bool} {frames : List AgentToHypervisor}
      (alive : w.up = true) (other : ∀ command, message ≠ some (.command command))
      (inventories : Inventories frames) :
      EventEffect w (.deliver facts streamId message choices)
        { w with sent := frames ++ w.sent, up := up }
  | called {facts : HostFacts} {streamId : String} {command : AgentCommand}
      {choices : List Choice} {out : Option (Except AnyhowError Unit)} {v : World}
      (alive : w.up = true) (effect : CallEffect crates facts streamId command w out v) :
      EventEffect w (.deliver facts streamId (some (.command command)) choices)
        { v with up := out.isSome }
  | notStarted {ledgerPath : String} {choices : List Choice} (t : Table) (F : List Statement)
      (stale : t = w.table ∨ ∃ now, t = w.table.markStale now) :
      EventEffect w (.restart ledgerPath choices) { w with table := t, up := false, faults := F }
  | started {ledgerPath : String} {choices : List Choice} (now : ℤ) :
      EventEffect w (.restart ledgerPath choices)
        { w with table := w.table.markStale now, up := true, faults := [] }

/-- `CommandLedger::open` returns `Ok` only after the stale rows have been marked. -/
theorem open_effect (ledgerPath : String) (w : World) :
    (CommandLedger.open ledgerPath).run.Always handler
      (fun v => (∃ F, v = { w with faults := F }) ∨
        ∃ now, v = { w with table := w.table.markStale now })
      (fun r v => r = .ok () → ∃ now, v = { w with table := w.table.markStale now }) w := by
  have hself : ∃ F, w = { w with faults := F } := ⟨w.faults,rfl⟩
  have hfault (s : Statement) : ∃ F, w.failed s = { w with faults := F } := ⟨_,rfl⟩
  by_cases hp : trim ledgerPath = "" <;>
    simp [CommandLedger.open,markStaleRunningFailed,hp,hself,hfault]

theorem opened_iff (out : Option (Except AnyhowError Unit)) :
    opened out = true ↔ out = some (.ok ()) := by
  rcases out with - | (e | ⟨⟩) <;> simp [opened]

theorem restart_effect (w : World) (ledgerPath : String) (choices : List Choice) :
    EventEffect crates w (.restart ledgerPath choices) (restart ledgerPath choices w) := by
  obtain ⟨hI,hQ⟩ := (open_effect ledgerPath { w with up := false, faults := [] }).run choices
  rw [restart]
  generalize (CommandLedger.open ledgerPath).run.run handler choices
    { w with up := false, faults := [] } = r at hI hQ ⊢
  obtain ⟨out,v⟩ := r
  dsimp only at hI hQ ⊢
  cases hout : opened out with
  | true =>
    obtain ⟨now,rfl⟩ := hQ _ ((opened_iff out).mp hout) rfl
    exact .started now
  | false =>
    rcases hI with ⟨F,rfl⟩ | ⟨now,rfl⟩
    · exact .notStarted w.table F (.inl rfl)
    · exact .notStarted (w.table.markStale now) [] (.inr ⟨now,rfl⟩)

theorem acknowledge_effect (w : World) (message : Option HypervisorMessage)
    (other : ∀ command, message ≠ some (.command command)) :
    (handleServerMessage crates facts streamId message).run.Always handler
      (fun v => ∃ frames, Inventories frames ∧ v = { w with sent := frames ++ w.sent })
      (fun _ _ => True) w := by
  have hself : ∃ frames, Inventories frames ∧ w = { w with sent := frames ++ w.sent } :=
    ⟨[],by simp [Inventories],rfl⟩
  rcases message with - | (⟨a,b,c⟩ | ⟨a,b⟩ | command)
  · exact ⟨hself,trivial⟩
  · apply sendHostInventory_effect facts streamId _ (fun _ _ _ => trivial) _ _ _ hself
    rintro fs v hfs ⟨gs,hgs,rfl⟩
    exact ⟨fs ++ gs,fun f hf => (List.mem_append.mp hf).elim (hfs f) (hgs f),by simp⟩
  · exact ⟨hself,trivial⟩
  · exact absurd rfl (other command)

theorem deliver_effect (w : World) (choices : List Choice) (message : Option HypervisorMessage) :
    EventEffect crates w (.deliver facts streamId message choices)
      (deliver crates facts streamId message choices w) := by
  rw [deliver]
  split
  next hup =>
    by_cases hc : ∃ command, message = some (.command command)
    · obtain ⟨command,rfl⟩ := hc
      obtain ⟨hI,hQ⟩ := (handleCommand_effect crates facts streamId command w).run choices
      generalize (handleServerMessage crates facts streamId (some (.command command))).run.run
        handler choices w = r at hI hQ ⊢
      obtain ⟨out,v⟩ := r
      cases out with
      | none => exact .called hup hI
      | some r => exact .called hup (hQ r rfl)
    · have other : ∀ command, message ≠ some (.command command) := fun c hm => hc ⟨c,hm⟩
      obtain ⟨⟨frames,hinv,hv⟩,-⟩ :=
        (acknowledge_effect crates facts streamId w message other).run choices
      dsimp only
      rw [hv]
      exact .acknowledged hup other hinv
  next hdown => exact .ignored (by simpa using hdown)

theorem step_effect (w : World) (e : Event) : EventEffect crates w e (step crates w e) := by
  cases e with
  | deliver facts streamId message choices => exact deliver_effect crates facts streamId w choices message
  | restart ledgerPath choices => exact restart_effect crates w ledgerPath choices

end LedgerCalls
end KvmAgent
