import KvmAgent.LedgerCalls

/-! What holds over whole runs of an agent host: a command is executed at most once, a
settled record answers every redelivery alike, and which faults wedge a command. -/
namespace KvmAgent
namespace LedgerRuns

open RustText CommandLedger Registration World LedgerCalls

variable (crates : Crates)

/-- How often the executor was called for a trimmed command id. -/
def invocations (w : World) (commandId : String) : ℕ :=
  w.invoked.countP fun p => trim p.1.commandId = commandId

/-- An id the executor was called for has a durable row. -/
def Entered (w : World) : Prop :=
  ∀ commandId, invocations w commandId ≤ 1 ∧
    (w.table.find commandId = none → invocations w commandId = 0)

theorem find_insert_none {t t' : Table} {row : Row} (h : t.insert row = some t')
    {commandId : String} (hn : t'.find commandId = none) : t.find commandId = none := by
  rw [Table.find_insert h] at hn
  split at hn
  · cases hn
  · exact hn

theorem absent_of_insert {t t' : Table} {row : Row} (h : t.insert row = some t') :
    t.find row.commandId = none :=
  Table.insert_isSome_iff.mp (by simp [h])

section Entries

variable {crates} {t t' : Table} {command : AgentCommand} {now : ℤ}

theorem absent_of_entry (h : t.insert (entryRow crates command now) = some t') :
    t.find (trim command.commandId) = none := by
  have habsent := absent_of_insert h
  rwa [entryRow_commandId] at habsent

theorem find_entry (h : t.insert (entryRow crates command now) = some t') :
    t'.find (trim command.commandId) = some (entryRow crates command now) := by
  rw [Table.find_insert h,entryRow_commandId,if_pos rfl]

theorem find_completed (h : t.insert (entryRow crates command now) = some t') (reply : Reply)
    (now' : ℤ) (commandId : String) :
    (completedTable t' command reply now').find commandId =
      if commandId = trim command.commandId then
        some ((entryRow crates command now).completed (trim reply.status)
          (normalizeResultJson reply.resultJson) (trim reply.errorMessage) now')
      else t.find commandId := by
  rw [completedTable,Table.find_update,Table.find_insert h,entryRow_commandId]
  by_cases hid : commandId = trim command.commandId
  · simp [hid]
  · simp [hid,Ne.symm hid]

end Entries

/-- The executor is called behind a fresh row, hence for an id it never was called for. -/
theorem entered_execute {w : World} (hw : Entered w) {command : AgentCommand} {now : ℤ} {t : Table}
    (inserted : w.table.insert (entryRow crates command now) = some t)
    (o : Except AnyhowError String) :
    Entered { w with table := t, invoked := (command,o)::w.invoked } := by
  have habsent : w.table.find (trim command.commandId) = none := absent_of_entry inserted
  have hfound : t.find (trim command.commandId) = some (entryRow crates command now) :=
    find_entry inserted
  intro commandId
  obtain ⟨hone,hzero⟩ := hw commandId
  by_cases hid : trim command.commandId = commandId
  · subst hid
    have h0 : invocations w (trim command.commandId) = 0 := hzero habsent
    have h1 : invocations { w with table := t, invoked := (command,o)::w.invoked }
        (trim command.commandId) = 1 := by
      simpa [invocations] using h0
    exact ⟨h1.le,fun hn => by simp [hfound] at hn⟩
  · have hsame : invocations { w with table := t, invoked := (command,o)::w.invoked } commandId =
        invocations w commandId := by simp [invocations,hid]
    rw [hsame]
    exact ⟨hone,fun hn => hzero (find_insert_none inserted hn)⟩

theorem entered_of_table {w v : World} (hw : Entered w) (hinv : v.invoked = w.invoked)
    (htable : ∀ commandId, v.table.find commandId = none → w.table.find commandId = none) :
    Entered v := by
  intro commandId
  have hsame : invocations v commandId = invocations w commandId := by simp [invocations,hinv]
  rw [hsame]
  exact ⟨(hw commandId).1,fun hn => (hw commandId).2 (htable commandId hn)⟩

theorem entered_call {facts : HostFacts} {streamId : String} {command : AgentCommand} {w v : World}
    {out : Option (Except AnyhowError Unit)} (hw : Entered w)
    (h : CallEffect crates facts streamId command w out v) : Entered v := by
  cases h with
  | untouched | existing | mismatch => exact entered_of_table hw rfl (fun _ hn => hn)
  | unverified F inserted =>
    exact entered_of_table hw rfl (fun _ hn => find_insert_none inserted hn)
  | uncompleted F o inserted => exact entered_execute crates hw inserted o
  | completed o inserted =>
    refine entered_of_table (entered_execute crates hw inserted o) rfl ?_
    intro commandId hn
    rw [completedTable,Table.find_update] at hn
    split at hn
    · exact Option.map_eq_none_iff.mp hn
    · exact hn

theorem entered_step (w : World) (e : Event) (hw : Entered w) : Entered (step crates w e) := by
  have h := step_effect crates w e
  generalize step crates w e = v at h
  cases h with
  | ignored => exact hw
  | acknowledged => exact entered_of_table hw rfl (fun _ hn => hn)
  | called alive effect => exact entered_of_table (entered_call crates hw effect) rfl (fun _ hn => hn)
  | started now =>
    refine entered_of_table hw rfl (fun _ hn => ?_)
    rw [Table.find_markStale] at hn
    exact Option.map_eq_none_iff.mp hn
  | notStarted t F stale =>
    refine entered_of_table hw rfl (fun _ hn => ?_)
    rcases stale with rfl | ⟨now,rfl⟩
    · exact hn
    · rw [Table.find_markStale] at hn
      exact Option.map_eq_none_iff.mp hn

/-- Over any deliveries, failing statements, deaths and restarts, the executor is called
at most once for each trimmed command id. -/
theorem executed_at_most_once (t : Table) (events : List Event) (commandId : String) :
    invocations (after crates (start t) events) commandId ≤ 1 := by
  have h0 : Entered (start t) := fun _ => by simp [invocations,start]
  exact (after_invariant crates (entered_step crates) h0 events commandId).1

def Running (t : Table) : Prop := ∃ commandId row, t.find commandId = some row ∧ row.status = "running"

theorem running_insert {t t' : Table} {command : AgentCommand} {now : ℤ}
    (h : t.insert (entryRow crates command now) = some t') : Running t' := by
  refine ⟨trim command.commandId,entryRow crates command now,?_,rfl⟩
  rw [Table.find_insert h]
  simp [entryRow,newRow]

theorem not_running_markStale (t : Table) (now : ℤ) : ¬Running (t.markStale now) := by
  rintro ⟨commandId,row,hrow,hs⟩
  rw [Table.find_markStale] at hrow
  obtain ⟨r,-,rfl⟩ := Option.map_eq_some_iff.mp hrow
  unfold Row.markedStale at hs
  split at hs
  · simp [Row.completed] at hs
  · contradiction

theorem running_completed {t t' : Table} {command : AgentCommand} {now now' : ℤ} {reply : Reply}
    (h : t.insert (entryRow crates command now) = some t') (hr : trim reply.status ≠ "running") :
    Running (completedTable t' command reply now') ↔ Running t := by
  have habsent : t.find (trim command.commandId) = none := absent_of_entry h
  have hfind (commandId : String) := find_completed h reply now' commandId
  constructor
  · rintro ⟨commandId,row,hrow,hs⟩
    rw [hfind] at hrow
    split at hrow
    · cases hrow
      exact absurd hs hr
    · exact ⟨commandId,row,hrow,hs⟩
  · rintro ⟨commandId,row,hrow,hs⟩
    have hid : commandId ≠ trim command.commandId := by
      rintro rfl
      simp [habsent] at hrow
    exact ⟨commandId,row,by simpa [hfind,hid] using hrow,hs⟩

@[simp] theorem trim_succeeded : trim "succeeded" = "succeeded" := by decide
@[simp] theorem trim_failed : trim "failed" = "failed" := by decide

theorem outcomeReply_status (o : Except AnyhowError String) :
    trim (outcomeReply o).status = "succeeded" ∨ trim (outcomeReply o).status = "failed" := by
  cases o <;> simp [outcomeReply]

/-- A verification read or a completing `UPDATE` has failed since the process started. -/
def Wedging (F : List Statement) : Prop := .verification ∈ F ∨ .complete ∈ F

theorem wedging_early {F G : List Statement} (h : EarlyFaults F) : Wedging (F ++ G) ↔ Wedging G := by
  have hv : Statement.verification ∉ F := fun hm => by simpa using h _ hm
  have hc : Statement.complete ∉ F := fun hm => by simpa using h _ hm
  simp [Wedging,hv,hc]

/-- While a process lives, records are `running` exactly after a wedging fault. -/
def Tracked (w : World) : Prop := w.up = true → (Running w.table ↔ Wedging w.faults)

theorem tracked_call {facts : HostFacts} {streamId : String} {command : AgentCommand} {w v : World}
    {out : Option (Except AnyhowError Unit)} (hw : Running w.table ↔ Wedging w.faults)
    (h : CallEffect crates facts streamId command w out v) (hout : out ≠ none) :
    Running v.table ↔ Wedging v.faults := by
  cases h with
  | untouched F early => exact hw.trans (wedging_early early).symm
  | existing | mismatch => exact hw
  | unverified F inserted only returned =>
    exact iff_of_true (running_insert crates inserted) (.inl (by simp [returned hout]))
  | uncompleted F o inserted only returned =>
    exact iff_of_true (running_insert crates inserted) (.inr (by simp [returned hout]))
  | completed o inserted =>
    refine (running_completed crates inserted ?_).trans hw
    rcases outcomeReply_status o with hs | hs <;> simp [hs]

theorem tracked_step (w : World) (e : Event) (hw : Tracked w) : Tracked (step crates w e) := by
  have h := step_effect crates w e
  generalize step crates w e = v at h
  cases h with
  | ignored => exact hw
  | acknowledged alive => exact fun _ => hw alive
  | called alive effect =>
    intro hup
    have ht := tracked_call crates (hw alive) effect (Option.isSome_iff_ne_none.mp hup)
    exact ht
  | started now => exact fun _ => iff_of_false (not_running_markStale _ _) (by simp [Wedging])
  | notStarted => simp [Tracked]

def AnswersRunning (f : AgentToHypervisor) : Prop :=
  ∃ body, f.message = .commandResult body ∧ body.status = "running"

theorem answers_running {facts : HostFacts} {streamId : String} {command : AgentCommand}
    {reply : Reply} {frames : List AgentToHypervisor}
    (h : Answers facts streamId command reply frames) {f : AgentToHypervisor} (hf : f ∈ frames)
    (hr : AnswersRunning f) : reply.status = "running" := by
  obtain ⟨body,hm,hs⟩ := hr
  rcases h with rfl | ⟨seq,now,rfl⟩
  · simp at hf
  · rw [List.mem_singleton] at hf
    subst hf
    cases hm
    exact hs

theorem running_of_answer {w : World} {e : Event} {f : AgentToHypervisor}
    (hf : f ∈ (step crates w e).sent) (hold : f ∉ w.sent) (hr : AnswersRunning f) :
    Running w.table := by
  have h := step_effect crates w e
  generalize step crates w e = v at h hf
  cases h with
  | ignored | started | notStarted => exact absurd hf hold
  | acknowledged alive other inventories =>
    obtain ⟨body,hm,-⟩ := hr
    rcases List.mem_append.mp hf with hf | hf
    · exact absurd hm (inventories f hf body)
    · exact absurd hf hold
  | called alive effect =>
    cases effect with
    | untouched | unverified | uncompleted => exact absurd hf hold
    | @existing row frames found about sends =>
      rcases List.mem_append.mp hf with hf | hf
      · have hs := answers_running sends hf hr
        refine ⟨_,row,found,?_⟩
        unfold existingReply at hs
        split at hs
        · assumption
        · split at hs <;> simp at hs
      · exact absurd hf hold
    | mismatch found other sends =>
      rcases List.mem_append.mp hf with hf | hf
      · simpa [mismatchReply] using answers_running sends hf hr
      · exact absurd hf hold
    | completed o inserted sends =>
      rcases List.mem_append.mp hf with hf | hf
      · have hs := answers_running sends hf hr
        cases o <;> simp [outcomeReply] at hs
      · exact absurd hf hold

/-- After every returned call the ledger is free of `running` records exactly when no
verification read and no completing `UPDATE` has failed since the process started; and
then the next delivery is not answered `running`. -/
theorem unwedged_iff (t : Table) (events : List Event)
    (returned : (after crates (start t) events).up = true) :
    (¬Running (after crates (start t) events).table ↔
      .verification ∉ (after crates (start t) events).faults ∧
        .complete ∉ (after crates (start t) events).faults) ∧
    (¬Running (after crates (start t) events).table →
      ∀ e, ∀ f ∈ (step crates (after crates (start t) events) e).sent,
        f ∉ (after crates (start t) events).sent → ¬AnswersRunning f) := by
  have h0 : Tracked (start t) := by simp [Tracked,start]
  have ht := after_invariant crates (tracked_step crates) h0 events returned
  refine ⟨?_,fun hfree e f hf hold hr => hfree (running_of_answer crates hf hold hr)⟩
  rw [not_congr ht,Wedging,not_or]

def emptyObjectCrates : Crates where
  sha256Hex s :=
    if s = "{}" then "44136fa355b3678a1146ad16f7e8649e94fb4fc21fe77e8310c060f61caaff8a" else ""
  fromStr s := if s = "{}" then .ok (.object []) else .error "expected value at line 1 column 1"

def sampleFacts : HostFacts where
  agentId := "agent-1"
  hostId := "node-1"

def sampleCommand : AgentCommand where
  commandId := "cmd-1"
  type := "start"
  payloadJson := "{}"

def cleanStart : Event := .restart "ledger.db" (List.replicate 5 {})

def deliverSample (choices : List Choice) : Event :=
  .deliver sampleFacts "agent-1-0" (some (.command sampleCommand)) choices

def ioError : Choice := { fault := some (.msg "disk I/O error") }

/-- The verification read behind the `INSERT` fails and the call returns its error. -/
def unverifiedRun : List Event := [cleanStart,deliverSample [{},{},{},ioError]]

/-- The completing `UPDATE` fails behind the execution and the call returns its error. -/
def uncompletedRun : List Event := [cleanStart,deliverSample [{},{},{},{},{},{},ioError]]

theorem unwedged_clean_run :
    ¬Running (after emptyObjectCrates (start .empty)
      [cleanStart,deliverSample (List.replicate 10 {})]).table :=
  (unwedged_iff emptyObjectCrates .empty [cleanStart,deliverSample (List.replicate 10 {})]
    (by decide)).1.mpr (by decide)

/-- Both faults leave a `running` record behind a returned call, and a redelivery in the
same process is answered `running`. -/
theorem wedged_runs :
    ((after emptyObjectCrates (start .empty) unverifiedRun).up = true ∧
      Running (after emptyObjectCrates (start .empty) unverifiedRun).table) ∧
    ((after emptyObjectCrates (start .empty) uncompletedRun).up = true ∧
      Running (after emptyObjectCrates (start .empty) uncompletedRun).table) ∧
    ((after emptyObjectCrates (start .empty)
      (uncompletedRun ++ [deliverSample (List.replicate 5 {})])).sent.map (·.message)) =
      [.commandResult ⟨"agent-1","node-1","cmd-1","running","{}","",⟨0,0⟩⟩] :=
  ⟨⟨by decide,"cmd-1",entryRow emptyObjectCrates sampleCommand 0,by decide,rfl⟩,
    ⟨by decide,"cmd-1",entryRow emptyObjectCrates sampleCommand 0,by decide,rfl⟩,by decide⟩

end LedgerRuns
end KvmAgent
