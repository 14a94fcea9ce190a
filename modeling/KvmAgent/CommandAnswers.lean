import KvmAgent.CommandHandler
import KvmAgent.LedgerRuns

/-! What a delivered command is answered when the statements of the ledger succeed and the
outbound channel is open. -/
namespace KvmAgent
namespace CommandAnswers

open RustText CommandLedger Registration World LedgerCalls LedgerRuns CommandHandler

def outcomeOf (crates : Crates) (toLowercase : String → String) (command : AgentCommand) :
    Except AnyhowError String :=
  (executeAgentCommand crates toLowercase command.type command.payloadJson).mapError
    fun e => .msg e.text

/-- No operation fails, and the executor returns `outcome`. -/
def Succeeds (outcome : Except AnyhowError String) (c : Choice) : Prop :=
  c.fault = none ∧ c.outcome = outcome

/-- The id is taken by another command, or the executor refuses a command that is new. -/
def Refused (crates : Crates) (outcome : Except AnyhowError String) (w : World)
    (command : AgentCommand) : Prop :=
  match w.table.find (trim command.commandId) with
  | some row => ¬About crates command row.toLedgerRecord
  | none => ∃ err, outcome = .error err

/-- The executor does not understand the command: it has no type or an unknown one, or its
payload cannot be parsed. -/
def Malformed (crates : Crates) (toLowercase : String → String) (command : AgentCommand) : Prop :=
  ∃ e, executeAgentCommand crates toLowercase command.type command.payloadJson = .error e ∧
    ∀ normalized target, e ≠ .notImplemented normalized target

/-- The call has returned `Ok` with one more frame in the channel: a result under the id as
it was received, a failed one if the command is bad. -/
def AnsweredOnce (crates : Crates) (toLowercase : String → String) (streamId : String)
    (command : AgentCommand) (w : World) (r : Option (Except AnyhowError Unit) × World) : Prop :=
  r.1 = some (.ok ()) ∧ ∃ seq body, r.2.sent = ⟨streamId,seq,.commandResult body⟩::w.sent ∧
    body.commandId = command.commandId ∧
    (Malformed crates toLowercase command ∨
      Refused crates (outcomeOf crates toLowercase command) w command → body.status = "failed")

/-- The ledger holds the command itself, running or succeeded. -/
def Unfailed (crates : Crates) (w : World) (command : AgentCommand) : Prop :=
  ∃ row, w.table.find (trim command.commandId) = some row ∧ About crates command row.toLedgerRecord ∧
    (row.status = "running" ∨ row.status = "succeeded")

section Calls

attribute [local irreducible] trim

variable {crates : Crates} {outcome : Except AnyhowError String} {w : World}

section

variable {α : Type} {n : ℕ} {Q : α → World → Prop}

theorem returns_step {o : Op} {k : Ans o → Prog Ans α} {x : Ans o} {t : World}
    (ho : ∀ c, Succeeds outcome c → handler o c w = some (x,t))
    (hk : (k x).Returns handler (Succeeds outcome) Q n t) :
    (Prog.call o k).Returns handler (Succeeds outcome) Q (n+1) w :=
  fun c hc => ⟨x,t,ho c hc,hk⟩

theorem returns_now {k : SystemTime → Prog Ans α}
    (hk : ∀ now, (k now).Returns handler (Succeeds outcome) Q n w) :
    (Prog.call .now k).Returns handler (Succeeds outcome) Q (n+1) w :=
  fun c _ => ⟨c.time,w,rfl,hk c.time⟩

theorem returns_fetchAdd {k : UInt64 → Prog Ans α}
    (hk : ∀ seq, (k seq).Returns handler (Succeeds outcome) Q n w) :
    (Prog.call .fetchAdd k).Returns handler (Succeeds outcome) Q (n+1) w :=
  fun c _ => ⟨c.seq,w,rfl,hk c.seq⟩

end

theorem select_succeeds {c : Choice} (hc : Succeeds outcome c) (site : Statement) (key : String) :
    handler (.select site key) c w = some (.ok ((w.table.find key).map (·.toLedgerRecord)),w) := by
  simp [handler,attempt,hc.1]

theorem beginOrGet_known {command : AgentCommand} {row : Row}
    (nonblank : trim command.commandId ≠ "")
    (found : w.table.find (trim command.commandId) = some row) :
    (beginOrGet crates command.commandId command.type command.payloadJson).run.Returns handler
      (Succeeds outcome) (fun r t => t = w ∧ r = .ok
        (if About crates command row.toLedgerRecord then .existing row.toLedgerRecord
          else .payloadMismatch row.toLedgerRecord)) 2 w := by
  unfold beginOrGet
  simp only [nonblank,if_false]
  refine returns_now fun now => returns_step
    (fun c hc => select_succeeds hc .lookup (trim (trim command.commandId))) ?_
  rw [trim_trim,found]
  change Prog.Returns _ _ _ 0 (ExceptT.run (if row.commandType ≠ trim command.type ∨
    row.payloadHash ≠ hashPayload crates command.payloadJson then _ else _)) _
  by_cases hab : About crates command row.toLedgerRecord
  · have hif : ¬(row.commandType ≠ trim command.type ∨
        row.payloadHash ≠ hashPayload crates command.payloadJson) := by simpa [About] using hab
    rw [if_neg hif,if_pos hab]
    exact ⟨rfl,rfl⟩
  · have hif : row.commandType ≠ trim command.type ∨
        row.payloadHash ≠ hashPayload crates command.payloadJson := not_and_or.mp hab
    rw [if_pos hif,if_neg hab]
    exact ⟨rfl,rfl⟩

theorem beginOrGet_unknown {command : AgentCommand} (nonblank : trim command.commandId ≠ "")
    (absent : w.table.find (trim command.commandId) = none) :
    (beginOrGet crates command.commandId command.type command.payloadJson).run.Returns handler
      (Succeeds outcome)
      (fun r t => (∃ record, r = .ok (.new record)) ∧ t.sent = w.sent) 4 w := by
  unfold beginOrGet
  simp only [nonblank,if_false]
  refine returns_now fun now => returns_step
    (fun c hc => select_succeeds hc .lookup (trim (trim command.commandId))) ?_
  rw [trim_trim,absent]
  have hfree : w.table.find (entryRow crates command now.unixNow).commandId = none := absent
  obtain ⟨t,ht⟩ := Option.isSome_iff_exists.mp (Table.insert_isSome_iff.mpr hfree)
  refine returns_step (t := { w with table := t }) (x := .ok ()) (fun c hc => ?_) ?_
  · simp only [handler]
    rw [← entryRow,ht]
    simp [attempt,hc.1]
  refine returns_step (fun c hc => select_succeeds hc .verification (trim (trim command.commandId))) ?_
  rw [trim_trim,find_entry ht]
  exact ⟨⟨_,rfl⟩,rfl⟩

theorem executeAndComplete_returns (command : AgentCommand) :
    (executeAndComplete command).run.Returns handler (Succeeds outcome)
      (fun r t => r = .ok (outcomeReply outcome) ∧ t.sent = w.sent) 3 w := by
  rw [executeAndComplete_eq]
  refine returns_step (x := outcome) (t := { w with invoked := (command,outcome)::w.invoked })
    (fun c hc => by simp [handler,hc.2]) ?_
  refine returns_now fun now => ?_
  refine returns_step (x := .ok ()) (fun c hc => by
    simp only [handler,attempt,hc.1]
    rfl) ?_
  exact ⟨rfl,rfl⟩

theorem commandReply_known {command : AgentCommand} {row : Row}
    (nonblank : trim command.commandId ≠ "")
    (found : w.table.find (trim command.commandId) = some row) :
    (commandReply crates command).run.Returns handler (Succeeds outcome)
      (fun r t => r = .ok (if About crates command row.toLedgerRecord then
        existingReply row.toLedgerRecord else mismatchReply) ∧ t.sent = w.sent) 7 w := by
  unfold commandReply
  refine Fallible.returns_next (n := 2) (m := 5) ((beginOrGet_known nonblank found).mono le_rfl ?_)
  rintro _ _ ⟨rfl,rfl⟩
  refine ⟨_,rfl,?_⟩
  by_cases hab : About crates command row.toLedgerRecord
  · rw [if_pos hab,if_pos hab]
    exact ⟨rfl,rfl⟩
  · rw [if_neg hab,if_neg hab]
    exact ⟨rfl,rfl⟩

theorem commandReply_unknown {command : AgentCommand} (nonblank : trim command.commandId ≠ "")
    (absent : w.table.find (trim command.commandId) = none) :
    (commandReply crates command).run.Returns handler (Succeeds outcome)
      (fun r t => r = .ok (outcomeReply outcome) ∧ t.sent = w.sent) 7 w := by
  unfold commandReply
  refine Fallible.returns_next (n := 4) (m := 3) ((beginOrGet_unknown nonblank absent).mono le_rfl ?_)
  rintro _ t ⟨⟨record,rfl⟩,ht⟩
  refine ⟨_,rfl,(executeAndComplete_returns command).mono le_rfl ?_⟩
  rintro _ u ⟨rfl,hu⟩
  exact ⟨rfl,hu.trans ht⟩

def replyTo (crates : Crates) (outcome : Except AnyhowError String) (w : World)
    (command : AgentCommand) : Reply :=
  match w.table.find (trim command.commandId) with
  | some row => if About crates command row.toLedgerRecord then existingReply row.toLedgerRecord
    else mismatchReply
  | none => outcomeReply outcome

theorem commandReply_returns {command : AgentCommand} (nonblank : trim command.commandId ≠ "") :
    (commandReply crates command).run.Returns handler (Succeeds outcome)
      (fun r t => r = .ok (replyTo crates outcome w command) ∧ t.sent = w.sent) 7 w := by
  unfold replyTo
  cases hfind : w.table.find (trim command.commandId) with
  | some row => exact commandReply_known nonblank hfind
  | none => exact commandReply_unknown nonblank hfind

theorem existingReply_failed {record : LedgerRecord} : (existingReply record).status = "failed" ↔
    ¬(record.status = "running" ∨ record.status = "succeeded") := by
  unfold existingReply
  split
  · next h => simp [h]
  · next hrunning =>
    split
    · next h => simp [h]
    · next hsucceeded => simp [hrunning,hsucceeded]

/-- A command is replied that it failed unless the ledger says otherwise of it. -/
theorem replyTo_failed {command : AgentCommand} (refuses : ∃ err, outcome = .error err) :
    (replyTo crates outcome w command).status = "failed" ↔ ¬Unfailed crates w command := by
  unfold replyTo Unfailed
  cases w.table.find (trim command.commandId) with
  | none =>
    obtain ⟨err,rfl⟩ := refuses
    simp [outcomeReply]
  | some row =>
    by_cases hab : About crates command row.toLedgerRecord
    · simp only [if_pos hab,existingReply_failed]
      simp [hab]
    · simp [hab,mismatchReply]

theorem replyTo_refused {command : AgentCommand} (h : Refused crates outcome w command) :
    (replyTo crates outcome w command).status = "failed" := by
  unfold Refused at h
  unfold replyTo
  cases hfind : w.table.find (trim command.commandId) with
  | none =>
    rw [hfind] at h
    obtain ⟨err,rfl⟩ := h
    rfl
  | some row =>
    rw [hfind] at h
    simp only [if_neg h]
    rfl

theorem sendReply_returns (facts : HostFacts) (streamId : String) (command : AgentCommand)
    (reply : Reply) : (sendReply facts streamId command reply).run.Returns handler
      (Succeeds outcome) (fun r t => r = .ok () ∧ ∃ seq now,
        t.sent = commandResultFrame facts streamId command reply seq now::w.sent) 3 w := by
  refine returns_fetchAdd fun seq => returns_now fun now => ?_
  refine returns_step (x := .ok ()) (fun c hc => by
    simp only [handler,attempt,hc.1]
    rfl) ?_
  exact ⟨rfl,seq,now,rfl⟩

theorem handle_returns (crates : Crates) (facts : HostFacts) (streamId : String)
    {command : AgentCommand} (nonblank : ¬Blank command.commandId) :
    (handleServerMessage crates facts streamId (some (.command command))).run.Returns handler
      (Succeeds outcome) (fun r t => r = .ok () ∧ ∃ seq now, t.sent =
        commandResultFrame facts streamId command (replyTo crates outcome w command) seq now::w.sent)
      10 w := by
  refine Fallible.returns_next (n := 7) (m := 3) ((commandReply_returns nonblank).mono le_rfl ?_)
  rintro _ t ⟨rfl,ht⟩
  refine ⟨_,rfl,(sendReply_returns facts streamId command _).mono le_rfl ?_⟩
  rintro _ u ⟨rfl,seq,now,hu⟩
  exact ⟨rfl,seq,now,by rw [hu,ht]⟩

/-- While statements and sends succeed, and in every state of the ledger, a command is answered
once, and with a failure if it is bad, exactly when its id is not blank and the ledger does
not hold it as running or succeeded although it is malformed. -/
theorem answered_iff (crates : Crates) (toLowercase : String → String) (facts : HostFacts)
    (streamId : String) (command : AgentCommand) (w : World) (choices : List Choice)
    (succeed : ∀ c ∈ choices, Succeeds (outcomeOf crates toLowercase command) c)
    (enough : 10 ≤ choices.length) :
    AnsweredOnce crates toLowercase streamId command w
        ((handleServerMessage crates facts streamId (some (.command command))).run.run handler
          choices w) ↔
      ¬Blank command.commandId ∧
        ¬(Malformed crates toLowercase command ∧ Unfailed crates w command) := by
  have hrefuses (hbad : Malformed crates toLowercase command) :
      ∃ err, outcomeOf crates toLowercase command = .error err := by
    obtain ⟨e,he,-⟩ := hbad
    exact ⟨.msg e.text,by rw [outcomeOf,he]; rfl⟩
  by_cases hblank : Blank command.commandId
  · refine iff_of_false (fun h => ?_) fun h => h.1 hblank
    have hid : trim command.commandId = "" := hblank
    have hreturned := h.1
    simp [handleServerMessage,commandReply,beginOrGet,hid,Prog.run] at hreturned
  · obtain ⟨r,hr,rfl,seq,now,hsent⟩ :=
      (handle_returns crates facts streamId (w := w) hblank).run succeed enough
    constructor
    · rintro ⟨-,seq',body,hbody,-,hfailed⟩
      refine ⟨hblank,fun hrunning => ?_⟩
      have hbad := hrunning.1
      have hstatus : (replyTo crates (outcomeOf crates toLowercase command) w command).status =
          body.status := by
        rw [hsent] at hbody
        obtain ⟨hframe,-⟩ := List.cons.inj hbody
        cases hframe
        rfl
      exact (replyTo_failed (hrefuses hbad)).mp (hstatus.trans (hfailed (.inl hbad))) hrunning.2
    · rintro ⟨-,hledger⟩
      refine ⟨hr,seq,_,hsent,rfl,fun hbad => ?_⟩
      rcases hbad with hbad | hrefused
      · exact (replyTo_failed (hrefuses hbad)).mpr fun h => hledger ⟨hbad,h⟩
      · exact replyTo_refused hrefused

end Calls

def smoothly (command : AgentCommand) : List Choice :=
  List.replicate 10 { outcome := outcomeOf emptyObjectReader toAsciiLowercase command }

theorem smoothly_succeeds (command : AgentCommand) : ∀ c ∈ smoothly command,
    Succeeds (outcomeOf emptyObjectReader toAsciiLowercase command) c := by
  intro c hc
  rw [List.eq_of_mem_replicate hc]
  exact ⟨by dsimp only,by dsimp only⟩

theorem padded_answered :
    AnsweredOnce emptyObjectReader toAsciiLowercase "agent-1-0" (paddedStart "\u00a0") (start .empty)
      ((handleServerMessage emptyObjectReader sampleFacts "agent-1-0"
        (some (.command (paddedStart "\u00a0")))).run.run handler (smoothly (paddedStart "\u00a0"))
        (start .empty)) :=
  (answered_iff emptyObjectReader toAsciiLowercase sampleFacts "agent-1-0" (paddedStart "\u00a0")
    (start .empty) (smoothly (paddedStart "\u00a0")) (smoothly_succeeds _) (by decide)).mpr
    ⟨by decide,fun ⟨_,row,hrow,_⟩ => nomatch hrow⟩

def blankId : AgentCommand := { paddedStart "" with commandId := " " }

/-- A command whose payload is no JSON, and a ledger that holds it as running. -/
def brace : AgentCommand := { paddedStart "" with payloadJson := "\x7b" }

def braceRunning : World :=
  start ⟨[entryRow emptyObjectReader brace 0],by simp⟩

/-- The blank id ends the call with an error, which ends the session, and nothing is sent; the
malformed command that is in the ledger as running is answered so. -/
theorem blank_id_unanswered :
    ((∀ c ∈ smoothly blankId, Succeeds (outcomeOf emptyObjectReader toAsciiLowercase blankId) c) ∧
      ((handleServerMessage emptyObjectReader sampleFacts "agent-1-0"
        (some (.command blankId))).run.run handler (smoothly blankId) (start .empty)).1 =
          some (.error (.msg "command_id is required")) ∧
      ((handleServerMessage emptyObjectReader sampleFacts "agent-1-0"
        (some (.command blankId))).run.run handler (smoothly blankId) (start .empty)).2.sent = []) ∧
    ((∀ c ∈ smoothly brace, Succeeds (outcomeOf emptyObjectReader toAsciiLowercase brace) c) ∧
      executeAgentCommand emptyObjectReader toAsciiLowercase brace.type brace.payloadJson =
        .error (.invalidPayload "expected value at line 1 column 1") ∧
      ((handleServerMessage emptyObjectReader sampleFacts "agent-1-0"
        (some (.command brace))).run.run handler (smoothly brace) braceRunning).2.sent =
          [commandResultFrame sampleFacts "agent-1-0" brace ⟨"running","{}",""⟩ 0 0]) :=
  ⟨⟨smoothly_succeeds _,by decide,by decide⟩,smoothly_succeeds _,by decide,by decide⟩

end CommandAnswers
end KvmAgent
