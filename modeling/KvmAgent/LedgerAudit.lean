import KvmAgent.CommandAnswers

/-! What the agent ever says of a command, in its ledger and to the controlplane, with the
executor it has. -/
namespace KvmAgent
namespace LedgerAudit

open RustText CommandLedger Registration World LedgerCalls LedgerRuns CommandHandler CommandAnswers

variable (crates : Crates) (toLowercase : String → String)

/-- The event, with `execute_agent_command` as the executor. -/
def executed : Event → Event
  | .deliver facts streamId (some (.command command)) choices =>
    .deliver facts streamId (some (.command command))
      (choices.map ({ · with outcome := outcomeOf crates toLowercase command }))
  | e => e

def Delivered (events : List Event) (command : AgentCommand) : Prop :=
  ∃ facts streamId choices, .deliver facts streamId (some (.command command)) choices ∈ events

inductive Verdict (command : AgentCommand) : Reply → Prop
  | running : Verdict command ⟨"running","{}",""⟩
  | refused {e : CommandError}
      (error : executeAgentCommand crates toLowercase command.type command.payloadJson = .error e) :
      Verdict command ⟨"failed","{}",trim e.text⟩
  | interrupted : Verdict command ⟨"failed","{}","agent_restart_before_completion"⟩

/-- What a delivery is answered: the executor's refusal, what the record of an earlier delivery
of the command says, or that another command has its id. -/
inductive Explained (events : List Event) (command : AgentCommand) : Reply → Prop
  | refused {e : CommandError}
      (error : executeAgentCommand crates toLowercase command.type command.payloadJson = .error e) :
      Explained events command ⟨"failed","{}",e.text⟩
  | recorded {first : AgentCommand} {reply : Reply} (delivered : Delivered events first)
      (sameId : trim first.commandId = trim command.commandId)
      (sameType : trim first.type = trim command.type)
      (sameHash : hashPayload crates first.payloadJson = hashPayload crates command.payloadJson)
      (verdict : Verdict crates toLowercase first reply) : Explained events command reply
  | mismatch {first : AgentCommand} (delivered : Delivered events first)
      (sameId : trim first.commandId = trim command.commandId)
      (other : trim first.type ≠ trim command.type ∨
        hashPayload crates first.payloadJson ≠ hashPayload crates command.payloadJson) :
      Explained events command mismatchReply

def Recorded (events : List Event) (row : Row) : Prop :=
  ∃ command, Delivered events command ∧ row.commandId = trim command.commandId ∧
    About crates command row.toLedgerRecord ∧
    Verdict crates toLowercase command ⟨row.status,row.resultJson,row.errorMessage⟩

/-- A result frame answers a command that was delivered, under the id as it was received. -/
def Answered (events : List Event) (frame : AgentToHypervisor) : Prop :=
  ∀ body, frame.message = .commandResult body →
    ∃ command, Delivered events command ∧ body.commandId = command.commandId ∧
      Explained crates toLowercase events command ⟨body.status,body.resultJson,body.errorMessage⟩

structure Audited (events : List Event) (w : World) : Prop where
  invoked : ∀ entry ∈ w.invoked, entry.2 = outcomeOf crates toLowercase entry.1
  rows : ∀ commandId row, w.table.find commandId = some row → Recorded crates toLowercase events row
  frames : ∀ frame ∈ w.sent, Answered crates toLowercase events frame

section Outcomes

theorem outcomeOf_error (command : AgentCommand) :
    ∃ e, executeAgentCommand crates toLowercase command.type command.payloadJson = .error e ∧
      outcomeOf crates toLowercase command = .error (.msg e.text) := by
  have herror : ∃ e, executeAgentCommand crates toLowercase command.type command.payloadJson = .error e := by
    unfold executeAgentCommand
    dsimp only
    split
    · exact ⟨_,rfl⟩
    cases parsePayload crates command.payloadJson with
    | error e => exact ⟨e,rfl⟩
    | ok payload =>
      change ∃ e, dispatch _ payload = .error e
      unfold dispatch
      split <;> exact ⟨_,rfl⟩
  obtain ⟨e,he⟩ := herror
  exact ⟨e,he,by rw [outcomeOf,he]; rfl⟩

theorem handler_invoked {o : Op} {c : Choice} {w t : World} {x : Ans o}
    (h : handler o c w = some (x,t)) : ∀ entry ∈ t.invoked, entry ∈ w.invoked ∨ entry.2 = c.outcome := by
  have hsame {u : World} (hu : u.invoked = w.invoked) :
      ∀ entry ∈ u.invoked, entry ∈ w.invoked ∨ entry.2 = c.outcome := fun entry hentry =>
    .inl (hu ▸ hentry)
  have hattempt {α : Type} {x : α} {bad good : World} {r : Except AnyhowError α}
      (h : attempt c bad x good = some (r,t)) (hbad : bad.invoked = w.invoked)
      (hgood : good.invoked = w.invoked) : ∀ entry ∈ t.invoked, entry ∈ w.invoked ∨ entry.2 = c.outcome := by
    unfold attempt at h
    split at h <;> cases h
    · exact hsame hbad
    · exact hsame hgood
  cases o with
  | insert row =>
    simp only [handler] at h
    split at h
    · cases h
      exact hsame rfl
    · exact hattempt h rfl rfl
  | execute command =>
    cases h
    intro entry hentry
    rcases List.mem_cons.mp hentry with rfl | hentry
    · exact .inr rfl
    · exact .inl hentry
  | update | markStale | createTable | select | createParentDir | connect | send =>
    exact hattempt h rfl rfl
  | now | discoverStoragePools | fetchAdd | sleep =>
    cases h
    exact hsame rfl
  | tick | sessionEvent | channel | openStream | spawn | abort => cases h

/-- Where the executor always returns one thing, that is what a run has it return. -/
theorem run_invoked {α : Type} (p : Prog Ans α) (outcome : Except AnyhowError String)
    (choices : List Choice) (w : World) :
    ∀ entry ∈ (p.run handler (choices.map ({ · with outcome := outcome })) w).2.invoked,
      entry ∈ w.invoked ∨ entry.2 = outcome := by
  induction p generalizing choices w with
  | ret a => exact fun entry hentry => .inl hentry
  | call o k ih =>
    cases choices with
    | nil => exact fun entry hentry => .inl hentry
    | cons c choices =>
      simp only [List.map_cons,Prog.run]
      split
      · exact fun entry hentry => .inl hentry
      next x t h =>
      intro entry hentry
      rcases ih x choices t entry hentry with hentry | houtcome
      · exact handler_invoked h entry hentry
      · exact .inr houtcome

end Outcomes

section Audit

attribute [local irreducible] trim

variable {crates toLowercase} {events : List Event} {command : AgentCommand} {row : Row} {w v : World}

theorem Verdict.resultJson {reply : Reply} (h : Verdict crates toLowercase command reply) :
    reply.resultJson = "{}" := by
  cases h <;> rfl

theorem Verdict.status {reply : Reply} (h : Verdict crates toLowercase command reply) :
    reply.status ≠ "succeeded" := by
  cases h <;> simp

theorem Explained.status {reply : Reply} (h : Explained crates toLowercase events command reply) :
    reply.status ≠ "succeeded" := by
  cases h with
  | refused | mismatch => simp [mismatchReply]
  | recorded _ _ _ _ hverdict => exact hverdict.status

theorem existingReply_recorded {record : LedgerRecord}
    (h : Verdict crates toLowercase command ⟨record.status,record.resultJson,record.errorMessage⟩) :
    existingReply record = ⟨record.status,record.resultJson,record.errorMessage⟩ := by
  obtain ⟨_,_,_,_,status,resultJson,errorMessage⟩ := record
  cases h <;> rfl

theorem recorded_entry (hdelivered : Delivered events command) (now : ℤ) :
    Recorded crates toLowercase events (entryRow crates command now) :=
  ⟨command,hdelivered,rfl,entryRow_about crates command now,.running⟩

theorem recorded_completed {e : CommandError} (hdelivered : Delivered events command)
    (he : executeAgentCommand crates toLowercase command.type command.payloadJson = .error e) (now now' : ℤ) :
    Recorded crates toLowercase events ((entryRow crates command now).completed (trim "failed")
      (normalizeResultJson "{}") (trim e.text) now') := by
  have hresult : normalizeResultJson "{}" = "{}" := by simp [normalizeResultJson]
  refine ⟨command,hdelivered,rfl,entryRow_about crates command now,?_⟩
  simp only [Row.completed,trim_failed,hresult]
  exact .refused he

theorem recorded_markedStale (h : Recorded crates toLowercase events row) (now : ℤ) :
    Recorded crates toLowercase events (row.markedStale now) := by
  unfold Row.markedStale
  split
  next hrunning =>
    obtain ⟨command,hdelivered,hid,habout,hverdict⟩ := h
    refine ⟨command,hdelivered,hid,habout,?_⟩
    have hresult : row.resultJson = "{}" := hverdict.resultJson
    simp only [Row.completed,hresult]
    exact .interrupted
  · exact h

theorem recorded_markStale {t : Table}
    (h : ∀ commandId row, t.find commandId = some row → Recorded crates toLowercase events row) (now : ℤ) :
    ∀ commandId row, (t.markStale now).find commandId = some row → Recorded crates toLowercase events row := by
  intro commandId row hrow
  rw [Table.find_markStale,Option.map_eq_some_iff] at hrow
  obtain ⟨before,hbefore,rfl⟩ := hrow
  exact recorded_markedStale (h commandId before hbefore) now

theorem answered_answers {facts : HostFacts} {streamId : String} {reply : Reply}
    {frames : List AgentToHypervisor} (hdelivered : Delivered events command)
    (hreply : Explained crates toLowercase events command reply)
    (hsends : Answers facts streamId command reply frames)
    (hw : ∀ frame ∈ w.sent, Answered crates toLowercase events frame) :
    ∀ frame ∈ frames ++ w.sent, Answered crates toLowercase events frame := by
  rcases hsends with rfl | ⟨seq,now,rfl⟩
  · exact hw
  intro frame hframe
  rcases List.mem_cons.mp hframe with rfl | hframe
  · rintro _ ⟨⟩
    exact ⟨command,hdelivered,rfl,hreply⟩
  · exact hw frame hframe

theorem audited_call {facts : HostFacts} {streamId : String} {out : Option (Except AnyhowError Unit)}
    (hdelivered : Delivered events command) (hw : Audited crates toLowercase events w)
    (heffect : CallEffect crates facts streamId command w out v)
    (hinvoked : ∀ entry ∈ v.invoked, entry.2 = outcomeOf crates toLowercase entry.1) :
    Audited crates toLowercase events v := by
  have hentry {t : Table} {now : ℤ} (inserted : w.table.insert (entryRow crates command now) = some t) :
      ∀ commandId row, t.find commandId = some row → Recorded crates toLowercase events row := by
    intro commandId row hrow
    rw [Table.find_insert inserted] at hrow
    split at hrow
    · cases hrow
      exact recorded_entry hdelivered now
    · exact hw.rows commandId row hrow
  cases heffect with
  | untouched => exact ⟨hinvoked,hw.rows,hw.frames⟩
  | @existing row frames found about sends =>
    refine ⟨hinvoked,hw.rows,?_⟩
    obtain ⟨first,hfirst,hid,habout,hverdict⟩ := hw.rows _ row found
    rw [existingReply_recorded hverdict] at sends
    refine answered_answers hdelivered (.recorded hfirst ?_ ?_ ?_ hverdict) sends hw.frames
    · rw [← hid,Table.find_key found]
    · rw [← habout.1,about.1]
    · rw [← habout.2,about.2]
  | @mismatch row frames found other sends =>
    refine ⟨hinvoked,hw.rows,?_⟩
    obtain ⟨first,hfirst,hid,habout,-⟩ := hw.rows _ row found
    refine answered_answers hdelivered (.mismatch hfirst ?_ ?_) sends hw.frames
    · rw [← hid,Table.find_key found]
    · rw [← habout.1,← habout.2]
      exact not_and_or.mp other
  | unverified F inserted => exact ⟨hinvoked,hentry inserted,hw.frames⟩
  | uncompleted F outcome inserted => exact ⟨hinvoked,hentry inserted,hw.frames⟩
  | @completed now now' t frames outcome inserted sends =>
    obtain ⟨e,he,houtcome⟩ := outcomeOf_error crates toLowercase command
    obtain rfl : outcome = .error (.msg e.text) :=
      (hinvoked (command,outcome) List.mem_cons_self).trans houtcome
    refine ⟨hinvoked,fun commandId row hrow => ?_,?_⟩
    · rw [find_completed inserted] at hrow
      split at hrow
      · cases hrow
        exact recorded_completed hdelivered he now now'
      · exact hw.rows commandId row hrow
    · exact answered_answers hdelivered (.refused he) sends hw.frames

theorem call_invoked {facts : HostFacts} {streamId : String} {out : Option (Except AnyhowError Unit)}
    (h : CallEffect crates facts streamId command w out v) :
    ∀ entry ∈ v.invoked, entry ∈ w.invoked ∨ entry.1 = command := by
  cases h with
  | untouched | existing | mismatch | unverified => exact fun entry hentry => .inl hentry
  | uncompleted | completed =>
    intro entry hentry
    rcases List.mem_cons.mp hentry with rfl | hentry
    · exact .inr rfl
    · exact .inl hentry

theorem audited_deliver {facts : HostFacts} {streamId : String} {choices : List Choice}
    (hdelivered : Delivered events command) (hw : Audited crates toLowercase events w) :
    Audited crates toLowercase events (deliver crates facts streamId (some (.command command))
      (choices.map ({ · with outcome := outcomeOf crates toLowercase command })) w) := by
  have heffect := deliver_effect crates facts streamId w
    (choices.map ({ · with outcome := outcomeOf crates toLowercase command })) (some (.command command))
  have hran : ∀ entry ∈ (deliver crates facts streamId (some (.command command))
      (choices.map ({ · with outcome := outcomeOf crates toLowercase command })) w).invoked,
      entry ∈ w.invoked ∨ entry.2 = outcomeOf crates toLowercase command := by
    unfold deliver
    split
    · exact run_invoked _ _ choices w
    · exact fun entry hentry => .inl hentry
  generalize deliver crates facts streamId (some (.command command))
    (choices.map ({ · with outcome := outcomeOf crates toLowercase command })) w = v at heffect hran
  cases heffect with
  | ignored down => exact hw
  | acknowledged alive other => exact absurd rfl (other command)
  | @called _ _ _ _ out v alive effect =>
    have hinvoked : ∀ entry ∈ v.invoked, entry.2 = outcomeOf crates toLowercase entry.1 := by
      intro entry hentry
      rcases hran entry hentry with hearlier | houtcome
      · exact hw.invoked entry hearlier
      rcases call_invoked effect entry hentry with hearlier | hcommand
      · exact hw.invoked entry hearlier
      · rw [houtcome,hcommand]
    obtain ⟨hinvoked,hrows,hframes⟩ := audited_call hdelivered hw effect hinvoked
    exact ⟨hinvoked,hrows,hframes⟩

/-- The other events answer no command, and write nothing but to settle what was running. -/
theorem audited_aside {e : Event} (hw : Audited crates toLowercase events w)
    (h : EventEffect crates w e v)
    (hother : ∀ facts streamId command choices, e ≠ .deliver facts streamId (some (.command command)) choices) :
    Audited crates toLowercase events v := by
  cases h with
  | ignored => exact hw
  | @acknowledged _ _ _ _ _ frames alive other inventories =>
    refine ⟨hw.invoked,hw.rows,fun frame hframe => ?_⟩
    rcases List.mem_append.mp hframe with hframe | hframe
    · exact fun body hbody => absurd hbody (inventories frame hframe body)
    · exact hw.frames frame hframe
  | called => exact absurd rfl (hother _ _ _ _)
  | notStarted t F stale =>
    refine ⟨hw.invoked,?_,hw.frames⟩
    rcases stale with rfl | ⟨now,rfl⟩
    · exact hw.rows
    · exact recorded_markStale hw.rows now
  | started now => exact ⟨hw.invoked,recorded_markStale hw.rows now,hw.frames⟩

theorem audited_step {e : Event} (he : e ∈ events) (hw : Audited crates toLowercase events w) :
    Audited crates toLowercase events (step crates w (executed crates toLowercase e)) := by
  have haside := fun e => audited_aside hw (step_effect crates w e)
  rcases e with ⟨facts,streamId,- | (_ | _ | command),choices⟩ | ⟨path,choices⟩
  · exact haside _ (by simp [executed])
  · exact haside _ (by simp [executed])
  · exact haside _ (by simp [executed])
  · exact audited_deliver ⟨facts,streamId,choices,he⟩ hw
  · exact haside _ (by simp [executed])

end Audit

/-- Over every run from an empty ledger, through faults, deaths and restarts: each record and each
result that is sent is about a command that was delivered, and says of it that it runs, what the
executor has against it, that a restart cut it off, or that its id is another's. Nothing is ever
said to have succeeded. -/
theorem ledger_audited (events : List Event) :
    let w := after crates (start .empty) (events.map (executed crates toLowercase))
    (∀ row ∈ w.table.rows, Recorded crates toLowercase events row ∧ row.status ≠ "succeeded") ∧
    ∀ frame ∈ w.sent, Answered crates toLowercase events frame ∧
      ∀ body, frame.message = .commandResult body → body.status ≠ "succeeded" := by
  intro w
  have hstart : Audited crates toLowercase events (start .empty) :=
    ⟨by simp [start],by simp [start,Table.empty,Table.find],by simp [start]⟩
  have hw : Audited crates toLowercase events w := by
    unfold w after
    rw [List.foldl_map]
    exact List.foldlRecOn events _ hstart fun _ hv e he => audited_step he hv
  refine ⟨fun row hrow => ?_,fun frame hframe => ⟨hw.frames frame hframe,fun body hbody => ?_⟩⟩
  · have hrecorded := hw.rows _ row (Table.mem_rows_iff.mp hrow)
    refine ⟨hrecorded,?_⟩
    obtain ⟨command,-,-,-,hverdict⟩ := hrecorded
    exact hverdict.status
  · obtain ⟨command,-,-,hexplained⟩ := hw.frames frame hframe body hbody
    exact hexplained.status

end LedgerAudit
end KvmAgent
