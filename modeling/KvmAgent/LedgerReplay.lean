import KvmAgent.LedgerRuns

/-! Replay of answers: a record that is no longer `running` never changes, so every
redelivery is answered from it; when the first answer already agrees with the record. -/
namespace KvmAgent
namespace LedgerReplay

open RustText CommandLedger Registration World LedgerCalls LedgerRuns

variable (crates : Crates)

/-- A row that execution and restarts are done with. -/
def Settled (w : World) (commandId : String) (row : Row) : Prop :=
  w.table.find commandId = some row ∧ row.status ≠ "running"

theorem settled_insert {t t' : Table} {commandId : String} {row row' : Row}
    (hfind : t.find commandId = some row) (h : t.insert row' = some t') :
    t'.find commandId = some row ∧ commandId ≠ row'.commandId := by
  have hne : row'.commandId ≠ commandId := by
    rintro rfl
    simp [absent_of_insert h] at hfind
  exact ⟨by simpa [Table.find_insert h,hne] using hfind,hne.symm⟩

theorem settled_markStale {t : Table} {commandId : String} {row : Row} {now : ℤ}
    (hfind : t.find commandId = some row) (hs : row.status ≠ "running") :
    (t.markStale now).find commandId = some row := by
  simp [Table.find_markStale,hfind,Row.markedStale,hs]

theorem settled_call {facts : HostFacts} {streamId : String} {command : AgentCommand} {w v : World}
    {out : Option (Except AnyhowError Unit)} {commandId : String} {row : Row}
    (hw : Settled w commandId row) (h : CallEffect crates facts streamId command w out v) :
    Settled v commandId row := by
  obtain ⟨hfind,hs⟩ := hw
  cases h with
  | untouched | existing | mismatch => exact ⟨hfind,hs⟩
  | unverified F inserted => exact ⟨(settled_insert hfind inserted).1,hs⟩
  | uncompleted F o inserted => exact ⟨(settled_insert hfind inserted).1,hs⟩
  | completed o inserted =>
    obtain ⟨hf,hne⟩ := settled_insert hfind inserted
    have hne' : commandId ≠ trim command.commandId := hne
    exact ⟨by simpa [completedTable,Table.find_update,hne'] using hf,hs⟩

theorem settled_step {commandId : String} {row : Row} (w : World) (e : Event)
    (hw : Settled w commandId row) : Settled (step crates w e) commandId row := by
  have h := step_effect crates w e
  generalize step crates w e = v at h
  cases h with
  | ignored | acknowledged => exact hw
  | called alive effect =>
    have hs := settled_call crates hw effect
    exact hs
  | started now => exact ⟨settled_markStale hw.1 hw.2,hw.2⟩
  | notStarted t F stale =>
    rcases stale with rfl | ⟨now,rfl⟩
    · exact hw
    · exact ⟨settled_markStale hw.1 hw.2,hw.2⟩

/-- Two deliveries of one command: id, type and payload agree letter by letter. -/
def SameDelivery (c d : AgentCommand) : Prop :=
  c.commandId = d.commandId ∧ c.type = d.type ∧ c.payloadJson = d.payloadJson

theorem about_congr {c d : AgentCommand} (h : SameDelivery c d) (record : LedgerRecord) :
    About crates c record ↔ About crates d record := by
  rw [About,About,h.2.1,h.2.2]

theorem about_completed (command : AgentCommand) (row : Row) (status resultJson errorMessage : String)
    (now : ℤ) : About crates command (row.completed status resultJson errorMessage now).toLedgerRecord ↔
      About crates command row.toLedgerRecord :=
  Iff.rfl

theorem answers_cons {facts : HostFacts} {streamId : String} {command : AgentCommand} {reply : Reply}
    {frames old : List AgentToHypervisor} {f : AgentToHypervisor}
    (h : Answers facts streamId command reply frames) (he : frames ++ old = f::old) :
    ∃ body, f.message = .commandResult body ∧ body.commandId = command.commandId ∧
      body.status = reply.status ∧ body.resultJson = reply.resultJson ∧
      body.errorMessage = reply.errorMessage := by
  rcases h with rfl | ⟨seq,now,rfl⟩
  · simp at he
  · cases he
    exact ⟨_,rfl,rfl,rfl,rfl,rfl⟩

/-- A call with a settled row about its command answers from the row or not at all. -/
theorem answer_of_settled {facts : HostFacts} {streamId : String} {command : AgentCommand}
    {choices : List Choice} {w : World} {row : Row} {f : AgentToHypervisor}
    (hw : Settled w (trim command.commandId) row) (hab : About crates command row.toLedgerRecord)
    (hsent : (step crates w (.deliver facts streamId (some (.command command)) choices)).sent =
      f::w.sent) :
    ∃ body, f.message = .commandResult body ∧ body.commandId = command.commandId ∧
      body.status = (existingReply row.toLedgerRecord).status ∧
      body.resultJson = (existingReply row.toLedgerRecord).resultJson ∧
      body.errorMessage = (existingReply row.toLedgerRecord).errorMessage := by
  have h := step_effect crates w (.deliver facts streamId (some (.command command)) choices)
  generalize step crates w (.deliver facts streamId (some (.command command)) choices) = v at h hsent
  cases h with
  | ignored => simp at hsent
  | acknowledged alive other => exact absurd rfl (other command)
  | called alive effect =>
    cases effect with
    | untouched => simp at hsent
    | existing found about sends =>
      rw [hw.1,Option.some.injEq] at found
      subst found
      exact answers_cons sends hsent
    | mismatch found other =>
      rw [hw.1,Option.some.injEq] at found
      subst found
      exact absurd hab other
    | unverified F inserted => exact absurd rfl (settled_insert hw.1 inserted).2
    | uncompleted F o inserted => exact absurd rfl (settled_insert hw.1 inserted).2
    | completed o inserted => exact absurd rfl (settled_insert hw.1 inserted).2

theorem redelivery_answered {facts : HostFacts} {streamId : String} {command : AgentCommand}
    {w : World} {row : Row} (hup : w.up = true) (hid : trim command.commandId ≠ "")
    (hw : Settled w (trim command.commandId) row) (hab : About crates command row.toLedgerRecord)
    {choices : List Choice} (hlen : 5 ≤ choices.length) (hok : ∀ c ∈ choices, c.fault = none) :
    ∃ f, (step crates w (.deliver facts streamId (some (.command command)) choices)).sent =
      f::w.sent := by
  obtain ⟨c1,c2,c3,c4,c5,rest,rfl⟩ : ∃ c1 c2 c3 c4 c5 rest, choices = c1::c2::c3::c4::c5::rest := by
    match choices, hlen with
    | c1::c2::c3::c4::c5::rest, _ => exact ⟨c1,c2,c3,c4,c5,rest,rfl⟩
  have h2 : c2.fault = none := hok c2 (by simp)
  have h5 : c5.fault = none := hok c5 (by simp)
  have hab' := hab
  simp only [About] at hab'
  simp [step,deliver,hup,handleServerMessage,commandReply,beginOrGet,loadRecord,sendReply,
    ExceptT.run_bind,Prog.run,handler,attempt,h2,h5,hw.1,hid,hab']

def replyOf (f : AgentToHypervisor) : Option Reply :=
  match f.message with
  | .commandResult body => some ⟨body.status,body.resultJson,body.errorMessage⟩
  | _ => none

/-- From `w` on, every redelivery of `command` is answered with `reply`, and is answered
when a process is up and its statements and its send succeed. -/
def ReplayedFrom (w : World) (command : AgentCommand) (reply : Reply) : Prop :=
  ∀ (between : List Event) (facts : HostFacts) (streamId : String) (again : AgentCommand)
    (choices : List Choice), SameDelivery again command →
    (∀ f, (step crates (after crates w between)
        (.deliver facts streamId (some (.command again)) choices)).sent =
          f::(after crates w between).sent → replyOf f = some reply) ∧
    ((after crates w between).up = true → 5 ≤ choices.length → (∀ c ∈ choices, c.fault = none) →
      ∃ f, (step crates (after crates w between)
        (.deliver facts streamId (some (.command again)) choices)).sent =
          f::(after crates w between).sent)

/-- `begin_or_get` classified the delivery as `New` or `Existing`. -/
def Recognized (w : World) (command : AgentCommand) (choices : List Choice) : Prop :=
  ∃ b record, ((beginOrGet crates command.commandId command.type command.payloadJson).run.run
    handler choices w).1 = some (.ok b) ∧ (b = .new record ∨ b = .existing record)

/-- An executor outcome that survives `normalize_result_json` and the trimming of
`complete` unchanged. -/
def Normal : Except AnyhowError String → Prop
  | .ok value => ¬Blank value
  | .error err => Trimmed err.toString

instance (o : Except AnyhowError String) : Decidable (Normal o) :=
  match o with
  | .ok value => inferInstanceAs (Decidable (¬Blank value))
  | .error err => inferInstanceAs (Decidable (Trimmed err.toString))

theorem existingReply_status {row : Row}
    (h : (existingReply row.toLedgerRecord).status = "succeeded" ∨
      (existingReply row.toLedgerRecord).status = "failed") : row.status ≠ "running" := by
  intro hr
  simp [existingReply,hr] at h

/-- The stored row answers as the first reply did exactly for a normal outcome. -/
theorem completed_reply_iff (row : Row) (o : Except AnyhowError String) (now : ℤ) :
    existingReply (row.completed (trim (outcomeReply o).status)
      (normalizeResultJson (outcomeReply o).resultJson)
      (trim (outcomeReply o).errorMessage) now).toLedgerRecord = outcomeReply o ↔ Normal o := by
  cases o with
  | ok value =>
    by_cases hb : trim value = ""
    · have hv : "{}" ≠ value := by
        rintro rfl
        exact absurd hb (by decide)
      simp [existingReply,outcomeReply,Row.completed,normalizeResultJson,Normal,Blank,hb,hv]
    · simp [existingReply,outcomeReply,Row.completed,normalizeResultJson,Normal,Blank,hb]
  | error err =>
    have he : trim "{}" ≠ "" := by decide
    simp [existingReply,outcomeReply,Row.completed,normalizeResultJson,Normal,Trimmed,he]

theorem recognized_nonblank {w : World} {command : AgentCommand} {choices : List Choice}
    (h : Recognized crates w command choices) : trim command.commandId ≠ "" := by
  intro hb
  obtain ⟨b,record,hrun,-⟩ := h
  simp [beginOrGet,hb,Prog.run] at hrun

theorem recognized_about {w : World} {command : AgentCommand} {choices : List Choice} {row : Row}
    (h : Recognized crates w command choices)
    (found : w.table.find (trim command.commandId) = some row) :
    About crates command row.toLedgerRecord := by
  obtain ⟨b,record,hrun,hb⟩ := h
  have heff := ((beginOrGet_effect crates command w).run choices).2 _ hrun
  generalize ((beginOrGet crates command.commandId command.type command.payloadJson).run.run
    handler choices w).2 = v at heff
  cases heff with
  | untouched F early noAnswer => exact absurd rfl (noAnswer b)
  | existing found' about =>
    rw [found,Option.some.injEq] at found'
    exact found' ▸ about
  | mismatch => simp at hb
  | unverified inserted noAnswer => exact absurd rfl (noAnswer b)
  | new inserted =>
    have habsent : w.table.find (trim command.commandId) = none := absent_of_entry inserted
    simp [habsent] at found

theorem cleanStart_up (w : World) : (step crates w cleanStart).up = true := by
  have hp : trim "ledger.db" ≠ "" := by decide
  simp [step,restart,cleanStart,CommandLedger.open,markStaleRunningFailed,hp,List.replicate,
    ExceptT.run_bind,Prog.run,handler,attempt,opened]

theorem settled_replayed_iff {w : World} {command : AgentCommand} {row : Row} {reply : Reply}
    (hid : trim command.commandId ≠ "") (hw : Settled w (trim command.commandId) row)
    (hab : About crates command row.toLedgerRecord) :
    ReplayedFrom crates w command reply ↔ existingReply row.toLedgerRecord = reply := by
  have hlater (between : List Event) :
      Settled (after crates w between) (trim command.commandId) row :=
    after_invariant crates (fun w e => settled_step crates w e) hw between
  have hanswer (between : List Event) (facts : HostFacts) (streamId : String)
      (again : AgentCommand) (choices : List Choice) (hsame : SameDelivery again command)
      (f : AgentToHypervisor) (hf : (step crates (after crates w between)
        (.deliver facts streamId (some (.command again)) choices)).sent =
          f::(after crates w between).sent) :
      replyOf f = some (existingReply row.toLedgerRecord) := by
    obtain ⟨body,hm,-,hst,hres,herr⟩ := answer_of_settled crates (by simpa [hsame.1] using hlater between)
      ((about_congr crates hsame _).mpr hab) hf
    simp [replyOf,hm,hst,hres,herr]
  constructor
  · intro h
    have hup : (after crates w [cleanStart]).up = true := cleanStart_up crates w
    obtain ⟨hsame,hex⟩ := h [cleanStart] sampleFacts "" command (List.replicate 5 {})
      ⟨rfl,rfl,rfl⟩
    obtain ⟨f,hf⟩ := hex hup (by simp) (by simp [List.replicate])
    have h1 := hsame f hf
    rw [hanswer [cleanStart] sampleFacts "" command _ ⟨rfl,rfl,rfl⟩ f hf,Option.some.injEq] at h1
    exact h1
  · rintro rfl between facts streamId again choices hsame
    refine ⟨fun f hf => hanswer between facts streamId again choices hsame f hf,?_⟩
    intro hup hlen hok
    exact redelivery_answered crates hup (by simpa [hsame.1] using hid)
      (by simpa [hsame.1] using hlater between) ((about_congr crates hsame _).mpr hab) hlen hok

theorem terminal_settled {facts : HostFacts} {streamId : String} {command : AgentCommand}
    {w v : World} {out : Option (Except AnyhowError Unit)} {f : AgentToHypervisor} {reply : Reply}
    (effect : CallEffect crates facts streamId command w out v)
    (about : ∀ row, w.table.find (trim command.commandId) = some row →
      About crates command row.toLedgerRecord)
    (answered : v.sent = f::w.sent) (reports : replyOf f = some reply)
    (terminal : reply.status = "succeeded" ∨ reply.status = "failed") :
    ∃ row, Settled v (trim command.commandId) row ∧ About crates command row.toLedgerRecord ∧
      (existingReply row.toLedgerRecord = reply ↔
        ∀ o, v.invoked = (command,o)::w.invoked → Normal o) := by
  cases effect with
  | untouched | unverified | uncompleted => simp at answered
  | mismatch found other => exact absurd (about _ found) other
  | @existing row frames found about sends =>
    obtain ⟨body,hm,-,hst,hres,herr⟩ := answers_cons sends answered
    have hreply : existingReply row.toLedgerRecord = reply := by
      simpa [replyOf,hm,hst,hres,herr] using reports
    have hrow : row.status ≠ "running" := existingReply_status (hreply.symm ▸ terminal)
    exact ⟨row,⟨found,hrow⟩,about,iff_of_true hreply (fun o ho => by simp at ho)⟩
  | @completed now now' t frames o inserted sends =>
    obtain ⟨body,hm,-,hst,hres,herr⟩ := answers_cons sends answered
    have hreply : outcomeReply o = reply := by
      simpa [replyOf,hm,hst,hres,herr] using reports
    have hfind : (completedTable t command (outcomeReply o) now').find (trim command.commandId) =
        some ((entryRow crates command now).completed (trim (outcomeReply o).status)
          (normalizeResultJson (outcomeReply o).resultJson)
          (trim (outcomeReply o).errorMessage) now') := by
      rw [find_completed inserted,if_pos rfl]
    have hrow : trim (outcomeReply o).status ≠ "running" := by
      rcases outcomeReply_status o with hs | hs <;> simp [hs]
    have hab : About crates command (entryRow crates command now).toLedgerRecord :=
      entryRow_about crates command now
    refine ⟨_,⟨hfind,hrow⟩,(about_completed crates ..).mpr hab,?_⟩
    rw [← hreply,completed_reply_iff]
    simp

/-- A terminal answer to a delivery classified `New` or `Existing` is repeated for every
redelivery, over deaths and restarts, exactly when the outcome of the execution this
delivery caused, if it caused one, is normal. -/
theorem replayed_iff_normal (t : Table) (before : List Event) (command : AgentCommand)
    (facts : HostFacts) (streamId : String) (choices : List Choice) (f : AgentToHypervisor)
    (reply : Reply)
    (recognized : Recognized crates (after crates (start t) before) command choices)
    (answered : (step crates (after crates (start t) before)
      (.deliver facts streamId (some (.command command)) choices)).sent =
        f::(after crates (start t) before).sent)
    (reports : replyOf f = some reply)
    (terminal : reply.status = "succeeded" ∨ reply.status = "failed") :
    ReplayedFrom crates (step crates (after crates (start t) before)
      (.deliver facts streamId (some (.command command)) choices)) command reply ↔
    ∀ o, (step crates (after crates (start t) before)
      (.deliver facts streamId (some (.command command)) choices)).invoked =
        (command,o)::(after crates (start t) before).invoked → Normal o := by
  generalize after crates (start t) before = w at recognized answered ⊢
  have hid := recognized_nonblank crates recognized
  have h := step_effect crates w (.deliver facts streamId (some (.command command)) choices)
  generalize step crates w (.deliver facts streamId (some (.command command)) choices) = v
    at h answered ⊢
  cases h with
  | ignored => simp at answered
  | acknowledged alive other => exact absurd rfl (other command)
  | @called _ _ _ _ out v alive effect =>
    obtain ⟨row,hset,hab,hiff⟩ := terminal_settled crates effect
      (fun row found => recognized_about crates recognized found) answered reports terminal
    exact (settled_replayed_iff crates (w := { v with up := out.isSome }) hid hset hab).trans hiff

def choicesFor (o : Except AnyhowError String) : List Choice := List.replicate 10 { outcome := o }

theorem replayed_sample :
    ReplayedFrom emptyObjectCrates
      (step emptyObjectCrates (after emptyObjectCrates (start .empty) [cleanStart])
        (deliverSample (choicesFor (.error (.msg "not implemented")))))
      sampleCommand ⟨"failed","{}","not implemented"⟩ :=
  (replayed_iff_normal emptyObjectCrates .empty [cleanStart] sampleCommand sampleFacts "agent-1-0"
    (choicesFor (.error (.msg "not implemented")))
    (commandResultFrame sampleFacts "agent-1-0" sampleCommand ⟨"failed","{}","not implemented"⟩ 0 0)
    ⟨"failed","{}","not implemented"⟩
    ⟨.new (entryRow emptyObjectCrates sampleCommand 0).toLedgerRecord,_,by decide,.inl rfl⟩
    (by decide) (by decide) (by decide)).mpr (by
      intro o ho
      have he : (sampleCommand,Except.error (AnyhowError.msg "not implemented")) =
          (sampleCommand,o) := (List.cons.inj ho).1
      cases he
      decide)

/-- A blank result is sent as it is and repeated as the empty object; an error text loses
its surrounding whitespace in the second answer. -/
theorem replay_differs :
    ((after emptyObjectCrates (start .empty) [cleanStart,deliverSample (choicesFor (.ok "")),
      deliverSample (List.replicate 5 {})]).sent.map replyOf) =
        [some ⟨"succeeded","{}",""⟩,some ⟨"succeeded","",""⟩] ∧
    ((after emptyObjectCrates (start .empty)
      [cleanStart,deliverSample (choicesFor (.error (.msg "denied "))),
        deliverSample (List.replicate 5 {})]).sent.map replyOf) =
        [some ⟨"failed","{}","denied"⟩,some ⟨"failed","{}","denied "⟩] :=
  ⟨by decide,by decide⟩

end LedgerReplay
end KvmAgent
