import KvmAgent.LedgerRuns

/-! The life of a record, over every moment of the runs of an agent host: what is entered
is never changed or removed, a settled record stays as it is, and the results that were
sent agree with it. -/
namespace KvmAgent
namespace LedgerLifecycle

open RustText CommandLedger Registration World LedgerCalls

def Terminal (status : String) : Prop := status = "succeeded" ∨ status = "failed"

instance (status : String) : Decidable (Terminal status) := inferInstanceAs (Decidable (_ ∨ _))

structure Lawful (row : Row) : Prop where
  trimmed : Trimmed row.commandId
  nonempty : row.commandId ≠ ""
  status : row.status = "running" ∨ Terminal row.status
  completed : row.completedAt.isSome ↔ Terminal row.status

structure Becomes (row later : Row) : Prop where
  commandId : later.commandId = row.commandId
  commandType : later.commandType = row.commandType
  payloadHash : later.payloadHash = row.payloadHash
  resourceKey : later.resourceKey = row.resourceKey
  settled : Terminal row.status → later.status = row.status ∧ later.resultJson = row.resultJson ∧
    later.errorMessage = row.errorMessage

/-- No record is removed, and each becomes what it may. -/
def Evolves (w v : World) : Prop :=
  ∀ row ∈ w.table.rows, ∃ later ∈ v.table.rows, Becomes row later

def AllLawful (w : World) : Prop := ∀ row ∈ w.table.rows, Lawful row

/-- A result frame with a terminal status tells the status of the record of its command. -/
def Agrees (w : World) (frame : AgentToHypervisor) : Prop :=
  ∀ body, frame.message = .commandResult body → Terminal body.status →
    ∃ row ∈ w.table.rows, row.commandId = trim body.commandId ∧ row.status = body.status

section Relations

variable {w v u : World} {row later : Row}

theorem Becomes.refl (row : Row) : Becomes row row := ⟨rfl,rfl,rfl,rfl,fun _ => ⟨rfl,rfl,rfl⟩⟩

theorem Becomes.trans {last : Row} (h : Becomes row later) (h' : Becomes later last) :
    Becomes row last where
  commandId := h'.commandId.trans h.commandId
  commandType := h'.commandType.trans h.commandType
  payloadHash := h'.payloadHash.trans h.payloadHash
  resourceKey := h'.resourceKey.trans h.resourceKey
  settled hterminal := by
    obtain ⟨hs,hr,he⟩ := h.settled hterminal
    obtain ⟨hs',hr',he'⟩ := h'.settled (hs ▸ hterminal)
    exact ⟨hs'.trans hs,hr'.trans hr,he'.trans he⟩

theorem becomes_completed (hrunning : row.status = "running")
    (status resultJson errorMessage : String) (now : ℤ) :
    Becomes row (row.completed status resultJson errorMessage now) :=
  ⟨rfl,rfl,rfl,rfl,fun h => absurd h (by simp [hrunning,Terminal])⟩

theorem lawful_completed (h : Lawful row) {status : String} (hstatus : Terminal status)
    (resultJson errorMessage : String) (now : ℤ) :
    Lawful (row.completed status resultJson errorMessage now) :=
  ⟨h.trimmed,h.nonempty,.inr hstatus,by simpa [Row.completed] using hstatus⟩

theorem Evolves.refl (w : World) : Evolves w w := fun row hrow => ⟨row,hrow,.refl row⟩

theorem Evolves.trans (h : Evolves w v) (h' : Evolves v u) : Evolves w u := by
  intro row hrow
  obtain ⟨later,hlater,hbecomes⟩ := h row hrow
  obtain ⟨last,hlast,hbecomes'⟩ := h' later hlater
  exact ⟨last,hlast,hbecomes.trans hbecomes'⟩

theorem Agrees.persists {frame : AgentToHypervisor} (h : Agrees w frame) (hv : Evolves w v) :
    Agrees v frame := by
  intro body hbody hterminal
  obtain ⟨row,hrow,hid,hstatus⟩ := h body hbody hterminal
  obtain ⟨later,hlater,hbecomes⟩ := hv row hrow
  exact ⟨later,hlater,hbecomes.commandId.trans hid,
    (hbecomes.settled (hstatus ▸ hterminal)).1.trans hstatus⟩

/-- What one operation does to the records; deliveries and restarts are made of these. -/
structure Advances (w v : World) : Prop where
  evolves : Evolves w v
  lawful : AllLawful w → AllLawful v

theorem Advances.refl (w : World) : Advances w w := ⟨.refl w,id⟩

theorem Advances.trans (h : Advances w v) (h' : Advances v u) : Advances w u :=
  ⟨h.evolves.trans h'.evolves,fun hw => h'.lawful (h.lawful hw)⟩

theorem advances_of_table (h : v.table = w.table) : Advances w v := by
  refine ⟨fun row hrow => ⟨row,h ▸ hrow,.refl row⟩,fun hw row hrow => hw row (h ▸ hrow)⟩

theorem advances_insert {t : Table} {row : Row} (h : w.table.insert row = some t)
    (hrow : Lawful row) : Advances w { w with table := t } := by
  have hrows : t.rows = row::w.table.rows := by
    unfold Table.insert at h
    split at h
    · cases h
    · cases h
      rfl
  refine ⟨fun r hr => ⟨r,by simp [hrows,hr],.refl r⟩,fun hw r hr => ?_⟩
  rcases List.mem_cons.mp (hrows ▸ hr) with rfl | hr
  · exact hrow
  · exact hw r hr

theorem advances_mapRows {f : Row → Row} (hf : ∀ r, (f r).commandId = r.commandId)
    (hbecomes : ∀ r ∈ w.table.rows, Becomes r (f r))
    (hlawful : ∀ r ∈ w.table.rows, Lawful r → Lawful (f r)) :
    Advances w { w with table := w.table.mapRows f hf } := by
  constructor
  · intro r hr
    exact ⟨f r,List.mem_map_of_mem hr,hbecomes r hr⟩
  · intro hw r hr
    obtain ⟨old,hold,rfl⟩ := List.mem_map.mp hr
    exact hlawful old hold (hw old hold)

theorem advances_update {key status resultJson errorMessage : String} {now : ℤ}
    (hstatus : Terminal status) (hrunning : ∀ row, w.table.find key = some row → row.status = "running") :
    Advances w { w with table := w.table.update key status resultJson errorMessage now } := by
  refine advances_mapRows _ (fun r hr => ?_) fun r _ hlawful => ?_
  · by_cases hk : r.commandId = key
    · rw [if_pos hk]
      exact becomes_completed (hrunning r (hk ▸ Table.mem_rows_iff.mp hr)) ..
    · rw [if_neg hk]
      exact .refl r
  · by_cases hk : r.commandId = key
    · rw [if_pos hk]
      exact lawful_completed hlawful hstatus ..
    · rwa [if_neg hk]

theorem advances_markStale (w : World) (now : ℤ) :
    Advances w { w with table := w.table.markStale now } := by
  refine advances_mapRows _ (fun r _ => ?_) fun r _ hlawful => ?_
  · by_cases hrunning : r.status = "running"
    · rw [Row.markedStale,if_pos hrunning]
      exact becomes_completed hrunning ..
    · rw [Row.markedStale,if_neg hrunning]
      exact .refl r
  · by_cases hrunning : r.status = "running"
    · rw [Row.markedStale,if_pos hrunning]
      exact lawful_completed hlawful (.inr rfl) ..
    · rwa [Row.markedStale,if_neg hrunning]

end Relations

section Operations

/-- How the agent uses the statements that write: rows are entered as lawful ones, and
completed with a terminal status while they are running. -/
def Careful (w : World) : Op → Prop
  | .insert row => Lawful row
  | .update key status _ _ _ =>
    Terminal status ∧ ∀ row, w.table.find key = some row → row.status = "running"
  | _ => True

def Harmless : Op → Prop
  | .insert row => Lawful row
  | .update .. => False
  | _ => True

theorem careful_of_harmless (w : World) (o : Op) (h : Harmless o) : Careful w o := by
  cases o <;> first | exact h | exact h.elim

theorem advances_attempt {α : Type} {w bad good t : World} {c : Choice} {x : α}
    {r : Except AnyhowError α} (h : World.attempt c bad x good = some (r,t))
    (hbad : Advances w bad) (hgood : Advances w good) : Advances w t := by
  unfold World.attempt at h
  split at h <;> cases h
  · exact hbad
  · exact hgood

theorem advances_operation (w : World) (o : Op) (c : Choice) (x : Ans o) (t : World)
    (ho : Careful w o) (h : handler o c w = some (x,t)) : Advances w t := by
  have hfailed (site : Statement) : Advances w (w.failed site) := advances_of_table rfl
  cases o with
  | insert row =>
    simp only [handler] at h
    split at h
    · cases h
      exact hfailed _
    · next t' ht => exact advances_attempt h (hfailed _) (advances_insert ht ho)
  | update key status resultJson errorMessage now =>
    exact advances_attempt h (hfailed _) (advances_update ho.1 ho.2)
  | markStale now => exact advances_attempt h (hfailed _) (advances_markStale w now)
  | createTable => exact advances_attempt h (hfailed _) (.refl w)
  | select site key => exact advances_attempt h (hfailed _) (.refl w)
  | createParentDir path => exact advances_attempt h (.refl w) (.refl w)
  | connect path => exact advances_attempt h (.refl w) (.refl w)
  | send frame => exact advances_attempt h (.refl w) (advances_of_table rfl)
  | now | execute | discoverStoragePools | fetchAdd | sleep =>
    cases h
    exact advances_of_table rfl
  | tick | sessionEvent | channel | openStream | spawn | abort => cases h

end Operations

section Programs

attribute [local irreducible] trim

variable (crates : Crates) (facts : HostFacts) (streamId : String)

theorem beginOrGet_harmless (commandId commandType payloadJson : String) :
    (beginOrGet crates commandId commandType payloadJson).run.Uses Harmless := by
  have hload (site : Statement) : (loadRecord site (trim commandId)).run.Uses Harmless :=
    Prog.uses_op trivial
  unfold beginOrGet
  by_cases hid : trim commandId = ""
  · rw [if_pos hid]
    exact .ret _
  rw [if_neg hid]
  refine Fallible.uses_bind (Fallible.uses_ask trivial) fun now =>
    Fallible.uses_bind (hload _) fun found => ?_
  cases found with
  | some record =>
    dsimp only
    split <;> exact .ret _
  | none =>
    have hrow (type : String) : Lawful (newRow crates (trim commandId) type payloadJson now.unixNow) :=
      ⟨trimmed_trim _,hid,.inl rfl,by simp [newRow,Terminal]⟩
    refine Fallible.uses_bind (Prog.uses_op (hrow _)) fun _ =>
      Fallible.uses_bind (hload _) fun inserted => ?_
    cases inserted <;> exact .ret _

theorem executeAndComplete_careful (command : AgentCommand) {w : World} {row : Row}
    (hrow : w.table.find (trim command.commandId) = some row) (hrunning : row.status = "running") :
    (executeAndComplete command).run.Guarded handler Careful w := by
  have hcomplete (status resultJson errorMessage : String) (hstatus : Terminal (trim status))
      (v : World) (hv : v.table = w.table) :
      (complete command.commandId status resultJson errorMessage).run.Guarded handler Careful v := by
    refine .call trivial fun c x t hc => ?_
    cases hc
    refine .call ⟨hstatus,fun r hr => ?_⟩ fun _ _ _ _ => .ret _ _
    rw [hv,hrow] at hr
    cases hr
    exact hrunning
  have hterminal (outcome : Except AnyhowError String) : Terminal (trim (outcomeReply outcome).status) := by
    have hsucceeded : Terminal (trim "succeeded") := by simp [Terminal]
    have hfailed : Terminal (trim "failed") := by simp [Terminal]
    cases outcome with
    | ok value => exact hsucceeded
    | error err => exact hfailed
  rw [executeAndComplete_eq]
  refine .call trivial fun c x t hc => ?_
  cases hc
  exact Fallible.guarded_bind (hcomplete _ _ _ (hterminal _) _ rfl)
    ((Prog.always_true _ _).mono (fun _ ht => ht) fun _ _ _ _ _ _ => trivial) fun _ _ _ => .ret _ _

theorem commandReply_careful (command : AgentCommand) (w : World) :
    (commandReply crates command).run.Guarded handler Careful w := by
  refine Fallible.guarded_bind
    (F := fun b t => ∀ record, b = .new record →
      ∃ row, t.table.find (trim command.commandId) = some row ∧ row.status = "running")
    ((beginOrGet_harmless crates _ _ _).guarded careful_of_harmless w)
    ((beginOrGet_effect crates command w).mono (fun _ _ => trivial) ?_) ?_
  · rintro r t - heffect b rfl record rfl
    cases heffect with
    | untouched F early noAnswer => exact absurd rfl (noAnswer _)
    | unverified inserted noAnswer => exact absurd rfl (noAnswer _)
    | @new now t inserted =>
      refine ⟨entryRow crates command now,?_,rfl⟩
      rw [Table.find_insert inserted]
      simp [entryRow,newRow]
  · intro b t hb
    cases b with
    | new record =>
      obtain ⟨row,hrow,hrunning⟩ := hb record rfl
      exact executeAndComplete_careful command hrow hrunning
    | «existing» record => exact .ret _ _
    | payloadMismatch record => exact .ret _ _

theorem sendReply_harmless (command : AgentCommand) (reply : Reply) :
    (sendReply facts streamId command reply).run.Uses Harmless :=
  .call trivial fun _ => .call trivial fun _ => .call trivial fun _ => .ret _

theorem sendHostInventory_harmless (left : ℕ) (last : Option AnyhowError) :
    (sendHostInventory facts streamId left last).run.Uses Harmless := by
  induction left generalizing last with
  | zero => cases last <;> exact .ret _
  | succ left ih =>
    refine .call trivial fun _ => .call trivial fun _ => .call trivial fun _ =>
      .call trivial fun r => ?_
    cases r with
    | ok _ => exact .ret _
    | error err =>
      cases left with
      | zero => exact ih (some err)
      | succ left => exact .call trivial fun _ => ih (some err)

theorem handleServerMessage_careful (message : Option HypervisorMessage) (w : World) :
    (handleServerMessage crates facts streamId message).run.Guarded handler Careful w := by
  rcases message with - | (⟨_,_,_⟩ | ⟨_,_⟩ | command)
  · exact .ret _ _
  · exact (sendHostInventory_harmless facts streamId _ _).guarded careful_of_harmless w
  · exact .ret _ _
  · exact Fallible.guarded_bind (commandReply_careful crates command w)
      ((Prog.always_true _ _).mono (fun _ ht => ht) fun _ _ _ _ _ _ => trivial) fun reply t _ =>
        (sendReply_harmless facts streamId command reply).guarded careful_of_harmless t

theorem open_harmless (path : String) : (CommandLedger.open path).run.Uses Harmless := by
  have hmark : markStaleRunningFailed.run.Uses Harmless :=
    .call trivial fun _ => Prog.uses_op trivial
  unfold CommandLedger.open
  by_cases hpath : trim path = ""
  · simp only [if_pos hpath]
    exact .ret _
  · simp only [if_neg hpath]
    refine Fallible.uses_bind (Prog.uses_op trivial) fun _ => ?_
    refine Fallible.uses_bind (Prog.uses_op trivial) fun _ => ?_
    exact Fallible.uses_bind (Prog.uses_op trivial) fun _ => hmark

end Programs

section Moments

attribute [local irreducible] trim

/-- A moment of a run, with the result frames sent so far in answer to deliveries of
commands that were new or known. -/
structure Moment where
  world : World
  replies : List AgentToHypervisor

variable (crates : Crates)

/-- A delivery of a command whose id has no record, or a record of the same command. -/
def recognized (w : World) : Event → Bool
  | .deliver _ _ (some (.command command)) _ =>
    match w.table.find (trim command.commandId) with
    | none => true
    | some row => About crates command row.toLedgerRecord
  | _ => false

def visited (w : World) : Event → List World
  | .deliver facts streamId message choices =>
    if w.up then
      (handleServerMessage crates facts streamId message).run.visits handler choices w
    else [w]
  | .restart ledgerPath choices =>
    (CommandLedger.open ledgerPath).run.visits handler choices { w with up := false, faults := [] }

/-- What an event has sent by a moment of it, if it is such a delivery. -/
def answersBy (w : World) (e : Event) (v : World) : List AgentToHypervisor :=
  if recognized crates w e then v.sent.take (v.sent.length - w.sent.length) else []

def moments (w : World) (replies : List AgentToHypervisor) : List Event → List Moment
  | [] => [⟨w,replies⟩]
  | e::events =>
    (visited crates w e).map (fun v => ⟨v,answersBy crates w e v ++ replies⟩) ++
      moments (step crates w e) (answersBy crates w e (step crates w e) ++ replies) events

variable {crates}

theorem visited_advances (crates : Crates) (w : World) (e : Event) :
    (visited crates w e).Pairwise Advances ∧
      ∀ v ∈ visited crates w e, Advances w v ∧ Advances v (step crates w e) := by
  have hlast {v t u : World} (h : Advances v t) (hu : u.table = t.table) : Advances v u :=
    h.trans (advances_of_table hu)
  cases e with
  | deliver facts streamId message choices =>
    simp only [visited,step,deliver]
    by_cases hup : w.up = true
    · simp only [hup,if_true]
      obtain ⟨hpair,hends⟩ := (handleServerMessage_careful crates facts streamId message w).visits
        Advances.refl (fun _ _ _ => .trans) advances_operation choices
      exact ⟨hpair,fun v hv => ⟨(hends v hv).1,hlast (hends v hv).2 rfl⟩⟩
    · simp [hup,Advances.refl]
  | restart ledgerPath choices =>
    have hkilled : Advances w { w with up := false, faults := [] } := advances_of_table rfl
    simp only [visited,step,restart]
    obtain ⟨hpair,hends⟩ := ((open_harmless ledgerPath).guarded careful_of_harmless
      { w with up := false, faults := [] }).visits Advances.refl (fun _ _ _ => .trans)
        advances_operation choices
    exact ⟨hpair,fun v hv => ⟨hkilled.trans (hends v hv).1,hlast (hends v hv).2 rfl⟩⟩

/-- The result of a command that was new or known agrees with its record. -/
theorem call_agrees {facts : HostFacts} {streamId : String} {command : AgentCommand} {w v : World}
    {out : Option (Except AnyhowError Unit)} {choices : List Choice} (hw : AllLawful w)
    (h : CallEffect crates facts streamId command w out v)
    (hknown : recognized crates w (.deliver facts streamId (some (.command command)) choices) = true) :
    ∀ f ∈ v.sent.take (v.sent.length - w.sent.length), Agrees v f := by
  have hreply {reply : Reply} {u : World} {row : Row} (hrow : row ∈ u.table.rows)
      (hid : row.commandId = trim command.commandId)
      (hstatus : Terminal reply.status → row.status = reply.status) (seq : UInt64)
      (now : SystemTime) : Agrees u (commandResultFrame facts streamId command reply seq now) := by
    rintro body hbody hterminal
    cases hbody
    exact ⟨row,hrow,hid,hstatus hterminal⟩
  cases h with
  | untouched => simp
  | unverified => simp
  | uncompleted => simp
  | @existing row frames found about sends =>
    rcases sends with rfl | ⟨seq,now,rfl⟩
    · simp
    · simp only [List.singleton_append,List.length_cons,Nat.add_sub_cancel_left,List.take_succ_cons,
        List.mem_cons]
      have hrow : row ∈ w.table.rows := Table.mem_rows_iff.mpr (Table.find_key found ▸ found)
      rintro f (rfl | hf)
      · refine hreply hrow (Table.find_key found) (fun hterminal => ?_) seq now
        rcases (hw row hrow).status with hs | hs | hs <;>
          simp [existingReply,hs,Terminal] at hterminal ⊢
      · simp at hf
  | @mismatch row frames found other sends =>
    simp [recognized,found,other] at hknown
  | @completed now now' t frames outcome inserted sends =>
    rcases sends with rfl | ⟨seq,time,rfl⟩
    · simp
    · have hfind : (completedTable t command (outcomeReply outcome) now').find
          (trim command.commandId) = some ((entryRow crates command now).completed
            (trim (outcomeReply outcome).status)
            (normalizeResultJson (outcomeReply outcome).resultJson)
            (trim (outcomeReply outcome).errorMessage) now') := by
        rw [LedgerRuns.find_completed inserted,if_pos rfl]
      simp only [List.singleton_append,List.length_cons,Nat.add_sub_cancel_left,List.take_succ_cons,
        List.mem_cons]
      rintro f (rfl | hf)
      · refine hreply (Table.mem_rows_iff.mpr (Table.find_key hfind ▸ hfind)) (Table.find_key hfind)
          (fun _ => ?_) seq time
        cases outcome with
        | ok value => exact LedgerRuns.trim_succeeded
        | error err => exact LedgerRuns.trim_failed
      · simp at hf

theorem answersBy_agrees {w v : World} (hw : AllLawful w) (e : Event)
    (hv : v ∈ visited crates w e ∨ v = step crates w e) :
    ∀ f ∈ answersBy crates w e v, Agrees v f := by
  unfold answersBy
  by_cases hknown : recognized crates w e = true
  swap
  · simp [hknown]
  rw [if_pos hknown]
  obtain ⟨facts,streamId,command,choices,rfl⟩ : ∃ facts streamId command choices,
      e = .deliver facts streamId (some (.command command)) choices := by
    rcases e with ⟨facts,streamId,- | (_ | _ | command),choices⟩ | ⟨path,choices⟩
    · simp [recognized] at hknown
    · simp [recognized] at hknown
    · simp [recognized] at hknown
    · exact ⟨facts,streamId,command,choices,rfl⟩
    · simp [recognized] at hknown
  rcases hv with hv | rfl
  · simp only [visited] at hv
    by_cases hup : w.up = true
    · rw [if_pos hup] at hv
      exact call_agrees hw ((handleCommand_effect crates facts streamId command w).visits choices v hv)
        hknown
    · rw [if_neg hup,List.mem_singleton] at hv
      simp [hv]
  · have heffect := step_effect crates w (.deliver facts streamId (some (.command command)) choices)
    generalize step crates w (.deliver facts streamId (some (.command command)) choices) = v
      at heffect
    cases heffect with
    | ignored down => simp
    | acknowledged alive other inventories => exact absurd rfl (other command)
    | called alive effect => exact fun f hf => call_agrees hw effect hknown f hf

theorem moments_lawful (crates : Crates) {w : World} {replies : List AgentToHypervisor} (hw : AllLawful w)
    (hreplies : ∀ f ∈ replies, Agrees w f) (events : List Event) :
    (moments crates w replies events).Pairwise (fun m m' => Evolves m.world m'.world) ∧
      ∀ m ∈ moments crates w replies events,
        Evolves w m.world ∧ AllLawful m.world ∧ ∀ f ∈ m.replies, Agrees m.world f := by
  induction events generalizing w replies with
  | nil => simpa [moments] using ⟨.refl w,hw,hreplies⟩
  | cons e events ih =>
    obtain ⟨hpair,hends⟩ := visited_advances crates w e
    have hagree {v : World} (hv : v ∈ visited crates w e ∨ v = step crates w e)
        (hwv : Advances w v) : ∀ f ∈ answersBy crates w e v ++ replies, Agrees v f := by
      intro f hf
      rcases List.mem_append.mp hf with hf | hf
      · exact answersBy_agrees hw e hv f hf
      · exact (hreplies f hf).persists hwv.evolves
    have hstep : Advances w (step crates w e) := by
      obtain ⟨v,hv⟩ : ∃ v, v ∈ visited crates w e := by
        cases e with
        | deliver facts streamId message choices =>
          by_cases hup : w.up = true
          · exact ⟨w,by simpa [visited,hup] using Prog.start_mem_visits _ _ _⟩
          · exact ⟨w,by simp [visited,hup]⟩
        | restart path choices => exact ⟨_,Prog.start_mem_visits _ _ _⟩
      exact (hends v hv).1.trans (hends v hv).2
    obtain ⟨hpair',hrest⟩ := ih (hstep.lawful hw) (hagree (.inr rfl) hstep)
    refine ⟨List.pairwise_append.mpr ⟨List.pairwise_map.mpr (hpair.imp fun h => h.evolves),hpair',?_⟩,?_⟩
    · rintro m hm m' hm'
      obtain ⟨v,hv,rfl⟩ := List.mem_map.mp hm
      exact (hends v hv).2.evolves.trans (hrest m' hm').1
    · intro m hm
      rcases List.mem_append.mp hm with hm | hm
      · obtain ⟨v,hv,rfl⟩ := List.mem_map.mp hm
        exact ⟨(hends v hv).1.evolves,(hends v hv).1.lawful hw,hagree (.inl hv) (hends v hv).1⟩
      · obtain ⟨hevolves,hlawful,hagrees⟩ := hrest m hm
        exact ⟨hstep.evolves.trans hevolves,hlawful,hagrees⟩

/-- Over every run from an empty ledger: every record is lawful at every moment, none is
removed or changed but by being settled once, and a terminal result sent for a command that
was new or known agrees with its record then and later. -/
theorem ledger_lifecycle (crates : Crates) (events : List Event) :
    let run := moments crates (start .empty) [] events
    (∀ m ∈ run, ∀ row ∈ m.world.table.rows, Lawful row) ∧
    run.Pairwise (fun m m' => Evolves m.world m'.world) ∧
    ∀ m ∈ run, ∀ f ∈ m.replies, Agrees m.world f := by
  have hempty : AllLawful (start .empty) := by simp [AllLawful,start,Table.empty]
  obtain ⟨hpair,hrun⟩ := moments_lawful crates hempty (List.forall_mem_nil _) events
  exact ⟨fun m hm => (hrun m hm).2.1,hpair,fun m hm => (hrun m hm).2.2⟩

end Moments
end LedgerLifecycle
end KvmAgent
