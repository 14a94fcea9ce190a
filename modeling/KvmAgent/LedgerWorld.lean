import KvmAgent.Registration
import Mathlib.Data.List.Nodup

/-! The durable table behind the ledger and the runs of an agent process upon it:
deliveries of messages, statements that fail, deaths at any point, restarts. -/
namespace KvmAgent

/-- The table `command_ledger`; `command_id` is its primary key. -/
structure Table where
  rows : List Row
  primaryKey : (rows.map (·.commandId)).Nodup
  deriving DecidableEq

namespace Table

def empty : Table := ⟨[],List.nodup_nil⟩

def find (t : Table) (commandId : String) : Option Row :=
  t.rows.find? fun r => r.commandId = commandId

/-- `INSERT`; `none` when the key is taken. -/
def insert (t : Table) (row : Row) : Option Table :=
  if h : row.commandId ∈ t.rows.map (·.commandId) then none
  else some ⟨row::t.rows,List.nodup_cons.mpr ⟨h,t.primaryKey⟩⟩

/-- `UPDATE` of columns other than the key. -/
def mapRows (t : Table) (f : Row → Row) (hf : ∀ r, (f r).commandId = r.commandId) : Table :=
  ⟨t.rows.map f,by
    have h : (t.rows.map f).map (·.commandId) = t.rows.map (·.commandId) := by simp [hf]
    rw [h]
    exact t.primaryKey⟩

theorem find_key {t : Table} {commandId : String} {row : Row} (h : t.find commandId = some row) :
    row.commandId = commandId := by
  simpa using List.find?_some h

theorem find_none_iff {t : Table} {commandId : String} :
    t.find commandId = none ↔ commandId ∉ t.rows.map (·.commandId) := by
  simp [find,List.find?_eq_none]

theorem insert_isSome_iff {t : Table} {row : Row} :
    (t.insert row).isSome ↔ t.find row.commandId = none := by
  rw [find_none_iff,insert]
  split <;> simp_all

theorem find_insert {t t' : Table} {row : Row} (h : t.insert row = some t') (commandId : String) :
    t'.find commandId = if row.commandId = commandId then some row else t.find commandId := by
  unfold insert at h
  split at h
  · cases h
  · cases h
    by_cases hk : row.commandId = commandId <;> simp [find,hk]

theorem find_mapRows (t : Table) (f : Row → Row) (hf : ∀ r, (f r).commandId = r.commandId)
    (commandId : String) : (t.mapRows f hf).find commandId = (t.find commandId).map f := by
  have hkey : (fun r : Row => decide (r.commandId = commandId)) ∘ f =
      fun r => decide (r.commandId = commandId) := by
    funext r
    rw [Function.comp_apply,hf]
  unfold find mapRows
  rw [List.find?_map,hkey]

theorem mem_rows_iff {t : Table} {row : Row} : row ∈ t.rows ↔ t.find row.commandId = some row := by
  constructor
  · intro h
    have hn : t.find row.commandId ≠ none := by
      rw [Ne,find_none_iff,not_not]
      exact List.mem_map_of_mem h
    obtain ⟨r,hr⟩ := Option.ne_none_iff_exists'.mp hn
    have hk := find_key hr
    have hm : r ∈ t.rows := List.mem_of_find?_eq_some hr
    have he : r = row := List.inj_on_of_nodup_map t.primaryKey hm h hk
    rwa [he] at hr
  · exact List.mem_of_find?_eq_some

end Table

namespace Row

def completed (r : Row) (status resultJson errorMessage : String) (now : ℤ) : Row where
  toLedgerRecord :=
    { r.toLedgerRecord with status := status, resultJson := resultJson, errorMessage := errorMessage }
  createdAt := r.createdAt
  startedAt := r.startedAt
  completedAt := some now
  updatedAt := now

def markedStale (r : Row) (now : ℤ) : Row :=
  if r.status = "running" then
    r.completed "failed" r.resultJson "agent_restart_before_completion" now
  else r

@[simp] theorem completed_commandId (r : Row) (status resultJson errorMessage : String) (now : ℤ) :
    (r.completed status resultJson errorMessage now).commandId = r.commandId := rfl

@[simp] theorem markedStale_commandId (r : Row) (now : ℤ) :
    (r.markedStale now).commandId = r.commandId := by
  unfold markedStale
  split <;> rfl

end Row

namespace Table

def update (t : Table) (commandId status resultJson errorMessage : String) (now : ℤ) : Table :=
  t.mapRows
    (fun r => if r.commandId = commandId then r.completed status resultJson errorMessage now else r)
    (by intro r; split <;> rfl)

def markStale (t : Table) (now : ℤ) : Table :=
  t.mapRows (·.markedStale now) (fun r => r.markedStale_commandId now)

theorem find_update (t : Table) (commandId status resultJson errorMessage : String) (now : ℤ)
    (key : String) : (t.update commandId status resultJson errorMessage now).find key =
      if key = commandId then (t.find key).map (·.completed status resultJson errorMessage now)
      else t.find key := by
  rw [update,find_mapRows]
  cases h : t.find key with
  | none => simp
  | some r =>
    have hk := find_key h
    subst hk
    split <;> simp_all

theorem find_markStale (t : Table) (now : ℤ) (key : String) :
    (t.markStale now).find key = (t.find key).map (·.markedStale now) :=
  find_mapRows ..

end Table

/-- What the environment decides at one operation. -/
structure Choice where
  fault : Option AnyhowError := none
  time : SystemTime := 0
  seq : UInt64 := 0
  outcome : Except AnyhowError String := .ok ""
  pools : List StoragePool := []

/-- The durable table with the process on top of it; the last three fields are records of
what has happened, newest first, and steer nothing. -/
structure World where
  table : Table
  /-- A process that opened the ledger is alive. -/
  up : Bool
  /-- The statements that failed since the process started. -/
  faults : List Statement
  /-- The calls of the executor and their outcomes. -/
  invoked : List (AgentCommand × Except AnyhowError String)
  /-- The frames accepted by the outbound channel. -/
  sent : List AgentToHypervisor

namespace World

def start (t : Table) : World := ⟨t,false,[],[],[]⟩

/-- A fallible operation: it fails and leaves `bad`, or answers `x` and leaves `good`. -/
def attempt {α : Type} (c : Choice) (bad : World) (x : α) (good : World) :
    Option (Except AnyhowError α × World) :=
  match c.fault with
  | some err => some (.error err,bad)
  | none => some (.ok x,good)

def failed (w : World) (site : Statement) : World := { w with faults := site::w.faults }

def uniqueViolation : AnyhowError := .msg "UNIQUE constraint failed: command_ledger.command_id"

/-- An SQL statement is atomic and durable: it fails without effect on the table, or
takes effect as a whole. -/
def handler : Handler Ans Choice World
  | .now, c, w => some (c.time,w)
  | .createParentDir _, c, w | .connect _, c, w => attempt c w () w
  | .createTable, c, w => attempt c (w.failed .createTable) () w
  | .markStale now, c, w =>
    attempt c (w.failed .markStale) () { w with table := w.table.markStale now }
  | .select site key, c, w =>
    attempt c (w.failed site) ((w.table.find key).map (·.toLedgerRecord)) w
  | .insert row, c, w =>
    match w.table.insert row with
    | none => some (.error uniqueViolation,w.failed .insert)
    | some t => attempt c (w.failed .insert) () { w with table := t }
  | .update key status resultJson errorMessage now, c, w =>
    attempt c (w.failed .complete) ()
      { w with table := w.table.update key status resultJson errorMessage now }
  | .execute command, c, w => some (c.outcome,{ w with invoked := (command,c.outcome)::w.invoked })
  | .discoverStoragePools, c, w => some (c.pools,w)
  | .fetchAdd, c, w => some (c.seq,w)
  | .send frame, c, w => attempt c w () { w with sent := frame::w.sent }
  | .sleep _, _, w => some ((),w)
  | .tick, _, _ | .sessionEvent, _, _ => none
  | .channel _, _, _ | .openStream, _, _ | .spawn .., _, _ | .abort _, _, _ => none

section

variable {α β : Type} {I : World → Prop} {Q : α → World → Prop} {w : World}

theorem forall_attempt {bad good : World} {x : β} {P : Except AnyhowError β → World → Prop} :
    (∀ c r t, attempt c bad x good = some (r,t) → P r t) ↔
      (∀ err, P (.error err) bad) ∧ P (.ok x) good := by
  constructor
  · exact fun hp => ⟨fun err => hp { fault := some err } _ _ rfl,hp {} _ _ rfl⟩
  · rintro ⟨herr,hok⟩ c r t hc
    unfold attempt at hc
    split at hc <;> cases hc
    · exact herr _
    · exact hok

@[simp] theorem always_now {k : SystemTime → Prog Ans α} :
    (Prog.call .now k).Always handler I Q w ↔ I w ∧ ∀ t, (k t).Always handler I Q w :=
  and_congr_right fun _ => ⟨fun hp t => hp { time := t } t w rfl,by
    rintro hp c x t hc; cases hc; exact hp _⟩

@[simp] theorem always_connect {path : String} {k : Except AnyhowError Unit → Prog Ans α} :
    (Prog.call (.connect path) k).Always handler I Q w ↔ I w ∧
      (∀ err, (k (.error err)).Always handler I Q w) ∧ (k (.ok ())).Always handler I Q w :=
  and_congr_right fun _ => forall_attempt

@[simp] theorem always_createParentDir {path : String} {k : Except AnyhowError Unit → Prog Ans α} :
    (Prog.call (.createParentDir path) k).Always handler I Q w ↔ I w ∧
      (∀ err, (k (.error err)).Always handler I Q w) ∧ (k (.ok ())).Always handler I Q w :=
  and_congr_right fun _ => forall_attempt

@[simp] theorem always_createTable {k : Except AnyhowError Unit → Prog Ans α} :
    (Prog.call .createTable k).Always handler I Q w ↔ I w ∧
      (∀ err, (k (.error err)).Always handler I Q (w.failed .createTable)) ∧
      (k (.ok ())).Always handler I Q w :=
  and_congr_right fun _ => forall_attempt

@[simp] theorem always_markStale {now : ℤ} {k : Except AnyhowError Unit → Prog Ans α} :
    (Prog.call (.markStale now) k).Always handler I Q w ↔ I w ∧
      (∀ err, (k (.error err)).Always handler I Q (w.failed .markStale)) ∧
      (k (.ok ())).Always handler I Q { w with table := w.table.markStale now } :=
  and_congr_right fun _ => forall_attempt

@[simp] theorem always_select {site : Statement} {key : String}
    {k : Except AnyhowError (Option LedgerRecord) → Prog Ans α} :
    (Prog.call (.select site key) k).Always handler I Q w ↔ I w ∧
      (∀ err, (k (.error err)).Always handler I Q (w.failed site)) ∧
      (k (.ok ((w.table.find key).map (·.toLedgerRecord)))).Always handler I Q w :=
  and_congr_right fun _ => forall_attempt

@[simp] theorem always_update {key status resultJson errorMessage : String} {now : ℤ}
    {k : Except AnyhowError Unit → Prog Ans α} :
    (Prog.call (.update key status resultJson errorMessage now) k).Always handler I Q w ↔ I w ∧
      (∀ err, (k (.error err)).Always handler I Q (w.failed .complete)) ∧
      (k (.ok ())).Always handler I Q
        { w with table := w.table.update key status resultJson errorMessage now } :=
  and_congr_right fun _ => forall_attempt

@[simp] theorem always_send {frame : AgentToHypervisor} {k : Except AnyhowError Unit → Prog Ans α} :
    (Prog.call (.send frame) k).Always handler I Q w ↔ I w ∧
      (∀ err, (k (.error err)).Always handler I Q w) ∧
      (k (.ok ())).Always handler I Q { w with sent := frame::w.sent } :=
  and_congr_right fun _ => forall_attempt

theorem always_insert {row : Row} {k : Except AnyhowError Unit → Prog Ans α}
    (habsent : w.table.find row.commandId = none) :
    (Prog.call (.insert row) k).Always handler I Q w ↔ I w ∧
      (∀ err, (k (.error err)).Always handler I Q (w.failed .insert)) ∧
      ∀ t, w.table.insert row = some t →
        (k (.ok ())).Always handler I Q { w with table := t } := by
  obtain ⟨t,ht⟩ := Option.isSome_iff_exists.mp (Table.insert_isSome_iff.mpr habsent)
  have hh : ∀ c, handler (.insert row) c w = attempt c (w.failed .insert) () { w with table := t } := by
    intro c
    simp only [handler,ht]
  simp only [Prog.always_call,hh,forall_attempt,ht,Option.some.injEq,forall_eq']

@[simp] theorem always_execute {command : AgentCommand}
    {k : Except AnyhowError String → Prog Ans α} :
    (Prog.call (.execute command) k).Always handler I Q w ↔ I w ∧
      ∀ o, (k o).Always handler I Q { w with invoked := (command,o)::w.invoked } :=
  and_congr_right fun _ => ⟨fun hp o => hp { outcome := o } _ _ rfl,by
    rintro hp c x t hc; cases hc; exact hp _⟩

@[simp] theorem always_fetchAdd {k : UInt64 → Prog Ans α} :
    (Prog.call .fetchAdd k).Always handler I Q w ↔ I w ∧ ∀ n, (k n).Always handler I Q w :=
  and_congr_right fun _ => ⟨fun hp n => hp { seq := n } _ _ rfl,by
    rintro hp c x t hc; cases hc; exact hp _⟩

@[simp] theorem always_discoverStoragePools {k : List StoragePool → Prog Ans α} :
    (Prog.call .discoverStoragePools k).Always handler I Q w ↔
      I w ∧ ∀ pools, (k pools).Always handler I Q w :=
  and_congr_right fun _ => ⟨fun hp pools => hp { pools := pools } _ _ rfl,by
    rintro hp c x t hc; cases hc; exact hp _⟩

@[simp] theorem always_sleep {d : Duration} {k : Unit → Prog Ans α} :
    (Prog.call (.sleep d) k).Always handler I Q w ↔ I w ∧ (k ()).Always handler I Q w :=
  and_congr_right fun _ => ⟨fun hp => hp {} _ _ rfl,by
    rintro hp c x t hc; cases hc; exact hp⟩

end

end World

/-- What happens to an agent host: a message arrives on the stream of some session, or
the process is killed, if it lives, and started again. -/
inductive Event
  | deliver (facts : HostFacts) (streamId : String) (message : Option HypervisorMessage)
      (choices : List Choice)
  | restart (ledgerPath : String) (choices : List Choice)

namespace World

variable (crates : Crates)

/-- A process that dies in the middle of a call leaves only what is durable. -/
def deliver (facts : HostFacts) (streamId : String) (message : Option HypervisorMessage)
    (choices : List Choice) (w : World) : World :=
  if w.up then
    let r := (Registration.handleServerMessage crates facts streamId message).run.run handler choices w
    { r.2 with up := r.1.isSome }
  else w

/-- The ledger is open once `CommandLedger::open` has returned `Ok`. -/
def opened : Option (Except AnyhowError Unit) → Bool
  | some (.ok ()) => true
  | _ => false

def restart (ledgerPath : String) (choices : List Choice) (w : World) : World :=
  let r := (CommandLedger.open ledgerPath).run.run handler choices
    { w with up := false, faults := [] }
  { r.2 with up := opened r.1 }

def step (w : World) : Event → World
  | .deliver facts streamId message choices => deliver crates facts streamId message choices w
  | .restart ledgerPath choices => restart ledgerPath choices w

def after (w : World) (events : List Event) : World := events.foldl (step crates) w

@[simp] theorem after_nil (w : World) : after crates w [] = w := rfl

theorem after_invariant {Inv : World → Prop} (hstep : ∀ w e, Inv w → Inv (step crates w e))
    {w : World} (hw : Inv w) (events : List Event) : Inv (after crates w events) := by
  induction events generalizing w with
  | nil => exact hw
  | cons e es ih => exact ih (hstep w e hw)

end World
end KvmAgent
