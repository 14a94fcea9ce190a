import KvmAgent.LedgerWorld
import KvmAgent.Simulation
import Mathlib.Data.Set.Function

/-! What the command ledger is for: a map from trimmed command ids to what is known of the
command. While the statements on the table succeed, the calls of the ledger answer as those
of the map. -/
namespace KvmAgent

open RustText CommandLedger

structure MapEntry where
  commandType : String
  payload : String
  status : String
  resultJson : String
  errorMessage : String
  deriving DecidableEq

/-- The map; its keys are trimmed and not empty. -/
structure LedgerMap where
  get : String → Option MapEntry
  clean : ∀ commandId, get commandId ≠ none → Trimmed commandId ∧ commandId ≠ ""

inductive MapAnswer
  | done
  | refused
  | new (commandId : String) (e : MapEntry)
  | existing (commandId : String) (e : MapEntry)
  | payloadMismatch (commandId : String) (e : MapEntry)
  deriving DecidableEq

namespace LedgerMap

def empty : LedgerMap := ⟨fun _ => none,by simp⟩

def insert (m : LedgerMap) (commandId : String) (hid : Trimmed commandId ∧ commandId ≠ "")
    (e : MapEntry) : LedgerMap :=
  ⟨Function.update m.get commandId (some e),by
    intro key hkey
    by_cases h : key = commandId
    · exact h ▸ hid
    · exact m.clean key (by simpa [h] using hkey)⟩

def alter (m : LedgerMap) (f : String → MapEntry → MapEntry) : LedgerMap :=
  ⟨fun key => (m.get key).map (f key),fun key hkey => m.clean key (by simpa using hkey)⟩

def beginOrGet (m : LedgerMap) (commandId commandType payload : String) : MapAnswer × LedgerMap :=
  if hblank : trim commandId = "" then (.refused,m)
  else
    match m.get (trim commandId) with
    | none =>
      let e : MapEntry := ⟨trim commandType,trim payload,"running","{}",""⟩
      (.new (trim commandId) e,m.insert (trim commandId) ⟨trimmed_trim _,hblank⟩ e)
    | some e =>
      if e.commandType = trim commandType ∧ e.payload = trim payload then
        (.existing (trim commandId) e,m)
      else (.payloadMismatch (trim commandId) e,m)

def complete (m : LedgerMap) (commandId status resultJson errorMessage : String) : LedgerMap :=
  m.alter fun key e =>
    if key = trim commandId then
      { e with
        status := trim status
        resultJson := normalizeResultJson resultJson
        errorMessage := trim errorMessage }
    else e

def reopen (m : LedgerMap) : LedgerMap :=
  m.alter fun _ e =>
    if e.status = "running" then
      { e with status := "failed", errorMessage := "agent_restart_before_completion" }
    else e

end LedgerMap

/-- The calls of the ledger, each with what the clock shows while it runs. -/
inductive LedgerCall
  | «open» (clock : ℕ → SystemTime)
  | beginOrGet (commandId commandType payloadJson : String) (clock : ℕ → SystemTime)
  | complete (commandId status resultJson errorMessage : String) (clock : ℕ → SystemTime)

inductive LedgerAnswer
  | done (r : Option (Except AnyhowError Unit))
  | begun (r : Option (Except AnyhowError BeginOrGet))

namespace LedgerCall

/-- An environment in which nothing fails; no call performs more operations. -/
def faultless (clock : ℕ → SystemTime) : List Choice :=
  [{ time := clock 0 },{ time := clock 1 },{ time := clock 2 },{ time := clock 3 },{ time := clock 4 }]

variable (crates : Crates) (path : String)

def onTable : LedgerCall → World → LedgerAnswer × World
  | .open clock, w =>
    let r := (CommandLedger.open path).run.run World.handler (faultless clock) w
    (.done r.1,r.2)
  | .beginOrGet commandId commandType payloadJson clock, w =>
    let r := (CommandLedger.beginOrGet crates commandId commandType payloadJson).run.run
      World.handler (faultless clock) w
    (.begun r.1,r.2)
  | .complete commandId status resultJson errorMessage clock, w =>
    let r := (CommandLedger.complete commandId status resultJson errorMessage).run.run
      World.handler (faultless clock) w
    (.done r.1,r.2)

def onMap : LedgerCall → LedgerMap → MapAnswer × LedgerMap
  | .open _, m => if trim path = "" then (.refused,m) else (.done,m.reopen)
  | .beginOrGet commandId commandType payloadJson _, m =>
    m.beginOrGet commandId commandType payloadJson
  | .complete commandId status resultJson errorMessage _, m =>
    (.done,m.complete commandId status resultJson errorMessage)

def payload : LedgerCall → Option String
  | .beginOrGet _ _ payloadJson _ => some (trim payloadJson)
  | _ => none

end LedgerCall

namespace LedgerRefinement

variable (crates : Crates)

/-- A record is the entry of the map under its id, with the hash for the payload. -/
structure Records (r : LedgerRecord) (commandId : String) (e : MapEntry) : Prop where
  commandId : r.commandId = commandId
  commandType : r.commandType = e.commandType
  payload : r.payloadHash = crates.sha256Hex e.payload
  status : r.status = e.status
  resultJson : r.resultJson = e.resultJson
  errorMessage : r.errorMessage = e.errorMessage

def Matches : LedgerAnswer → MapAnswer → Prop
  | .done (some (.ok ())), .done => True
  | .done (some (.error _)), .refused => True
  | .begun (some (.error _)), .refused => True
  | .begun (some (.ok (.new r))), .new commandId e => Records crates r commandId e
  | .begun (some (.ok (.existing r))), .existing commandId e => Records crates r commandId e
  | .begun (some (.ok (.payloadMismatch r))), .payloadMismatch commandId e =>
    Records crates r commandId e
  | _, _ => False

/-- The table holds the entries of the map, whose payloads are among those seen. -/
structure Represents (seen : Set String) (w : World) (m : LedgerMap) : Prop where
  rows : ∀ commandId, Option.Rel (fun row e => Records crates row.toLedgerRecord commandId e)
    (w.table.find commandId) (m.get commandId)
  payloads : ∀ commandId e, m.get commandId = some e → e.payload ∈ seen

variable {crates} {seen : Set String} {w : World} {m : LedgerMap} {path : String}

theorem Represents.absent (h : Represents crates seen w m) {commandId : String} :
    w.table.find commandId = none ↔ m.get commandId = none := by
  have hrel := h.rows commandId
  generalize w.table.find commandId = row at hrel
  generalize m.get commandId = e at hrel
  cases hrel <;> simp

theorem Represents.row (h : Represents crates seen w m) {commandId : String} {row : Row}
    (hrow : w.table.find commandId = some row) :
    ∃ e, m.get commandId = some e ∧ Records crates row.toLedgerRecord commandId e := by
  have hrel := h.rows commandId
  rw [hrow] at hrel
  generalize m.get commandId = e at hrel
  cases hrel with
  | some hr => exact ⟨_,rfl,hr⟩

theorem start_represents : Represents crates seen (World.start .empty) .empty where
  rows _ := .none
  payloads := by simp [LedgerMap.empty]

theorem alter_represents (h : Represents crates seen w m) {t : Table} {f : Row → Row}
    {g : String → MapEntry → MapEntry}
    (ht : ∀ commandId, t.find commandId = (w.table.find commandId).map f)
    (hpayload : ∀ key e, (g key e).payload = e.payload)
    (hfg : ∀ row e key, Records crates row.toLedgerRecord key e →
      Records crates (f row).toLedgerRecord key (g key e)) :
    Represents crates seen { w with table := t } (m.alter g) where
  rows commandId := by
    rw [ht,LedgerMap.alter]
    have hrel := h.rows commandId
    dsimp only
    generalize w.table.find commandId = row at hrel ⊢
    generalize m.get commandId = e at hrel ⊢
    cases hrel with
    | some hr => exact .some (hfg _ _ _ hr)
    | none => exact .none
  payloads commandId e he := by
    obtain ⟨old,hold,rfl⟩ := Option.map_eq_some_iff.mp he
    rw [hpayload]
    exact h.payloads commandId old hold

section Runs

variable (crates path w) (clock : ℕ → SystemTime) (commandId commandType payloadJson : String)

theorem complete_run (status resultJson errorMessage : String) :
    LedgerCall.onTable crates path (.complete commandId status resultJson errorMessage clock) w =
      (.done (some (.ok ())),{ w with
        table := w.table.update (trim commandId) (trim status) (normalizeResultJson resultJson)
          (trim errorMessage) (clock 0).unixNow }) := rfl

theorem open_blank (hpath : trim path = "") :
    LedgerCall.onTable crates path (.open clock) w =
      (.done (some (.error (.msg "agent command ledger path is required"))),w) := by
  simp [LedgerCall.onTable,CommandLedger.open,hpath,Prog.run]

theorem open_run (hpath : trim path ≠ "") :
    LedgerCall.onTable crates path (.open clock) w =
      (.done (some (.ok ())),{ w with table := w.table.markStale (clock 3).unixNow }) := by
  simp only [LedgerCall.onTable,CommandLedger.open,if_neg hpath]
  rfl

theorem beginOrGet_blank (hid : trim commandId = "") :
    LedgerCall.onTable crates path (.beginOrGet commandId commandType payloadJson clock) w =
      (.begun (some (.error (.msg "command_id is required"))),w) := by
  simp [LedgerCall.onTable,CommandLedger.beginOrGet,hid,Prog.run]

theorem beginOrGet_found (hid : trim commandId ≠ "") {row : Row}
    (hrow : w.table.find (trim commandId) = some row) :
    LedgerCall.onTable crates path (.beginOrGet commandId commandType payloadJson clock) w =
      (.begun (some (.ok (
        if row.commandType ≠ trim commandType ∨ row.payloadHash ≠ hashPayload crates payloadJson then
          .payloadMismatch row.toLedgerRecord
        else .existing row.toLedgerRecord))),w) := by
  by_cases h : row.commandType ≠ trim commandType ∨ row.payloadHash ≠ hashPayload crates payloadJson <;>
    simp [LedgerCall.onTable,CommandLedger.beginOrGet,loadRecord,hid,ExceptT.run_bind,Prog.run,
      LedgerCall.faultless,World.handler,World.attempt,hrow,h]

theorem beginOrGet_absent (hid : trim commandId ≠ "") (hrow : w.table.find (trim commandId) = none) :
    ∃ t, w.table.insert (newRow crates (trim commandId) (trim commandType) payloadJson
        (clock 0).unixNow) = some t ∧
      LedgerCall.onTable crates path (.beginOrGet commandId commandType payloadJson clock) w =
        (.begun (some (.ok (.new (newRow crates (trim commandId) (trim commandType) payloadJson
          (clock 0).unixNow).toLedgerRecord))),{ w with table := t }) := by
  have hfree : (w.table.insert (newRow crates (trim commandId) (trim commandType) payloadJson
      (clock 0).unixNow)).isSome := Table.insert_isSome_iff.mpr hrow
  obtain ⟨t,ht⟩ := Option.isSome_iff_exists.mp hfree
  have hfound : t.find (trim commandId) = some (newRow crates (trim commandId) (trim commandType)
      payloadJson (clock 0).unixNow) := by
    rw [Table.find_insert ht]
    simp [newRow]
  refine ⟨t,ht,?_⟩
  simp [LedgerCall.onTable,CommandLedger.beginOrGet,loadRecord,hid,ExceptT.run_bind,
    Prog.run,LedgerCall.faultless,World.handler,World.attempt,hrow,ht,hfound]

end Runs

section Calls

theorem complete_refines (h : Represents crates seen w m)
    (commandId status resultJson errorMessage : String) (now : ℤ) :
    Represents crates seen
      { w with
        table := w.table.update (trim commandId) (trim status) (normalizeResultJson resultJson)
          (trim errorMessage) now }
      (m.complete commandId status resultJson errorMessage) := by
  refine alter_represents h (fun key => Table.find_mapRows ..) ?_ ?_
  · intro key e
    split <;> rfl
  · intro row e key hr
    have hkey : row.commandId = key := hr.commandId
    by_cases hid : key = trim commandId
    · simp only [hid,hkey.trans hid,if_true]
      exact ⟨hkey.trans hid,hr.commandType,hr.payload,rfl,rfl,rfl⟩
    · have hrow : row.commandId ≠ trim commandId := hkey ▸ hid
      simpa only [if_neg hid,if_neg hrow] using hr

theorem reopen_refines (h : Represents crates seen w m) (now : ℤ) :
    Represents crates seen { w with table := w.table.markStale now } m.reopen := by
  refine alter_represents h (fun key => Table.find_mapRows ..) ?_ ?_
  · intro key e
    split <;> rfl
  · intro row e key hr
    by_cases hrunning : e.status = "running"
    · simp only [Row.markedStale,hr.status.trans hrunning,hrunning,if_true]
      exact ⟨hr.commandId,hr.commandType,hr.payload,rfl,hr.resultJson,rfl⟩
    · have hrow : row.status ≠ "running" := hr.status ▸ hrunning
      simpa only [Row.markedStale,if_neg hrunning,if_neg hrow] using hr

theorem insert_refines (h : Represents crates seen w m) {commandId commandType payloadJson : String}
    (hid : Trimmed (trim commandId) ∧ trim commandId ≠ "") (hp : trim payloadJson ∈ seen) {now : ℤ}
    {t : Table}
    (ht : w.table.insert (newRow crates (trim commandId) (trim commandType) payloadJson now) = some t) :
    Represents crates seen { w with table := t }
      (m.insert (trim commandId) hid ⟨trim commandType,trim payloadJson,"running","{}",""⟩) where
  rows key := by
    have hfind := Table.find_insert ht key
    dsimp only
    rw [hfind,LedgerMap.insert]
    by_cases hkey : trim commandId = key
    · subst hkey
      simpa [newRow] using ⟨rfl,rfl,rfl,rfl,rfl,rfl⟩
    · simpa [newRow,hkey,Function.update_of_ne (Ne.symm hkey)] using h.rows key
  payloads key e he := by
    by_cases hkey : key = trim commandId
    · subst hkey
      obtain rfl : _ = e := by simpa [LedgerMap.insert] using he
      exact hp
    · exact h.payloads key e (by simpa [LedgerMap.insert,hkey] using he)

/-- The comparison of the ledger, which goes through the hash, is that of the map. -/
theorem same_command_iff {row : LedgerRecord} {e : MapEntry} {key payloadJson : String}
    (commandType : String) (collisionFree : Set.InjOn crates.sha256Hex seen) (he : e.payload ∈ seen)
    (hp : trim payloadJson ∈ seen) (hr : Records crates row key e) :
    (row.commandType ≠ trim commandType ∨ row.payloadHash ≠ hashPayload crates payloadJson) ↔
      ¬(e.commandType = trim commandType ∧ e.payload = trim payloadJson) := by
  rw [hr.commandType,hr.payload,hashPayload,not_and_or,Ne,Ne,collisionFree.eq_iff he hp]

theorem beginOrGet_refines (h : Represents crates seen w m)
    (collisionFree : Set.InjOn crates.sha256Hex seen)
    (commandId commandType payloadJson : String) (hp : trim payloadJson ∈ seen)
    (clock : ℕ → SystemTime) :
    Matches crates
        (LedgerCall.onTable crates path (.beginOrGet commandId commandType payloadJson clock) w).1
        (m.beginOrGet commandId commandType payloadJson).1 ∧
      Represents crates seen
        (LedgerCall.onTable crates path (.beginOrGet commandId commandType payloadJson clock) w).2
        (m.beginOrGet commandId commandType payloadJson).2 := by
  by_cases hid : trim commandId = ""
  · rw [beginOrGet_blank _ _ _ _ _ _ _ hid,LedgerMap.beginOrGet,dif_pos hid]
    exact ⟨trivial,h⟩
  cases hrow : w.table.find (trim commandId) with
  | none =>
    obtain ⟨t,ht,hrun⟩ :=
      beginOrGet_absent crates w path clock commandId commandType payloadJson hid hrow
    have hm : m.get (trim commandId) = none := h.absent.mp hrow
    simp only [hrun,LedgerMap.beginOrGet,dif_neg hid,hm]
    exact ⟨⟨rfl,rfl,rfl,rfl,rfl,rfl⟩,insert_refines h _ hp ht⟩
  | some row =>
    obtain ⟨e,he,hr⟩ := h.row hrow
    have hsame := same_command_iff commandType collisionFree (h.payloads _ e he) hp hr
    rw [beginOrGet_found _ _ _ _ _ _ _ hid hrow]
    by_cases hc : e.commandType = trim commandType ∧ e.payload = trim payloadJson
    · simp only [LedgerMap.beginOrGet,dif_neg hid,he,if_pos hc,if_neg (hsame.not.mpr (not_not.mpr hc))]
      exact ⟨hr,h⟩
    · simp only [LedgerMap.beginOrGet,dif_neg hid,he,if_neg hc,if_pos (hsame.mpr hc)]
      exact ⟨hr,h⟩

theorem call_refines (h : Represents crates seen w m) (collisionFree : Set.InjOn crates.sha256Hex seen)
    (c : LedgerCall) (hp : ∀ p, c.payload = some p → p ∈ seen) :
    Matches crates (c.onTable crates path w).1 (c.onMap path m).1 ∧
      Represents crates seen (c.onTable crates path w).2 (c.onMap path m).2 := by
  cases c with
  | «open» clock =>
    by_cases hpath : trim path = ""
    · rw [open_blank _ _ _ _ hpath,LedgerCall.onMap,if_pos hpath]
      exact ⟨trivial,h⟩
    · rw [open_run _ _ _ _ hpath,LedgerCall.onMap,if_neg hpath]
      exact ⟨trivial,reopen_refines h _⟩
  | beginOrGet commandId commandType payloadJson clock =>
    exact beginOrGet_refines h collisionFree commandId commandType payloadJson (hp _ rfl) clock
  | complete commandId status resultJson errorMessage clock =>
    rw [complete_run]
    exact ⟨trivial,complete_refines h commandId status resultJson errorMessage _⟩

end Calls

/-- While no statement fails and no two of the payloads have one hash, every sequence of
calls on a fresh ledger is answered as by the map, and leaves its entries in the table. -/
theorem ledger_refines_map (crates : Crates) (path : String) (calls : List LedgerCall)
    (collisionFree : Set.InjOn crates.sha256Hex {p | ∃ c ∈ calls, c.payload = some p}) :
    List.Forall₂ (Matches crates)
        (Simulation.answers (LedgerCall.onTable crates path) calls (World.start .empty)).1
        (Simulation.answers (LedgerCall.onMap path) calls .empty).1 ∧
      Represents crates {p | ∃ c ∈ calls, c.payload = some p}
        (Simulation.answers (LedgerCall.onTable crates path) calls (World.start .empty)).2
        (Simulation.answers (LedgerCall.onMap path) calls .empty).2 := by
  have hstep (c : LedgerCall) (hc : c ∈ calls) (w : World) (m : LedgerMap)
      (h : Represents crates {p | ∃ c ∈ calls, c.payload = some p} w m) :
      Matches crates (c.onTable crates path w).1 (c.onMap path m).1 ∧
        Represents crates {p | ∃ c ∈ calls, c.payload = some p} (c.onTable crates path w).2
          (c.onMap path m).2 :=
    call_refines h collisionFree c fun _ hp => ⟨c,hc,hp⟩
  exact Simulation.answers_related hstep start_represents

/-- SHA-256 on the two payloads of the sample calls. -/
def sampleCrates : Crates where
  sha256Hex s :=
    if s = "{}" then "44136fa355b3678a1146ad16f7e8649e94fb4fc21fe77e8310c060f61caaff8a"
    else if s = "[]" then
      "4f53cda18c2baa0c0354bb5f9a3ecbe5ed12ab4d8e11ba873c2f11161202b945"
    else ""
  fromStr s := if s = "[]" then .ok (.array []) else .ok (.object [])

def sampleCalls : List LedgerCall :=
  [.open fun _ => 0,.beginOrGet " cmd-1" "vm.start" "{}" fun _ => 0,
    .complete "cmd-1" "succeeded" "" "" fun _ => 0,
    .beginOrGet "cmd-1" "vm.start " " {}" fun _ => 0,
    .beginOrGet "cmd-1" "vm.start" "[]" fun _ => 0,.open fun _ => 0]

theorem sampleCalls_refined :
    List.Forall₂ (Matches sampleCrates)
      (Simulation.answers (LedgerCall.onTable sampleCrates "ledger.db") sampleCalls
        (World.start .empty)).1
      [.done,.new "cmd-1" ⟨"vm.start","{}","running","{}",""⟩,.done,
        .existing "cmd-1" ⟨"vm.start","{}","succeeded","{}",""⟩,
        .payloadMismatch "cmd-1" ⟨"vm.start","{}","succeeded","{}",""⟩,.done] := by
  have hseen (p : String) (hp : ∃ c ∈ sampleCalls, c.payload = some p) :
      p = "{}" ∨ p = "[]" := by
    have h1 : trim "{}" = "{}" ∧ trim " {}" = "{}" := by decide
    have h2 : trim "[]" = "[]" := by decide
    simpa [sampleCalls,LedgerCall.payload,h1,h2,eq_comm] using hp
  have hfree : Set.InjOn sampleCrates.sha256Hex {p | ∃ c ∈ sampleCalls, c.payload = some p} := by
    intro p hp q hq h
    rcases hseen p hp with rfl | rfl <;> rcases hseen q hq with rfl | rfl
    · rfl
    · exact absurd h (by decide)
    · exact absurd h (by decide)
    · rfl
  have hanswers : (Simulation.answers (LedgerCall.onMap "ledger.db") sampleCalls .empty).1 =
      [.done,.new "cmd-1" ⟨"vm.start","{}","running","{}",""⟩,.done,
        .existing "cmd-1" ⟨"vm.start","{}","succeeded","{}",""⟩,
        .payloadMismatch "cmd-1" ⟨"vm.start","{}","succeeded","{}",""⟩,.done] := by decide
  exact hanswers ▸ (ledger_refines_map sampleCrates "ledger.db" sampleCalls hfree).1

end LedgerRefinement
end KvmAgent
