import KvmAgent.LedgerCalls

/-! The executor of commands, and whether it tells apart two deliveries that the ledger
takes for the same command. -/
namespace KvmAgent
namespace CommandHandler

open RustText CommandLedger

def supportedCommands : List String :=
  ["start","stop","restart","reboot","shutdown","poweroff","pause","resume","delete","destroy",
    "snapshot_create","snapshot_delete"]

/-- The errors of `execute_agent_command`, by the place that makes them. -/
inductive CommandError
  | typeRequired
  | invalidPayload (err : String)
  | unsupported (normalized : String)
  | notImplemented (normalized target : String)
  deriving DecidableEq

namespace CommandError

def text : CommandError → String
  | typeRequired => "agent command type is required"
  | invalidPayload err => "invalid command payload json: " ++ err
  | unsupported normalized => "agent command type '" ++ normalized ++ "' is unsupported"
  | notImplemented normalized target =>
    "agent command '" ++ normalized ++ "' for target '" ++ target ++
      "' is not implemented by kvm runtime yet"

/-- An error without the text of the JSON parser, which tells positions in the payload. -/
def kind : CommandError → CommandError
  | invalidPayload _ => invalidPayload ""
  | e => e

end CommandError

-- `str::to_lowercase` is any function on strings: nothing depends on the case tables
variable (crates : Crates) (toLowercase : String → String)

def parsePayload (payloadJson : String) : Except CommandError Json :=
  if trim payloadJson = "" then .ok (.object [])
  else (crates.fromStr payloadJson).mapError .invalidPayload

/-- `extract_target`: the first of the known keys with a non-blank string. -/
def extractTarget (payload : Json) : String :=
  (resourceKeys.findSome? fun key =>
    ((payload.get key).bind Json.asStr).bind fun value =>
      if trim value = "" then none else some (trim value)).getD "unknown-target"

/-- The part of `execute_agent_command` behind the payload. -/
def dispatch (normalized : String) (payload : Json) : Except CommandError String :=
  if normalized ∉ supportedCommands then .error (.unsupported normalized)
  else .error (.notImplemented normalized (extractTarget payload))

def executeAgentCommand (commandType payloadJson : String) : Except CommandError String :=
  let normalized := toLowercase (trim commandType)
  if normalized = "" then .error .typeRequired
  else do
    let payload ← parsePayload crates payloadJson
    dispatch normalized payload

/-! ### Two deliveries of one command -/

def isJsonWhitespace (c : Char) : Bool := c == ' ' || c == '\t' || c == '\n' || c == '\r'

def trimJson (s : String) : String := String.ofList (trimBy isJsonWhitespace s.toList)

theorem isWhitespace_of_json (c : Char) (h : isJsonWhitespace c = true) : isWhitespace c = true := by
  simp only [isJsonWhitespace,Bool.or_eq_true,beq_iff_eq] at h
  rcases h with ((rfl | rfl) | rfl) | rfl <;> decide

theorem trim_trimJson (s : String) : trim (trimJson s) = trim s := by
  have hcore : trimChars (trimBy isJsonWhitespace s.toList) = trimChars s.toList :=
    trimBy_trimBy isWhitespace_of_json s.toList
  rw [trim,trim,trimJson,String.toList_ofList,hcore]

/-- `from_str` accepts the documents, with JSON whitespace around them; a document has no
whitespace around it of its own. -/
structure ReadsJson (crates : Crates) (document : String → Option Json) : Prop where
  accepts : ∀ s v, crates.fromStr s = .ok v ↔ document (trimJson s) = some v
  bare : ∀ d v, document d = some v → Trimmed d ∧ d ≠ ""

def JsonPadded (s : String) : Prop := trimJson s = trim s

instance (s : String) : Decidable (JsonPadded s) := inferInstanceAs (Decidable (trimJson s = trim s))

/-- Type and payload are the same to `begin_or_get`. -/
def SameToLedger (c d : AgentCommand) : Prop :=
  trim c.type = trim d.type ∧ trim c.payloadJson = trim d.payloadJson

instance (c d : AgentCommand) : Decidable (SameToLedger c d) := inferInstanceAs (Decidable (_ ∧ _))

/-- Both succeed with one value, or both fail with one kind of error. -/
def SameOutcome : Except CommandError String → Except CommandError String → Prop
  | .ok a, .ok b => a = b
  | .error e, .error f => e.kind = f.kind
  | _, _ => False

instance : (r s : Except CommandError String) → Decidable (SameOutcome r s)
  | .ok a, .ok b => inferInstanceAs (Decidable (a = b))
  | .error e, .error f => inferInstanceAs (Decidable (e.kind = f.kind))
  | .ok _, .error _ | .error _, .ok _ => inferInstanceAs (Decidable False)

section Congruence

variable {crates} {document : String → Option Json}

/-- A parsed payload is a document whose padding is JSON whitespace. -/
theorem fromStr_ok_iff (json : ReadsJson crates document) (s : String) (v : Json) :
    crates.fromStr s = .ok v ↔ JsonPadded s ∧ document (trim s) = some v := by
  rw [json.accepts]
  constructor
  · intro h
    have hbare : trim (trimJson s) = trimJson s := (json.bare _ _ h).1
    have hpadded : trimJson s = trim s := by rw [← hbare,trim_trimJson]
    exact ⟨hpadded,hpadded ▸ h⟩
  · rintro ⟨hpadded,h⟩
    rwa [hpadded]

theorem parsePayload_cases (json : ReadsJson crates document) (s : String) :
    (Blank s ∧ parsePayload crates s = .ok (.object [])) ∨
    (¬Blank s ∧ ∃ v, document (trim s) = some v ∧ JsonPadded s ∧ parsePayload crates s = .ok v) ∨
    (¬Blank s ∧ (document (trim s) = none ∨ ¬JsonPadded s) ∧
      ∃ err, parsePayload crates s = .error (.invalidPayload err)) := by
  by_cases hb : trim s = ""
  · exact .inl ⟨hb,by simp [parsePayload,hb]⟩
  · cases hs : crates.fromStr s with
    | ok v =>
      obtain ⟨hpadded,hdoc⟩ := (fromStr_ok_iff json s v).mp hs
      exact .inr (.inl ⟨hb,v,hdoc,hpadded,by simp [parsePayload,hb,hs,Except.mapError]⟩)
    | error err =>
      refine .inr (.inr ⟨hb,?_,err,by simp [parsePayload,hb,hs,Except.mapError]⟩)
      cases hdoc : document (trim s) with
      | none => exact .inl rfl
      | some v =>
        refine .inr fun hpadded => ?_
        rw [(fromStr_ok_iff json s v).mpr ⟨hpadded,hdoc⟩] at hs
        cases hs

theorem dispatch_kind (normalized : String) (payload : Json) :
    ∃ e, dispatch normalized payload = .error e ∧ e.kind ≠ .invalidPayload "" := by
  unfold dispatch
  split
  · exact ⟨_,rfl,by simp [CommandError.kind]⟩
  · exact ⟨_,rfl,by simp [CommandError.kind]⟩

theorem not_sameOutcome_invalid (normalized : String) (payload : Json) (err : String) :
    ¬SameOutcome (dispatch normalized payload) (.error (.invalidPayload err)) ∧
    ¬SameOutcome (.error (.invalidPayload err)) (dispatch normalized payload) := by
  obtain ⟨e,he,hkind⟩ := dispatch_kind normalized payload
  rw [he]
  exact ⟨hkind,fun h => hkind h.symm⟩

theorem sameOutcome_refl (r : Except CommandError String) : SameOutcome r r := by
  cases r <;> rfl

theorem about_of_same (crates : Crates) {c d : AgentCommand} (same : SameToLedger c d)
    (record : LedgerRecord) :
    LedgerCalls.About crates c record ↔ LedgerCalls.About crates d record := by
  rw [LedgerCalls.About,LedgerCalls.About,hashPayload,hashPayload,same.1,same.2]

/-- Two deliveries that are the same to the ledger have one outcome exactly when their type
is blank, their payload is blank or no JSON at all, or neither or both of the payloads have
whitespace around them that is not JSON's. -/
theorem same_outcome_iff (crates : Crates) (document : String → Option Json)
    (json : ReadsJson crates document) (toLowercase : String → String) (c d : AgentCommand)
    (same : SameToLedger c d) :
    SameOutcome (executeAgentCommand crates toLowercase c.type c.payloadJson)
        (executeAgentCommand crates toLowercase d.type d.payloadJson) ↔
      toLowercase (trim c.type) = "" ∨ Blank c.payloadJson ∨ document (trim c.payloadJson) = none ∨
        (JsonPadded c.payloadJson ↔ JsonPadded d.payloadJson) := by
  obtain ⟨htype,hpayload⟩ := same
  have hblank : Blank d.payloadJson ↔ Blank c.payloadJson := by rw [Blank,Blank,hpayload]
  by_cases hn : toLowercase (trim c.type) = ""
  · simp [executeAgentCommand,← htype,hn,SameOutcome]
  simp only [executeAgentCommand,← htype,hn,if_false,false_or]
  rcases parsePayload_cases json c.payloadJson with
    ⟨hb,hc⟩ | ⟨hb,v,hdoc,hpadded,hc⟩ | ⟨hb,hbad,err,hc⟩ <;>
  rcases parsePayload_cases json d.payloadJson with
    ⟨hb',hd⟩ | ⟨hb',v',hdoc',hpadded',hd⟩ | ⟨hb',hbad',err',hd⟩
  · rw [hc,hd]
    exact iff_of_true (sameOutcome_refl _) (.inl hb)
  · exact absurd (hblank.mpr hb) hb'
  · exact absurd (hblank.mpr hb) hb'
  · exact absurd (hblank.mp hb') hb
  · rw [← hpayload,hdoc,Option.some.injEq] at hdoc'
    subst hdoc'
    rw [hc,hd]
    exact iff_of_true (sameOutcome_refl _) (.inr (.inr (iff_of_true hpadded hpadded')))
  · have hnot : ¬JsonPadded d.payloadJson := by simpa [← hpayload,hdoc] using hbad'
    rw [hc,hd]
    refine iff_of_false (not_sameOutcome_invalid _ _ _).1 ?_
    simp [hb,hdoc,hpadded,hnot]
  · exact absurd (hblank.mp hb') hb
  · have hnot : ¬JsonPadded c.payloadJson := by simpa [hpayload,hdoc'] using hbad
    rw [hc,hd]
    refine iff_of_false (not_sameOutcome_invalid _ _ _).2 ?_
    simp [hb,hpayload,hdoc',hpadded',hnot]
  · rw [hc,hd]
    refine iff_of_true rfl (.inr ?_)
    rcases hbad with hdoc | hnot
    · exact .inl hdoc
    · rcases hbad' with hdoc' | hnot'
      · exact .inl (hpayload ▸ hdoc')
      · exact .inr (iff_of_false hnot hnot')

end Congruence

def emptyObject (d : String) : Option Json := if d = "{}" then some (.object []) else none

def emptyObjectReader : Crates where
  sha256Hex s :=
    if s = "{}" then "44136fa355b3678a1146ad16f7e8649e94fb4fc21fe77e8310c060f61caaff8a" else ""
  fromStr s :=
    match emptyObject (trimJson s) with
    | some v => .ok v
    | none => .error "expected value at line 1 column 1"

theorem reads_emptyObject : ReadsJson emptyObjectReader emptyObject where
  accepts s v := by
    cases h : emptyObject (trimJson s) <;> simp [emptyObjectReader,h]
  bare d v h := by
    unfold emptyObject at h
    split at h
    · next hd =>
      subst hd
      decide
    · cases h

def paddedStart (before : String) : AgentCommand where
  commandId := "cmd-1"
  type := "start"
  payloadJson := before ++ "{}"

/-- JSON whitespace in front of the payload changes nothing. -/
theorem padded_same :
    SameOutcome (executeAgentCommand emptyObjectReader toAsciiLowercase "start" "{}")
      (executeAgentCommand emptyObjectReader toAsciiLowercase "start" " {}") :=
  (same_outcome_iff emptyObjectReader emptyObject reads_emptyObject toAsciiLowercase
    (paddedStart "") (paddedStart " ") (by decide)).mpr (.inr (.inr (.inr (by decide))))

/-- A no-break space in front of the payload is trimmed by the ledger and refused by the
parser. -/
theorem no_break_space_differs :
    ReadsJson emptyObjectReader emptyObject ∧
    SameToLedger (paddedStart "") (paddedStart "\u00a0") ∧
    ¬SameOutcome (executeAgentCommand emptyObjectReader toAsciiLowercase "start" "{}")
      (executeAgentCommand emptyObjectReader toAsciiLowercase "start" "\u00a0{}") :=
  ⟨reads_emptyObject,by decide,by decide⟩

end CommandHandler
end KvmAgent
