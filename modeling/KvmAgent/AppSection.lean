import KvmAgent.AgentConfig
import KvmAgent.Anyhow

/-! What the configuration says of the process itself, and how it is read from the
environment variables. -/
namespace KvmAgent

open RustText

def NulFree (s : String) : Prop := '\x00' ∉ s.toList

instance (s : String) : Decidable (NulFree s) := inferInstanceAs (Decidable ('\x00' ∉ s.toList))

/-- `env::var`, which fails for a variable that is not set or not Unicode. -/
structure EnvVars where
  var : String → Except AnyhowError String
  nulFree : ∀ key v, var key = .ok v → NulFree v

instance : CoeFun EnvVars fun _ => String → Except AnyhowError String := ⟨EnvVars.var⟩

namespace EnvVars

variable (env : EnvVars) (key : String)

def optionalEnv : Option String :=
  match env key with
  | .ok v => if Blank v then none else some v
  | .error _ => none

def requiredEnv : Except AnyhowError String :=
  match env key with
  | .error e => .error (e.context ("missing required environment variable " ++ key))
  | .ok value =>
    if Blank value then
      .error (.msg ("required environment variable " ++ key ++ " must not be empty"))
    else .ok value

end EnvVars

inductive AppEnvironment
  | dev | prod
  deriving DecidableEq

structure AppSection where
  name : String
  environment : AppEnvironment
  nodeId : String
  zoneId : String
  shutdownTimeout : Duration
  deriving DecidableEq

namespace AppSection

open AgentConfig EnvVars

def validate (app : AppSection) : Except String Unit := do
  check (Blank app.name) "APP_NAME must not be empty"
  check (Blank app.nodeId) "APP_NODE_ID must not be empty"
  check (app.shutdownTimeout = 0) "SHUTDOWN_TIMEOUT_SEC must be > 0"

def shutdownTimeoutSecs (env : EnvVars) : Except AnyhowError UInt64 :=
  let raw := (optionalEnv env "SHUTDOWN_TIMEOUT_SEC").getD "15"
  match parseU64 raw with
  | some secs => .ok secs
  | none => .error ((AnyhowError.msg (parseU64Failure raw)).context
      "invalid SHUTDOWN_TIMEOUT_SEC, expected unsigned integer seconds")

/-- The first part of `load_from_env`. -/
def loadFromEnv (env : EnvVars) : Except AnyhowError AppSection := do
  let nodeId ← requiredEnv env "APP_NODE_ID"
  let secs ← shutdownTimeoutSecs env
  let app : AppSection :=
    { name := (optionalEnv env "APP_NAME").getD "aurora-kvm-agent"
      environment := .prod
      nodeId := nodeId
      zoneId := (optionalEnv env "APP_ZONE_ID").getD ""
      shutdownTimeout := Duration.fromSecs secs.toNat }
  match app.validate with
  | .ok () => .ok app
  | .error e => .error (.msg e)

theorem validate_ok (app : AppSection) :
    app.validate = .ok () ↔ ¬Blank app.name ∧ ¬Blank app.nodeId ∧ app.shutdownTimeout ≠ 0 := by
  simp only [validate,check_bind,check_ok,ne_eq]

theorem requiredEnv_ok {env : EnvVars} {key : String} {v : String} :
    requiredEnv env key = .ok v ↔ env key = .ok v ∧ ¬Blank v := by
  unfold requiredEnv
  cases henv : env key with
  | error e => simp
  | ok w =>
    by_cases hw : Blank w
    · simp only [if_pos hw]
      constructor
      · intro h
        cases h
      · rintro ⟨h,hv⟩
        cases h
        exact absurd hw hv
    · simp only [if_neg hw,Except.ok.injEq]
      constructor
      · rintro rfl
        exact ⟨rfl,hw⟩
      · exact And.left

theorem loadFromEnv_valid {env : EnvVars} {app : AppSection} (h : loadFromEnv env = .ok app) :
    app.validate = .ok () ∧
      ∃ secs, shutdownTimeoutSecs env = .ok secs ∧ app.shutdownTimeout = Duration.fromSecs secs.toNat := by
  unfold loadFromEnv at h
  cases hnode : requiredEnv env "APP_NODE_ID" with
  | error e =>
    rw [hnode] at h
    cases h
  | ok nodeId =>
    cases hsecs : shutdownTimeoutSecs env with
    | error e =>
      rw [hnode,hsecs] at h
      cases h
    | ok secs =>
      rw [hnode,hsecs] at h
      simp only [bind,Except.bind] at h
      split at h
      · next hvalid =>
        cases h
        exact ⟨hvalid,secs,rfl,rfl⟩
      · cases h

theorem loadFromEnv_timeout {env : EnvVars} {app : AppSection} (h : loadFromEnv env = .ok app) :
    ∃ secs : UInt64, 0 < secs ∧ app.shutdownTimeout = Duration.fromSecs secs.toNat := by
  obtain ⟨hvalid,secs,-,htimeout⟩ := loadFromEnv_valid h
  have hne : app.shutdownTimeout ≠ 0 := ((validate_ok app).mp hvalid).2.2
  refine ⟨secs,?_,htimeout⟩
  rw [htimeout,Duration.fromSecs] at hne
  rw [UInt64.lt_iff_toNat_lt]
  exact Nat.pos_of_ne_zero fun hzero => hne (by rw [hzero,Nat.zero_mul])

theorem loadFromEnv_eq {env : EnvVars} {nodeId : String} {secs : UInt64}
    (hnode : requiredEnv env "APP_NODE_ID" = .ok nodeId) (hsecs : shutdownTimeoutSecs env = .ok secs)
    (hvalid : validate ⟨(optionalEnv env "APP_NAME").getD "aurora-kvm-agent",.prod,nodeId,
      (optionalEnv env "APP_ZONE_ID").getD "",Duration.fromSecs secs.toNat⟩ = .ok ()) :
    loadFromEnv env = .ok ⟨(optionalEnv env "APP_NAME").getD "aurora-kvm-agent",.prod,nodeId,
      (optionalEnv env "APP_ZONE_ID").getD "",Duration.fromSecs secs.toNat⟩ := by
  unfold loadFromEnv
  simp only [hnode,hsecs,bind,Except.bind,hvalid]

def withTimeout (value : String) (h : NulFree value) : EnvVars where
  var key :=
    if key = "APP_NODE_ID" then .ok "node-1"
    else if key = "SHUTDOWN_TIMEOUT_SEC" then .ok value
    else .error (.msg "environment variable not found")
  nulFree key v hv := by
    split at hv
    · cases hv
      decide
    split at hv
    · cases hv
      exact h
    · cases hv

theorem toString_nulFree (n : ℕ) : NulFree (toString n) := by
  intro hmem
  rw [Nat.toString_eq_ofList_toDigits,String.toList_ofList] at hmem
  have hdigit := List.all_eq_true.mp (toDigits_all n) _ hmem
  exact absurd hdigit (by decide)

theorem toString_not_blank (secs : UInt64) : ¬Blank (toString secs.toNat) := by
  have htrim : trim (toString secs.toNat) = toString secs.toNat := by
    have hself := trim_toString (List.forall_mem_nil _) (List.forall_mem_nil _) secs.toNat
    rwa [List.nil_append,List.append_nil,← Nat.toString_eq_ofList_toDigits] at hself
  intro h
  have hparse := parseU64_toString secs.toNat_lt
  rw [htrim.symm.trans h] at hparse
  cases hparse

theorem loadFromEnv_withTimeout {v : String} {secs : UInt64} (hnul : NulFree v) (hblank : ¬Blank v)
    (hparse : parseU64 v = some secs) (hpos : 0 < secs) :
    loadFromEnv (withTimeout v hnul) =
      .ok ⟨"aurora-kvm-agent",.prod,"node-1","",Duration.fromSecs secs.toNat⟩ := by
  have hset : withTimeout v hnul "SHUTDOWN_TIMEOUT_SEC" = .ok v := rfl
  have hsecs : shutdownTimeoutSecs (withTimeout v hnul) = .ok secs := by
    simp only [shutdownTimeoutSecs,optionalEnv,hset,if_neg hblank,Option.getD_some,hparse]
  have hnode : requiredEnv (withTimeout v hnul) "APP_NODE_ID" = .ok "node-1" :=
    requiredEnv_ok.mpr ⟨rfl,by decide⟩
  have hname : optionalEnv (withTimeout v hnul) "APP_NAME" = none := rfl
  have hzone : optionalEnv (withTimeout v hnul) "APP_ZONE_ID" = none := rfl
  have hdefault : ¬Blank "aurora-kvm-agent" := by decide
  have hid : ¬Blank "node-1" := by decide
  have hne : Duration.fromSecs secs.toNat ≠ 0 :=
    Nat.mul_ne_zero (UInt64.lt_iff_toNat_lt.mp hpos).ne' (by decide)
  have hvalid := (validate_ok ⟨"aurora-kvm-agent",.prod,"node-1","",Duration.fromSecs secs.toNat⟩).mpr
    ⟨hdefault,hid,hne⟩
  have hload := loadFromEnv_eq hnode hsecs
  rw [hname,hzone] at hload
  exact hload hvalid

/-- The timeouts that `load_from_env` accepts are the positive 64-bit numbers of seconds. -/
theorem timeout_accepted_iff (t : Duration) :
    (∃ env app, loadFromEnv env = .ok app ∧ app.shutdownTimeout = t) ↔
      ∃ secs : UInt64, 0 < secs ∧ t = Duration.fromSecs secs.toNat := by
  constructor
  · rintro ⟨env,app,h,rfl⟩
    exact loadFromEnv_timeout h
  · rintro ⟨secs,hpos,rfl⟩
    have hparse : parseU64 (toString secs.toNat) = some secs := by
      rw [parseU64_toString secs.toNat_lt,UInt64.ofNat_toNat]
    exact ⟨_,_,loadFromEnv_withTimeout (toString_nulFree _) (toString_not_blank secs) hparse hpos,rfl⟩

end AppSection
end KvmAgent
