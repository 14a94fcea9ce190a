import KvmAgent.Bootstrap

/-! The machine below the identity store: its files, its clock and the controlplane that
issues certificates; what one operation may do to them and what happens between calls. -/
namespace KvmAgent

/-- What the environment decides at one operation. -/
structure HostChoice where
  fault : Option IoError := none
  /-- The number of bytes a `write` takes at most. -/
  portion : Option ℕ := none
  elapsed : ℕ := 0
  key : Except (KeyStep × AnyhowError) Bytes := .ok []
  csr : Except (CsrStep × AnyhowError) String := .ok ""
  endpoint : Except TransportError Unit := .ok ()
  channel : Except TransportError Unit := .ok ()
  enrolled : Except Status BootstrapEnrollAgentResponse := .error { code := .unavailable, text := "" }
  resolved : Except Status ResolveRuntimeAssignmentResponse := .error { code := .unavailable, text := "" }

/-- The machine. The clock never runs backwards; `rekeyed` records whether a key was ever
installed beside a standing certificate, and steers nothing. -/
structure Host where
  files : Files
  umask : ℕ
  clock : ℤ
  rekeyed : Bool := false

namespace Host

def pass (h : Host) (elapsed : ℕ) : Host := { h with clock := h.clock + elapsed }

section Machine

variable [Directories] (ssl : OpenSsl) (store : IdentityStore)

/-- The stored certificate has not expired and has a CA bundle beside it: together with
any private key it is taken for usable. -/
def stands (h : Host) : Bool :=
  match ssl.certificate (h.files.contentAt store.certPath) with
  | none => false
  | some cert => h.files.contentAt store.certPath ≠ [] ∧ h.clock < cert.notAfter ∧
      h.files.contentAt store.caPath ≠ []

def noSuchFile : IoError := ⟨true,"No such file or directory (os error 2)"⟩

def isDirectory : IoError := ⟨false,"Is a directory (os error 21)"⟩

/-- A file operation: it fails without effect, or answers `r`. -/
def fileOp {α : Type} (c : HostChoice) (h : Host) (r : Except IoError (α × Host)) :
    Option (Except IoError α × Host) :=
  match c.fault, r with
  | some e, _ => some (.error e,h)
  | none, .ok (a,t) => some (.ok a,t)
  | none, .error e => some (.error e,h)

/-- A path must lead to a file for the file to be created or replaced. -/
def asFile (p : Path) (files : Files) : Except IoError Files :=
  if p.place.Named then .ok files else .error isDirectory

def fileAt (files : Files) (p : Path) : Except IoError File :=
  if p.place.Named then (files p.place).elim (.error noSuchFile) .ok else .error isDirectory

/-- A request for a certificate is answered with one for the key that signed it. -/
def issuedFor (csrPem : String) (response : BootstrapEnrollAgentResponse) : Bool :=
  match ssl.certificate (asBytes response.clientCertPem) with
  | none => true
  | some cert => ssl.csrPublicKey csrPem = some cert.publicKey

def perform (c : HostChoice) (h : Host) : (op : MachineOp) → Option (MachineAns op × Host)
  | .createDirAll _ => fileOp c h (.ok ((),h))
  | .create p => fileOp c h
      ((asFile p (h.files.create h.umask p.place)).map fun files => ((),{ h with files := files }))
  | .write p bytes =>
    let taken := min (c.portion.getD bytes.length) bytes.length
    fileOp c h (fileAt h.files p >>= fun _ =>
      .ok (taken,{ h with files := h.files.append p.place (bytes.take taken) }))
  | .setPermissions p mode => fileOp c h (fileAt h.files p >>= fun _ =>
      .ok ((),{ h with files := h.files.setMode p.place mode }))
  | .rename p q => fileOp c h (fileAt h.files p >>= fun _ =>
      (asFile q (h.files.rename p.place q.place)).map fun files => ((),{ h with
        files := files
        rekeyed := h.rekeyed ||
          (decide (q.place = store.keyPath.place) && h.stands ssl store) }))
  | .read p => fileOp c h (fileAt h.files p >>= fun f => .ok (f.content,h))
  | .generateKey => some (c.key,h)
  | .generateCsr key _ =>
    match c.csr with
    | .error e => some (.error e,h)
    | .ok text => if ssl.csrPublicKey text = ssl.publicKey key then some (.ok text,h) else none
  | .asn1Now => some (if c.fault = none then some h.clock else none,h)
  | .endpoint _ => some (c.endpoint,h)
  | .connect .. => some (c.channel,h)
  | .bootstrapEnrollAgent request =>
    match c.enrolled with
    | .error s => some (.error s,h)
    | .ok response => if issuedFor ssl request.csrPem response then some (.ok response,h) else none
  | .resolveRuntimeAssignment _ => some (c.resolved,h)
  | .now => some (h.clock,h)
  | .panic => none

def handler : Handler MachineAns HostChoice Host := fun op c h =>
  perform ssl store c (h.pass c.elapsed) op

/-- What happens to the machine: a call of `ensure_identity`, whose choices may end
anywhere, a file that is removed or emptied, time that passes. -/
inductive Event
  | ensureIdentity (config : AppConfig) (facts : HostFacts) (choices : List HostChoice)
  | remove (p : Place)
  | clear (p : Place)
  | wait (elapsed : ℕ)

def step (h : Host) : Event → Host
  | .ensureIdentity config facts choices =>
    ((Bootstrap.ensureIdentity ssl store config facts).run.run (handler ssl store) choices h).2
  | .remove p => { h with files := Function.update h.files p none }
  | .clear p =>
    { h with files := Function.update h.files p ((h.files p).map fun f => { f with content := [] }) }
  | .wait elapsed => h.pass elapsed

def after (h : Host) (events : List Event) : Host := events.foldl (step ssl store) h

@[simp] theorem after_nil (h : Host) : after ssl store h [] = h := rfl

theorem after_invariant {Inv : Host → Prop} (hstep : ∀ h e, Inv h → Inv (step ssl store h e))
    {h : Host} (hh : Inv h) (events : List Event) : Inv (after ssl store h events) := by
  induction events generalizing h with
  | nil => exact hh
  | cons e es ih => exact ih (hstep h e hh)

end Machine

/-- `t` is `h` later, with other content at `p` at most. -/
structure Scratch (p : Place) (h t : Host) : Prop where
  files : ∀ q, q ≠ p → t.files q = h.files q
  umask : t.umask = h.umask
  clock : h.clock ≤ t.clock
  rekeyed : t.rekeyed = h.rekeyed

theorem Scratch.refl (p : Place) (h : Host) : Scratch p h h := ⟨fun _ _ => rfl,rfl,le_rfl,rfl⟩

theorem Scratch.trans {p : Place} {h m t : Host} (hm : Scratch p h m) (ht : Scratch p m t) :
    Scratch p h t :=
  ⟨fun q hq => (ht.files q hq).trans (hm.files q hq),ht.umask.trans hm.umask,
    hm.clock.trans ht.clock,ht.rekeyed.trans hm.rekeyed⟩

structure Later (h t : Host) : Prop where
  files : t.files = h.files
  umask : t.umask = h.umask
  clock : h.clock ≤ t.clock
  rekeyed : t.rekeyed = h.rekeyed

theorem Later.refl (h : Host) : Later h h := ⟨rfl,rfl,le_rfl,rfl⟩

theorem Later.trans {h m t : Host} (hm : Later h m) (ht : Later m t) : Later h t :=
  ⟨ht.files.trans hm.files,ht.umask.trans hm.umask,hm.clock.trans ht.clock,
    ht.rekeyed.trans hm.rekeyed⟩

theorem Later.scratch {h t : Host} (ht : Later h t) (p : Place) : Scratch p h t :=
  ⟨fun q _ => congrFun ht.files q,ht.umask,ht.clock,ht.rekeyed⟩

theorem clock_le_pass (h : Host) (elapsed : ℕ) : h.clock ≤ (h.pass elapsed).clock := by
  show h.clock ≤ h.clock + (elapsed : ℤ)
  omega

theorem later_pass (h : Host) (elapsed : ℕ) : Later h (h.pass elapsed) :=
  ⟨rfl,rfl,clock_le_pass h elapsed,rfl⟩

theorem fileOp_cases {α : Type} {c : HostChoice} {h t : Host} {r : Except IoError (α × Host)}
    {x : Except IoError α} (hc : fileOp c h r = some (x,t)) :
    (∃ e, x = .error e ∧ t = h) ∨ ∃ a, x = .ok a ∧ r = .ok (a,t) := by
  unfold fileOp at hc
  split at hc <;> cases hc
  · exact .inl ⟨_,rfl,rfl⟩
  · exact .inr ⟨_,rfl,rfl⟩
  · exact .inl ⟨_,rfl,rfl⟩

section Cases

variable [Directories] {ssl : OpenSsl} {store : IdentityStore} {c : HostChoice} {h t : Host}

theorem fileAt_ok {files : Files} {p : Path} {f : File} :
    fileAt files p = .ok f ↔ p.place.Named ∧ files p.place = some f := by
  unfold fileAt
  split
  · next hp => cases files p.place <;> simp [hp]
  · next hp => simp [hp]

theorem exists_fileAt {files : Files} {p : Path} (hp : p.place.Named) (hf : files p.place ≠ none) :
    ∃ f, fileAt files p = .ok f := by
  obtain ⟨f,hf⟩ := Option.ne_none_iff_exists'.mp hf
  exact ⟨f,fileAt_ok.mpr ⟨hp,hf⟩⟩

/-- An operation on the file behind a path succeeds only where there is one. -/
theorem ok_of_fileAt {α : Type} {files : Files} {p : Path} {g : File → Except IoError α} {a : α}
    (hr : fileAt files p >>= g = .ok a) :
    ∃ f, p.place.Named ∧ files p.place = some f ∧ g f = .ok a := by
  cases hf : fileAt files p with
  | error e =>
    rw [hf] at hr
    cases hr
  | ok f =>
    rw [hf] at hr
    exact ⟨f,(fileAt_ok.mp hf).1,(fileAt_ok.mp hf).2,hr⟩

theorem createDirAll_later {p : Path} {x : Except IoError Unit}
    (hc : handler ssl store (.createDirAll p) c h = some (x,t)) : Later h t := by
  rcases fileOp_cases hc with ⟨e,-,rfl⟩ | ⟨a,-,hr⟩
  · exact later_pass h c.elapsed
  · cases hr
    exact later_pass h c.elapsed

theorem create_cases {p : Path} {x : Except IoError Unit}
    (hc : handler ssl store (.create p) c h = some (x,t)) :
    Scratch p.place h t ∧ (x = .ok () → ∃ mode, t.files p.place = some ⟨[],mode⟩) := by
  rcases fileOp_cases hc with ⟨e,rfl,rfl⟩ | ⟨a,rfl,hr⟩
  · exact ⟨(later_pass h c.elapsed).scratch _,by simp⟩
  · unfold asFile at hr
    split at hr
    · cases hr
      exact ⟨⟨fun q hq => by simp [Files.create,pass,hq],rfl,clock_le_pass h c.elapsed,rfl⟩,
        fun _ => ⟨_,Function.update_self ..⟩⟩
    · cases hr

theorem write_cases {p : Path} {bytes : Bytes} {x : Except IoError ℕ}
    (hc : handler ssl store (.write p bytes) c h = some (x,t)) :
    Scratch p.place h t ∧ ∀ n, x = .ok n → n ≤ bytes.length ∧ ∀ f, h.files p.place = some f →
      t.files p.place = some { f with content := f.content ++ bytes.take n } := by
  rcases fileOp_cases hc with ⟨e,rfl,rfl⟩ | ⟨a,rfl,hr⟩
  · exact ⟨(later_pass h c.elapsed).scratch _,by simp⟩
  · obtain ⟨-,-,-,hr⟩ := ok_of_fileAt hr
    cases hr
    refine ⟨⟨fun q hq => by simp [Files.append,pass,hq],rfl,clock_le_pass h c.elapsed,rfl⟩,?_⟩
    rintro n hn
    cases hn
    exact ⟨min_le_right _ _,fun f hf => by simp [Files.append,pass,hf]⟩

theorem setPermissions_cases {p : Path} {mode : ℕ} {x : Except IoError Unit}
    (hc : handler ssl store (.setPermissions p mode) c h = some (x,t)) :
    Scratch p.place h t ∧ (x = .ok () → ∀ f, h.files p.place = some f →
      t.files p.place = some { f with mode := mode }) := by
  rcases fileOp_cases hc with ⟨e,rfl,rfl⟩ | ⟨a,rfl,hr⟩
  · exact ⟨(later_pass h c.elapsed).scratch _,by simp⟩
  · obtain ⟨-,-,-,hr⟩ := ok_of_fileAt hr
    cases hr
    exact ⟨⟨fun q hq => by simp [Files.setMode,pass,hq],rfl,clock_le_pass h c.elapsed,rfl⟩,
      fun _ f hf => by simp [Files.setMode,pass,hf]⟩

theorem read_cases {p : Path} {x : Except IoError Bytes}
    (hc : handler ssl store (.read p) c h = some (x,t)) :
    Later h t ∧ ∀ bytes, x = .ok bytes → h.files.contentAt p = bytes := by
  rcases fileOp_cases hc with ⟨e,rfl,rfl⟩ | ⟨a,rfl,hr⟩
  · exact ⟨later_pass h c.elapsed,by simp⟩
  · obtain ⟨f,hp,hf,hr⟩ := ok_of_fileAt hr
    cases hr
    refine ⟨later_pass h c.elapsed,?_⟩
    rintro bytes hb
    cases hb
    exact Files.contentAt_some hp hf

/-- A rename that succeeds moves the file, and is a rekeying when it installs a private
key beside a standing certificate. -/
theorem rename_cases {p q : Path} {x : Except IoError Unit}
    (hc : handler ssl store (.rename p q) c h = some (x,t)) :
    (x ≠ .ok () ∧ Later h t) ∨
    (x = .ok () ∧ q.place.Named ∧ t = { h.pass c.elapsed with
      files := h.files.rename p.place q.place
      rekeyed := h.rekeyed || (decide (q.place = store.keyPath.place) &&
        (h.pass c.elapsed).stands ssl store) }) := by
  rcases fileOp_cases hc with ⟨e,rfl,rfl⟩ | ⟨a,rfl,hr⟩
  · exact .inl ⟨by simp,later_pass h c.elapsed⟩
  · obtain ⟨-,-,-,hr⟩ := ok_of_fileAt hr
    unfold asFile at hr
    split at hr
    · next hq =>
      cases hr
      exact .inr ⟨rfl,hq,rfl⟩
    · cases hr

theorem generateCsr_cases {key : Bytes} {commonName : String}
    {x : Except (CsrStep × AnyhowError) String}
    (hc : handler ssl store (.generateCsr key commonName) c h = some (x,t)) :
    Later h t ∧ ∀ text, x = .ok text → ssl.csrPublicKey text = ssl.publicKey key := by
  simp only [handler,perform] at hc
  split at hc
  · cases hc
    exact ⟨later_pass h c.elapsed,by simp⟩
  · next text _ =>
    split at hc
    · cases hc
      refine ⟨later_pass h c.elapsed,?_⟩
      rintro _ ht
      cases ht
      assumption
    · cases hc

theorem enroll_cases {request : BootstrapEnrollAgentRequest}
    {x : Except Status BootstrapEnrollAgentResponse}
    (hc : handler ssl store (.bootstrapEnrollAgent request) c h = some (x,t)) :
    Later h t ∧ ∀ response, x = .ok response →
      ∀ cert, ssl.certificate (asBytes response.clientCertPem) = some cert →
        ssl.csrPublicKey request.csrPem = some cert.publicKey := by
  simp only [handler,perform] at hc
  split at hc
  · cases hc
    exact ⟨later_pass h c.elapsed,by simp⟩
  · next response _ =>
    split at hc
    · next hissued =>
      cases hc
      refine ⟨later_pass h c.elapsed,?_⟩
      rintro _ hr cert hcert
      cases hr
      simpa [issuedFor,hcert] using hissued
    · cases hc

theorem asn1Now_cases {x : Option ℤ} (hc : handler ssl store .asn1Now c h = some (x,t)) :
    Later h t ∧ ∀ now, x = some now → now = t.clock := by
  simp only [handler,perform,Option.some.injEq] at hc
  cases hc
  refine ⟨later_pass h c.elapsed,?_⟩
  intro now hn
  split at hn <;> cases hn
  rfl

end Cases
end Host
end KvmAgent
