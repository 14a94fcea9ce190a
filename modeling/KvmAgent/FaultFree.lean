import KvmAgent.IdentityKeys
import KvmAgent.IdentitySaves

/-! Machines on which nothing fails: there the calls of the identity store return, and
succeed. -/
namespace KvmAgent
namespace FaultFree

open RustText Fallible Machine IdentityStore Host IdentityCalls IdentitySaves

/-- The choice of an environment in which nothing fails and no time passes. -/
def quiet : HostChoice := { key := .ok [1] }

/-- On the quiet choice `hd` answers as the machine does on `c`, where no file operation
fails, is cut or takes time. -/
structure Quiet [Directories] (store : IdentityStore) (hd : Handler MachineAns HostChoice Host)
    (c : HostChoice) : Prop where
  acts : ∀ o h, hd o quiet h = handler blindSsl store o c h
  fault : c.fault = none
  portion : c.portion = none
  elapsed : c.elapsed = 0

theorem pass_zero (h : Host) : h.pass 0 = h := by
  simp [Host.pass]

section Returns

variable {hd : Handler MachineAns HostChoice Host} {h : Host} {α : Type} {n : ℕ} {good : HostChoice → Prop} {Q : Except AnyhowError α → Host → Prop}

theorem returns_run {p : Prog MachineAns α} {R : α → Host → Prop}
    (hp : p.Returns hd (· = quiet) R n h) :
    ∃ a, (p.run hd (List.replicate n quiet) h).1 = some a ∧
      R a (p.run hd (List.replicate n quiet) h).2 :=
  hp.run (by simp) (by simp)

theorem returns_op {o : MachineOp} {x : MachineAns o} {t : Host} {R : MachineAns o → Host → Prop}
    (ho : hd o quiet h = some (x,t)) (hR : R x t) :
    (Prog.op o).Returns hd (· = quiet) R 1 h := by
  rintro _ rfl
  exact ⟨x,t,ho,hR⟩

theorem returns_orFail {ε : Type} {p : Prog MachineAns (Except ε α)} {f : ε → AnyhowError}
    (hp : p.Returns hd good (fun r t => ∃ a, r = .ok a ∧ Q (.ok a) t) n h) :
    (orFail p f).run.Returns hd good Q n h := by
  rw [orFail_run]
  refine Prog.returns_bind (n := n) (m := 0) (hp.mono le_rfl ?_)
  rintro _ t ⟨a,rfl,ha⟩
  exact ha

theorem returns_context {p : Machine α} {text : String}
    (hp : p.run.Returns hd good (fun r t => ∃ a, r = .ok a ∧ Q (.ok a) t) n h) :
    (context p text).run.Returns hd good Q n h := by
  rw [context_run]
  refine Prog.returns_bind (n := n) (m := 0) (hp.mono le_rfl ?_)
  rintro _ t ⟨a,rfl,ha⟩
  exact ha

end Returns

section Calls

variable [Directories] {store : IdentityStore} {hd : Handler MachineAns HostChoice Host}
  {c : HostChoice} {h : Host} {p q : Path}

namespace Quiet

variable (works : Quiet store hd c)
include works

theorem read {f : File} (hf : fileAt h.files p = .ok f) :
    hd (.read p) quiet h = some (.ok f.content,h) := by
  simp [works.acts,handler,perform,fileOp,works.fault,works.elapsed,pass_zero,hf,Bind.bind,
    Except.bind]

theorem read_answers (p : Path) (h : Host) : ∃ r, hd (.read p) quiet h = some (r,h) := by
  cases hf : fileAt h.files p with
  | ok f => exact ⟨_,works.read hf⟩
  | error e =>
    exact ⟨.error e,by
      simp [works.acts,handler,perform,fileOp,works.fault,works.elapsed,pass_zero,hf,Bind.bind,
        Except.bind]⟩

theorem createDirAll (p : Path) (h : Host) : hd (.createDirAll p) quiet h = some (.ok (),h) := by
  simp [works.acts,handler,perform,fileOp,works.fault,works.elapsed,pass_zero]

theorem create (hp : p.place.Named) (h : Host) :
    hd (.create p) quiet h = some (.ok (),{ h with files := h.files.create h.umask p.place }) := by
  simp [works.acts,handler,perform,fileOp,asFile,works.fault,works.elapsed,pass_zero,hp,Except.map]

theorem write (hp : p.place.Named) (hf : h.files p.place ≠ none) (bytes : Bytes) :
    hd (.write p bytes) quiet h =
      some (.ok bytes.length,{ h with files := h.files.append p.place bytes }) := by
  obtain ⟨f,hf⟩ := exists_fileAt hp hf
  simp [works.acts,handler,perform,fileOp,works.fault,works.portion,works.elapsed,pass_zero,hf,
    Bind.bind,Except.bind]

theorem setPermissions (hp : p.place.Named) (hf : h.files p.place ≠ none) (mode : ℕ) :
    hd (.setPermissions p mode) quiet h =
      some (.ok (),{ h with files := h.files.setMode p.place mode }) := by
  obtain ⟨f,hf⟩ := exists_fileAt hp hf
  simp [works.acts,handler,perform,fileOp,works.fault,works.elapsed,pass_zero,hf,Bind.bind,
    Except.bind]

theorem rename (hp : p.place.Named) (hf : h.files p.place ≠ none) (hq : q.place.Named) :
    ∃ t, hd (.rename p q) quiet h = some (.ok (),t) := by
  obtain ⟨f,hf⟩ := exists_fileAt hp hf
  simp [works.acts,handler,perform,fileOp,asFile,works.fault,works.elapsed,pass_zero,hf,hq,
    Bind.bind,Except.bind,Except.map]

theorem asn1Now (h : Host) : hd .asn1Now quiet h = some (some h.clock,h) := by
  simp [works.acts,handler,perform,works.fault,works.elapsed,pass_zero]

end Quiet

section Writing

variable (works : Quiet store hd c)
include works

theorem writeAll_returns {content : Bytes} (hp : p.place.Named) (hf : h.files p.place ≠ none) :
    (writeAll p content.length content).Returns hd (· = quiet)
      (fun r t => r = .ok () ∧ t.files p.place ≠ none) 1 h := by
  cases content with
  | nil => exact ⟨rfl,hf⟩
  | cons b bs =>
    rw [List.length_cons,writeAll_step p bs.length (List.cons_ne_nil b bs)]
    rintro _ rfl
    refine ⟨.ok (bs.length + 1),_,works.write hp hf (b::bs),?_⟩
    have hdone (n : ℕ) : writeAll p n [] = .ret (.ok ()) := by cases n <;> rfl
    have hdrop : (b::bs).drop (bs.length + 1) = [] := by simp
    simp only [hdrop,hdone]
    exact ⟨rfl,by simpa [Files.append] using hf⟩

theorem fsWrite_returns (hp : p.place.Named) (content : Bytes) (h : Host) :
    (fsWrite p content).Returns hd (· = quiet)
      (fun r t => r = .ok () ∧ t.files p.place ≠ none) 2 h := by
  rintro _ rfl
  exact ⟨_,_,works.create hp h,writeAll_returns works hp (by simp [Files.create])⟩

theorem writeFile_returns {path : Path} (hpath : path.place.Named)
    (htmp : path.tmpPath.place.Named) (content : Bytes) (h : Host) :
    (writeFile store path content).run.Returns hd (· = quiet) (fun r _ => r = .ok ()) 5 h := by
  have hrest (h : Host) : (do
      io (fsWrite path.tmpPath content) ("write identity file " ++ path.tmpPath.display)
      io (Prog.op (MachineOp.setPermissions path.tmpPath (modeFor store path)))
        ("set identity file permissions " ++ path.tmpPath.display)
      io (Prog.op (MachineOp.rename path.tmpPath path))
        ("replace identity file " ++ path.display) : Machine Unit).run.Returns hd (· = quiet)
      (fun r _ => r = .ok ()) 4 h := by
    refine returns_next (n := 2) (m := 2) (returns_orFail
      ((fsWrite_returns works htmp content h).mono le_rfl ?_))
    rintro _ t ⟨rfl,ht⟩
    refine ⟨(),rfl,(),rfl,returns_next (n := 1) (m := 1) (returns_orFail
      (returns_op (works.setPermissions htmp ht _) ⟨(),rfl,(),rfl,returns_orFail ?_⟩))⟩
    obtain ⟨u,hu⟩ := works.rename (p := path.tmpPath) (q := path)
      (h := { t with files := t.files.setMode path.tmpPath.place (modeFor store path) })
      htmp (by simpa [Files.setMode] using ht) hpath
    exact returns_op hu ⟨(),rfl,rfl⟩
  unfold writeFile
  cases path.parent with
  | none => exact (hrest h).mono (by omega) fun _ _ hr => hr
  | some parent =>
    exact returns_next (n := 1) (m := 4) (returns_orFail
      (returns_op (works.createDirAll parent h) ⟨(),rfl,(),rfl,hrest h⟩))

end Writing

section Loading

attribute [local irreducible] trim

variable (works : Quiet store hd c)
include works

theorem loadTarget_returns (h : Host) :
    (loadRuntimeTargetAddr store).run.Returns hd (· = quiet) (fun _ t => t = h) 1 h := by
  obtain ⟨r,hr⟩ := works.read_answers store.runtimeTargetStatePath h
  unfold loadRuntimeTargetAddr
  rw [ask_bind_run]
  rintro _ rfl
  refine ⟨r,h,hr,?_⟩
  cases r with
  | error e =>
    dsimp only
    split <;> rfl
  | ok bytes =>
    dsimp only
    split
    · split <;> rfl
    · rfl

theorem loadIdentity_returns (ssl : OpenSsl) {certFile keyFile caFile : File}
    (cert : fileAt h.files store.certPath = .ok certFile)
    (key : fileAt h.files store.keyPath = .ok keyFile)
    (ca : fileAt h.files store.caPath = .ok caFile) :
    (loadIdentity ssl store).run.Returns hd (· = quiet) (fun r t => t = h ∧
      ∃ state, r = .ok state ∧ state.clientCertPem = certFile.content ∧
        state.clientKeyPem = keyFile.content ∧ state.caBundlePem = caFile.content) 4 h := by
  refine returns_next (n := 1) (m := 3) (returns_orFail (returns_op (works.read cert) ⟨_,rfl,_,rfl,?_⟩))
  refine returns_next (n := 1) (m := 2) (returns_orFail (returns_op (works.read key) ⟨_,rfl,_,rfl,?_⟩))
  refine returns_next (n := 1) (m := 1) (returns_orFail (returns_op (works.read ca) ⟨_,rfl,_,rfl,?_⟩))
  refine returns_next (n := 1) (m := 0) ?_
  rw [inspect_run]
  refine Prog.returns_bind (n := 1) (m := 0) ((loadTarget_returns works h).mono le_rfl ?_)
  rintro target _ rfl
  exact ⟨target,rfl,rfl,_,rfl,rfl,rfl,rfl⟩

theorem hasUsable_returns {ssl : OpenSsl} (stands : h.stands ssl store = true)
    (key : h.files.contentAt store.keyPath ≠ []) :
    (hasUsableClientCertificate ssl store).Returns hd (· = quiet) (fun b _ => b = true) 5 h := by
  obtain ⟨cert,hparse,hcert,hlive,hca⟩ := IdentityKeys.stands_iff.mp stands
  obtain ⟨hcertNamed,certFile,hcertFile,hcertContent⟩ := Files.contentAt_ne_nil hcert
  obtain ⟨hkeyNamed,keyFile,hkeyFile,hkeyContent⟩ := Files.contentAt_ne_nil key
  obtain ⟨hcaNamed,caFile,hcaFile,hcaContent⟩ := Files.contentAt_ne_nil hca
  refine Prog.returns_bind (n := 4) (m := 1)
    ((loadIdentity_returns works ssl (fileAt_ok.mpr ⟨hcertNamed,hcertFile⟩)
      (fileAt_ok.mpr ⟨hkeyNamed,hkeyFile⟩) (fileAt_ok.mpr ⟨hcaNamed,hcaFile⟩)).mono le_rfl ?_)
  rintro _ _ ⟨rfl,state,rfl,hstateCert,hstateKey,hstateCa⟩
  have hne : ¬(state.clientCertPem = [] ∨ state.clientKeyPem = [] ∨ state.caBundlePem = []) := by
    rw [hstateCert,hstateKey,hstateCa,hcertContent,hkeyContent,hcaContent]
    exact not_or.mpr ⟨hcert,not_or.mpr ⟨key,hca⟩⟩
  have hstate : ssl.certificate state.clientCertPem = some cert := by
    rw [hstateCert,hcertContent]
    exact hparse
  show (usable ssl state).Returns hd (· = quiet) (fun b _ => b = true) 1 _
  unfold usable
  rw [if_neg hne]
  simp only [hstate]
  exact returns_op (works.asn1Now _) (decide_eq_true hlive)

end Loading

end Calls
end FaultFree
end KvmAgent
