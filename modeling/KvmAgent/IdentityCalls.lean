import KvmAgent.HostWorld

/-! What the calls of the identity store leave behind on the machine, at every point at
which they may stop. -/
namespace KvmAgent
namespace IdentityCalls

open RustText Fallible Machine IdentityStore Bootstrap Host

variable {ssl : OpenSsl} {store : IdentityStore}

section

variable {C σ α : Type} {hd : Handler MachineAns C σ} {I : σ → Prop}
  {Q : Except AnyhowError α → σ → Prop} {h : σ}

theorem always_orFail {ε : Type} {p : Prog MachineAns (Except ε α)} {f : ε → AnyhowError} :
    (orFail p f).run.Always hd I Q h ↔
      p.Always hd I (fun r t => I t ∧ Q (r.mapError f) t) h := by
  rw [orFail_run,Prog.always_bind]
  rfl

theorem always_io {p : Prog MachineAns (Except IoError α)} {text : String} :
    (io p text).run.Always hd I Q h ↔
      p.Always hd I (fun r t => I t ∧ Q (r.mapError fun e => e.toError.context text) t) h :=
  always_orFail

theorem always_context {p : Machine α} {text : String}
    (hp : p.run.Always hd I (fun r t => I t ∧ Q (r.mapError (·.context text)) t) h) :
    (context p text).run.Always hd I Q h := by
  rw [context_run,Prog.always_bind]
  exact hp

theorem always_op {o : MachineOp} {R : MachineAns o → σ → Prop} (hh : I h)
    (hR : ∀ c x t, hd o c h = some (x,t) → I t ∧ R x t) :
    (Prog.op o).Always hd I R h :=
  ⟨hh,fun c x t hc => hR c x t hc⟩

end

theorem writeAll_step (p : Path) (n : ℕ) {bytes : Bytes} (hb : bytes ≠ []) :
    writeAll p (n+1) bytes = .call (.write p bytes) fun
      | .error e => .ret (.error e)
      | .ok 0 => .ret (.error ⟨false,"failed to write whole buffer"⟩)
      | .ok (k+1) => writeAll p n (bytes.drop (k+1)) := by
  cases bytes with
  | nil => exact absurd rfl hb
  | cons b bs =>
    simp only [writeAll,Prog.op_eq,Prog.call_bind,Prog.ret_bind,Prog.pure_eq]
    congr 1
    funext r
    rcases r with e | (_ | k) <;> rfl

section Uses

variable {P : MachineOp → Prop} {α : Type}

theorem uses_orFail {ε : Type} {p : Prog MachineAns (Except ε α)} {f : ε → AnyhowError}
    (hp : p.Uses P) : (orFail p f).run.Uses P :=
  Prog.uses_bind hp fun _ => .ret _

theorem writeAll_uses {p : Path} (hwrite : ∀ bytes, P (.write p bytes)) (n : ℕ) (bytes : Bytes) :
    (writeAll p n bytes).Uses P := by
  induction n generalizing bytes with
  | zero => exact .ret _
  | succ n ih =>
    by_cases hb : bytes = []
    · subst hb
      exact .ret _
    · rw [writeAll_step p n hb]
      refine .call (hwrite bytes) fun r => ?_
      rcases r with e | (_ | k)
      · exact .ret _
      · exact .ret _
      · exact ih _

structure Writes (P : MachineOp → Prop) (store : IdentityStore) (path : Path) : Prop where
  createDirAll : ∀ p, P (.createDirAll p)
  create : P (.create path.tmpPath)
  write : ∀ bytes, P (.write path.tmpPath bytes)
  setPermissions : P (.setPermissions path.tmpPath (modeFor store path))
  rename : P (.rename path.tmpPath path)

theorem writeFile_uses {path : Path} (hpath : Writes P store path) (content : Bytes) :
    (writeFile store path content).run.Uses P := by
  have hfsWrite : (fsWrite path.tmpPath content).Uses P := by
    refine Prog.uses_bind (Prog.uses_op hpath.create) fun r => ?_
    cases r with
    | error e => exact .ret _
    | ok _ => exact writeAll_uses hpath.write content.length content
  have hrest : (do
      io (fsWrite path.tmpPath content) ("write identity file " ++ path.tmpPath.display)
      io (Prog.op (MachineOp.setPermissions path.tmpPath (modeFor store path)))
        ("set identity file permissions " ++ path.tmpPath.display)
      io (Prog.op (MachineOp.rename path.tmpPath path))
        ("replace identity file " ++ path.display) : Machine Unit).run.Uses P :=
    uses_bind (uses_orFail hfsWrite) fun _ =>
      uses_bind (uses_orFail (Prog.uses_op hpath.setPermissions)) fun _ =>
        uses_orFail (Prog.uses_op hpath.rename)
  unfold writeFile
  cases path.parent with
  | none => exact hrest
  | some parent =>
    exact uses_bind (uses_orFail (Prog.uses_op (hpath.createDirAll parent))) fun _ => hrest

theorem ensurePrivateKey_uses (hread : P (.read store.keyPath)) (hkey : P .generateKey)
    (hpath : Writes P store store.keyPath) : (ensurePrivateKey store).run.Uses P := by
  have hnew : (newPrivateKey store).run.Uses P :=
    uses_bind (uses_orFail (Prog.uses_op hkey)) fun pem =>
      uses_bind (writeFile_uses hpath pem) fun _ => .ret _
  refine uses_bind (uses_ask hread) fun r => ?_
  cases r with
  | error e => exact hnew
  | ok existing =>
    dsimp only
    split
    · exact .ret _
    · exact hnew

end Uses

section Files

variable [Directories]

def identityPlaces (store : IdentityStore) : List Place := (identityPaths store).map Path.place

theorem writeAll_spec {p : Path} {h : Host} (n : ℕ) {t : Host} {acc bytes : Bytes} {mode : ℕ}
    (hn : bytes.length ≤ n) (ht : Scratch p.place h t) (hf : t.files p.place = some ⟨acc,mode⟩) :
    (writeAll p n bytes).Always (handler ssl store) (Scratch p.place h)
      (fun r u => r = .ok () → u.files p.place = some ⟨acc ++ bytes,mode⟩) t := by
  induction n generalizing t acc bytes with
  | zero =>
    obtain rfl : bytes = [] := List.eq_nil_of_length_eq_zero (by omega)
    exact ⟨ht,fun _ => by simpa using hf⟩
  | succ n ih =>
    by_cases hb : bytes = []
    · subst hb
      exact ⟨ht,fun _ => by simpa using hf⟩
    · rw [writeAll_step p n hb]
      refine ⟨ht,fun c x u hc => ?_⟩
      obtain ⟨hscratch,hok⟩ := write_cases hc
      have hu := ht.trans hscratch
      rcases x with e | (_ | k)
      · exact ⟨hu,by simp⟩
      · exact ⟨hu,by simp⟩
      · obtain ⟨hlen,happ⟩ := hok (k+1) rfl
        have hshorter : (bytes.drop (k+1)).length ≤ n := by
          simp
          omega
        have hnext := ih hshorter hu (happ _ hf)
        simpa using hnext

theorem fsWrite_spec {p : Path} {h t : Host} (content : Bytes) (ht : Scratch p.place h t) :
    (fsWrite p content).Always (handler ssl store) (Scratch p.place h)
      (fun r u => r = .ok () → ∃ mode, u.files p.place = some ⟨content,mode⟩) t := by
  refine ⟨ht,fun c x u hc => ?_⟩
  obtain ⟨hscratch,hok⟩ := create_cases hc
  have hu := ht.trans hscratch
  cases x with
  | error e => exact ⟨hu,by simp⟩
  | ok _ =>
    obtain ⟨mode,hf⟩ := hok rfl
    refine (writeAll_spec content.length le_rfl hu hf).mono (fun _ hv => hv) ?_
    intro r v _ hv hr
    exact ⟨mode,by simpa using hv hr⟩

/-- `t` is reached from `m`, where the temporary file is complete, by the rename. -/
structure Installed (store : IdentityStore) (ssl : OpenSsl) (path : Path) (content : Bytes)
    (h t : Host) : Prop where
  named : path.place.Named
  files : ∀ q, q ≠ path.tmpPath.place →
    t.files q = Function.update h.files path.place (some ⟨content,modeFor store path⟩) q
  umask : t.umask = h.umask
  clock : h.clock ≤ t.clock
  rekeyed : ∃ m, Scratch path.tmpPath.place h m ∧ m.clock ≤ t.clock ∧
    t.rekeyed = (m.rekeyed || (decide (path.place = store.keyPath.place) && m.stands ssl store))

theorem installed_rename (ssl : OpenSsl) {path : Path} {content : Bytes} {h m : Host} (elapsed : ℕ)
    (hpath : path.place.Named) (hm : Scratch path.tmpPath.place h m)
    (hf : m.files path.tmpPath.place = some ⟨content,modeFor store path⟩) :
    Installed store ssl path content h { m.pass elapsed with
      files := m.files.rename path.tmpPath.place path.place
      rekeyed := m.rekeyed ||
        (decide (path.place = store.keyPath.place) && (m.pass elapsed).stands ssl store) } where
  named := hpath
  files q hq := by
    by_cases hp : q = path.place
    · subst hp
      simp [Files.rename,hf]
    · simp [Files.rename,hp,hq,hm.files q hq]
  umask := hm.umask
  clock := hm.clock.trans (clock_le_pass m elapsed)
  rekeyed := ⟨m.pass elapsed,hm.trans ((later_pass m elapsed).scratch _),le_rfl,rfl⟩

/-- The proof rule of `write_file`: up to the rename only its temporary file differs, which is
complete when the permissions are set. -/
theorem writeFile_rule {hd : Handler MachineAns HostChoice Host} {I : Host → Prop}
    {Q : Except AnyhowError Unit → Host → Prop} (path : Path) (content : Bytes) {h : Host}
    (machine : ∀ o c s x t, hd o c s = some (x,t) → handler ssl store o c s = some (x,t))
    (scratch : ∀ t, Scratch path.tmpPath.place h t → I t)
    (failed : ∀ e t, Scratch path.tmpPath.place h t → Q (.error e) t)
    (done : ∀ u v t c d,
      hd (.setPermissions path.tmpPath (modeFor store path)) c u = some (.ok (),v) →
      hd (.rename path.tmpPath path) d v = some (.ok (),t) → Scratch path.tmpPath.place h v →
      v.files path.tmpPath.place = some ⟨content,modeFor store path⟩ → I t ∧ Q (.ok ()) t) :
    (writeFile store path content).run.Always hd I Q h := by
  have hrest (t : Host) (ht : Scratch path.tmpPath.place h t) :
      (do
        io (fsWrite path.tmpPath content) ("write identity file " ++ path.tmpPath.display)
        io (Prog.op (MachineOp.setPermissions path.tmpPath (modeFor store path)))
          ("set identity file permissions " ++ path.tmpPath.display)
        io (Prog.op (MachineOp.rename path.tmpPath path))
          ("replace identity file " ++ path.display) : Machine Unit).run.Always hd I Q t := by
    have hwrite : (fsWrite path.tmpPath content).Always hd (Scratch path.tmpPath.place h)
        (fun r u => r = .ok () → ∃ mode, u.files path.tmpPath.place = some ⟨content,mode⟩) t :=
      (fsWrite_spec content ht).restrict fun o c s x u hc => ⟨c,machine o c s x u hc⟩
    rw [always_bind,always_io]
    refine hwrite.mono scratch ?_
    intro r u hu hok
    refine ⟨scratch u hu,?_⟩
    cases r with
    | error e => exact ⟨scratch u hu,failed _ u hu⟩
    | ok _ =>
      obtain ⟨mode,hf⟩ := hok rfl
      show Prog.Always _ _ _ _ _
      rw [always_bind,always_io]
      refine always_op (o := .setPermissions ..) (scratch u hu) fun c x v hc => ?_
      obtain ⟨hscratch,hset⟩ := setPermissions_cases (machine _ _ _ _ _ hc)
      have hv := hu.trans hscratch
      refine ⟨scratch v hv,scratch v hv,?_⟩
      cases x with
      | error e => exact ⟨scratch v hv,failed _ v hv⟩
      | ok _ =>
        show Prog.Always _ _ _ _ _
        rw [always_io]
        refine always_op (o := .rename ..) (scratch v hv) fun d x y hd => ?_
        rcases rename_cases (machine _ _ _ _ _ hd) with ⟨hx,hlater⟩ | ⟨rfl,-,-⟩
        · have hy := hv.trans (hlater.scratch _)
          cases x with
          | error e => exact ⟨scratch y hy,scratch y hy,failed _ y hy⟩
          | ok _ => exact absurd rfl hx
        · obtain ⟨hI,hQ⟩ := done u v y c d hc hd hv (hset rfl _ hf)
          exact ⟨hI,hI,hQ⟩
  unfold writeFile
  cases path.parent with
  | none =>
    exact hrest h (Scratch.refl _ h)
  | some parent =>
    rw [always_bind,always_io]
    refine always_op (o := .createDirAll parent) (scratch h (Scratch.refl _ h)) fun c x t hc => ?_
    have ht := (createDirAll_later (machine _ _ _ _ _ hc)).scratch path.tmpPath.place
    refine ⟨scratch t ht,scratch t ht,?_⟩
    cases x with
    | error e => exact ⟨scratch t ht,failed _ t ht⟩
    | ok _ => exact hrest t ht

theorem writeFile_spec (path : Path) (content : Bytes) (h : Host) :
    (writeFile store path content).run.Always (handler ssl store)
      (fun t => Scratch path.tmpPath.place h t ∨ Installed store ssl path content h t)
      (fun r t => (r = .ok () ∧ Installed store ssl path content h t) ∨
        ((∃ e, r = .error e) ∧ Scratch path.tmpPath.place h t)) h := by
  refine writeFile_rule path content (fun _ _ _ _ _ hc => hc) (fun _ ht => .inl ht)
    (fun e _ ht => .inr ⟨⟨e,rfl⟩,ht⟩) fun u v t c d _ hd hv hf => ?_
  rcases rename_cases hd with ⟨hx,-⟩ | ⟨-,hpath,rfl⟩
  · exact absurd rfl hx
  · have ht := installed_rename ssl d.elapsed hpath hv hf
    exact ⟨.inr ht,.inl ⟨rfl,ht⟩⟩

end Files
end IdentityCalls
end KvmAgent
