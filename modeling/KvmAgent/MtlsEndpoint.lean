import KvmAgent.Bootstrap
import KvmAgent.Trace

/-! The endpoints `normalize_mtls_endpoint` makes of addresses, and the connections the agent
makes to them. -/
namespace KvmAgent
namespace MtlsEndpoint

open RustText Fallible Machine Bootstrap

/-- An address without one of the schemes the normaliser knows. -/
def Schemeless (addr : String) : Prop :=
  startsWith "http://" addr = false ∧ startsWith "https://" addr = false

section Trimming

def Tight (l : List Char) : Prop := l.rdropWhile isWhitespace = l

theorem tight_iff {l : List Char} :
    Tight l ↔ ∀ h : l ≠ [], isWhitespace (l.getLast h) = false := by
  simp [Tight,List.rdropWhile_eq_self_iff]

theorem tight_trim (s : String) : Tight (trim s).toList := by
  rw [Tight,trim,String.toList_ofList,trimChars,List.rdropWhile_idempotent]

theorem tight_suffix {l r : List Char} (hl : Tight l) (hr : r <:+ l) : Tight r := by
  obtain ⟨pre,rfl⟩ := hr
  rw [tight_iff] at hl ⊢
  intro h
  have hlast := hl (List.append_ne_nil_of_right_ne_nil pre h)
  rwa [List.getLast_append_right h] at hlast

theorem trimmed_append {pre s : String} (hpre : pre ≠ "")
    (hgraphic : ∀ c ∈ pre.toList, isWhitespace c = false) (hs : Tight s.toList) :
    Trimmed (pre ++ s) := by
  have hnil : pre.toList ≠ [] := by simpa using hpre
  have hdrop : (pre ++ s).toList.dropWhile isWhitespace = (pre ++ s).toList := by
    rw [String.toList_append]
    cases hchars : pre.toList with
    | nil => exact absurd hchars hnil
    | cons c cs =>
      have hc : isWhitespace c = false := hgraphic c (by simp [hchars])
      simp [hc]
  have htight : Tight (pre ++ s).toList := by
    rw [tight_iff] at hs ⊢
    intro h
    by_cases hempty : s.toList = []
    · simpa [hempty] using hgraphic _ (List.getLast_mem hnil)
    · simpa only [String.toList_append,List.getLast_append_right hempty] using hs hempty
  rw [Trimmed,trim,trimChars,hdrop,htight,String.ofList_toList]

theorem stripPrefixes_suffix (pre : List Char) (n : ℕ) (l : List Char) :
    stripPrefixes pre n l <:+ l := by
  induction n generalizing l with
  | zero => exact List.suffix_refl l
  | succ n ih =>
    rw [stripPrefixes]
    split
    · exact (ih _).trans (List.drop_suffix _ _)
    · exact List.suffix_refl l

end Trimming

section Laws

variable {addr : String}

theorem trimmed_https {s : String} (hs : Tight s.toList) : Trimmed ("https://" ++ s) :=
  trimmed_append (by decide) (by simp [isWhitespace]) hs

theorem trimmed_http {s : String} (hs : Tight s.toList) : Trimmed ("http://" ++ s) :=
  trimmed_append (by decide) (by simp [isWhitespace]) hs

theorem normalize_startsWith (addr : String) :
    startsWith "https://" (normalizeMtlsEndpoint addr) = true := by
  unfold normalizeMtlsEndpoint
  dsimp only
  split
  · assumption
  · split <;> exact startsWith_append _ _

theorem normalize_trimmed (addr : String) : Trimmed (normalizeMtlsEndpoint addr) := by
  unfold normalizeMtlsEndpoint
  dsimp only
  split
  · exact trimmed_trim addr
  · split
    · refine trimmed_https (tight_suffix (tight_trim addr) ?_)
      rw [trimStartMatches,String.toList_ofList]
      exact stripPrefixes_suffix _ _ _
    · exact trimmed_https (tight_trim addr)

theorem normalize_self (htrim : Trimmed addr) (htls : startsWith "https://" addr = true) :
    normalizeMtlsEndpoint addr = addr := by
  have htrim : trim addr = addr := htrim
  rw [normalizeMtlsEndpoint,htrim,if_pos htls]

theorem endpoint_idem (addr : String) :
    normalizeMtlsEndpoint (normalizeMtlsEndpoint addr) = normalizeMtlsEndpoint addr :=
  normalize_self (normalize_trimmed addr) (normalize_startsWith addr)

theorem tight_of_trimmed (h : Trimmed addr) : Tight addr.toList := by
  have htight := tight_trim addr
  rwa [show trim addr = addr from h] at htight

theorem normalize_schemeless (htrim : Trimmed addr) (hnone : Schemeless addr) :
    normalizeMtlsEndpoint addr = "https://" ++ addr := by
  have htrim : trim addr = addr := htrim
  rw [normalizeMtlsEndpoint,htrim,if_neg (by simp [hnone.2]),if_neg (by simp [hnone.1])]

theorem normalize_http (htrim : Trimmed addr) (hnone : Schemeless addr) :
    normalizeMtlsEndpoint ("http://" ++ addr) = "https://" ++ addr := by
  have htrim : trim ("http://" ++ addr) = "http://" ++ addr := trimmed_http (tight_of_trimmed htrim)
  rw [normalizeMtlsEndpoint,htrim,if_neg (by simp [not_https_prefixed]),
    if_pos (startsWith_append _ _),trimStartMatches_append (by decide) hnone.1]

theorem normalize_https (htrim : Trimmed addr) :
    normalizeMtlsEndpoint ("https://" ++ addr) = "https://" ++ addr :=
  normalize_self (trimmed_https (tight_of_trimmed htrim)) (startsWith_append _ _)

end Laws

end MtlsEndpoint
end KvmAgent
