import KvmAgent.FileSystem

/-! Files replaced one after another, each through its temporary file: which files they leave
alone, and where they find room. -/
namespace KvmAgent
namespace Replacement

/-- The second place is a directory on the way to the first. -/
def Below (p q : Place) : Prop := p ≠ q ∧ q <:+ p

instance (p q : Place) : Decidable (Below p q) := inferInstanceAs (Decidable (_ ∧ _))

def Room (dirs present : List Place) : Prop :=
  ∀ p ∈ present, p.Named ∧ (∀ d ∈ dirs, ¬p <:+ d) ∧ ∀ q ∈ present, ¬Below p q

instance (dirs present : List Place) : Decidable (Room dirs present) :=
  inferInstanceAs (Decidable (∀ p ∈ present, _))

section Rooms

variable {files : Files} {dirs present : List Place}

end Rooms

variable [Directories]

/-- Replacing the files at `ps` neither replaces `p` nor takes it for a temporary file. -/
def Untouched (ps : List Path) (p : Place) : Prop := ∀ q ∈ ps, p ≠ q.place ∧ p ≠ q.tmpPath.place

instance (ps : List Path) (p : Place) : Decidable (Untouched ps p) :=
  inferInstanceAs (Decidable (∀ q ∈ ps, _))

/-- Beside the files `present`, those at `ps` can be replaced one after another. -/
def Fits (dirs : List Place) : List Path → List Place → Prop
  | [], present => Room dirs present
  | p::ps, present => Room dirs (p.tmpPath.place::present) ∧
      Fits dirs ps (p.place::present.filter (· ≠ p.tmpPath.place))

instance decidableFits (dirs : List Place) :
    (ps : List Path) → (present : List Place) → Decidable (Fits dirs ps present)
  | [], present => inferInstanceAs (Decidable (Room dirs present))
  | p::ps, present =>
    have := decidableFits dirs ps (p.place::present.filter (· ≠ p.tmpPath.place))
    inferInstanceAs (Decidable (_ ∧ _))

variable {files files' : Files} {p q : Place} {w : Path × File} {ws : List (Path × File)}
  {dirs present : List Place}

section Contents

end Contents

section Fitting

end Fitting

end Replacement
end KvmAgent
