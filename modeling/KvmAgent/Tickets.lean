import Mathlib.Data.Fintype.Card
import Mathlib.Data.List.Pairwise
import Mathlib.Logic.Function.Basic
import Mathlib.Order.Interval.Finset.Nat
import Mathlib.Tactic.Common

/-! Producers that draw consecutive numbers and put entries into one log, each entry
under the number its producer holds. Drawing and putting are separate steps, so another
producer may do both in between. -/
namespace KvmAgent

structure Entry (ι α : Type) where
  producer : ι
  number : ℕ
  body : α

structure Tickets (ι α : Type) where
  next : ℕ
  held : ι → Option ℕ
  log : List (Entry ι α)

namespace Tickets

variable {ι α : Type} [DecidableEq ι]

def draw (t : Tickets ι α) (i : ι) : Tickets ι α :=
  { t with next := t.next+1, held := Function.update t.held i (some t.next) }

def release (t : Tickets ι α) (i : ι) : Tickets ι α :=
  { t with held := Function.update t.held i none }

def put (t : Tickets ι α) (i : ι) (m : ℕ) (a : α) : Tickets ι α :=
  { t.release i with log := t.log ++ [⟨i,m,a⟩] }

def keep (t : Tickets ι α) (log : List (Entry ι α)) : Tickets ι α := { t with log := log }

/-- Of two entries the earlier has another number, a smaller one if it is by the same
producer. -/
def Precedes (d e : Entry ι α) : Prop :=
  d.number ≠ e.number ∧ (d.producer = e.producer → d.number < e.number)

/-- The invariant of the numbers drawn from `first` on. -/
structure Ordered (first : ℕ) (t : Tickets ι α) : Prop where
  start : first ≤ t.next
  fresh : ∀ i m, t.held i = some m → first ≤ m ∧ m < t.next
  apart : ∀ i j m, t.held i = some m → t.held j = some m → i = j
  drawn : ∀ e ∈ t.log, first ≤ e.number ∧ e.number < t.next
  unused : ∀ i m a, t.held i = some m → ∀ e ∈ t.log, Precedes e ⟨i,m,a⟩
  sorted : t.log.Pairwise Precedes

namespace Ordered

variable {first : ℕ} {t : Tickets ι α}

omit [DecidableEq ι] in
theorem new (first : ℕ) : Ordered first (⟨first,fun _ => none,[]⟩ : Tickets ι α) where
  start := Nat.le_refl first
  fresh := by simp
  apart := by simp
  drawn := by simp
  unused := by simp
  sorted := .nil

theorem draw (ht : Ordered first t) (i : ι) : Ordered first (t.draw i) where
  start := Nat.le_succ_of_le ht.start
  fresh j m hj := by
    have hstart := ht.start
    by_cases hi : j = i
    · subst hi
      have hm : t.next = m := by simpa [Tickets.draw] using hj
      simp only [Tickets.draw]
      omega
    · have hh := ht.fresh j m (by simpa [Tickets.draw,hi] using hj)
      simp only [Tickets.draw]
      omega
  apart j l m hj hl := by
    by_cases hi : j = i <;> by_cases hi' : l = i <;>
      simp only [Tickets.draw,Function.update_apply,hi,hi',if_true,if_false,Option.some.injEq] at hj hl
    · rw [hi,hi']
    · have hh := (ht.fresh l m hl).2
      omega
    · have hh := (ht.fresh j m hj).2
      omega
    · exact ht.apart j l m hj hl
  drawn e he := by
    have hh := ht.drawn e he
    simp only [Tickets.draw]
    omega
  unused j m a hj e he := by
    by_cases hi : j = i
    · subst hi
      have hm : t.next = m := by simpa [Tickets.draw] using hj
      have hh := (ht.drawn e he).2
      simp only [Precedes]
      omega
    · exact ht.unused j m a (by simpa [Tickets.draw,hi] using hj) e he
  sorted := ht.sorted

theorem release (ht : Ordered first t) (i : ι) : Ordered first (t.release i) := by
  have hheld {j : ι} {m : ℕ} (hj : (t.release i).held j = some m) : t.held j = some m := by
    by_cases hi : j = i
    · simp [Tickets.release,hi] at hj
    · simpa [Tickets.release,hi] using hj
  exact ⟨ht.start,fun j m hj => ht.fresh j m (hheld hj),
    fun j l m hj hl => ht.apart j l m (hheld hj) (hheld hl),ht.drawn,
    fun j m a hj => ht.unused j m a (hheld hj),ht.sorted⟩

theorem put (ht : Ordered first t) {i : ι} {m : ℕ} (hm : t.held i = some m) (a : α) :
    Ordered first (t.put i m a) := by
  have hr := ht.release i
  have hother {j : ι} {n : ℕ} (hj : (t.release i).held j = some n) : j ≠ i ∧ m ≠ n := by
    have hi : j ≠ i := by
      rintro rfl
      simp [Tickets.release] at hj
    refine ⟨hi,?_⟩
    rintro rfl
    exact hi (ht.apart j i m (by simpa [Tickets.release,hi] using hj) hm)
  refine ⟨hr.start,hr.fresh,hr.apart,?_,?_,?_⟩
  · intro e he
    rcases List.mem_append.mp he with he | he
    · exact ht.drawn e he
    · rw [List.mem_singleton.mp he]
      exact ht.fresh i m hm
  · intro j n b hj e he
    rcases List.mem_append.mp he with he | he
    · exact hr.unused j n b hj e he
    · obtain ⟨hi,hn⟩ := hother hj
      rw [List.mem_singleton.mp he]
      exact ⟨hn,fun h => absurd h.symm hi⟩
  · refine List.pairwise_append.mpr ⟨ht.sorted,List.pairwise_singleton _ _,fun d hd e he => ?_⟩
    rw [List.mem_singleton.mp he]
    exact ht.unused i m a hm d hd

omit [DecidableEq ι] in
theorem keep (ht : Ordered first t) {log : List (Entry ι α)} (hlog : log.Sublist t.log) :
    Ordered first (t.keep log) :=
  ⟨ht.start,ht.fresh,ht.apart,fun e he => ht.drawn e (hlog.subset he),
    fun i m a hm e he => ht.unused i m a hm e (hlog.subset he),ht.sorted.sublist hlog⟩

omit [DecidableEq ι] in
theorem numbers_nodup (ht : Ordered first t) : (t.log.map Entry.number).Nodup :=
  List.pairwise_map.mpr (ht.sorted.imp And.left)

theorem producer_sorted (ht : Ordered first t) (i : ι) :
    (t.log.filter (·.producer = i)).Pairwise fun d e => d.number < e.number := by
  refine (List.pairwise_filter.mpr (ht.sorted.imp ?_))
  intro d e hde hd he
  exact hde.2 ((of_decide_eq_true hd).trans (of_decide_eq_true he).symm)

end Ordered

/-- No number drawn from `first` on is lost: it is in the log or held. -/
def Complete (first : ℕ) (t : Tickets ι α) : Prop :=
  ∀ m, first ≤ m → m < t.next → (∃ i, t.held i = some m) ∨ ∃ e ∈ t.log, e.number = m

namespace Complete

variable {first : ℕ} {t : Tickets ι α}

omit [DecidableEq ι] in
theorem new (first : ℕ) : Complete first (⟨first,fun _ => none,[]⟩ : Tickets ι α) :=
  fun _ hlow hhigh => absurd hhigh (not_lt.mpr hlow)

theorem draw (ht : Complete first t) {i : ι} (hi : t.held i = none) : Complete first (t.draw i) := by
  intro m hlow hhigh
  by_cases hm : m = t.next
  · exact .inl ⟨i,by simp [Tickets.draw,hm]⟩
  · have hlt : m < t.next := by
      simp only [Tickets.draw] at hhigh
      omega
    rcases ht m hlow hlt with ⟨j,hj⟩ | he
    · have hji : j ≠ i := by
        rintro rfl
        simp [hi] at hj
      exact .inl ⟨j,by simpa [Tickets.draw,hji] using hj⟩
    · exact .inr he

theorem put (ht : Complete first t) {i : ι} {n : ℕ} (hn : t.held i = some n) (a : α) :
    Complete first (t.put i n a) := by
  intro m hlow hhigh
  rcases ht m hlow hhigh with ⟨j,hj⟩ | ⟨e,he,hem⟩
  · by_cases hji : j = i
    · subst hji
      obtain rfl : n = m := by simpa [hn] using hj
      exact .inr ⟨⟨j,n,a⟩,by simp [Tickets.put],rfl⟩
    · exact .inl ⟨j,by simpa [Tickets.put,Tickets.release,hji] using hj⟩
  · exact .inr ⟨e,List.mem_append_left _ he,hem⟩

omit [DecidableEq ι] in
/-- While nothing is held, the numbers of the log are all the numbers drawn. -/
theorem dense (ht : Complete first t) (ho : Ordered first t) (hfree : ∀ i, t.held i = none) :
    t.next = first + t.log.length ∧
      ∀ m, m ∈ t.log.map Entry.number ↔ first ≤ m ∧ m < first + t.log.length := by
  have hmem (m : ℕ) : m ∈ t.log.map Entry.number ↔ first ≤ m ∧ m < t.next := by
    constructor
    · intro hm
      obtain ⟨e,he,rfl⟩ := List.mem_map.mp hm
      exact ho.drawn e he
    · rintro ⟨hlow,hhigh⟩
      rcases ht m hlow hhigh with ⟨i,hi⟩ | ⟨e,he,rfl⟩
      · simp [hfree i] at hi
      · exact List.mem_map_of_mem he
  have hcard : (t.log.map Entry.number).toFinset = Finset.Ico first t.next := by
    ext m
    rw [List.mem_toFinset,hmem,Finset.mem_Ico]
  have hcount := congrArg Finset.card hcard
  rw [List.toFinset_card_of_nodup ho.numbers_nodup,List.length_map,Nat.card_Ico] at hcount
  have hnext : t.next = first + t.log.length := by
    have hstart := ho.start
    omega
  exact ⟨hnext,fun m => by rw [hmem,hnext]⟩

omit [DecidableEq ι] in
theorem below (ht : Complete first t) (ho : Ordered first t) {e : Entry ι α} (he : e ∈ t.log)
    {m : ℕ} (hlow : first ≤ m) (hlt : m < e.number) :
    (∃ i, i ≠ e.producer ∧ t.held i = some m) ∨ ∃ d ∈ t.log, d.number = m := by
  rcases ht m hlow (hlt.trans (ho.drawn e he).2) with ⟨i,hi⟩ | hd
  · refine .inl ⟨i,?_,hi⟩
    rintro rfl
    have hlater := (ho.unused e.producer m e.body hi e he).2 rfl
    exact absurd hlater (not_lt.mpr hlt.le)
  · exact .inr hd

/-- A number is larger than its place in the log by at most the number of other producers. -/
theorem number_lt [Fintype ι] (ht : Complete first t) (ho : Ordered first t) {e : Entry ι α}
    (he : e ∈ t.log) : e.number + 1 < first + t.log.length + Fintype.card ι := by
  have hsub : Finset.Ico first e.number ⊆ (t.log.map Entry.number).toFinset.erase e.number ∪
      (Finset.univ.erase e.producer).image fun i => (t.held i).getD 0 := by
    intro m hm
    obtain ⟨hlow,hlt⟩ := Finset.mem_Ico.mp hm
    rcases ht.below ho he hlow hlt with ⟨i,hne,hi⟩ | ⟨d,hd,rfl⟩
    · exact Finset.mem_union_right _ (Finset.mem_image.mpr ⟨i,by simpa using hne,by simp [hi]⟩)
    · refine Finset.mem_union_left _ (Finset.mem_erase.mpr ⟨hlt.ne,?_⟩)
      exact List.mem_toFinset.mpr (List.mem_map_of_mem hd)
  have hcard := (Finset.card_le_card hsub).trans (Finset.card_union_le _ _)
  have hheld : ((Finset.univ.erase e.producer).image fun i => (t.held i).getD 0).card ≤
      Fintype.card ι - 1 := by
    refine Finset.card_image_le.trans ?_
    rw [Finset.card_erase_of_mem (Finset.mem_univ _),Finset.card_univ]
  have hin : e.number ∈ (t.log.map Entry.number).toFinset :=
    List.mem_toFinset.mpr (List.mem_map_of_mem he)
  rw [Nat.card_Ico,Finset.card_erase_of_mem hin,
    List.toFinset_card_of_nodup ho.numbers_nodup,List.length_map] at hcard
  have hlength := List.length_pos_of_mem he
  have hproducers : 0 < Fintype.card ι := Fintype.card_pos_iff.mpr ⟨e.producer⟩
  omega

end Complete
end Tickets
end KvmAgent
