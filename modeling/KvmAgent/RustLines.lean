import KvmAgent.RustText

/-! Words and lines: what a text that is put together of them is taken apart into, and what
every word and every line of a text is like. -/
namespace KvmAgent
namespace RustText

theorem findSome_congr {α β : Type} {f g : α → Option β} {l : List α} (h : ∀ a ∈ l, f a = g a) :
    l.findSome? f = l.findSome? g := by
  induction l with
  | nil => rfl
  | cons a l ih =>
    obtain ⟨ha,hl⟩ := List.forall_mem_cons.mp h
    rw [List.findSome?_cons,List.findSome?_cons,ha,ih hl]

section Parts

variable {isSeparator : Char → Bool} (close : List Char → Option (List Char))
variable (pending : List Char) {word : List Char}

theorem parts_append (hword : ∀ c ∈ word, isSeparator c = false) {sep : Char}
    (hsep : isSeparator sep = true) (rest : List Char) :
    parts isSeparator close pending (word ++ sep::rest) =
      (close (pending ++ word)).toList ++ parts isSeparator close [] rest := by
  induction word generalizing pending with
  | nil => rw [List.nil_append,List.append_nil,parts,if_pos hsep]
  | cons c cs ih =>
    obtain ⟨hc,hcs⟩ := List.forall_mem_cons.mp hword
    have hnone : ¬isSeparator c = true := Bool.eq_false_iff.mp hc
    rw [List.cons_append,parts,if_neg hnone,ih _ hcs,List.append_assoc,List.singleton_append]

theorem parts_last (hword : ∀ c ∈ word, isSeparator c = false) :
    parts isSeparator close pending word = if pending ++ word = [] then [] else [pending ++ word] := by
  induction word generalizing pending with
  | nil => cases pending <;> simp [parts]
  | cons c cs ih =>
    obtain ⟨hc,hcs⟩ := List.forall_mem_cons.mp hword
    have hnone : ¬isSeparator c = true := Bool.eq_false_iff.mp hc
    rw [parts,if_neg hnone,ih _ hcs,List.append_assoc,List.singleton_append]

theorem forall_parts (P : List Char → Prop) {pending : List Char}
    (hclose : ∀ l, (∀ c ∈ l, isSeparator c = false) → ∀ w ∈ close l, P w)
    (hlast : ∀ l, l ≠ [] → (∀ c ∈ l, isSeparator c = false) → P l) (l : List Char)
    (hpending : ∀ c ∈ pending, isSeparator c = false) :
    ∀ w ∈ parts isSeparator close pending l, P w := by
  induction l generalizing pending with
  | nil =>
    intro w hw
    cases pending with
    | nil => simp [parts] at hw
    | cons c cs =>
      obtain rfl : w = c::cs := by simpa [parts] using hw
      exact hlast _ (List.cons_ne_nil c cs) hpending
  | cons c cs ih =>
    intro w hw
    by_cases hc : isSeparator c = true
    · rw [parts,if_pos hc,List.mem_append,Option.mem_toList] at hw
      rcases hw with hw | hw
      · exact hclose _ hpending w hw
      · exact ih (List.forall_mem_nil _) w hw
    · rw [parts,if_neg hc] at hw
      refine ih ?_ w hw
      intro d hd
      rcases List.mem_append.mp hd with hd | hd
      · exact hpending d hd
      · obtain rfl := List.mem_singleton.mp hd
        exact Bool.eq_false_iff.mpr hc

end Parts

section Words

variable {s w : String}

/-- The words of `split_whitespace` are the parts that are not empty. -/
def closeWord (word : List Char) : Option (List Char) := if word = [] then none else some word

theorem splitWhitespace_eq (s : String) :
    splitWhitespace s = (parts isWhitespace closeWord [] s.toList).map String.ofList := rfl

structure Word (w : String) : Prop where
  ne_empty : w ≠ ""
  solid : ∀ c ∈ w.toList, isWhitespace c = false

def White (l : List Char) : Prop := ∀ c ∈ l, isWhitespace c = true

theorem word_of_mem (h : w ∈ splitWhitespace s) : Word w := by
  obtain ⟨l,hl,rfl⟩ := List.mem_map.mp h
  have hparts := forall_parts closeWord (fun l => l ≠ [] ∧ ∀ c ∈ l, isWhitespace c = false)
    ?_ (fun l hne hl => ⟨hne,hl⟩) s.toList (List.forall_mem_nil _) l hl
  · exact ⟨by simpa using hparts.1,by simpa using hparts.2⟩
  · intro l hsolid w hw
    unfold closeWord at hw
    by_cases hnil : l = []
    · simp [hnil] at hw
    · obtain rfl : l = w := by simpa [hnil] using hw
      exact ⟨hnil,hsolid⟩

theorem splitWhitespace_white {gap : List Char} (hgap : White gap) (l : List Char) :
    splitWhitespace (String.ofList (gap ++ l)) = splitWhitespace (String.ofList l) := by
  induction gap with
  | nil => rfl
  | cons c cs ih =>
    obtain ⟨hc,hcs⟩ := List.forall_mem_cons.mp hgap
    have hskip : parts isWhitespace closeWord [] ([] ++ c::(cs ++ l)) = _ :=
      parts_append closeWord [] (List.forall_mem_nil _) hc (cs ++ l)
    have hrest := ih hcs
    rw [splitWhitespace_eq,splitWhitespace_eq,String.toList_ofList,String.toList_ofList] at hrest ⊢
    rw [List.cons_append,← List.nil_append (c::(cs ++ l)),hskip]
    simpa [closeWord] using hrest

theorem splitWhitespace_append (hw : Word w) (gap : List Char) (hgap : White gap) (hne : gap ≠ [])
    (l : List Char) : splitWhitespace (String.ofList (w.toList ++ (gap ++ l))) =
      w :: splitWhitespace (String.ofList l) := by
  obtain ⟨c,cs,rfl⟩ := List.exists_cons_of_ne_nil hne
  obtain ⟨hc,hcs⟩ := List.forall_mem_cons.mp hgap
  have hfirst := parts_append closeWord [] hw.solid hc (cs ++ l)
  have hchars : w.toList ≠ [] := mt String.toList_eq_nil_iff.mp hw.ne_empty
  have hrest := splitWhitespace_white hcs l
  rw [splitWhitespace_eq,splitWhitespace_eq,String.toList_ofList] at hrest ⊢
  rw [List.cons_append,hfirst,List.nil_append,closeWord,if_neg hchars]
  simpa using hrest

theorem splitWhitespace_word (hw : Word w) : splitWhitespace w = [w] := by
  have hlast := parts_last closeWord [] hw.solid
  have hchars : w.toList ≠ [] := mt String.toList_eq_nil_iff.mp hw.ne_empty
  rw [splitWhitespace_eq,hlast,List.nil_append,if_neg hchars]
  simp

end Words

section Lines

variable {line : String}

structure Line (line : String) : Prop where
  feed : '\n' ∉ line.toList
  carriage : line.toList.getLast? ≠ some '\r'

/-- `line` and a line feed for each of the lines. -/
def unlines (ls : List String) : String := String.ofList (ls.flatMap fun line => line.toList ++ ['\n'])

theorem lines_append (hline : Line line) (l : List Char) :
    lines (String.ofList (line.toList ++ '\n'::l)) = line :: lines (String.ofList l) := by
  have hfeed : ∀ c ∈ line.toList, decide (c = '\n') = false := by
    intro c hc
    refine decide_eq_false ?_
    rintro rfl
    exact hline.feed hc
  have hfirst := parts_append
    (fun line => some (if line.getLast? = some '\r' then line.dropLast else line)) [] hfeed
    (decide_eq_true rfl) l
  unfold lines
  rw [String.toList_ofList,String.toList_ofList,hfirst,List.nil_append,if_neg hline.carriage]
  simp

theorem lines_unlines_append {ls : List String} (hls : ∀ line ∈ ls, Line line) (l : List Char) :
    lines (String.ofList ((unlines ls).toList ++ l)) = ls ++ lines (String.ofList l) := by
  rw [unlines,String.toList_ofList]
  induction ls with
  | nil => rfl
  | cons line rest ih =>
    obtain ⟨hline,hrest⟩ := List.forall_mem_cons.mp hls
    have happend := lines_append hline ((rest.flatMap fun line => line.toList ++ ['\n']) ++ l)
    rw [List.flatMap_cons,List.append_assoc,List.append_assoc]
    exact happend.trans (congrArg (line :: ·) (ih hrest))

theorem lines_last (hline : Line line) (hne : line ≠ "") : lines line = [line] := by
  have hfeed : ∀ c ∈ line.toList, decide (c = '\n') = false := by
    intro c hc
    refine decide_eq_false ?_
    rintro rfl
    exact hline.feed hc
  have hlast := parts_last
    (fun line => some (if line.getLast? = some '\r' then line.dropLast else line)) [] hfeed
  have hchars : line.toList ≠ [] := mt String.toList_eq_nil_iff.mp hne
  unfold lines
  rw [hlast,List.nil_append,if_neg hchars]
  simp

/-- A text of these lines; behind the last the line feed may be missing. -/
def Written (ls : List String) (s : String) : Prop :=
  s = unlines ls ∨ ∃ init last, ls = init ++ [last] ∧ last ≠ "" ∧
    s = String.ofList ((unlines init).toList ++ last.toList)

/-- What is written line by line is read line by line. -/
theorem lines_written {ls : List String} {s : String} (hls : ∀ line ∈ ls, Line line)
    (h : Written ls s) : lines s = ls := by
  rcases h with rfl | ⟨init,last,rfl,hne,rfl⟩
  · have hall := lines_unlines_append hls []
    rw [List.append_nil,String.ofList_toList] at hall
    rw [hall]
    exact List.append_nil ls
  · rw [lines_unlines_append (fun line hline => hls line (List.mem_append_left _ hline)),
      String.ofList_toList,lines_last (hls last (by simp)) hne]

end Lines

section Trimming

variable {indent core : List Char} (rest : List Char)

theorem rdropWhile_append_left {c : Char} (hlast : core.getLast? = some c) (hc : isWhitespace c = false) :
    (core ++ rest).rdropWhile isWhitespace = core ++ rest.rdropWhile isWhitespace := by
  have hcore : core.reverse.dropWhile isWhitespace = core.reverse := by
    rw [List.dropWhile_eq_self_iff]
    intro hpos
    rw [← List.head?_reverse,List.head?_eq_getElem?,List.getElem?_eq_getElem hpos] at hlast
    cases hlast
    exact Bool.eq_false_iff.mp hc
  rw [List.rdropWhile,List.rdropWhile,List.reverse_append,List.dropWhile_append]
  by_cases hrest : (rest.reverse.dropWhile isWhitespace).isEmpty = true
  · rw [if_pos hrest,hcore,List.isEmpty_iff.mp hrest,List.reverse_reverse,List.reverse_nil,
      List.append_nil]
  · rw [if_neg hrest,List.reverse_append,List.reverse_reverse]

/-- A trimmed line keeps what stands between white space and a text. -/
theorem trim_core (hindent : White indent) {b c : Char} (hhead : core.head? = some b)
    (hb : isWhitespace b = false) (hlast : core.getLast? = some c) (hc : isWhitespace c = false) :
    ∃ rest', rest' <+: rest ∧
      trim (String.ofList (indent ++ (core ++ rest))) = String.ofList (core ++ rest') := by
  refine ⟨rest.rdropWhile isWhitespace,List.rdropWhile_prefix _ _,?_⟩
  obtain ⟨l,rfl⟩ : ∃ l, core = b::l := by
    cases core with
    | nil => simp at hhead
    | cons d l =>
      cases hhead
      exact ⟨l,rfl⟩
  have hdrop : (indent ++ (b::l ++ rest)).dropWhile isWhitespace = b::l ++ rest := by
    rw [List.dropWhile_append_of_pos hindent]
    exact List.dropWhile_cons_of_neg (by simp [hb])
  rw [trim,String.toList_ofList,trimChars,hdrop,rdropWhile_append_left rest hlast hc]

end Trimming

section Heads

variable {l : List Char}

theorem splitWhitespace_head {c : Char} (hc : isWhitespace c = false) (l : List Char) :
    (splitWhitespace (String.ofList (c::l))).head? =
      some (String.ofList ((c::l).takeWhile fun d => !isWhitespace d)) := by
  have hword : Word (String.ofList ((c::l).takeWhile fun d => !isWhitespace d)) := by
    refine ⟨?_,?_⟩
    · rw [List.takeWhile_cons_of_pos (by simp [hc])]
      simp
    · intro d hd
      rw [String.toList_ofList] at hd
      simpa using List.mem_takeWhile_imp hd
  have hsplit := List.takeWhile_append_dropWhile (p := fun d => !isWhitespace d) (l := c::l)
  cases hgap : (c::l).dropWhile fun d => !isWhitespace d with
  | nil =>
    rw [hgap,List.append_nil] at hsplit
    rw [hsplit] at hword ⊢
    rw [splitWhitespace_word hword]
    rfl
  | cons g rest =>
    have hg : isWhitespace g = true := by
      have hnot := List.head_dropWhile_not (fun d => !isWhitespace d) (l := c::l) (by simp [hgap])
      simpa [hgap] using hnot
    rw [hgap] at hsplit
    have happend := splitWhitespace_append hword [g] (by simpa [White] using hg) (by simp) rest
    rw [String.toList_ofList,List.singleton_append,hsplit] at happend
    rw [happend]
    rfl

end Heads

end RustText
end KvmAgent
