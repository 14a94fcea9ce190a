import Mathlib.Data.List.DropRight

/-! The string operations of Rust's standard library that the agent relies on, over
Unicode scalar values. -/
namespace KvmAgent
namespace RustText

/-- `char::is_whitespace`: the Unicode property `White_Space`. -/
def isWhitespace (c : Char) : Bool :=
  let n := c.toNat
  (9 ≤ n && n ≤ 13) || n == 0x20 || n == 0x85 || n == 0xA0 || n == 0x1680 ||
    (0x2000 ≤ n && n ≤ 0x200A) || n == 0x2028 || n == 0x2029 || n == 0x202F ||
    n == 0x205F || n == 0x3000

def trimChars (l : List Char) : List Char :=
  (l.dropWhile isWhitespace).rdropWhile isWhitespace

def trim (s : String) : String := String.ofList (trimChars s.toList)

theorem trimChars_idem (l : List Char) : trimChars (trimChars l) = trimChars l := by
  have hr : (trimChars l).rdropWhile isWhitespace = trimChars l := List.rdropWhile_idempotent _ _
  have hd : (trimChars l).dropWhile isWhitespace = trimChars l := by
    rw [List.dropWhile_eq_self_iff]
    intro hl
    have hp : trimChars l <+: l.dropWhile isWhitespace := List.rdropWhile_prefix _ _
    have h0 : 0 < (l.dropWhile isWhitespace).length := lt_of_lt_of_le hl hp.length_le
    have hhead := List.dropWhile_get_zero_not isWhitespace l h0
    rwa [List.IsPrefix.getElem hp hl]
  conv_lhs => rw [trimChars,hd,hr]

section TrimBy

variable {p q : Char → Bool}

/-- Drop characters of a kind from both ends. -/
def trimBy (p : Char → Bool) (l : List Char) : List Char := (l.dropWhile p).rdropWhile p

theorem trimBy_append_left {ws : List Char} (hws : ∀ c ∈ ws, p c = true) (l : List Char) :
    trimBy p (ws ++ l) = trimBy p l := by
  rw [trimBy,trimBy,List.dropWhile_append_of_pos hws]

theorem rdropWhile_append_right {ws : List Char} (hws : ∀ c ∈ ws, p c = true) (l : List Char) :
    (l ++ ws).rdropWhile p = l.rdropWhile p := by
  have hrev : ∀ c ∈ ws.reverse, p c = true := fun c hc => hws c (List.mem_reverse.mp hc)
  rw [List.rdropWhile,List.rdropWhile,List.reverse_append,List.dropWhile_append_of_pos hrev]

theorem trimBy_append_right {ws : List Char} (hws : ∀ c ∈ ws, p c = true) (l : List Char) :
    trimBy p (l ++ ws) = trimBy p l := by
  rw [trimBy,trimBy,List.dropWhile_append]
  by_cases hl : (l.dropWhile p).isEmpty = true
  · rw [if_pos hl,List.isEmpty_iff.mp hl,List.dropWhile_eq_nil_iff.mpr hws]
  · rw [if_neg hl,rdropWhile_append_right hws]

theorem trimBy_trimBy (hqp : ∀ c, q c = true → p c = true) (l : List Char) :
    trimBy p (trimBy q l) = trimBy p l := by
  have hleft : ∀ c ∈ l.takeWhile q, p c = true := fun c hc => hqp c (List.mem_takeWhile_imp hc)
  have hright : ∀ c ∈ (l.dropWhile q).rtakeWhile q, p c = true :=
    fun c hc => hqp c (List.mem_rtakeWhile_imp hc)
  have hcore : trimBy q l ++ (l.dropWhile q).rtakeWhile q = l.dropWhile q :=
    List.rdropWhile_append_rtakeWhile
  calc trimBy p (trimBy q l)
      = trimBy p (trimBy q l ++ (l.dropWhile q).rtakeWhile q) := (trimBy_append_right hright _).symm
    _ = trimBy p (l.dropWhile q) := by rw [hcore]
    _ = trimBy p (l.takeWhile q ++ l.dropWhile q) := (trimBy_append_left hleft _).symm
    _ = trimBy p l := by rw [List.takeWhile_append_dropWhile]

end TrimBy

@[simp] theorem trim_trim (s : String) : trim (trim s) = trim s := by
  simp [trim,trimChars_idem]

@[simp] theorem trim_empty : trim "" = "" := by decide

/-- A string without surrounding whitespace, as `trim` leaves it. -/
def Trimmed (s : String) : Prop := trim s = s

instance (s : String) : Decidable (Trimmed s) := inferInstanceAs (Decidable (trim s = s))

theorem trimmed_trim (s : String) : Trimmed (trim s) := trim_trim s

/-- A string of whitespace only, which `trim` empties. -/
def Blank (s : String) : Prop := trim s = ""

instance (s : String) : Decidable (Blank s) := inferInstanceAs (Decidable (trim s = ""))

def toAsciiLowercase (s : String) : String := String.ofList (s.toList.map Char.toLower)

def toAsciiUppercase (s : String) : String := String.ofList (s.toList.map Char.toUpper)

def startsWith (pre s : String) : Bool := pre.toList.isPrefixOf s.toList

theorem startsWith_iff {pre s : String} : startsWith pre s = true ↔ pre.toList <+: s.toList := by
  rw [startsWith,List.isPrefixOf_iff_prefix]

theorem startsWith_append (pre s : String) : startsWith pre (pre ++ s) = true :=
  startsWith_iff.mpr (by rw [String.toList_append]; exact List.prefix_append _ _)

def stripPrefix (pre s : String) : Option String :=
  if startsWith pre s then some (String.ofList (s.toList.drop pre.length)) else none

theorem stripPrefix_append (pre s : String) : stripPrefix pre (pre ++ s) = some s := by
  rw [stripPrefix,if_pos (startsWith_append pre s),String.toList_append,← String.length_toList,
    List.drop_left,String.ofList_toList]

theorem stripPrefix_none {pre s : String} (h : startsWith pre s = false) :
    stripPrefix pre s = none := by
  simp [stripPrefix,h]

/-- Strip a prefix at most `n` times. -/
def stripPrefixes (pre : List Char) : ℕ → List Char → List Char
  | 0, l => l
  | n+1, l => if pre.isPrefixOf l then stripPrefixes pre n (l.drop pre.length) else l

/-- `s.trim_start_matches(pre)`; a string holds a non-empty prefix at most as often as it
has characters. -/
def trimStartMatches (pre s : String) : String :=
  String.ofList (stripPrefixes pre.toList s.length s.toList)

theorem trimStartMatches_append {pre s : String} (hpre : pre ≠ "") (hs : startsWith pre s = false) :
    trimStartMatches pre (pre ++ s) = s := by
  have hprefix : pre.toList.isPrefixOf (pre ++ s).toList = true := startsWith_append pre s
  have hstop : ¬pre.toList.isPrefixOf s.toList = true := Bool.eq_false_iff.mp hs
  have honce (n : ℕ) : stripPrefixes pre.toList n s.toList = s.toList := by
    cases n with
    | zero => rfl
    | succ n => rw [stripPrefixes,if_neg hstop]
  have hlen : (pre ++ s).length = (pre ++ s).length - 1 + 1 := by
    have hpos : pre.length ≠ 0 := by simpa using hpre
    rw [String.length_append]
    omega
  rw [trimStartMatches,hlen,stripPrefixes,if_pos hprefix,String.toList_append,List.drop_left,honce,
    String.ofList_toList]

/-- The first part of `s.split(sep)`. -/
def splitFirst (sep : Char) (s : String) : String :=
  String.ofList (s.toList.takeWhile (· ≠ sep))

def splitOnce (sep : Char) (s : String) : Option (String × String) :=
  if sep ∈ s.toList then
    some (splitFirst sep s,String.ofList (s.toList.dropWhile (· ≠ sep)).tail)
  else none

theorem splitOnce_before (sep : Char) (s : String) :
    ((splitOnce sep s).map Prod.fst).getD s = splitFirst sep s := by
  unfold splitOnce
  split
  · rfl
  · rename_i hsep
    have hself : s.toList.takeWhile (· ≠ sep) = s.toList := by
      refine List.takeWhile_eq_self_iff.mpr fun c hc => ?_
      have hne : c ≠ sep := by
        rintro rfl
        exact hsep hc
      simpa using hne
    simp only [Option.map_none,Option.getD_none,splitFirst,hself,String.ofList_toList]

/-- The parts of a text between separators; a last part is there only if it is not empty,
others as `close` leaves them. -/
def parts (isSeparator : Char → Bool) (close : List Char → Option (List Char)) :
    (pending : List Char) → List Char → List (List Char)
  | [], [] => []
  | pending, [] => [pending]
  | pending, c::cs =>
    if isSeparator c then (close pending).toList ++ parts isSeparator close [] cs
    else parts isSeparator close (pending ++ [c]) cs

def splitWhitespace (s : String) : List String :=
  (parts isWhitespace (fun word => if word = [] then none else some word) [] s.toList).map
    String.ofList

/-- `s.lines()`: a line ends at a line feed, or at a carriage return before one. -/
def lines (s : String) : List String :=
  (parts (· = '\n') (fun line => some (if line.getLast? = some '\r' then line.dropLast else line)) []
    s.toList).map String.ofList

def parseU64 (s : String) : Option UInt64 :=
  let digits : List Char := match s.toList with
    | '+'::rest => rest
    | cs => cs
  let value := digits.foldl (fun n c => 10 * n + (c.toNat - 48)) 0
  if digits ≠ [] ∧ digits.all Char.isDigit ∧ value < 18446744073709551616 then
    some (UInt64.ofNat value)
  else none

def digitsFailure (value : ℕ) : List Char → String
  | [] => "invalid digit found in string"
  | c::cs =>
    if c.isDigit = false then "invalid digit found in string"
    else if 18446744073709551616 ≤ 10 * value + (c.toNat - 48) then
      "number too large to fit in target type"
    else digitsFailure (10 * value + (c.toNat - 48)) cs

/-- The `ParseIntError` of `s.parse::<u64>()`. -/
def parseU64Failure (s : String) : String :=
  match s.toList with
  | [] => "cannot parse integer from empty string"
  | '+'::rest => digitsFailure 0 rest
  | cs => digitsFailure 0 cs

def splitSign : List Char → Bool × List Char
  | '-'::rest => (true,rest)
  | '+'::rest => (false,rest)
  | cs => (false,cs)

/-- `s.parse()` for a signed type, whose least value is `-bound`. -/
def parseSigned (bound : ℕ) (s : String) : Option ℤ :=
  let negative := (splitSign s.toList).1
  let digits := (splitSign s.toList).2
  let value := digits.foldl (fun n c => 10 * n + (c.toNat - 48)) 0
  if digits ≠ [] ∧ digits.all Char.isDigit ∧ value < bound + (if negative then 1 else 0) then
    some (if negative then -value else value)
  else none

def parseI64 (s : String) : Option ℤ := parseSigned 9223372036854775808 s

def parseI32 (s : String) : Option ℤ := parseSigned 2147483648 s

section Decimals

variable {n : ℕ}

theorem toDigits_all (n : ℕ) : (Nat.toDigits 10 n).all Char.isDigit = true :=
  List.all_eq_true.mpr fun _ hc => Nat.isDigit_of_mem_toDigits (by decide) (by decide) hc

theorem toDigits_value (n : ℕ) :
    (Nat.toDigits 10 n).foldl (fun n c => 10 * n + (c.toNat - 48)) 0 = n :=
  Nat.ofDigitChars_ten_toDigits

theorem toDigits_ne_cons {c : Char} (hc : c.isDigit = false) (rest : List Char) :
    Nat.toDigits 10 n ≠ c::rest := by
  intro h
  have hdigit := List.all_eq_true.mp (toDigits_all n) c (by simp [h])
  simp [hc] at hdigit

theorem parseU64_toString (hn : n < 18446744073709551616) :
    parseU64 (toString n) = some (UInt64.ofNat n) := by
  have hlist : (toString n).toList = Nat.toDigits 10 n := by simp
  unfold parseU64
  rw [hlist]
  split
  · rename_i rest hplus
    exact absurd hplus (toDigits_ne_cons (by decide) rest)
  · simp [toDigits_value,toDigits_all,hn]

theorem parseSigned_toString (bound n : ℕ) :
    parseSigned bound (toString n) = if n < bound then some (n : ℤ) else none := by
  have hsign : splitSign (Nat.toDigits 10 n) = (false,Nat.toDigits 10 n) := by
    unfold splitSign
    split
    · rename_i rest hminus
      exact absurd hminus (toDigits_ne_cons (by decide) rest)
    · rename_i rest hplus
      exact absurd hplus (toDigits_ne_cons (by decide) rest)
    · rfl
  simp [parseSigned,hsign,toDigits_value,toDigits_all]

theorem not_isWhitespace_of_isDigit {c : Char} (hc : c.isDigit = true) : isWhitespace c = false := by
  have hrange : 48 ≤ c.toNat ∧ c.toNat ≤ 57 := by
    simpa [Char.isDigit,UInt32.le_iff_toNat_le] using hc
  simp only [isWhitespace,Bool.or_eq_false_iff,Bool.and_eq_false_iff,decide_eq_false_iff_not,
    beq_eq_false_iff_ne]
  omega

theorem trim_toString {before after : List Char} (hbefore : ∀ c ∈ before, isWhitespace c = true)
    (hafter : ∀ c ∈ after, isWhitespace c = true) (n : ℕ) :
    trim (String.ofList (before ++ (Nat.toDigits 10 n ++ after))) = toString n := by
  have hdigit : ∀ c ∈ Nat.toDigits 10 n, isWhitespace c = false := fun c hc =>
    not_isWhitespace_of_isDigit (List.all_eq_true.mp (toDigits_all n) c hc)
  have hleft : (Nat.toDigits 10 n).dropWhile isWhitespace = Nat.toDigits 10 n := by
    rw [List.dropWhile_eq_self_iff]
    intro hl
    simp [hdigit]
  have hright : (Nat.toDigits 10 n).rdropWhile isWhitespace = Nat.toDigits 10 n := by
    rw [List.rdropWhile_eq_self_iff]
    intro hl
    simp [hdigit]
  have htrim : trimBy isWhitespace (before ++ (Nat.toDigits 10 n ++ after)) = Nat.toDigits 10 n := by
    rw [trimBy_append_left hbefore,trimBy_append_right hafter,trimBy,hleft,hright]
  rw [trim,String.toList_ofList]
  change String.ofList (trimBy isWhitespace _) = _
  rw [htrim,Nat.toString_eq_ofList_toDigits]

end Decimals

end RustText
end KvmAgent
