import KvmAgent.RustText
import Mathlib.Logic.Function.Basic

/-! Paths and files: what the operations of `std::fs` do to the files behind their paths,
one system call at a time. -/
namespace KvmAgent

open RustText

abbrev Bytes := List UInt8

def asBytes (s : String) : Bytes := s.toUTF8.data.toList

def fromUtf8 (bytes : Bytes) : Option String := String.fromUTF8? ⟨bytes.toArray⟩

/-- `std::path::Path` by its components, innermost first; a leading `.` is one of them. `slash`
says that the spelling ends in `/` or `/.`, so that only a directory can be meant. -/
structure Path where
  absolute : Bool
  components : List String
  slash : Bool := false
  deriving DecidableEq

namespace Path

def ofString (s : String) : Path :=
  let segments := (s.toList.splitOn '/').map String.ofList
  { absolute := startsWith "/" s
    components := ((segments.take 1).filter (· ≠ "") ++
      (segments.drop 1).filter fun c => c ≠ "" ∧ c ≠ ".").reverse
    slash := segments.tail.getLast? = some "" ∨ segments.tail.getLast? = some "." }

def display (p : Path) : String :=
  (if p.absolute then "/" else "") ++ "/".intercalate p.components.reverse ++
    (if p.slash ∧ p.components ≠ [] then "/" else "")

/-- `==`, which does not see how the spelling ends. -/
def Same (p q : Path) : Prop := p.absolute = q.absolute ∧ p.components = q.components

instance (p q : Path) : Decidable (Same p q) := inferInstanceAs (Decidable (_ ∧ _))

def parent (p : Path) : Option Path :=
  match p.components with
  | [] => none
  | _::rest => some { absolute := p.absolute, components := rest }

def fileName (p : Path) : Option String :=
  match p.components with
  | [] => none
  | name::_ => if name = ".." ∨ name = "." then none else some name

def withFileName (p : Path) (name : String) : Path :=
  match p.fileName with
  | some _ => { absolute := p.absolute, components := name::p.components.tail }
  | none => { absolute := p.absolute, components := name::p.components }

/-- The path `write_file` writes to before it renames. -/
def tmpPath (p : Path) : Path := p.withFileName ("." ++ p.fileName.getD "identity" ++ ".tmp")

theorem tmpPath_fileName (p : Path) :
    p.tmpPath.fileName = some ("." ++ p.fileName.getD "identity" ++ ".tmp") := by
  have hdots (name : String) : ¬("." ++ name ++ ".tmp" = ".." ∨ "." ++ name ++ ".tmp" = ".") := by
    have hone : ".".length = 1 := rfl
    have htwo : "..".length = 2 := rfl
    have hfour : ".tmp".length = 4 := rfl
    rintro (h | h) <;>
      · have hlength := congrArg String.length h
        simp only [String.length_append] at hlength
        omega
  unfold tmpPath withFileName
  cases p.fileName <;> simp [fileName,hdots]

end Path

/-- A place on the disk: a name and those of the directories around it, innermost first. -/
abbrev Place := List String

/-- Files have names; a directory itself is written as its entry without a name. -/
def Place.Named : Place → Prop
  | [] => False
  | name::_ => name ≠ ""

instance : DecidablePred Place.Named
  | [] => inferInstanceAs (Decidable False)
  | _::_ => inferInstanceAs (Decidable (_ ≠ _))

/-- How the machine resolves paths: from where, and which directory an entry of a directory
leads to, itself or another by a symbolic link. -/
class Directories where
  workingDirectory : Place
  enter : Place → String → Place

namespace Directories

/-- No links, and the root is the working directory. -/
@[reducible] def plain : Directories := ⟨[],fun place name => name::place⟩

def walk [Directories] (start : Place) : List String → Place
  | [] => start
  | name::rest =>
    if name = "." then walk start rest
    else if name = ".." then (walk start rest).tail
    else enter (walk start rest) name

end Directories

namespace Path

open Directories

variable [Directories]

def start (p : Path) : Place := if p.absolute then [] else workingDirectory

/-- The directories a file is reached through. -/
def crossed (p : Path) : List Place := p.components.tail.tails.map (walk p.start)

/-- What the path leads to: a file in a directory, or a directory where the spelling means one
or has to pass through what it ends at. -/
def place (p : Path) : Place :=
  match p.fileName with
  | none => ""::walk p.start p.components
  | some name =>
    let target := name::walk p.start p.components.tail
    if p.slash ∨ ∃ d ∈ p.crossed, target <:+ d then ""::target else target

theorem place_cases {p : Path} {name : String} (hname : p.fileName = some name) :
    p.place = name::walk p.start p.components.tail ∨
      p.place = ""::name::walk p.start p.components.tail := by
  unfold place
  rw [hname]
  dsimp only
  split
  · exact .inr rfl
  · exact .inl rfl

theorem place_tmpPath_ne (p : Path) : p.place ≠ p.tmpPath.place := by
  have hlonger (name : String) : name ≠ "." ++ name ++ ".tmp" := by
    intro h
    have hlength := congrArg String.length h
    have hone : ".".length = 1 := rfl
    simp only [String.length_append] at hlength
    omega
  have htmp := place_cases (tmpPath_fileName p)
  intro h
  rw [← h] at htmp
  cases hname : p.fileName with
  | none =>
    have hstart : p.tmpPath.start = p.start := by simp [tmpPath,withFileName,hname,start]
    have htail : p.tmpPath.components.tail = p.components := by simp [tmpPath,withFileName,hname]
    have hplace : p.place = ""::walk p.start p.components := by simp [place,hname]
    rw [hstart,htail,hplace] at htmp
    rcases htmp with htmp | htmp
    · have hhead := (List.cons.inj htmp).1
      rw [hname] at hhead
      exact absurd hhead (by decide)
    · simpa using congrArg List.length htmp
  | some name =>
    have hstart : p.tmpPath.start = p.start := by simp [tmpPath,withFileName,hname,start]
    have htail : p.tmpPath.components.tail = p.components.tail := by
      simp [tmpPath,withFileName,hname]
    rw [hstart,htail,hname] at htmp
    rcases place_cases hname with hplace | hplace <;> rw [hplace] at htmp <;>
      rcases htmp with htmp | htmp
    · exact hlonger name (List.cons.inj htmp).1
    · simpa using congrArg List.length htmp
    · simpa using congrArg List.length htmp
    · exact hlonger name (List.cons.inj (List.cons.inj htmp).2).1

example : @place Directories.plain (ofString "/x/pki/../client.crt") = ["client.crt","x"] ∧
    @place Directories.plain (ofString "x/client.crt") = ["client.crt","x"] ∧
    @place Directories.plain (ofString "/x/client.crt/") = ["","client.crt","x"] := by decide

end Path

structure File where
  content : Bytes
  mode : ℕ
  deriving DecidableEq

abbrev Files := Place → Option File

namespace Files

/-- Open with `O_CREAT | O_TRUNC`: a file that exists keeps its mode. -/
def create (umask : ℕ) (files : Files) (p : Place) : Files :=
  Function.update files p (some ⟨[],((files p).map File.mode).getD (0o666 - (0o666 &&& umask))⟩)

def append (files : Files) (p : Place) (bytes : Bytes) : Files :=
  Function.update files p ((files p).map fun f => { f with content := f.content ++ bytes })

def setMode (files : Files) (p : Place) (mode : ℕ) : Files :=
  Function.update files p ((files p).map fun f => { f with mode := mode })

/-- `rename` replaces what was at `q`. -/
def rename (files : Files) (p q : Place) : Files :=
  Function.update (Function.update files p none) q (files p)

/-- The content of the file a path leads to; empty where there is none. -/
def contentAt [Directories] (files : Files) (p : Path) : Bytes :=
  if p.place.Named then ((files p.place).map File.content).getD [] else []

theorem contentAt_congr [Directories] {files files' : Files} {p : Path}
    (h : files p.place = files' p.place) : files.contentAt p = files'.contentAt p := by
  simp [contentAt,h]

theorem contentAt_some [Directories] {files : Files} {p : Path} {f : File} (hp : p.place.Named)
    (hf : files p.place = some f) : files.contentAt p = f.content := by
  simp [contentAt,hp,hf]

theorem contentAt_ne_nil [Directories] {files : Files} {p : Path} (hp : files.contentAt p ≠ []) :
    p.place.Named ∧ ∃ f, files p.place = some f ∧ f.content = files.contentAt p := by
  unfold contentAt at hp ⊢
  split at hp
  · next hnamed =>
    rw [if_pos hnamed]
    cases hf : files p.place with
    | none => simp [hf] at hp
    | some f => exact ⟨hnamed,f,rfl,rfl⟩
  · exact absurd rfl hp

end Files
end KvmAgent
