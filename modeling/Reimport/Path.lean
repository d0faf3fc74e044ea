import Reimport.Text

/-!
# Paths

A path as it is written: a root, or none, and the names below it.  Reading a
path drops empty names and the name `.`, which change nothing, and keeps `..`,
which may lead elsewhere once links are followed.  Exactly two slashes at the
front are a root of their own; one, or three and more, are the ordinary root.
-/
namespace Reimport

/-- The name of a file or directory within its directory. -/
abbrev Name := Text

/-- What a path starts from. -/
inductive Root where
  /-- The working directory. -/
  | none
  /-- The root directory. -/
  | single
  /-- The root directory, written with two slashes. -/
  | double
  deriving DecidableEq, Repr

/-- A path as it is written. -/
structure Path where
  /-- What the path starts from. -/
  root : Root
  /-- The names from there on. -/
  parts : List Name
  deriving DecidableEq, Repr

namespace Path

/-- The name of the directory itself. -/
abbrev dot : Name := ['.']

/-- The name of the directory above. -/
abbrev dotDot : Name := ['.', '.']

/-- The root that a written path starts from. -/
def rootOf : Text → Root
  | '/' :: '/' :: '/' :: _ => .single
  | '/' :: '/' :: _ => .double
  | '/' :: _ => .single
  | _ => .none

/-- The names between the slashes of a text, without the empty ones and `.`. -/
def partsOf (text : Text) : List Name :=
  (Text.splitAt '/' text).filter fun part => part ≠ [] && part ≠ dot

/-- Reads a path. -/
def parse (text : Text) : Path := ⟨rootOf text, partsOf text⟩

/-- A path is written with one slash between names; the empty path is `.`. -/
def text (path : Path) : Text :=
  match path.root, path.parts with
  | .none, [] => dot
  | .none, parts => .intercalate ['/'] parts
  | .single, parts => '/' :: .intercalate ['/'] parts
  | .double, parts => '/' :: '/' :: .intercalate ['/'] parts

instance : Coe Path Text := ⟨text⟩

/-- Whether the path starts from a root directory. -/
def isAbsolute (path : Path) : Bool := path.root ≠ .none

/-- `path`, read from the directory `base` on. -/
def under (base path : Path) : Path :=
  if path.isAbsolute then path else ⟨base.root, base.parts ++ path.parts⟩

/-- The entry called `name` in the directory `base`. -/
def child (base : Path) (name : Name) : Path := ⟨base.root, base.parts ++ [name]⟩

/-- The path without its last name. -/
def parent (path : Path) : Path := ⟨path.root, path.parts.dropLast⟩

/-- The path and the directories above it, nearest first. -/
def withParents (path : Path) : List Path :=
  (List.range (path.parts.length + 1)).reverse.map fun depth => ⟨path.root, path.parts.take depth⟩

/-- The last name of a path; the roots and the empty path have none. -/
def name (path : Path) : Name := path.parts.getLast?.getD []

/-- The position of the last dot of a name. -/
def lastDot? (name : Name) : Option Nat :=
  if name.contains '.' then some (name.length - 1 - name.reverse.idxOf '.') else none

/-- The last name without its suffix.  A dot at either end begins no suffix. -/
def stem (path : Path) : Name :=
  match lastDot? path.name with
  | some i => if 0 < i ∧ i + 1 < path.name.length then path.name.take i else path.name
  | none => path.name

/-- The path of the place below the root directory that has the given names. -/
def ofPlace (place : List Name) : Path := ⟨.single, place⟩

@[simp] theorem name_child (base : Path) (n : Name) : (base.child n).name = n := by
  simp [child, name]

theorem isAbsolute_ofPlace (place : List Name) : (ofPlace place).isAbsolute = true := rfl

end Path
end Reimport
