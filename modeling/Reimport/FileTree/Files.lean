import Reimport.FileTree.Locate

/-!
# Operations on files

What programs do with paths: ask what is there, read, write, make directories
and copy them.  Questions leave the tree alone.  A change is an `EStateM` action
over the tree, because an operation that fails half-way keeps what it has done:
directories that were made for a file stay although the file could not be made.
-/
namespace Reimport

/-- Whether an error only says that nothing usable is at the path. -/
def FileError.meansAbsent : FileError → Bool
  | .system .nameTooLong _ => false
  | .system .alreadyExists _ => false
  | .system .isDirectory _ => false
  | .system _ _ => true
  | .embeddedNul => true
  | .linkCycle _ => false

namespace FileTree

/-! ## Questions -/

/-- What a path leads to, links followed. -/
def status (tree : FileTree) (cwd : Place) (path : Path) : Except FileError Node := do
  let place ← tree.placeOf cwd true path
  match tree.node? place with
  | some node => .ok node
  | none => .error (.system .noEntry path.text)

/-- The answer to a question about what a path leads to; where nothing usable is
there the answer is no. -/
def ask (tree : FileTree) (cwd : Place) (path : Path) (answer : Node → Bool) :
    Except FileError Bool :=
  match tree.status cwd path with
  | .ok node => .ok (answer node)
  | .error e => if e.meansAbsent then .ok false else .error e

/-- Whether a path leads to a directory. -/
def isDirectory (tree : FileTree) (cwd : Place) (path : Path) : Except FileError Bool :=
  tree.ask cwd path (· = .directory)

/-- Whether a path leads to a regular file. -/
def isFile (tree : FileTree) (cwd : Place) (path : Path) : Except FileError Bool :=
  tree.ask cwd path fun node => match node with
    | .file _ => true
    | _ => false

/-- Whether a path leads to anything. -/
def pathExists (tree : FileTree) (cwd : Place) (path : Path) : Except FileError Bool :=
  tree.ask cwd path fun _ => true

/-- The content of the file that a path leads to. -/
def read (tree : FileTree) (cwd : Place) (path : Path) : Except FileError Bytes := do
  match ← tree.status cwd path with
  | .file content => .ok content
  | .directory => .error (.system .isDirectory path.text)
  | .link _ => .error (.system .tooManyLinks path.text)

/-! ## Changes -/

/-- A change of the tree that may fail. -/
abbrev Change := EStateM FileError FileTree

/-- What becomes of a file's content when new content is written to it. -/
inductive WriteMode where
  /-- The new content takes the old one's place. -/
  | replace
  /-- The new content follows the old one. -/
  | append
  deriving DecidableEq, Repr

/-- The content after a write. -/
def WriteMode.combine (mode : WriteMode) (old new : Bytes) : Bytes :=
  match mode with
  | .replace => new
  | .append => old ++ new

/-- Writes content to the file that a path leads to, making the file if it is
not there. -/
def write (cwd : Place) (mode : WriteMode) (path : Path) (content : Bytes) : Change Unit :=
  fun tree =>
    match tree.placeOf cwd true path with
    | .error e => .error e tree
    | .ok place =>
      match tree.node? place with
      | some (.file old) => .ok () (tree.put place (.file (mode.combine old content)))
      | some .directory => .error (.system .isDirectory path.text) tree
      | some (.link _) => .error (.system .tooManyLinks path.text) tree
      | none => .ok () (tree.put place (.file content))

/-- Makes one directory, whose parent has to be there. -/
def makeDirectory (cwd : Place) (path : Path) : Change Unit := fun tree =>
  match tree.placeOf cwd false path with
  | .error e => .error e tree
  | .ok place =>
    match tree.node? place with
    | some _ => .error (.system .alreadyExists path.text) tree
    | none => .ok () (tree.put place .directory)

/-- Makes one directory; a directory that is there already is as good. -/
def ensureDirectory (cwd : Place) (path : Path) : Change Unit := fun tree =>
  match makeDirectory cwd path tree with
  | .ok _ tree => .ok () tree
  | .error e tree =>
    match e, tree.isDirectory cwd path with
    | .system _ _, .ok true => .ok () tree
    | _, _ => .error e tree

/-- Makes a directory and the missing ones above it; what is missing is seen
from the failure to make the directory itself. -/
def makePath (cwd : Place) (path : Path) : Change Unit := fun tree =>
  match makeDirectory cwd path tree with
  | .ok _ tree => .ok () tree
  | .error (.system .noEntry text) tree =>
    if path.parts = [] then .error (.system .noEntry text) tree
    else match makePath cwd path.parent tree with
      | .error e tree => .error e tree
      | .ok _ tree => ensureDirectory cwd path tree
  | .error e tree =>
    match e, tree.isDirectory cwd path with
    | .system _ _, .ok true => .ok () tree
    | _, _ => .error e tree
termination_by path.parts.length
decreasing_by
  rename_i h
  have : path.parts.length ≠ 0 := by simpa using h
  simp [Path.parent]; omega

/-- Makes a directory and the missing ones above it; what is missing is found by
looking at the directory above first. -/
def makeWay (cwd : Place) (path : Path) : Change Unit := fun tree =>
  if _h : 1 < path.parts.length then
    match tree.pathExists cwd path.parent with
    | .ok true => ensureDirectory cwd path tree
    | _ =>
      match makeWay cwd path.parent tree with
      | .error (.system .alreadyExists _) tree => ensureDirectory cwd path tree
      | .error e tree => .error e tree
      | .ok _ tree => ensureDirectory cwd path tree
  else ensureDirectory cwd path tree
termination_by path.parts.length
decreasing_by simp [Path.parent]; omega

/-- The link or entry at a place and everything below it goes away. -/
def removeAll (place : Place) : Change Unit := fun tree => .ok () (tree.removeBelow place)

/-! ## Copying -/

/-- One entry that could not be copied. -/
structure CopyFault where
  /-- Where it should have been copied from. -/
  source : Text
  /-- Where it should have been copied to. -/
  target : Text
  /-- Why it was not. -/
  reason : Text
  deriving DecidableEq, Repr

/-- The wording of the faults of a copy. -/
def CopyFault.report (faults : List CopyFault) : Text :=
  .join ["[", .intercalate ", " (faults.map fun fault =>
    .join ["(", Text.quoted fault.source, ", ", Text.quoted fault.target, ", ",
      Text.quoted fault.reason, ")"]), "]"]

/-- Copies a file.  Where a directory stands at the target, the copy goes into
it under the source's name. -/
def copyFile (cwd : Place) (source target : Path) : Change Unit := fun tree =>
  let target := match tree.isDirectory cwd target with
    | .ok true => target.child source.name
    | _ => target
  match tree.read cwd source with
  | .error e => .error e tree
  | .ok content => write cwd .replace target content tree

/-- The names in the directory that a path leads to. -/
def list (tree : FileTree) (cwd : Place) (path : Path) : Except FileError (List Name) := do
  let place ← tree.placeOf cwd true path
  match tree.node? place with
  | some .directory => .ok (tree.childNames place)
  | some _ => .error (.system .notDirectory path.text)
  | none => .error (.system .noEntry path.text)

/-- An answer about the files on the way of a change. -/
def inspect {α : Type} (question : FileTree → Except FileError α) : Change α := fun tree =>
  match question tree with
  | .ok answer => .ok answer tree
  | .error e => .error e tree

/-- Copies one entry, links followed, where `copyDirectory` is how a directory is
copied. -/
def copyEntry (cwd : Place) (copyDirectory : Path → Path → Change (List CopyFault))
    (source target : Path) : Change (List CopyFault) := fun tree =>
  match tree.status cwd source with
  | .ok .directory => copyDirectory source target tree
  | .ok _ | .error (.system .noEntry _) =>
    match copyFile cwd source target tree with
    | .ok _ tree => .ok [] tree
    | .error e tree => .error e tree
  | .error e => .error e tree

/-- A copy that may stop half-way: why it stopped is reported instead.  Only a NUL
in a path is passed on. -/
def reporting (source target : Path) (copy : Change (List CopyFault)) : Change (List CopyFault) :=
  fun tree =>
    match copy tree with
    | .ok faults tree => .ok faults tree
    | .error .embeddedNul tree => .error .embeddedNul tree
    | .error e tree => .ok [⟨source.text, target.text, e.message⟩] tree

/-- Copies what is in the directory `source` into `target`, which is made if it
is not there and otherwise keeps what it holds.  An entry that cannot be copied is
reported and does not stop the others.  Directories are followed `depth` deep;
paths are too long for the system before that ends. -/
def copyTree (cwd : Place) : Nat → Path → Path → Change (List CopyFault)
  | 0, source, _ => throw (.system .nameTooLong source.text)
  | depth + 1, source, target => do
    let names ← inspect (·.list cwd source)
    makeWay cwd target
    names.foldlM (fun faults name => do
      let more ← reporting (source.child name) (target.child name)
        (copyEntry cwd (copyTree cwd depth) (source.child name) (target.child name))
      return faults ++ more) []

end FileTree
end Reimport
