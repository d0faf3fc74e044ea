import Reimport.FileTree.Files
import Reimport.Path.Glob

/-!
# Searching a tree

`matching` lists the paths below a directory that a path pattern selects.  The
directories below are those that are reached without following a link; an entry
at the end of the pattern may be a link.  The order of the list means nothing:
what uses it sorts it.
-/
namespace Reimport.FileTree

/-- The directories at and below a place, as names from there on.  Only
directories themselves are listed, no links to directories. -/
def directoriesBelow (tree : FileTree) (place : Place) : List (List Name) :=
  [] :: tree.entries.filterMap fun entry =>
    match entry.2 with
    | .directory =>
      if place.isPrefixOf entry.1 && place.length < entry.1.length then
        some (entry.1.drop place.length)
      else none
    | _ => none

/-- The paths that a list of pattern components selects from a path on. -/
def selected (tree : FileTree) (cwd : Place) (path : Path) :
    List Glob.Component → Except FileError (List Path)
  | [] => .ok [path]
  | .itself :: _ => .ok [path]
  | .exactly name :: rest => do
    let there ← if rest = [] then tree.pathExists cwd (path.child name)
      else tree.isDirectory cwd (path.child name)
    if there then selected tree cwd (path.child name) rest else .ok []
  | .wild pattern :: rest => do
    let names ← tree.list cwd path
    let found ← (names.filter (Glob.matchesName pattern)).mapM fun name => do
      let usable ← if rest = [] then .ok true else tree.isDirectory cwd (path.child name)
      if usable then selected tree cwd (path.child name) rest else .ok []
    .ok found.flatten
  | .anyDepth :: rest => do
    let place ← tree.placeOf cwd true path
    let found ← (tree.directoriesBelow place).mapM fun names =>
      selected tree cwd ⟨path.root, path.parts ++ names⟩ rest
    .ok found.flatten

/-- The paths below a directory that a pattern selects at any depth. -/
def matching (tree : FileTree) (cwd : Place) (directory : Path)
    (components : List Glob.Component) : Except FileError (List Path) :=
  selected tree cwd directory (.anyDepth :: components)

end Reimport.FileTree
