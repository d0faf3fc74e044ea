import Reimport.FileTree.Search
import Reimport.World

/-!
# Corpora

A corpus is what some directories hold: the files below them whose names end in
an extension, less those whose names are excluded.  Directories are visited in
the order given and the files of one in the order of their paths, name by name,
so that the order does not depend on the system's.  A file that is reached twice
is an entry once, under its path without links.
-/
namespace Reimport.Corpus

/-- Whether one name comes before another or is equal to it: characters are compared
one by one by their code points, and a name comes before its continuations. -/
def nameBefore : Name → Name → Bool
  | [], _ => true
  | _ :: _, [] => false
  | c :: first, d :: second => c < d || (c = d && nameBefore first second)

/-- Whether one row of names comes before another or is equal to it: names are
compared one by one. -/
def namesBefore : List Name → List Name → Bool
  | [], _ => true
  | _ :: _, [] => false
  | name :: first, other :: second =>
    if name = other then namesBefore first second else nameBefore name other

/-- Paths in the order of their names. -/
def inOrder (paths : List Path) : List Path :=
  paths.mergeSort fun first second => namesBefore first.parts second.parts

/-- The places of the paths that are files and not excluded, each once and none
of those found before. -/
def gather (excluded : List Name) (found : List Path) : List Path → Act (List Path)
  | [] => return found
  | path :: rest => do
    if !(← Act.ask fun tree cwd => tree.isFile cwd path) || excluded.contains path.name then
      gather excluded found rest
    else
      let place ← Act.ask fun tree cwd => tree.canonical cwd path
      gather excluded (if found.contains place then found else found ++ [place]) rest

/-- The files of one more directory after those found before. -/
def addRoot (extension : Text) (excluded : List Name) (found : List Path) (root : Path) :
    Act (List Path) := do
  if ← Act.ask fun tree cwd => tree.isDirectory cwd root then
    match Glob.components? ('*' :: extension) with
    | none => throw .pattern
    | some components =>
      let paths ← Act.ask fun tree cwd => tree.matching cwd root components
      gather excluded found (inOrder paths)
  else
    Act.log .warning
      (.join ["Corpus directory not found: [path]", Markup.escape root.text, "[/path]"])
    return found

/-- The entries below some directories. -/
def discover (roots : List Path) (extension : Text) (excluded : List Name) :
    Act (List Entry) := do
  let places ← roots.foldlM (addRoot extension excluded) []
  return places.map Entry.mk

end Reimport.Corpus
