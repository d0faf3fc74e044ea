import Reimport.Path
import Reimport.Text.Utf8

/-!
# File trees

A file tree is a finite list of places with what stands there: a file with its
content, a directory, or a symbolic link with its target text.  A place is the
list of names from the root directory on, no link followed; the root directory
itself is always there and is not listed.

Everything else reads a tree through `node?` and `childNames` and changes it
through `put` and `removeBelow`, and the lemmas here say what a change does to
what is read.
-/
namespace Reimport

/-- A place in a file tree: the names from the root directory on. -/
abbrev Place := List Name

/-- What stands at a place. -/
inductive Node where
  /-- A regular file with its content. -/
  | file (content : Bytes)
  /-- A directory. -/
  | directory
  /-- A symbolic link with its target text. -/
  | link (target : Text)
  deriving DecidableEq, Repr

/-- A file tree: the places below the root directory with what stands there. -/
structure FileTree where
  /-- The places in the order in which they came to be. -/
  entries : List (Place × Node)
  deriving DecidableEq, Repr

namespace FileTree

/-- The tree that holds the root directory alone. -/
def empty : FileTree := ⟨[]⟩

/-- What stands at a place. -/
def node? (tree : FileTree) (place : Place) : Option Node :=
  if place = [] then some .directory else tree.entries.lookup place

/-- A list of entries with `node` at `place`. -/
def putEntry (place : Place) (node : Node) : List (Place × Node) → List (Place × Node)
  | [] => [(place, node)]
  | (other, old) :: rest =>
    if other = place then (place, node) :: rest else (other, old) :: putEntry place node rest

/-- The tree with `node` at `place`, whatever stood there before. -/
def put (tree : FileTree) (place : Place) (node : Node) : FileTree :=
  ⟨putEntry place node tree.entries⟩

/-- The tree without a place and all that is below it. -/
def removeBelow (tree : FileTree) (place : Place) : FileTree :=
  ⟨tree.entries.filter fun entry => !place.isPrefixOf entry.1⟩

/-- The names of what stands directly in the directory at a place. -/
def childNames (tree : FileTree) (place : Place) : List Name :=
  tree.entries.filterMap fun entry =>
    match entry.1.getLast? with
    | some name => if entry.1.dropLast = place then some name else none
    | none => none

/-- The target of the link that stands at a place. -/
def linkTarget? (tree : FileTree) (place : Place) : Option Text :=
  match tree.node? place with
  | some (.link target) => some target
  | _ => none

@[simp] theorem node?_nil (tree : FileTree) : tree.node? [] = some .directory := rfl

theorem lookup_cons_eq (place other : Place) (node : Node) (rest : List (Place × Node)) :
    ((other, node) :: rest).lookup place = if place = other then some node else rest.lookup place := by
  by_cases h : place = other
  · subst h; simp
  · have : (place == other) = false := by simpa using h
    simp [List.lookup_cons, this, h]

theorem lookup_putEntry (place other : Place) (node : Node) (entries : List (Place × Node)) :
    (putEntry place node entries).lookup other =
      if other = place then some node else entries.lookup other := by
  induction entries with
  | nil => simp only [putEntry, lookup_cons_eq]
  | cons entry rest ih =>
    obtain ⟨q, old⟩ := entry
    simp only [putEntry]
    split
    · rename_i hq
      subst hq
      simp only [lookup_cons_eq]
      split <;> rfl
    · rename_i hq
      simp only [lookup_cons_eq, ih]
      by_cases h : other = place
      · subst h; simp [Ne.symm hq]
      · simp [h]

/-- **What a change does**: the changed place reads as it was set, every other
place as before. -/
theorem node?_put (tree : FileTree) {place : Place} (nonempty : place ≠ []) (other : Place)
    (node : Node) :
    (tree.put place node).node? other = if other = place then some node else tree.node? other := by
  simp only [node?, put, lookup_putEntry]
  by_cases h : other = []
  · subst h; simp [nonempty.symm]
  · simp [h]

theorem lookup_filter_places (keep : Place → Bool) (entries : List (Place × Node)) (place : Place) :
    (entries.filter fun entry => keep entry.1).lookup place =
      if keep place then entries.lookup place else none := by
  induction entries with
  | nil => simp
  | cons entry rest ih =>
    obtain ⟨q, node⟩ := entry
    simp only [List.filter_cons]
    split
    · rename_i hq
      simp only [lookup_cons_eq, ih]
      by_cases h : place = q
      · subst h; simp [hq]
      · simp [h]
    · rename_i hq
      simp only [lookup_cons_eq, ih]
      by_cases h : place = q
      · subst h; simp [hq]
      · simp [h]

/-- **What a removal does**: nothing is left at or below the place, and every
other place reads as before. -/
theorem node?_removeBelow (tree : FileTree) (place : Place) {other : Place} (ne : other ≠ []) :
    (tree.removeBelow place).node? other =
      if place.isPrefixOf other then none else tree.node? other := by
  simp only [node?, removeBelow, ne, if_false]
  rw [lookup_filter_places (fun p => !place.isPrefixOf p)]
  by_cases h : place.isPrefixOf other = true <;> simp [h]

theorem node?_removeBelow_inside (tree : FileTree) {place other : Place} (nonempty : place ≠ [])
    (h : place <+: other) : (tree.removeBelow place).node? other = none := by
  have ne : other ≠ [] := by
    rintro rfl
    exact nonempty (List.prefix_nil.1 h)
  rw [node?_removeBelow tree place ne, if_pos (List.isPrefixOf_iff_prefix.2 h)]

theorem node?_removeBelow_outside (tree : FileTree) {place other : Place}
    (h : ¬ place <+: other) : (tree.removeBelow place).node? other = tree.node? other := by
  by_cases ne : other = []
  · rw [ne, node?_nil, node?_nil]
  · rw [node?_removeBelow tree place ne, if_neg (mt List.isPrefixOf_iff_prefix.1 h)]

end FileTree
end Reimport
