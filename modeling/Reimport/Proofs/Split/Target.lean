import Reimport.Proofs.FileTree.Change
import Reimport.Proofs.FileTree.Resolve
import Reimport.Proofs.Text.Utf8
import Reimport.World

/-!
# Where the sources of an entry go

A source is written to the place that its name leads to from the working directory,
once all links are resolved.  The working directory of a split holds nothing at
first (`EmptyWorkdir`), and a split only ever adds directories and files inside it
(`Filled`), so no link ever stands there: every place inside has a straight way, and
where a name leads does not depend on how much of the entry has been written
(`Filled.canonicalPlace_eq`).
-/
namespace Reimport

/-- A place properly below another. -/
def Below (root place : Place) : Prop := root <+: place ∧ place ≠ root

/-- A place on the way to a place below another is below it too or on the way to it. -/
theorem Below.above {root place above : Place} (h : Below root place) (hp : above <+: place)
    (ha : ¬ Below root above) : above <+: root := by
  rcases List.prefix_or_prefix_of_prefix hp h.1 with h' | h'
  · exact h'
  · by_cases he : above = root
    · exact he ▸ List.prefix_refl _
    · exact absurd ⟨h', he⟩ ha

theorem Below.ne_nil {root place : Place} (h : Below root place) : place ≠ [] := by
  rintro rfl
  exact h.2 (List.prefix_nil.1 h.1).symm

theorem not_prefix_dropLast {place : Place} (nonempty : place ≠ []) : ¬ place <+: place.dropLast := by
  intro h
  have := h.length_le
  have := List.length_pos_iff.2 nonempty
  rw [List.length_dropLast] at *
  omega

/-- The working directory of a split: `workdir` leads to the directory at `root`, and
nothing is below it. -/
structure EmptyWorkdir (world : World) (workdir : Path) (root : Place) : Prop where
  home : world.tree.Stands world.cwd
  plain : Path.dot ∉ workdir.parts
  leads : world.tree.placeOf world.cwd true workdir = .ok root
  directory : world.tree.node? root = some .directory
  nothing : ∀ place, Below root place → world.tree.node? place = none

namespace FileTree

/-- The place where the source called `name` goes, with `workdir` as the working
directory. -/
def sourcePlace? (tree : FileTree) (cwd : Place) (workdir : Path) (name : Text) : Option Place :=
  (tree.canonicalPlace cwd (workdir.under (Path.parse name))).toOption

/-- The tree differs from what it was before below `root` only, and no link is there. -/
structure Filled (before : FileTree) (root : Place) (tree : FileTree) : Prop where
  outside : ∀ place, ¬ Below root place → tree.node? place = before.node? place
  unlinked : ∀ place, Below root place → tree.linkTarget? place = none

end FileTree

/-- A name leads along names that are not `.` from a place whose names lead down. -/
theorem Path.dot_not_mem_under {root : Place} (proper : ∀ name ∈ root, IsProper name)
    (name : Text) : dot ∉ ((ofPlace root).under (parse name)).parts := by
  rw [under]
  split
  · exact dot_not_mem_partsOf name
  · intro hm
    rcases List.mem_append.1 hm with hm | hm
    · exact (proper _ hm).1 rfl
    · exact dot_not_mem_partsOf name hm

namespace EmptyWorkdir
variable {world : World} {workdir : Path} {root : Place}
  (workplace : EmptyWorkdir world workdir root)
include workplace

theorem stands : world.tree.Stands root :=
  (FileTree.locate_reached (workplace.home.start workdir).reached
    (FileTree.placeOf_eq_ok workplace.leads).2).stands workplace.directory

theorem filled : world.tree.Filled root world.tree := by
  refine ⟨fun _ _ => rfl, fun place hb => ?_⟩
  rw [FileTree.linkTarget?, workplace.nothing place hb]

/-- A name leads to its source along no name `.`. -/
theorem plain_under (name : Text) :
    Path.dot ∉ ((Path.ofPlace root).under (Path.parse name)).parts :=
  Path.dot_not_mem_under workplace.stands.proper name

theorem canonical_workdir : world.tree.canonical world.cwd workdir = .ok (Path.ofPlace root) := by
  rw [FileTree.canonical, FileTree.canonicalPlace_of_placeOf workplace.plain workplace.leads]
  rfl

end EmptyWorkdir

namespace FileTree.Filled
variable {world : World} {workdir : Path} {root : Place} {tree : FileTree}
  (workplace : EmptyWorkdir world workdir root) (filled : world.tree.Filled root tree)
include workplace filled

theorem linkTarget?_eq (place : Place) : tree.linkTarget? place = world.tree.linkTarget? place := by
  by_cases hb : Below root place
  · rw [filled.unlinked place hb, workplace.filled.unlinked place hb]
  · exact linkTarget?_of_node? (filled.outside place hb)

/-- Every place inside the working directory has a straight way. -/
theorem isStraight {place : Place} (hb : Below root place)
    (proper : ∀ name ∈ place, Path.IsProper name) : tree.IsStraight place := by
  refine ⟨proper, fun above hp => ?_⟩
  rw [filled.linkTarget?_eq workplace]
  by_cases ha : Below root above
  · exact workplace.filled.unlinked above ha
  · exact workplace.stands.isStraight.unlinked above (hb.above hp ha)

/-- What is resolved while a split is under way is what was resolved at its beginning. -/
theorem canonicalPlace_eq {path : Path} {place : Place} (plain : Path.dot ∉ path.parts)
    (h : tree.canonicalPlace world.cwd path = .ok place) (hb : Below root place) :
    world.tree.canonicalPlace world.cwd path = .ok place ∧
      ∀ name ∈ place, Path.IsProper name := by
  obtain ⟨hnul, hs⟩ := canonicalPlace_eq_ok.1 h
  rw [resolveFrom_congr (filled.linkTarget?_eq workplace) (room_nil tree)
    (room_nil world.tree)] at hs
  have hplace := settle_eq_ok hs
  have proper : ∀ name ∈ place, Path.IsProper name := by
    rw [hplace]
    exact proper_resolveFrom (workplace.home.start path).proper plain
  refine ⟨canonicalPlace_eq_ok.2 ⟨hnul, ?_⟩, proper⟩
  -- a circle that was met on the way is nowhere on the place itself
  have straight : world.tree.IsStraight ([] ++ place) :=
    workplace.filled.isStraight workplace hb proper
  have followed := locate_of_isStraight straight true linkLimit
  rw [List.nil_append] at followed
  rw [settle, ← hplace]
  split
  · rfl
  · rcases followed with hl | ⟨e, hl, hne⟩
    · rw [hl]
    · rw [hl]
      cases e <;> first | rfl | exact absurd rfl hne

end FileTree.Filled

/-- A path from a standing directory is resolved from there. -/
theorem FileTree.Stands.resolveFrom_under {tree : FileTree} {root : Place}
    (stands : tree.Stands root) (cwd : Place) (path : Path) :
    tree.resolveFrom tree.entries.length [] (FileTree.start cwd ((Path.ofPlace root).under path))
        ((Path.ofPlace root).under path).parts =
      tree.resolveFrom tree.entries.length [] (FileTree.start root path) path.parts := by
  rw [FileTree.start, FileTree.start, Path.under]
  by_cases habs : path.isAbsolute = true
  · rw [if_pos habs, if_pos habs, if_pos habs]
  · have straight : tree.IsStraight ([] ++ root) := stands.isStraight
    rw [if_neg habs, if_neg habs]
    show tree.resolveFrom _ _ [] (root ++ path.parts) = _
    rw [FileTree.resolveFrom_append, FileTree.resolveFrom_of_isStraight straight]
    rfl

namespace EmptyWorkdir
variable {world : World} {workdir : Path} {root : Place}
  (workplace : EmptyWorkdir world workdir root)
include workplace

/-- A path from the working directory as it was given is resolved from where that leads. -/
theorem resolveFrom_under (path : Path) :
    world.tree.resolveFrom world.tree.entries.length []
        (FileTree.start world.cwd (workdir.under path)) (workdir.under path).parts =
      world.tree.resolveFrom world.tree.entries.length [] (FileTree.start root path) path.parts := by
  rw [FileTree.start, FileTree.start, Path.under]
  by_cases habs : path.isAbsolute = true
  · rw [if_pos habs, if_pos habs, if_pos habs]
  · rw [if_neg habs, if_neg habs]
    show world.tree.resolveFrom _ _ (FileTree.start world.cwd workdir)
      (workdir.parts ++ path.parts) = _
    rw [FileTree.resolveFrom_append,
      FileTree.resolveFrom_of_placeOf workplace.plain workplace.leads]
    rfl

/-- A name leads to the same place from the working directory as it was given and as it
was resolved. -/
theorem sourcePlace?_eq {place : Place} {name : Text}
    (h : world.tree.canonicalPlace world.cwd ((Path.ofPlace root).under (Path.parse name)) =
      .ok place) :
    world.tree.sourcePlace? world.cwd workdir name = some place := by
  obtain ⟨hnul, hs⟩ := FileTree.canonicalPlace_eq_ok.1 h
  rw [workplace.stands.resolveFrom_under] at hs
  suffices hc : world.tree.canonicalPlace world.cwd (workdir.under (Path.parse name)) =
      .ok place by
    rw [FileTree.sourcePlace?, hc]
    rfl
  refine FileTree.canonicalPlace_eq_ok.2 ⟨?_, by rw [workplace.resolveFrom_under, hs]⟩
  by_cases habs : (Path.parse name).isAbsolute = true
  · rw [Path.under, if_pos habs] at hnul ⊢
    exact hnul
  · rw [Path.under, if_neg habs, Path.contains_nul_eq_false] at hnul ⊢
    intro part hm
    rcases List.mem_append.1 hm with hm | hm
    · exact Path.contains_nul_eq_false.1 (FileTree.placeOf_eq_ok workplace.leads).1 part hm
    · exact hnul part (List.mem_append_right _ hm)

end EmptyWorkdir

end Reimport
