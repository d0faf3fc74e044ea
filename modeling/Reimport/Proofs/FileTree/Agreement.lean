import Reimport.Proofs.Invariance
import Reimport.Proofs.FileTree.Building

/-!
# Trees that hold the same

A tree lists its entries in the order in which they came to be, but what is asked about
paths is answered from what stands at the places (`Agrees`): two trees that hold the same
at every place give the same answers.  Where a path leads to does not depend on what is
written in the files either (`SameShape`).

A change that is made in two trees succeeds on both or fails alike on both if they hold the
same along the paths that it goes (`Parallel`), and leaves them so.  Where the trees hold the
same everywhere, these are all paths.
-/
namespace Reimport.FileTree

/-- Two trees hold the same but for what is written in their files. -/
def SameShape (tree other : FileTree) : Prop :=
  ∀ place, tree.node? place = other.node? place ∨
    ∃ old new, tree.node? place = some (.file old) ∧ other.node? place = some (.file new)

namespace SameShape
variable {tree other : FileTree} {cwd : Place} (same : tree.SameShape other)
include same

theorem linkTarget? (place : Place) : tree.linkTarget? place = other.linkTarget? place := by
  rcases same place with hn | ⟨old, new, hn, hn'⟩
  · exact linkTarget?_of_node? hn
  · rw [FileTree.linkTarget?, FileTree.linkTarget?, hn, hn']

/-- **Following names asks for directories and links**, not for what is in a file. -/
theorem locate (followLast : Bool) (links : Nat) (here : Place) (names : List Name) :
    tree.locate followLast links here names = other.locate followLast links here names := by
  -- Outside, the links that are left to follow; inside, the names.
  induction links using Nat.strongRecOn generalizing here names with
  | ind links fewer =>
  induction names generalizing here with
  | nil => rw [FileTree.locate, FileTree.locate]
  | cons name rest ih =>
    rw [FileTree.locate, FileTree.locate]
    rcases same here with hh | ⟨old, new, hh, hh'⟩
    · rcases same (here ++ [name]) with hn | ⟨old, new, hn, hn'⟩
      · cases links with
        | zero => simp only [hh, hn, ih]
        | succ links => simp only [hh, hn, ih, fewer links (Nat.lt_succ_self links)]
      · simp only [hh, hn, hn', ih]
    · simp only [hh, hh']

theorem canonical (path : Path) : tree.canonical cwd path = other.canonical cwd path := by
  rw [FileTree.canonical, FileTree.canonical, canonicalPlace_eq, canonicalPlace_eq,
    resolveFrom_congr same.linkTarget? (room_nil tree) (room_nil other), settle, settle,
    same.locate]

end SameShape

/-- Two trees hold the same at every place. -/
def Agrees (tree other : FileTree) : Prop := ∀ place, tree.node? place = other.node? place

namespace Agrees
variable {tree other : FileTree} {cwd : Place} (agrees : tree.Agrees other)

theorem trans {third : FileTree} (agrees : tree.Agrees other) (next : other.Agrees third) :
    tree.Agrees third := fun place => (agrees place).trans (next place)

include agrees

theorem sameShape : tree.SameShape other := fun place => .inl (agrees place)

theorem linkTarget? (place : Place) : tree.linkTarget? place = other.linkTarget? place :=
  agrees.sameShape.linkTarget? place

theorem locate (followLast : Bool) (links : Nat) (here : Place) (names : List Name) :
    tree.locate followLast links here names = other.locate followLast links here names :=
  agrees.sameShape.locate followLast links here names

theorem placeOf (followLast : Bool) (path : Path) :
    tree.placeOf cwd followLast path = other.placeOf cwd followLast path := by
  rw [FileTree.placeOf, FileTree.placeOf, agrees.locate]

theorem status (path : Path) : tree.status cwd path = other.status cwd path := by
  simp only [FileTree.status, agrees.placeOf, agrees _]

theorem read (path : Path) : tree.read cwd path = other.read cwd path := by
  rw [FileTree.read, FileTree.read, agrees.status]

theorem canonical (path : Path) : tree.canonical cwd path = other.canonical cwd path :=
  agrees.sameShape.canonical path

theorem put {place : Place} (nonempty : place ≠ []) (node : Node) :
    (tree.put place node).Agrees (other.put place node) := by
  intro there
  rw [node?_put _ nonempty, node?_put _ nonempty, agrees]

theorem removeBelow (root : Place) : (tree.removeBelow root).Agrees (other.removeBelow root) := by
  intro place
  by_cases ne : place = []
  · rw [ne, node?_nil, node?_nil]
  · rw [node?_removeBelow _ _ ne, node?_removeBelow _ _ ne, agrees]

theorem wellFormed (h : tree.WellFormed) : other.WellFormed :=
  ⟨fun place node hn => h.proper place node (by rw [agrees, hn]),
    fun place name node hn => by rw [← agrees]; exact h.nested place name node (by rw [agrees, hn])⟩

theorem stands {place : Place} (h : tree.Stands place) : other.Stands place :=
  ⟨h.proper, fun above hp => by rw [← agrees]; exact h.directory above hp⟩

end Agrees

/-! ## Changes along some paths -/

/-- Along some paths two related trees cannot be told apart: the paths lead to the same places in
both, the same stands there, and what is made or written there leaves the trees related. -/
structure Parallel (cwd : Place) (R : FileTree → FileTree → Prop) (paths : Path → Prop) : Prop where
  placeOf : ∀ tree other path, R tree other → paths path → ∀ followLast,
    tree.placeOf cwd followLast path = other.placeOf cwd followLast path
  node? : ∀ tree other path place followLast, R tree other → paths path →
    tree.placeOf cwd followLast path = .ok place → tree.node? place = other.node? place
  made : ∀ tree other path place, R tree other → paths path →
    tree.placeOf cwd false path = .ok place → tree.node? place = none →
    R (tree.put place .directory) (other.put place .directory)
  written : ∀ tree other path place content, R tree other → paths path →
    tree.placeOf cwd true path = .ok place →
    (tree.node? place = none ∨ ∃ old, tree.node? place = some (.file old)) →
    R (tree.put place (.file content)) (other.put place (.file content))

namespace Parallel
variable {cwd : Place} {R : FileTree → FileTree → Prop} {paths : Path → Prop} {path : Path}
  (parallel : Parallel cwd R paths) (along : paths path)
include parallel along

theorem isDirectory {tree other : FileTree} (related : R tree other) :
    tree.isDirectory cwd path = other.isDirectory cwd path := by
  have same := parallel.placeOf tree other path related along true
  rw [FileTree.isDirectory, FileTree.isDirectory, ask, ask, status, status, ← same]
  cases hp : tree.placeOf cwd true path with
  | error e => rfl
  | ok place =>
    have onPlace := parallel.node? tree other path place true related along hp
    simp only [Bind.bind, Except.bind, onPlace]

theorem makeDirectory : Uniform R (makeDirectory cwd path) := by
  intro tree other related
  have same := parallel.placeOf tree other path related along false
  rw [FileTree.makeDirectory, FileTree.makeDirectory, ← same]
  cases hp : tree.placeOf cwd false path with
  | error e => exact .error related
  | ok place =>
    simp only [← parallel.node? tree other path place false related along hp]
    cases hn : tree.node? place with
    | some node => exact .error related
    | none => exact .ok rfl (parallel.made tree other path place related along hp hn)

/-- Where a directory cannot be made for another reason than that the one above it is
missing, it may be there already. -/
theorem accept (e : FileError) :
    Uniform R (fun tree => match e, tree.isDirectory cwd path with
      | .system _ _, .ok true => .ok () tree
      | _, _ => .error e tree : Change Unit) := by
  intro tree other related
  simp only [parallel.isDirectory along related]
  split
  · exact .ok rfl related
  · exact .error related

theorem ensureDirectory : Uniform R (ensureDirectory cwd path) := by
  intro tree other related
  have made := parallel.makeDirectory along tree other related
  rw [FileTree.ensureDirectory, FileTree.ensureDirectory]
  generalize FileTree.makeDirectory cwd path tree = result,
    FileTree.makeDirectory cwd path other = result' at made
  cases made with
  | ok _ related => exact .ok rfl related
  | error related => exact parallel.accept along _ _ _ related

theorem makePath (above : ∀ path, paths path → paths path.parent) :
    Uniform R (makePath cwd path) := by
  induction hl : path.parts.length using Nat.strongRecOn generalizing path with
  | ind count shorter =>
  intro tree other related
  have made := parallel.makeDirectory along tree other related
  rw [FileTree.makePath, FileTree.makePath]
  generalize FileTree.makeDirectory cwd path tree = result,
    FileTree.makeDirectory cwd path other = result' at made
  cases made with
  | ok _ related => exact .ok rfl related
  | @error e tree other related =>
    by_cases missing : ∃ text, e = .system .noEntry text
    -- the directory above is missing in both trees and is made first
    · obtain ⟨text, rfl⟩ := missing
      simp only
      split
      · exact .error related
      · rename_i hp
        have fewer : path.parent.parts.length < count := by
          have := List.length_pos_iff.2 hp
          simp only [Path.parent, List.length_dropLast]
          omega
        have first := shorter _ fewer (above path along) rfl tree other related
        generalize FileTree.makePath cwd path.parent tree = result,
          FileTree.makePath cwd path.parent other = result' at first
        cases first with
        | ok _ related => exact parallel.ensureDirectory along _ _ related
        | error related => exact .error related
    · have accepted := parallel.accept along e tree other related
      cases e with
      | embeddedNul => exact accepted
      | linkCycle _ => exact accepted
      | system cause text =>
        cases cause with
        | noEntry => exact absurd ⟨text, rfl⟩ missing
        | _ => exact accepted

theorem write (mode : WriteMode) (content : Bytes) : Uniform R (write cwd mode path content) := by
  intro tree other related
  have same := parallel.placeOf tree other path related along true
  rw [FileTree.write, FileTree.write, ← same]
  cases hp : tree.placeOf cwd true path with
  | error e => exact .error related
  | ok place =>
    have writes := parallel.written tree other path place
    simp only [← parallel.node? tree other path place true related along hp]
    cases hn : tree.node? place with
    | none => exact .ok rfl (writes _ related along hp (.inl hn))
    | some node =>
      cases node with
      | file old => exact .ok rfl (writes _ related along hp (.inr ⟨old, hn⟩))
      | directory => exact .error related
      | link _ => exact .error related

end Parallel

/-! ## Changes of trees that hold the same -/

section Changes
variable {cwd : Place}

theorem parallel_agrees (cwd : Place) : Parallel cwd Agrees fun _ => True where
  placeOf _ _ path agrees _ followLast := agrees.placeOf followLast path
  node? _ _ _ place _ agrees _ _ := agrees place
  made _ _ _ _ agrees _ _ absent := agrees.put (vacant_of_none absent).ne_nil _
  written _ _ _ _ _ agrees _ _ free := agrees.put (vacant_of_written free).ne_nil _

theorem uniform_makeDirectory (path : Path) : Uniform Agrees (makeDirectory cwd path) :=
  (parallel_agrees cwd).makeDirectory trivial

theorem uniform_makePath (path : Path) : Uniform Agrees (makePath cwd path) :=
  (parallel_agrees cwd).makePath trivial fun _ _ => trivial

theorem uniform_write (mode : WriteMode) (path : Path) (content : Bytes) :
    Uniform Agrees (write cwd mode path content) :=
  (parallel_agrees cwd).write trivial mode content

end Changes
end Reimport.FileTree
