import Reimport.Proofs.FileTree.Descent
import Reimport.Proofs.FileTree.NulFree
import Reimport.Proofs.Walk.Artifacts
import Reimport.Proofs.Walk.Order

/-!
# A run with and without artifacts

The same run is made twice from the same world, once with artifacts kept and once without
(`Twins`).  What is kept goes to places of its own (`Area`), and all else in the two worlds stays
the same (`Beside`): the directories that were there stand, and links come to be in the scratch
directory alone (`Tame`), so that no path of the work leads elsewhere in the one world than in
the other.

Here this is shown for what the walk does itself: it makes the same scratch directory in both
worlds (`makeScratch_beside`), keeps the exports in it (`uniform_keep`), copies it to the area
alone and never fails at that (`keepArtifacts_beside`), and removes it (`removeScratch_beside`).
-/
namespace Reimport

/-- A run and the same run with artifacts kept. -/
structure Twins where
  /-- How entries are split. -/
  splitter : Splitter
  /-- The compiler under test. -/
  compiler : Compiler
  /-- The directory in which scratch directories are made. -/
  scratchParent : Path
  /-- Where that directory is. -/
  home : Place
  /-- Where artifacts are kept, if they are. -/
  artifacts : Path
  /-- The world in which both runs are begun. -/
  world : World

namespace Twins

section Definitions
variable (twins : Twins)

/-- The walk of one of the runs. -/
def walk (artifacts : Option Path) : Walk :=
  ⟨twins.splitter, twins.compiler, artifacts, twins.scratchParent⟩

/-- The walk that keeps no artifacts. -/
def plain : Walk := twins.walk none

/-- The walk that keeps artifacts. -/
def keeping : Walk := twins.walk (some twins.artifacts)

/-- The files with which both runs are begun. -/
abbrev tree : FileTree := twins.world.tree

/-- The working directory of both runs. -/
abbrev cwd : Place := twins.world.cwd

/-- The path of the scratch directory with a number. -/
abbrev workdir (number : Nat) : Path := Walk.scratchPath twins.scratchParent number

/-- The place of the scratch directory with a number. -/
def root (number : Nat) : Place := twins.home ++ [Walk.scratchStem ++ Text.decimalNat number]

/-- A place in some scratch directory. -/
def InScratch (place : Place) : Prop := ∃ number, twins.root number <+: place

/-- Where keeping the artifacts may change something: the places that their path, or a path
below it, leads to, and the directories that may be missing on the way. -/
def Area (place : Place) : Prop :=
  twins.keeping.KeepsAt twins.tree twins.cwd place ∨
    twins.keeping.MakesAt twins.tree twins.cwd place ∧ twins.tree.node? place ≠ some .directory

/-- The area of the artifacts is apart from the scratch directories. -/
structure Apart : Prop where
  /-- The working directory stands, and nothing in the files holds a NUL. -/
  fit : FileTree.Fit twins.cwd twins.tree
  /-- Scratch directories can be made, and no link takes the place of one. -/
  parent : twins.tree.placeOf twins.cwd true twins.scratchParent = .ok twins.home
  directory : twins.tree.node? twins.home = some .directory
  vacant : ∀ number, twins.tree.linkTarget? (twins.root number) = none
  plain : Path.dot ∉ twins.scratchParent.parts
  /-- The path of the artifacts holds no NUL. -/
  named : twins.artifacts.NulFree
  /-- No place of the area is in a scratch directory. -/
  outside : ∀ place, twins.InScratch place → ¬ twins.Area place
  /-- No path of the artifacts leads elsewhere because of a link in a scratch directory. -/
  steady : ∀ other : FileTree,
    (∀ place, ¬ twins.InScratch place → other.linkTarget? place = twins.tree.linkTarget? place) →
    ∀ path place, twins.keeping.MakesAlong path → other.Reaches twins.cwd path place →
      twins.tree.Reaches twins.cwd path place

/-- The surroundings of the work on an entry, in the scratch directory with the number `now`, or
between two entries: the directories and links of the beginning are there, and a further link is
in the scratch directory, but not in the place of an export. -/
structure Tame (now : Option Nat) (tree : FileTree) : Prop where
  wellFormed : tree.WellFormed
  free : tree.NulFree
  directory : ∀ place, twins.tree.node? place = some .directory →
    tree.node? place = some .directory
  link : ∀ place target, twins.tree.linkTarget? place = some target →
    tree.linkTarget? place = some target
  added : ∀ place, (∀ number ∈ now, ¬ twins.root number <+: place) →
    tree.linkTarget? place = twins.tree.linkTarget? place
  unlinked : ∀ number ∈ now, ∀ names ∈ [[], [exportedName], [RoundTrip.obtainedName]],
    tree.linkTarget? (twins.root number ++ names) = none

/-- The files of the two runs: outside of the area they are the same. -/
structure Alongside (now : Option Nat) (tree other : FileTree) : Prop where
  files : ∀ place, ¬ twins.Area place → tree.node? place = other.node? place
  tame : twins.Tame now tree
  tame' : twins.Tame now other

/-- **Two worlds of the two runs**: the same has been launched in both, and given texts have been
said. -/
structure Beside (now : Option Nat) (stderr stderr' : Text) (world other : World) : Prop where
  cwd : world.cwd = twins.cwd
  cwd' : other.cwd = twins.cwd
  launches : world.launches = other.launches
  stderr : world.stderr = stderr
  stderr' : other.stderr = stderr'
  trees : twins.Alongside now world.tree other.tree

/-- Two worlds of the two runs in which the same has been said since given texts. -/
def Since (now : Option Nat) (stderr stderr' : Text) (world other : World) : Prop :=
  ∃ said, twins.Beside now (stderr ++ said) (stderr' ++ said) world other

end Definitions

variable {twins : Twins} {now : Option Nat} {number : Nat} {stderr stderr' : Text}
  {tree : FileTree} {world other : World}

theorem proper_exported : Path.IsProper exportedName := ⟨by decide, by decide⟩

theorem proper_obtained : Path.IsProper RoundTrip.obtainedName := ⟨by decide, by decide⟩

theorem inScratch_root (number : Nat) (names : List Name) :
    twins.InScratch (twins.root number ++ names) :=
  ⟨number, List.prefix_append _ _⟩

/-- No scratch directory is in another one. -/
theorem root_eq_of_prefix {first second : Nat} (h : twins.root first <+: twins.root second) :
    twins.root first = twins.root second :=
  h.eq_of_length (by simp [root])

theorem Beside.since (beside : twins.Beside now stderr stderr' world other) :
    twins.Since now stderr stderr' world other :=
  ⟨[], by simpa using beside⟩

theorem echoed_since (now : Option Nat) (stderr stderr' : Text) :
    Echoed (twins.Since now stderr stderr') := by
  rintro world other text ⟨said, beside⟩
  refine ⟨said ++ text, beside.cwd, beside.cwd', beside.launches, ?_, ?_, beside.trees⟩
  · rw [← List.append_assoc, ← beside.stderr]
  · rw [← List.append_assoc, ← beside.stderr']

/-! ## Tame surroundings -/

section Tame
variable (tame : twins.Tame now tree)
include tame

theorem Tame.home (apart : twins.Apart) : tree.node? twins.home = some .directory :=
  tame.directory _ apart.directory

theorem Tame.fit (apart : twins.Apart) : FileTree.Fit twins.cwd tree :=
  ⟨tame.wellFormed, ⟨apart.fit.home.proper, fun above hp =>
    tame.directory above (apart.fit.home.directory above hp)⟩, tame.free⟩

/-- Outside of the scratch directories the links are those of the beginning. -/
theorem Tame.outside {place : Place} (h : ¬ twins.InScratch place) :
    tree.linkTarget? place = twins.tree.linkTarget? place :=
  tame.added place fun number _ hp => h ⟨number, hp⟩

/-- The directory of the scratch directories stays where it is. -/
theorem Tame.parent (apart : twins.Apart) :
    tree.placeOf twins.cwd true twins.scratchParent = .ok twins.home := by
  refine FileTree.placeOf_of_kept tame.directory tame.link apart.parent fun _ => ?_
  rw [FileTree.linkTarget?, tame.home apart]

/-- No link takes the place of a scratch directory. -/
theorem Tame.bare (apart : twins.Apart) (number : Nat) :
    tree.linkTarget? (twins.root number) = none := by
  by_cases inside : ∃ current ∈ now, twins.root current <+: twins.root number
  · obtain ⟨current, hc, hp⟩ := inside
    have := tame.unlinked current hc [] (by simp)
    rwa [List.append_nil, root_eq_of_prefix hp] at this
  · rw [tame.added _ fun current hc hp => inside ⟨current, hc, hp⟩]
    exact apart.vacant number

/-- What is built leaves the surroundings tame. -/
theorem Tame.of_built (apart : twins.Apart) {directories files : Path → Prop} {after : FileTree}
    (built : FileTree.Built twins.cwd directories files tree after) : twins.Tame now after := by
  have fit := (tame.fit apart).of_built built
  have keeps := built.keeps
  refine ⟨fit.wellFormed, fit.free, fun place hd => keeps.directory _ (tame.directory place hd),
    fun place target hl => ?_, fun place hp => ?_, fun number hn names hm => ?_⟩
  · rw [keeps.link]
    exact tame.link place target hl
  · rw [keeps.link]
    exact tame.added place hp
  · rw [keeps.link]
    exact tame.unlinked number hn names hm

/-- Where a scratch directory is, or would be, is the same in all tame surroundings. -/
theorem Tame.placeOf_workdir (apart : twins.Apart) {then' : Option Nat} {tree' : FileTree}
    (tame' : twins.Tame then' tree') (number : Nat) (followLast followLast' : Bool) :
    tree.placeOf twins.cwd followLast (twins.workdir number) =
        tree'.placeOf twins.cwd followLast' (twins.workdir number) ∧
      ∀ place, tree.placeOf twins.cwd followLast (twins.workdir number) = .ok place →
        place = twins.root number := by
  refine FileTree.placeOf_below (tame.parent apart) (tame'.parent apart) (tame.home apart)
    (by simp) ⟨?_, fun first hp hne => ?_, fun first hp => ?_, tame'.bare apart number⟩ _ _
  · intro name hm
    rw [List.mem_singleton.1 hm]
    exact Walk.proper_scratch number
  · rcases List.prefix_concat_iff.1 (show first <+: [] ++ [_] from hp) with he | he
    · exact absurd he hne
    · rw [List.prefix_nil.1 he, List.append_nil, tame.home apart, tame'.home apart]
  · rcases List.prefix_concat_iff.1 (show first <+: [] ++ [_] from hp) with he | he
    · rw [he]
      exact tame.bare apart number
    · rw [List.prefix_nil.1 he, List.append_nil, FileTree.linkTarget?, tame.home apart]

end Tame

/-- The surroundings in which both runs are begun are tame. -/
theorem Apart.tame (apart : twins.Apart) : twins.Tame none twins.tree :=
  ⟨apart.fit.wellFormed, apart.fit.free, fun _ h => h, fun _ _ h => h, fun _ _ => rfl,
    fun _ hn => by cases hn⟩

/-- A scratch directory can be made where its path leads and nothing is. -/
theorem Tame.scratch (tame : twins.Tame now tree) (apart : twins.Apart)
    (leads : tree.placeOf twins.cwd false (twins.workdir number) = .ok (twins.root number))
    (absent : tree.node? (twins.root number) = none) :
    Scratch tree twins.cwd (twins.workdir number) (twins.root number) := by
  refine ⟨tame.wellFormed, (tame.fit apart).home, fun hd => ?_, leads, absent⟩
  rcases List.mem_append.1 hd with hd | hd
  · exact apart.plain hd
  · exact (Walk.proper_scratch number).1 (List.mem_singleton.1 hd).symm

section Scratch
variable {start : FileTree}
  (scratch : Scratch start twins.cwd (twins.workdir number) (twins.root number))
include scratch

/-- Making the scratch directory leaves the surroundings tame. -/
theorem Tame.made (tame : twins.Tame none start) (apart : twins.Apart) :
    twins.Tame (some number) (start.put (twins.root number) .directory) := by
  have built : FileTree.Built twins.cwd (· = twins.workdir number) (fun _ => False) start
      (start.put (twins.root number) .directory) := .made .refl rfl scratch.leads scratch.absent
  have made := tame.of_built apart built
  refine { made with
    added := fun place _ => made.added place fun _ hn => by cases hn
    unlinked := ?_ }
  intro current hc names _
  cases hc
  rw [built.keeps.link, FileTree.linkTarget?, scratch.nothing (List.prefix_append _ _)]

/-- Removing the scratch directory leaves the surroundings as they are between two entries, if
it was made where nothing was. -/
theorem Tame.removed (tame : twins.Tame (some number) tree) (before : twins.Tame none start) :
    twins.Tame none (tree.removeBelow (twins.root number)) := by
  -- What was there at the beginning is not in the directory.
  have aside : ∀ place node, twins.tree.node? place = some node →
      (node = .directory ∨ ∃ target, node = .link target) → ¬ twins.root number <+: place := by
    intro place node hn kind hp
    have gone := scratch.nothing hp
    rcases kind with rfl | ⟨target, rfl⟩
    · rw [before.directory place hn] at gone
      cases gone
    · have hl := before.link place target (FileTree.linkTarget?_eq_some.2 hn)
      rw [FileTree.linkTarget?, gone] at hl
      cases hl
  have left : ∀ place, ¬ twins.root number <+: place →
      (tree.removeBelow (twins.root number)).node? place = tree.node? place :=
    fun _ hp => FileTree.node?_removeBelow_outside _ hp
  refine ⟨tame.wellFormed.removeBelow _, tame.free.removeBelow _, fun place hd => ?_,
    fun place target hl => ?_, fun place _ => ?_, fun _ hn => by cases hn⟩
  · rw [left place (aside place _ hd (.inl rfl))]
    exact tame.directory place hd
  · have hn := FileTree.linkTarget?_eq_some.1 hl
    rw [FileTree.linkTarget?_of_node? (left place (aside place _ hn (.inr ⟨target, rfl⟩)))]
    exact tame.link place target hl
  · by_cases hp : twins.root number <+: place
    · have none : twins.tree.linkTarget? place = none := by
        cases hl : twins.tree.linkTarget? place with
        | none => rfl
        | some target =>
          exact absurd hp (aside place _ (FileTree.linkTarget?_eq_some.1 hl) (.inr ⟨target, rfl⟩))
      rw [none, FileTree.linkTarget?,
        FileTree.node?_removeBelow_inside _ scratch.vacant.ne_nil hp]
    · rw [FileTree.linkTarget?_of_node? (left place hp)]
      exact tame.added place fun current hc => by cases hc; exact hp

end Scratch

/-! ## What the walk does in both worlds -/

section Trees
variable {tree' : FileTree}

/-- No place in a scratch directory is in the area. -/
theorem Alongside.inside (trees : twins.Alongside now tree tree') (apart : twins.Apart)
    (number : Nat) (names : List Name) :
    tree.node? (twins.root number ++ names) = tree'.node? (twins.root number ++ names) :=
  trees.files _ (apart.outside _ (inScratch_root number names))

theorem Alongside.root (trees : twins.Alongside now tree tree') (apart : twins.Apart)
    (number : Nat) : tree.node? (twins.root number) = tree'.node? (twins.root number) := by
  have inside := trees.inside apart number []
  rwa [List.append_nil] at inside

theorem put_alongside {place : Place} (nonempty : place ≠ []) (node : Node)
    (files : ∀ place, ¬ twins.Area place → tree.node? place = tree'.node? place) :
    ∀ there, ¬ twins.Area there →
      (tree.put place node).node? there = (tree'.put place node).node? there := by
  intro there outside
  rw [FileTree.node?_put _ nonempty, FileTree.node?_put _ nonempty, files there outside]

theorem Alongside.isFree_iff (trees : twins.Alongside now tree tree') (apart : twins.Apart)
    (number : Nat) :
    Walk.IsFree tree twins.cwd twins.scratchParent number ↔
      Walk.IsFree tree' twins.cwd twins.scratchParent number := by
  obtain ⟨same, reaches⟩ := trees.tame.placeOf_workdir apart trees.tame' number true true
  rw [Walk.IsFree, Walk.IsFree, FileTree.status, FileTree.status, ← same]
  cases hp : tree.placeOf twins.cwd true (twins.workdir number) with
  | error e => exact Iff.rfl
  | ok place =>
    have inside := trees.root apart number
    rw [← reaches place hp] at inside
    simp only [Bind.bind, Except.bind, inside]

/-- The scratch directory is made in both trees, if it is in one. -/
theorem makeDirectory_alongside (trees : twins.Alongside none tree tree') (apart : twins.Apart)
    (number : Nat) :
    (∃ e, FileTree.makeDirectory twins.cwd (twins.workdir number) tree = .error e tree ∧
        FileTree.makeDirectory twins.cwd (twins.workdir number) tree' = .error e tree') ∨
      Scratch tree twins.cwd (twins.workdir number) (twins.root number) ∧
        FileTree.makeDirectory twins.cwd (twins.workdir number) tree =
          .ok () (tree.put (twins.root number) .directory) ∧
        FileTree.makeDirectory twins.cwd (twins.workdir number) tree' =
          .ok () (tree'.put (twins.root number) .directory) ∧
        twins.Alongside (some number) (tree.put (twins.root number) .directory)
          (tree'.put (twins.root number) .directory) := by
  obtain ⟨same, reaches⟩ := trees.tame.placeOf_workdir apart trees.tame' number false false
  rw [FileTree.makeDirectory, FileTree.makeDirectory, ← same]
  cases hp : tree.placeOf twins.cwd false (twins.workdir number) with
  | error e => exact .inl ⟨e, rfl, rfl⟩
  | ok place =>
    obtain rfl := reaches place hp
    have inside := trees.root apart number
    simp only [← inside]
    cases hn : tree.node? (twins.root number) with
    | some node => exact .inl ⟨_, rfl, rfl⟩
    | none =>
      have scratch := trees.tame.scratch apart hp hn
      have scratch' := trees.tame'.scratch apart (same.symm.trans hp) (inside.symm.trans hn)
      exact .inr ⟨scratch, rfl, rfl, put_alongside scratch.vacant.ne_nil _ trees.files,
        trees.tame.made scratch apart, trees.tame'.made scratch' apart⟩

theorem removeBelow_alongside {start start' : FileTree} (begun : twins.Alongside none start start')
    (scratch : Scratch start twins.cwd (twins.workdir number) (twins.root number))
    (trees : twins.Alongside (some number) tree tree') :
    twins.Alongside none (tree.removeBelow (twins.root number))
      (tree'.removeBelow (twins.root number)) := by
  refine ⟨fun place outside => ?_, trees.tame.removed scratch begun.tame,
    trees.tame'.removed scratch begun.tame⟩
  by_cases ne : place = []
  · rw [ne, FileTree.node?_nil, FileTree.node?_nil]
  · rw [FileTree.node?_removeBelow _ _ ne, FileTree.node?_removeBelow _ _ ne,
      trees.files place outside]

/-- A directory that is made where the same path leads in both trees leaves them alongside. -/
theorem Alongside.made (trees : twins.Alongside now tree tree') (apart : twins.Apart) {path : Path}
    {place : Place} (leads : tree.placeOf twins.cwd false path = .ok place)
    (leads' : tree'.placeOf twins.cwd false path = .ok place) (absent : tree.node? place = none)
    (same : tree.node? place = tree'.node? place) :
    twins.Alongside now (tree.put place .directory) (tree'.put place .directory) := by
  have built : ∀ {tree : FileTree}, tree.placeOf twins.cwd false path = .ok place →
      tree.node? place = none → FileTree.Built twins.cwd (fun _ => True) (fun _ => False) tree
        (tree.put place .directory) := fun leads absent => .made .refl trivial leads absent
  exact ⟨put_alongside (FileTree.vacant_of_none absent).ne_nil _ trees.files,
    trees.tame.of_built apart (built leads absent),
    trees.tame'.of_built apart (built leads' (same.symm.trans absent))⟩

/-- And so does a file that is written there. -/
theorem Alongside.written (trees : twins.Alongside now tree tree') (apart : twins.Apart)
    {path : Path} {place : Place} (leads : tree.placeOf twins.cwd true path = .ok place)
    (leads' : tree'.placeOf twins.cwd true path = .ok place)
    (vacant : tree.node? place = none ∨ ∃ old, tree.node? place = some (.file old))
    (same : tree.node? place = tree'.node? place) (content : Bytes) :
    twins.Alongside now (tree.put place (.file content)) (tree'.put place (.file content)) := by
  have built : ∀ {tree : FileTree}, tree.placeOf twins.cwd true path = .ok place →
      (tree.node? place = none ∨ ∃ old, tree.node? place = some (.file old)) →
      FileTree.Built twins.cwd (fun _ => False) (fun _ => True) tree
        (tree.put place (.file content)) := fun leads vacant => .written .refl trivial leads vacant
  exact ⟨put_alongside (FileTree.vacant_of_written vacant).ne_nil _ trees.files,
    trees.tame.of_built apart (built leads vacant),
    trees.tame'.of_built apart (built leads' (same ▸ vacant))⟩

/-- The path of an export in the scratch directory with a number. -/
def IsExport (twins : Twins) (number : Nat) (path : Path) : Prop :=
  ∃ name ∈ [exportedName, RoundTrip.obtainedName], path = (twins.workdir number).child name

/-- Where an export is kept in the scratch directory is the same in both trees. -/
theorem Alongside.placeOf_export (trees : twins.Alongside (some number) tree tree')
    (apart : twins.Apart) {name : Name} (hm : name ∈ [exportedName, RoundTrip.obtainedName])
    (followLast : Bool) :
    tree.placeOf twins.cwd followLast ((twins.workdir number).child name) =
        tree'.placeOf twins.cwd followLast ((twins.workdir number).child name) ∧
      ∀ place, tree.placeOf twins.cwd followLast ((twins.workdir number).child name) = .ok place →
        place = twins.root number ++ [name] := by
  have proper : Path.IsProper name := by
    rcases List.mem_pair.1 hm with rfl | rfl
    · exact proper_exported
    · exact proper_obtained
  have listed : [name] ∈ [[], [exportedName], [RoundTrip.obtainedName]] := by
    rcases List.mem_pair.1 hm with rfl | rfl <;> simp
  have split : ∀ first : List Name, first <+: [Walk.scratchStem ++ Text.decimalNat number, name] →
      first = [] ∨ first = [Walk.scratchStem ++ Text.decimalNat number] ∨
        first = [Walk.scratchStem ++ Text.decimalNat number, name] := by
    intro first hp
    rcases List.prefix_concat_iff.1 (show first <+: [_] ++ [_] from hp) with he | he
    · exact .inr (.inr he)
    · rcases List.prefix_concat_iff.1 (show first <+: [] ++ [_] from he) with he | he
      · exact .inr (.inl he)
      · exact .inl (List.prefix_nil.1 he)
  have whole : twins.home ++ [Walk.scratchStem ++ Text.decimalNat number, name] =
      twins.root number ++ [name] := by simp [Twins.root]
  -- on the way are the home and the scratch directory, which are the same in both trees
  have way : FileTree.SameWay tree tree' twins.home
      [Walk.scratchStem ++ Text.decimalNat number, name] := by
    refine ⟨?_, fun first hp hne => ?_, fun first hp => ?_, ?_⟩
    · simpa using ⟨Walk.proper_scratch number, proper⟩
    · rcases split first hp with rfl | rfl | rfl
      · rw [List.append_nil, trees.tame.home apart, trees.tame'.home apart]
      · exact trees.root apart number
      · exact absurd rfl hne
    · rcases split first hp with rfl | rfl | rfl
      · rw [List.append_nil, FileTree.linkTarget?, trees.tame.home apart]
      · exact trees.tame.bare apart number
      · rw [whole]
        exact trees.tame.unlinked number rfl _ listed
    · rw [whole]
      exact trees.tame'.unlinked number rfl _ listed
  have path : (twins.workdir number).child name = ⟨twins.scratchParent.root,
      twins.scratchParent.parts ++ [Walk.scratchStem ++ Text.decimalNat number, name]⟩ := by
    simp [Walk.scratchPath, Path.child]
  rw [path, ← whole]
  exact FileTree.placeOf_below (trees.tame.parent apart) (trees.tame'.parent apart)
    (trees.tame.home apart) (by simp) way followLast followLast

/-- **The two trees cannot be told apart along the paths of the exports.** -/
theorem parallel_exports (apart : twins.Apart) (number : Nat) :
    FileTree.Parallel twins.cwd (twins.Alongside (some number)) (twins.IsExport number) where
  placeOf := by
    rintro tree tree' _ trees ⟨name, hm, rfl⟩ followLast
    exact (trees.placeOf_export apart hm followLast).1
  node? := by
    rintro tree tree' _ place followLast trees ⟨name, hm, rfl⟩ leads
    rw [(trees.placeOf_export apart hm followLast).2 place leads]
    exact trees.inside apart number [name]
  made := by
    rintro tree tree' _ place trees ⟨name, hm, rfl⟩ leads absent
    obtain ⟨same, reaches⟩ := trees.placeOf_export apart hm false
    obtain rfl := reaches place leads
    exact trees.made apart leads (same.symm.trans leads) absent (trees.inside apart number [name])
  written := by
    rintro tree tree' _ place content trees ⟨name, hm, rfl⟩ leads vacant
    obtain ⟨same, reaches⟩ := trees.placeOf_export apart hm true
    obtain rfl := reaches place leads
    exact trees.written apart leads (same.symm.trans leads) vacant
      (trees.inside apart number [name]) content

end Trees

/-- A change of the files is made in both worlds alike if it is in both trees, as long as a
property `P` of the first one holds. -/
theorem uniform_change {α : Type} {P : FileTree → Prop} {change : Place → FileTree.Change α}
    (h : Uniform (fun tree tree' => twins.Alongside now tree tree' ∧ P tree) (change twins.cwd)) :
    Uniform (fun world other => twins.Since now stderr stderr' world other ∧ P world.tree)
      (Act.change change) := by
  rintro ⟨tree, cwd, launches, text⟩ ⟨tree', cwd', launches', text'⟩
    ⟨⟨said, rfl, rfl, launched, before, before', trees⟩, holds⟩
  have changed := h tree tree' ⟨trees, holds⟩
  rw [Act.change, Act.change]
  generalize change twins.cwd tree = result, change twins.cwd tree' = result' at changed
  cases changed with
  | ok hv after => exact .ok hv ⟨⟨said, rfl, rfl, launched, before, before', after.1⟩, after.2⟩
  | error after => exact .error ⟨⟨said, rfl, rfl, launched, before, before', after.1⟩, after.2⟩

/-- **An export is kept in both worlds alike.** -/
theorem uniform_keep (apart : twins.Apart) {name : Name}
    (hm : name ∈ [exportedName, RoundTrip.obtainedName]) (content : Text) :
    Uniform (twins.Since (some number) stderr stderr')
      (RoundTrip.keep (twins.workdir number) name content) := by
  have written := (parallel_exports apart number).write ⟨name, hm, rfl⟩ .replace
    (Utf8.encode content)
  have changed : Uniform (fun world other =>
      twins.Since (some number) stderr stderr' world other ∧ True)
      (RoundTrip.keep (twins.workdir number) name content) :=
    uniform_change (P := fun _ => True) (by simpa only [and_true] using written)
  simpa only [and_true] using changed

/-- **The same scratch directory is made in both worlds**, or none in either. -/
theorem makeScratch_beside (beside : twins.Beside none stderr stderr' world other)
    (apart : twins.Apart) :
    (∃ failure, Walk.makeScratch twins.scratchParent world = .error failure world ∧
        Walk.makeScratch twins.scratchParent other = .error failure other) ∨
      ∃ number made made',
        Scratch world.tree twins.cwd (twins.workdir number) (twins.root number) ∧
        Walk.makeScratch twins.scratchParent world = .ok (twins.workdir number) made ∧
        Walk.makeScratch twins.scratchParent other = .ok (twins.workdir number) made' ∧
        twins.Beside (some number) stderr stderr' made made' ∧
        EmptyWorkdir made (twins.workdir number) (twins.root number) := by
  obtain ⟨tree, cwd, launches, text⟩ := world
  obtain ⟨tree', cwd', launches', text'⟩ := other
  obtain ⟨rfl, rfl, launched, said, said', trees⟩ := beside
  have number_eq : Walk.freshNumber tree' twins.cwd twins.scratchParent =
      Walk.freshNumber tree twins.cwd twins.scratchParent :=
    Walk.freshNumber_congr fun number => (trees.isFree_iff apart number).symm
  simp only [Walk.makeScratch, number_eq]
  rcases makeDirectory_alongside trees apart
      (Walk.freshNumber tree twins.cwd twins.scratchParent) with
    ⟨e, hm, hm'⟩ | ⟨scratch, hm, hm', trees⟩
  · rw [hm, hm']
    exact .inl ⟨_, rfl, rfl⟩
  · rw [hm, hm']
    exact .inr ⟨_, _, _, scratch, rfl, rfl, ⟨rfl, rfl, launched, said, said', trees⟩,
      scratch.emptyWorkdir launches text⟩

/-- **The scratch directory is removed from both worlds.** -/
theorem removeScratch_beside (apart : twins.Apart) {start start' : FileTree}
    (begun : twins.Alongside none start start')
    (scratch : Scratch start twins.cwd (twins.workdir number) (twins.root number))
    (beside : twins.Beside (some number) stderr stderr' world other) :
    twins.Beside none stderr stderr' (Walk.removeScratch (twins.workdir number) world)
      (Walk.removeScratch (twins.workdir number) other) := by
  obtain ⟨tree, cwd, launches, text⟩ := world
  obtain ⟨tree', cwd', launches', text'⟩ := other
  obtain ⟨rfl, rfl, launched, said, said', trees⟩ := beside
  have here := (begun.tame.placeOf_workdir apart trees.tame number false false).1
  have there := (begun.tame.placeOf_workdir apart trees.tame' number false false).1
  simp only [Walk.removeScratch, here.symm.trans scratch.leads, there.symm.trans scratch.leads]
  exact ⟨rfl, rfl, launched, said, said', removeBelow_alongside begun scratch trees⟩

/-! ## Keeping the artifacts -/

/-- What keeping the artifacts of an entry says: where they are, or that and why they could not
be kept. -/
def Notice (twins : Twins) (index : Nat) (entry : Entry) (text : Text) : Prop :=
  Console.logged .info (.join ["Artifacts for ", Markup.escape entry.name, " preserved in [path]",
      Markup.escape (Walk.artifactPath twins.artifacts index entry).text, "[/path]"]) = .ok text ∨
    ∃ reason, Console.logged .warning (.join ["Could not preserve artifacts for ",
      Markup.escape entry.name, ": ", Markup.escape reason]) = .ok text

theorem log_of_sure {level : Console.Level} {message : Text} (sure : (Act.log level message).Sure)
    (world : World) :
    ∃ text, Console.logged level message = .ok text ∧
      Act.log level message world = .ok () { world with stderr := world.stderr ++ text } := by
  obtain ⟨value, after, h⟩ := sure world
  rw [Act.log] at h ⊢
  cases hl : Console.logged level message with
  | error fault =>
    rw [hl] at h
    cases h
  | ok text => exact ⟨text, rfl, rfl⟩

/-- No name that scratch directories and artifacts get holds a NUL. -/
theorem nul_not_mem_digits {digits : Text} (h : ∀ c ∈ digits, c.isDigit = true) :
    '\x00' ∉ digits := by
  intro hm
  have := h _ hm
  revert this
  decide

theorem nulFree_workdir (apart : twins.Apart) (number : Nat) :
    (twins.workdir number).NulFree := by
  refine Path.NulFree.child (FileTree.nulFree_of_placeOf apart.parent) fun hm => ?_
  rcases List.mem_append.1 hm with hm | hm
  · revert hm
    decide
  · exact nul_not_mem_digits (fun _ hc => Text.isDigit_of_mem_decimalNat hc) hm

theorem nul_not_mem_stem {path : Path} (h : path.NulFree) : '\x00' ∉ path.stem := by
  intro hm
  refine h.name ?_
  rw [Path.stem] at hm
  split at hm
  · split at hm
    · exact List.mem_of_mem_take hm
    · exact hm
  · exact hm

theorem nulFree_artifactPath (apart : twins.Apart) (index : Nat) {entry : Entry}
    (named : entry.path.NulFree) : (Walk.artifactPath twins.artifacts index entry).NulFree := by
  refine apart.named.child fun hm => ?_
  have padded : '\x00' ∉ Text.decimalPadded 5 index :=
    nul_not_mem_digits fun _ hc => Text.isDigit_of_mem_decimalPadded hc
  simp only [Text.join, List.flatten_cons, List.flatten_nil, List.append_nil, List.mem_append] at hm
  rcases hm with hm | hm | hm
  · exact padded hm
  · revert hm
    decide
  · exact nul_not_mem_stem named hm

/-- **Keeping the artifacts does not fail**, and says one thing about them. -/
theorem keepArtifacts_ok (apart : twins.Apart) (index : Nat) {entry : Entry}
    (named : entry.path.NulFree) {world : World} (home : world.cwd = twins.cwd)
    (tame : twins.Tame (some number) world.tree) :
    ∃ tree notice, twins.Notice index entry notice ∧
      twins.keeping.keepArtifacts index entry (twins.workdir number) world =
        .ok () { world with tree := tree, stderr := world.stderr ++ notice } := by
  obtain ⟨tree, cwd, launches, stderr⟩ := world
  obtain rfl : cwd = twins.cwd := home
  have sound := (FileTree.sound_copyTree twins.cwd FileTree.pathLimit (nulFree_workdir apart number)
    (nulFree_artifactPath apart index named) tree (tame.fit apart)).2
  have given : twins.keeping.artifacts = some twins.artifacts := rfl
  obtain ⟨_, _, copies, ends, keeps⟩ := Walk.keeps given index entry (twins.workdir number)
    ⟨tree, twins.cwd, launches, stderr⟩
  rw [ends]
  cases keeps with
  | whole tree =>
    obtain ⟨text, logged, said⟩ := log_of_sure (Walk.sure_kept entry _)
      ⟨tree, twins.cwd, launches, stderr⟩
    exact ⟨tree, text, .inl logged, said⟩
  | incomplete fault faults tree =>
    obtain ⟨text, logged, said⟩ := log_of_sure (Walk.sure_incomplete entry fault faults)
      ⟨tree, twins.cwd, launches, stderr⟩
    exact ⟨tree, text, .inr ⟨_, logged⟩, said⟩
  | refused cause path tree =>
    obtain ⟨text, logged, said⟩ := log_of_sure (Walk.sure_refused entry cause path)
      ⟨tree, twins.cwd, launches, stderr⟩
    exact ⟨tree, text, .inr ⟨_, logged⟩, said⟩
  | @mishap error other tree =>
    cases error with
    | embeddedNul => exact absurd copies (sound tree)
    | linkCycle path =>
      exact absurd rfl (FileTree.Change.Uncycled.copyTree _ _ _ _ _ _ copies path)
    | system cause path => exact absurd rfl (other cause path)

/-- **Keeping the artifacts changes nothing outside of the area**, and says one thing. -/
theorem keepArtifacts_beside (apart : twins.Apart) (index : Nat) {entry : Entry}
    (named : entry.path.NulFree) (beside : twins.Beside (some number) stderr stderr' world other) :
    ∃ notice after, twins.Notice index entry notice ∧
      twins.keeping.keepArtifacts index entry (twins.workdir number) other = .ok () after ∧
      twins.Beside (some number) stderr (stderr' ++ notice) world after := by
  have tame := beside.trees.tame'
  have fit := tame.fit apart
  obtain ⟨tree, notice, said, kept⟩ := keepArtifacts_ok apart index named beside.cwd' tame
  obtain ⟨-, built⟩ := twins.keeping.built_keepArtifacts index entry (twins.workdir number) other
    fit.wellFormed (beside.cwd' ▸ fit.home)
  rw [kept, beside.cwd'] at built
  refine ⟨notice, _, said, kept, beside.cwd, beside.cwd', beside.launches, beside.stderr,
    congrArg (· ++ notice) beside.stderr', fun place outside => ?_, beside.trees.tame,
    tame.of_built apart built⟩
  rw [beside.trees.files place outside]
  have leads := apart.steady other.tree fun place hp => tame.outside hp
  rcases built.added place with he | ⟨⟨path, makes, reaches⟩, absent, -⟩ |
    ⟨⟨path, keeps, reaches⟩, -⟩
  · exact he.symm
  · refine absurd (.inr ⟨⟨path, makes, leads path place makes reaches⟩, fun hd => ?_⟩) outside
    rw [tame.directory place hd] at absent
    cases absent
  · obtain ⟨artifacts, ha, below⟩ := keeps
    exact absurd (.inl ⟨path, ⟨artifacts, ha, below⟩,
      leads path place ⟨artifacts, ha, .inr below⟩ reaches⟩) outside

end Twins
end Reimport
