import Reimport.Proofs.Walk.Twins

/-!
# Tools that cannot tell the two runs apart

Of the splitter and the compiler it is only asked that they do the same in both worlds while they
work on an entry (`Blind`).  A compiler that is a program does if its machine does
(`Blind.of_machine`).  Splitting by markers needs no more than that the entry is read alike: the
sources go to the scratch directory, whose files are the same in both worlds
(`blind_byMarkers`).

How apart the artifacts are is said of all paths below theirs.  For artifacts in a directory of
their own, where no links are, it follows from where that directory is (`apart_of_straight`).
-/
namespace Reimport

namespace Twins

/-- **The splitter and the compiler are blind to the area**: whatever they do in a scratch
directory, they do the same in both worlds, and leave the surroundings tame. -/
structure Blind (twins : Twins) (corpus : List Entry) : Prop where
  split : ∀ entry ∈ corpus, ∀ number stderr stderr' world other,
    twins.Since (some number) stderr stderr' world other →
    EmptyWorkdir world (twins.workdir number) (twins.root number) →
    Alike Eq (twins.Since (some number) stderr stderr')
      (twins.splitter.split entry (twins.workdir number) world)
      (twins.splitter.split entry (twins.workdir number) other)
  accepts : ∀ number stderr stderr' files,
    Uniform (twins.Since (some number) stderr stderr')
      (twins.compiler.accepts files (twins.workdir number))
  exportFiles : ∀ number stderr stderr' files,
    Uniform (twins.Since (some number) stderr stderr')
      (twins.compiler.exportFiles files (twins.workdir number))
  reexport : ∀ number stderr stderr' exported,
    Uniform (twins.Since (some number) stderr stderr')
      (twins.compiler.reexport exported (twins.workdir number))

variable {twins : Twins} {corpus : List Entry} {number : Nat} {stderr stderr' : Text}
  {world other : World} {entry : Entry}

/-! ## Programs -/

/-- Programs that are started in a scratch directory do the same in both worlds. -/
def BlindMachine (twins : Twins) (machine : Machine) : Prop :=
  ∀ number history command tree tree', twins.Alongside (some number) tree tree' →
    let launch : Launch := ⟨command, some (twins.workdir number)⟩
    (machine.respond history launch tree).1 = (machine.respond history launch tree').1 ∧
      twins.Alongside (some number) (machine.respond history launch tree).2
        (machine.respond history launch tree').2

section Programs
variable {machine : Machine} (blind : twins.BlindMachine machine)
include blind

theorem uniform_run (command : Command) :
    Uniform (twins.Since (some number) stderr stderr')
      (Solc.run machine command (some (twins.workdir number))) := by
  refine .bind ?_ fun _ => .pure _
  rintro ⟨tree, cwd, launches, text⟩ ⟨tree', cwd', launches', text'⟩
    ⟨said, rfl, rfl, launched, before, before', trees⟩
  obtain rfl : launches = launches' := launched
  obtain ⟨same, after⟩ := blind number launches command tree tree' trees
  exact .ok same ⟨said, rfl, rfl, rfl, before, before', after⟩

end Programs

/-- **A compiler that is a program is blind** if its machine is. -/
theorem Blind.of_machine {machine : Machine} (apart : twins.Apart)
    (blind : twins.BlindMachine machine) {solc : Solc}
    (compiler : twins.compiler = solc.compiler machine)
    (split : ∀ entry ∈ corpus, ∀ number stderr stderr' world other,
      twins.Since (some number) stderr stderr' world other →
      EmptyWorkdir world (twins.workdir number) (twins.root number) →
      Alike Eq (twins.Since (some number) stderr stderr')
        (twins.splitter.split entry (twins.workdir number) world)
        (twins.splitter.split entry (twins.workdir number) other)) : twins.Blind corpus := by
  refine ⟨split, ?_, ?_, ?_⟩ <;> rw [compiler] <;> intro number stderr stderr' given
  · exact .bind (uniform_run blind _) fun _ => .pure _
  · exact uniform_run blind _
  · exact .bind (uniform_keep apart (by simp) given) fun _ => uniform_run blind _

/-! ## Splitting by markers -/

/-- No link is in the scratch directory. -/
def Unlinked (twins : Twins) (number : Nat) (tree : FileTree) : Prop :=
  ∀ names, tree.linkTarget? (twins.root number ++ names) = none

/-- The trees of the two runs while an entry is split. -/
def Splitting (twins : Twins) (number : Nat) (tree tree' : FileTree) : Prop :=
  twins.Alongside (some number) tree tree' ∧ twins.Unlinked number tree

/-- The path of a place in the scratch directory or on the way to it. -/
def IsInside (twins : Twins) (number : Nat) (path : Path) : Prop :=
  ∃ way, path = Path.ofPlace way ∧ (∀ name ∈ way, Path.IsProper name) ∧
    (way <+: twins.root number ∨ twins.root number <+: way)

section Splitting
variable {tree tree' : FileTree} (apart : twins.Apart)
  (splitting : twins.Splitting number tree tree')
include apart splitting

theorem Splitting.node?_eq {way : Place}
    (hp : way <+: twins.root number ∨ twins.root number <+: way) :
    tree.node? way = tree'.node? way ∧ tree.linkTarget? way = none := by
  obtain ⟨trees, unlinked⟩ := splitting
  have below : ∀ names, tree.node? (twins.root number ++ names) =
        tree'.node? (twins.root number ++ names) ∧
      tree.linkTarget? (twins.root number ++ names) = none :=
    fun names => ⟨trees.inside apart number names, unlinked names⟩
  rcases hp with hp | ⟨names, rfl⟩
  · rcases List.prefix_concat_iff.1 hp with he | hp
    · have := below []
      rw [List.append_nil] at this
      rw [he]
      exact this
    · have stands := (trees.tame.fit apart).wellFormed.stands (trees.tame.home apart)
      have stands' := (trees.tame'.fit apart).wellFormed.stands (trees.tame'.home apart)
      rw [stands.directory way hp, stands'.directory way hp, FileTree.linkTarget?,
        stands.directory way hp]
      exact ⟨rfl, rfl⟩
  · exact below names

/-- Places in the scratch directory are led to alike. -/
theorem Splitting.placeOf {way : Place} (proper : ∀ name ∈ way, Path.IsProper name)
    (hp : way <+: twins.root number ∨ twins.root number <+: way) (followLast : Bool) :
    tree.placeOf twins.cwd followLast (Path.ofPlace way) =
        tree'.placeOf twins.cwd followLast (Path.ofPlace way) ∧
      ∀ place, tree.placeOf twins.cwd followLast (Path.ofPlace way) = .ok place → place = way := by
  have onWay : ∀ above, above <+: way →
      above <+: twins.root number ∨ twins.root number <+: above := by
    intro above ha
    rcases hp with hp | hp
    · exact .inl (ha.trans hp)
    · exact List.prefix_or_prefix_of_prefix ha hp
  refine FileTree.placeOf_ofPlace ⟨proper,
    fun above ha _ => (splitting.node?_eq apart (onWay above ha)).1,
    fun above ha => (splitting.node?_eq apart (onWay above ha)).2, ?_⟩ followLast followLast
  obtain ⟨onEnd, unlinked⟩ := splitting.node?_eq apart (onWay way (List.prefix_refl _))
  rwa [List.nil_append, ← FileTree.linkTarget?_of_node? onEnd]

end Splitting

/-- What is made or written without a link leaves the scratch directory without one. -/
theorem Unlinked.put {tree : FileTree} {place : Place} {node : Node}
    (unlinked : twins.Unlinked number tree) (vacant : tree.Vacant place)
    (plain : ∀ target, node ≠ .link target) : twins.Unlinked number (tree.put place node) := by
  intro names
  rw [(vacant.keeps_put plain).link]
  exact unlinked names

/-- **The two trees cannot be told apart along the paths in the scratch directory.** -/
theorem parallel_splitting (apart : twins.Apart) (number : Nat) :
    FileTree.Parallel twins.cwd (twins.Splitting number) (twins.IsInside number) where
  placeOf := by
    rintro tree tree' _ splitting ⟨way, rfl, proper, hp⟩ followLast
    exact (splitting.placeOf apart proper hp followLast).1
  node? := by
    rintro tree tree' _ place followLast splitting ⟨way, rfl, proper, hp⟩ leads
    rw [(splitting.placeOf apart proper hp followLast).2 place leads]
    exact (splitting.node?_eq apart hp).1
  made := by
    rintro tree tree' _ place splitting ⟨way, rfl, proper, hp⟩ leads absent
    obtain ⟨same, reaches⟩ := splitting.placeOf apart proper hp false
    obtain rfl := reaches place leads
    exact ⟨splitting.1.made apart leads (same.symm.trans leads) absent
      (splitting.node?_eq apart hp).1, splitting.2.put (FileTree.vacant_of_none absent) nofun⟩
  written := by
    rintro tree tree' _ place content splitting ⟨way, rfl, proper, hp⟩ leads vacant
    obtain ⟨same, reaches⟩ := splitting.placeOf apart proper hp true
    obtain rfl := reaches place leads
    exact ⟨splitting.1.written apart leads (same.symm.trans leads) vacant
      (splitting.node?_eq apart hp).1 content,
      splitting.2.put (FileTree.vacant_of_written vacant) nofun⟩

theorem IsInside.parent {path : Path} (inside : twins.IsInside number path) :
    twins.IsInside number path.parent := by
  obtain ⟨way, rfl, proper, hp⟩ := inside
  have above : way.dropLast <+: way := List.dropLast_prefix way
  refine ⟨way.dropLast, rfl, fun name hm => proper name (above.subset hm), ?_⟩
  rcases hp with hp | hp
  · exact .inl (above.trans hp)
  · exact List.prefix_or_prefix_of_prefix above hp

/-- No circle of links is met on any way. -/
def Uncircled (tree : FileTree) : Prop :=
  ∀ here names, (tree.resolveFrom tree.entries.length [] here names).complete = true

section Marked
variable (apart : twins.Apart) (uncircled : Uncircled twins.tree)
include apart uncircled

/-- Paths are resolved alike while an entry is split. -/
theorem canonical_splitting {tree tree' : FileTree}
    (splitting : twins.Splitting number tree tree') (path : Path) :
    tree.canonical twins.cwd path = tree'.canonical twins.cwd path := by
  obtain ⟨trees, unlinked⟩ := splitting
  -- The links of both trees are those of the beginning.
  have links : ∀ place, tree.linkTarget? place = twins.tree.linkTarget? place ∧
      tree'.linkTarget? place = twins.tree.linkTarget? place := by
    intro place
    by_cases hp : twins.root number <+: place
    · obtain ⟨names, rfl⟩ := hp
      have none : twins.tree.linkTarget? (twins.root number ++ names) = none := by
        cases hl : twins.tree.linkTarget? (twins.root number ++ names) with
        | none => rfl
        | some target =>
          have := trees.tame.link _ target hl
          rw [unlinked names] at this
          cases this
      rw [none, ← FileTree.linkTarget?_of_node? (trees.inside apart number names), unlinked names]
      exact ⟨rfl, rfl⟩
    · have aside : ∀ current ∈ some number, ¬ twins.root current <+: place := by
        intro current hc
        cases hc
        exact hp
      exact ⟨trees.tame.added place aside, trees.tame'.added place aside⟩
  have resolved : ∀ {other : FileTree},
      (∀ place, other.linkTarget? place = twins.tree.linkTarget? place) →
      other.canonicalPlace twins.cwd path = if path.text.contains '\x00' then .error .embeddedNul
        else .ok (twins.tree.resolveFrom twins.tree.entries.length []
          (FileTree.start twins.cwd path) path.parts).place := by
    intro other same
    rw [FileTree.canonicalPlace_eq, FileTree.resolveFrom_congr same (FileTree.room_nil other)
      (FileTree.room_nil twins.tree), FileTree.settle, if_pos (uncircled _ _)]
  rw [FileTree.canonical, FileTree.canonical, resolved fun place => (links place).1,
    resolved fun place => (links place).2]

theorem uniform_writeSection (entry : Entry) (source : Section) :
    Uniform
      (fun world other => twins.Since (some number) stderr stderr' world other ∧
        twins.Unlinked number world.tree)
      (MarkerSplit.writeSection entry (Path.ofPlace (twins.root number)) source) := by
  rintro world other ⟨since, unlinked⟩
  obtain ⟨said, beside⟩ := since
  have splitting : twins.Splitting number world.tree other.tree := ⟨beside.trees, unlinked⟩
  have fit := beside.trees.tame.fit apart
  have proper : ∀ name ∈ twins.root number, Path.IsProper name :=
    FileTree.proper_child (fit.wellFormed.stands (beside.trees.tame.home apart)).proper
      (Walk.proper_scratch number)
  -- there are no links in the scratch directory, so the name is resolved alike
  have asked : world.tree.canonical world.cwd
        ((Path.ofPlace (twins.root number)).under (Path.parse source.name)) =
      other.tree.canonical other.cwd
        ((Path.ofPlace (twins.root number)).under (Path.parse source.name)) := by
    rw [beside.cwd, beside.cwd']
    exact canonical_splitting apart uncircled splitting _
  rw [MarkerSplit.writeSection, bind_eq, bind_eq, Act.ask, Act.ask, ← asked]
  cases hc : world.tree.canonical world.cwd
      ((Path.ofPlace (twins.root number)).under (Path.parse source.name)) with
  | error e => exact .error ⟨⟨said, beside⟩, unlinked⟩
  | ok target =>
    obtain ⟨place, hp, rfl⟩ := FileTree.canonical_eq_ok hc
    dsimp only
    split
    · exact .error ⟨⟨said, beside⟩, unlinked⟩
    rename_i guard
    rw [Bool.or_eq_true, not_or, Bool.not_eq_true', Bool.not_eq_false] at guard
    have below := MarkerSplit.below_iff.1 guard.2
    have inside : twins.IsInside number (Path.ofPlace place) := by
      refine ⟨place, rfl, ?_, .inr below.1⟩
      exact FileTree.proper_of_canonicalPlace (beside.cwd ▸ fit.home)
        (Path.dot_not_mem_under proper _) hp
    have parallel := parallel_splitting apart number
    -- inside of the directory both trees change in parallel
    have written : Uniform
        (fun world other => twins.Since (some number) stderr stderr' world other ∧
          twins.Unlinked number world.tree) (do
        Act.change fun cwd => FileTree.makePath cwd (Path.ofPlace place).parent
        Act.change fun cwd => FileTree.write cwd .append (Path.ofPlace place)
          (Utf8.encode source.body)) :=
      .bind (uniform_change (parallel.makePath inside.parent fun _ h => h.parent)) fun _ =>
        uniform_change (parallel.write inside _ _)
    exact written _ _ ⟨⟨said, beside⟩, unlinked⟩

theorem uniform_writeSections (entry : Entry) (sources : List Section) :
    Uniform
      (fun world other => twins.Since (some number) stderr stderr' world other ∧
        twins.Unlinked number world.tree)
      (MarkerSplit.writeSections entry (Path.ofPlace (twins.root number)) sources) := by
  induction sources with
  | nil => exact .pure _
  | cons source rest ih =>
    exact .bind (uniform_writeSection apart uncircled entry source) fun _ => ih

/-- **An entry is split by its markers alike in both worlds** if it is read alike. -/
theorem split_alike (since : twins.Since (some number) stderr stderr' world other)
    (empty : EmptyWorkdir world (twins.workdir number) (twins.root number))
    (read : world.tree.read twins.cwd entry.path = other.tree.read twins.cwd entry.path) :
    Alike Eq (twins.Since (some number) stderr stderr')
      (MarkerSplit.split entry (twins.workdir number) world)
      (MarkerSplit.split entry (twins.workdir number) other) := by
  obtain ⟨said, beside⟩ := since
  -- the scratch directory is empty, so there are no links in it yet
  have unlinked : twins.Unlinked number world.tree := by
    intro names
    by_cases ne : names = []
    · rw [ne, List.append_nil, FileTree.linkTarget?, empty.directory]
    · rw [FileTree.linkTarget?, empty.nothing _ ⟨List.prefix_append _ _, by simpa using ne⟩]
  have root := empty.canonical_workdir
  have root' : other.tree.canonical other.cwd (twins.workdir number) =
      .ok (Path.ofPlace (twins.root number)) := by
    rw [beside.cwd] at root
    rw [beside.cwd', ← canonical_splitting apart uncircled ⟨beside.trees, unlinked⟩]
    exact root
  rw [MarkerSplit.split, bind_eq, bind_eq, Act.ask, Act.ask, beside.cwd, beside.cwd', ← read]
  cases world.tree.read twins.cwd entry.path with
  | error e => exact .error ⟨said, beside⟩
  | ok content =>
    dsimp only
    cases Utf8.decode content with
    | error fault => exact .ok rfl ⟨said, beside⟩
    | ok text =>
      dsimp only
      cases Section.ofText? text with
      | none => exact .ok rfl ⟨said, beside⟩
      | some sources =>
        have written : Uniform
            (fun world other => twins.Since (some number) stderr stderr' world other ∧
              twins.Unlinked number world.tree) (do
            MarkerSplit.writeSections entry (Path.ofPlace (twins.root number)) sources
            return SplitResult.multiple ((sources.map Section.name).eraseDups.map Path.parse)) :=
          .bind (uniform_writeSections apart uncircled entry sources) fun _ => .pure _
        dsimp only
        rw [bind_of_ok (Act.ask_ok.2 ⟨root, rfl⟩), bind_of_ok (Act.ask_ok.2 ⟨root', rfl⟩)]
        exact (written world other ⟨⟨said, beside⟩, unlinked⟩).mono fun _ _ h => h.1

end Marked

/-- The file at a straight way off the area is read alike in both trees. -/
theorem Alongside.read_eq {tree tree' : FileTree}
    (trees : twins.Alongside (some number) tree tree') {place : Place}
    (straight : twins.tree.IsStraight place)
    (off : ∀ above, above <+: place → ¬ twins.InScratch above ∧ ¬ twins.Area above) :
    tree.read twins.cwd (Path.ofPlace place) = tree'.read twins.cwd (Path.ofPlace place) := by
  have onWay : ∀ above, above <+: place →
      tree.node? above = tree'.node? above ∧ tree.linkTarget? above = none := by
    intro above hp
    rw [trees.tame.outside (off above hp).1]
    exact ⟨trees.files above (off above hp).2, straight.unlinked above hp⟩
  obtain ⟨onEnd, unlinked⟩ := onWay place (List.prefix_refl _)
  have leads : tree.placeOf twins.cwd true (Path.ofPlace place) =
        tree'.placeOf twins.cwd true (Path.ofPlace place) ∧
      ∀ there, tree.placeOf twins.cwd true (Path.ofPlace place) = .ok there → there = place :=
    FileTree.placeOf_ofPlace ⟨straight.proper, fun above hp _ => (onWay above hp).1,
      fun above hp => (onWay above hp).2,
      by rwa [List.nil_append, ← FileTree.linkTarget?_of_node? onEnd]⟩ true true
  rw [FileTree.read, FileTree.read, FileTree.status, FileTree.status, ← leads.1]
  cases hp : tree.placeOf twins.cwd true (Path.ofPlace place) with
  | error e => rfl
  | ok there =>
    rw [← leads.2 there hp] at onEnd
    simp only [Bind.bind, Except.bind, onEnd]

/-- **The splitter that goes by markers is blind**, with a compiler that is, if the entries have
straight ways off the area and no links make a circle. -/
theorem blind_byMarkers {machine : Machine} {solc : Solc} (apart : twins.Apart)
    (splitter : twins.splitter = MarkerSplit.splitter)
    (compiler : twins.compiler = solc.compiler machine) (blind : twins.BlindMachine machine)
    (uncircled : Uncircled twins.tree)
    (legible : ∀ entry ∈ corpus, ∃ place, entry.path = Path.ofPlace place ∧
      twins.tree.IsStraight place ∧
      ∀ above, above <+: place → ¬ twins.InScratch above ∧ ¬ twins.Area above) :
    twins.Blind corpus := by
  refine .of_machine apart blind compiler fun entry hm number _ _ world other since empty => ?_
  obtain ⟨place, path, straight, off⟩ := legible entry hm
  rw [splitter]
  refine split_alike apart uncircled since empty ?_
  obtain ⟨said, beside⟩ := since
  rw [path]
  exact beside.trees.read_eq straight off

/-- Where no links are there is no circle of them. -/
theorem uncircled_of_unlinked {tree : FileTree} (h : ∀ place, tree.linkTarget? place = none) :
    Uncircled tree := by
  intro here names
  induction names generalizing here with
  | nil => rw [FileTree.resolveFrom]
  | cons name rest ih =>
    by_cases hup : name = Path.dotDot
    · rw [hup, FileTree.resolveFrom_up]
      exact ih _
    · rw [FileTree.resolveFrom_down hup (h _)]
      exact ih _

/-! ## Artifacts in a directory of their own -/

section Straight
variable {target : Place} (artifacts : twins.artifacts = Path.ofPlace target)
  (straight : twins.tree.IsStraight target)
  (unlinked : ∀ place, target <+: place → twins.tree.linkTarget? place = none)
include artifacts straight unlinked

/-- The area of artifacts that are kept where no links are: the places at and below the path, and
the directories that are missing above it. -/
theorem area_of_straight {place : Place} (area : twins.Area place) :
    target <+: place ∨ place <+: target ∧ twins.tree.node? place ≠ some .directory := by
  have fromRoot : twins.tree.IsStraight ([] ++ target) := straight
  have leads : twins.tree.Reaches twins.cwd (Path.ofPlace target) target :=
    ⟨0, FileTree.leads_of_isStraight fromRoot⟩
  rcases area with ⟨path, ⟨_, given, below⟩, reaches⟩ |
    ⟨⟨path, ⟨_, given, onWay | below⟩, reaches⟩, missing⟩
  all_goals
    obtain rfl := Option.some.inj given
    rw [artifacts] at *
  · exact .inl (FileTree.prefix_of_atOrBelow below leads unlinked reaches)
  · obtain ⟨root, above⟩ := path
    obtain ⟨rfl, hp⟩ := onWay
    obtain rfl := (straight.of_prefix hp).reaches_eq reaches
    exact .inr ⟨hp, missing⟩
  · exact .inl (FileTree.prefix_of_atOrBelow below leads unlinked reaches)

/-- Where the links are those of the beginning but for the scratch directories, the paths of the
artifacts have straight ways. -/
theorem straight_of_makesAlong
    (aside : ∀ number, ¬ twins.root number <+: target ∧ ¬ target <+: twins.root number)
    {other : FileTree}
    (same : ∀ place, ¬ twins.InScratch place →
      other.linkTarget? place = twins.tree.linkTarget? place)
    {path : Path} (along : twins.keeping.MakesAlong path) :
    ∃ way, path = Path.ofPlace way ∧ other.IsStraight way := by
  obtain ⟨_, given, along⟩ := along
  obtain rfl := Option.some.inj given
  rw [artifacts] at along
  have onWay : ∀ above, above <+: target → other.linkTarget? above = none := by
    intro above hp
    rw [same above fun ⟨number, hr⟩ => (aside number).1 (hr.trans hp)]
    exact straight.unlinked above hp
  obtain ⟨root, parts⟩ := path
  rcases along with ⟨rfl, hp⟩ | ⟨rfl, names, proper, rfl⟩
  · exact ⟨parts, rfl, fun name hm => straight.proper name (hp.subset hm),
      fun above ha => onWay above (ha.trans hp)⟩
  · refine ⟨target ++ names, rfl, fun name hm => ?_, fun above ha => ?_⟩
    · rcases List.mem_append.1 hm with hm | hm
      · exact straight.proper name hm
      · exact proper name hm
    · rcases List.prefix_or_prefix_of_prefix ha (List.prefix_append target names) with hp | hp
      · exact onWay above hp
      · rw [same above fun ⟨number, hr⟩ =>
          (List.prefix_or_prefix_of_prefix hr hp).elim (aside number).1 (aside number).2]
        exact unlinked above hp

/-- **Artifacts in a directory of their own are apart** from the scratch directories, if no link
is on the path of that directory or in it. -/
theorem apart_of_straight (fit : FileTree.Fit twins.cwd twins.tree)
    (parent : twins.tree.placeOf twins.cwd true twins.scratchParent = .ok twins.home)
    (directory : twins.tree.node? twins.home = some .directory)
    (vacant : ∀ number, twins.tree.linkTarget? (twins.root number) = none)
    (plain : Path.dot ∉ twins.scratchParent.parts) (named : twins.artifacts.NulFree)
    (aside : ∀ number, ¬ twins.root number <+: target ∧ ¬ target <+: twins.root number) :
    twins.Apart := by
  refine ⟨fit, parent, directory, vacant, plain, named, ?_, ?_⟩
  · rintro place ⟨number, hr⟩ area
    rcases area_of_straight artifacts straight unlinked area with hp | ⟨hp, -⟩
    · exact (List.prefix_or_prefix_of_prefix hr hp).elim (aside number).1 (aside number).2
    · exact (aside number).1 (hr.trans hp)
  · intro other same path place along reaches
    obtain ⟨way, rfl, straightThere⟩ :=
      straight_of_makesAlong artifacts straight unlinked aside same along
    obtain ⟨_, he, straightHere⟩ :=
      straight_of_makesAlong artifacts straight unlinked aside (fun _ _ => rfl) along
    obtain rfl := congrArg Path.parts he
    rw [straightThere.reaches_eq reaches]
    have fromRoot : twins.tree.IsStraight ([] ++ way) := straightHere
    exact ⟨0, FileTree.leads_of_isStraight fromRoot⟩

end Straight

end Twins
end Reimport
