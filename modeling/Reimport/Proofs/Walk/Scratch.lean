import Reimport.Proofs.Split.Confined
import Reimport.Walk

/-!
# Work in a scratch directory

An entry is worked on in a directory that did not exist before.  Until that directory is
removed, everything outside of it is as it was (`Working`), if the programs of the machine
are confined to the directory they are started in (`Machine.Confined`).  This holds at
every moment of the splitting and of the round trip, so it holds however they end
(`maintains_process`), and removing the directory restores the tree (`Working.removed`).
-/
namespace Reimport

/-! ## Files that keep a property -/

/-- The property of worlds that depends on the files and the working directory alone. -/
def OnFiles (cwd : Place) (P : FileTree → Prop) (world : World) : Prop :=
  world.cwd = cwd ∧ P world.tree

theorem lasting_onFiles (cwd : Place) (P : FileTree → Prop) : Lasting (OnFiles cwd P) :=
  fun _ _ h => h

namespace Maintains
variable {α β : Type} {cwd : Place} {P : FileTree → Prop}

theorem change {change : Place → FileTree.Change α}
    (h : ∀ tree, P tree → P (reached (change cwd tree))) :
    Maintains (OnFiles cwd P) (Act.change change) := by
  rintro world ⟨rfl, hp⟩
  have after := h world.tree hp
  rw [Act.change]
  split <;> rename_i hc <;> rw [hc] at after <;> exact ⟨rfl, after⟩

theorem launch {machine : Machine} {command : Command} {directory : Option Path}
    (h : ∀ history tree, P tree → P (machine.respond history ⟨command, directory⟩ tree).2) :
    Maintains (OnFiles cwd P) (Act.launch machine command directory) :=
  fun _ hp => ⟨hp.1, h _ _ hp.2⟩

end Maintains

/-! ## A new directory -/

/-- In a run with the working directory `cwd`, programs change nothing outside of the
directory they are started in, leave no link at the free places of it and a well formed
tree. -/
structure Machine.Confined (machine : Machine) (cwd : Place) (free : List Name → Prop) :
    Prop where
  wellFormed : ∀ history launch tree, tree.WellFormed →
    (machine.respond history launch tree).2.WellFormed
  inside : ∀ history command directory tree root, tree.placeOf cwd true directory = .ok root →
    ∀ place, ¬ Below root place →
      (machine.respond history ⟨command, some directory⟩ tree).2.node? place = tree.node? place
  unlinked : ∀ history command directory tree root, tree.placeOf cwd true directory = .ok root →
    ∀ names, free names → tree.linkTarget? (root ++ names) = none →
      (machine.respond history ⟨command, some directory⟩ tree).2.linkTarget? (root ++ names) = none

/-- The path `workdir` of a directory that is about to be made leads to `root`, where
nothing is yet. -/
structure Scratch (before : FileTree) (cwd : Place) (workdir : Path) (root : Place) : Prop where
  wellFormed : before.WellFormed
  home : before.Stands cwd
  plain : Path.dot ∉ workdir.parts
  leads : before.placeOf cwd false workdir = .ok root
  absent : before.node? root = none

/-- Everything outside of the directory at `root` is as it was before that was made, and
no link is at the free places of it. -/
structure Working (before : FileTree) (root : Place) (free : List Name → Prop)
    (tree : FileTree) : Prop where
  wellFormed : tree.WellFormed
  directory : tree.node? root = some .directory
  outside : ∀ place, ¬ root <+: place → tree.node? place = before.node? place
  unlinked : ∀ names, free names → tree.linkTarget? (root ++ names) = none

namespace Scratch
variable {before tree : FileTree} {cwd root : Place} {workdir : Path} {free : List Name → Prop}
  (scratch : Scratch before cwd workdir root)
include scratch

theorem above : before.Reached root := FileTree.reached_of_placeOf scratch.home scratch.leads

theorem vacant : before.Vacant root := FileTree.vacant_of_none scratch.absent

/-- Nothing is below a place where nothing is. -/
theorem nothing {place : Place} (hp : root <+: place) : before.node? place = none := by
  obtain ⟨names, rfl⟩ := hp
  by_cases empty : names = []
  · rw [empty, List.append_nil, scratch.absent]
  · exact scratch.wellFormed.nothing_below (by simp [scratch.absent]) empty

theorem working_made (free : List Name → Prop) :
    Working before root free (before.put root .directory) := by
  refine ⟨scratch.vacant.wellFormed_put scratch.wellFormed scratch.above, ?_, fun place hp => ?_,
    fun names _ => ?_⟩
  · rw [FileTree.node?_put _ scratch.vacant.ne_nil, if_pos rfl]
  · have ne : place ≠ root := fun he => hp (he ▸ List.prefix_refl _)
    rw [FileTree.node?_put _ scratch.vacant.ne_nil, if_neg ne]
  · have keeps : before.Keeps (before.put root .directory) := scratch.vacant.keeps_put (by simp)
    rw [keeps.link, FileTree.linkTarget?, scratch.nothing (List.prefix_append _ _)]

/-- The directory that was made is empty. -/
theorem emptyWorkdir (launches : List Launch) (stderr : Text) :
    EmptyWorkdir ⟨before.put root .directory, cwd, launches, stderr⟩ workdir root := by
  have keeps : before.Keeps (before.put root .directory) := scratch.vacant.keeps_put (by simp)
  have made : (before.put root .directory).node? root = some .directory := by
    rw [FileTree.node?_put _ scratch.vacant.ne_nil, if_pos rfl]
  refine ⟨keeps.stands scratch.home, scratch.plain, ?_, made, fun place below => ?_⟩
  · exact FileTree.placeOf_of_unlinked (keeps.placeOf scratch.leads)
      (by rw [FileTree.linkTarget?, made])
  · rw [FileTree.node?_put _ scratch.vacant.ne_nil, if_neg below.2]
    exact scratch.nothing below.1

/-- While no link is in the directory, the links are those that were there before it was made. -/
theorem links (working : Working before root (fun _ => True) tree) (place : Place) :
    tree.linkTarget? place = before.linkTarget? place := by
  by_cases hp : root <+: place
  · obtain ⟨names, rfl⟩ := hp
    rw [working.unlinked names trivial, FileTree.linkTarget?,
      scratch.nothing (List.prefix_append _ _)]
  · exact FileTree.linkTarget?_of_node? (working.outside place hp)

section Working
variable (working : Working before root free tree)
include working

theorem keeps_directory (place : Place) (hd : before.node? place = some .directory) :
    tree.node? place = some .directory := by
  rw [working.outside place, hd]
  intro hp
  rw [scratch.nothing hp] at hd
  cases hd

theorem keeps_link (place : Place) (target : Text)
    (hl : before.linkTarget? place = some target) : tree.linkTarget? place = some target := by
  rw [← hl]
  refine FileTree.linkTarget?_of_node? (working.outside place fun hp => ?_)
  rw [FileTree.linkTarget?, scratch.nothing hp] at hl
  cases hl

theorem stands_home : tree.Stands cwd :=
  ⟨scratch.home.proper, fun above hp =>
    scratch.keeps_directory working above (scratch.home.directory above hp)⟩

/-- The path of the directory goes on leading to it. -/
theorem placeOf (followLast : Bool) : tree.placeOf cwd followLast workdir = .ok root := by
  have unlinked : tree.linkTarget? root = none := by rw [FileTree.linkTarget?, working.directory]
  refine FileTree.placeOf_of_kept (scratch.keeps_directory working) (scratch.keeps_link working)
    ?_ fun _ => unlinked
  cases followLast with
  | false => exact scratch.leads
  | true =>
    exact FileTree.placeOf_of_unlinked scratch.leads (by rw [FileTree.linkTarget?, scratch.absent])

theorem stands_root : tree.Stands root :=
  (FileTree.reached_of_placeOf (scratch.stands_home working)
    (scratch.placeOf working true)).stands working.directory

/-- **Removing the directory restores the tree.** -/
theorem removed (place : Place) : (tree.removeBelow root).node? place = before.node? place := by
  by_cases hp : root <+: place
  · rw [FileTree.node?_removeBelow_inside _ scratch.vacant.ne_nil hp, scratch.nothing hp]
  · rw [FileTree.node?_removeBelow_outside _ hp, working.outside place hp]

/-- What is built inside the directory leaves everything outside of it as it was. -/
theorem of_built {after : FileTree} {directories files : Path → Prop}
    (built : FileTree.Built cwd directories files tree after)
    (made : ∀ path place, directories path → tree.Reaches cwd path place →
      root <+: place ∨ tree.node? place = some .directory)
    (written : ∀ path place, files path → tree.Reaches cwd path place → root <+: place) :
    Working before root free after := by
  have home := scratch.stands_home working
  refine ⟨built.wellFormed working.wellFormed home, built.keeps.directory _ working.directory,
    fun place hp => ?_, fun names hf => ?_⟩
  · rw [← working.outside place hp]
    rcases built.added place with he | ⟨⟨path, hd, hr⟩, hn, -⟩ | ⟨⟨path, hf, hr⟩, -, -⟩
    · exact he
    · rcases made path place hd hr with hp' | hs
      · exact absurd hp' hp
      · rw [hs] at hn
        cases hn
    · exact absurd (written path place hf hr) hp
  · rw [built.keeps.link]
    exact working.unlinked names hf

theorem isStraight {place : Place} (unlinked : ∀ names, free names) (hp : root <+: place)
    (proper : ∀ name ∈ place, Path.IsProper name) : tree.IsStraight place := by
  refine ⟨proper, fun above ha => ?_⟩
  rcases List.prefix_or_prefix_of_prefix ha hp with h | ⟨names, rfl⟩
  · exact (scratch.stands_root working).isStraight.unlinked above h
  · exact working.unlinked names (unlinked names)

/-- A name in the directory at which no link is leads down to it. -/
theorem reaches_child {name : Name} {place : Place} (proper : Path.IsProper name)
    (unlinked : free [name]) (h : tree.Reaches cwd (workdir.child name) place) :
    place = root ++ [name] := by
  have leads := scratch.placeOf working true
  have unlinked' : tree.linkTarget? root = none := by rw [FileTree.linkTarget?, working.directory]
  exact (FileTree.reaches_of_placeOf leads unlinked').child proper (working.unlinked _ unlinked) h

end Working
end Scratch

/-! ## Splitting by markers -/

theorem FileTree.proper_of_canonicalPlace {tree : FileTree} {cwd place : Place} {path : Path}
    (home : tree.Stands cwd) (plain : Path.dot ∉ path.parts)
    (h : tree.canonicalPlace cwd path = .ok place) : ∀ name ∈ place, Path.IsProper name := by
  rw [settle_eq_ok (canonicalPlace_eq_ok.1 h).2]
  exact proper_resolveFrom (home.start path).proper plain

namespace Scratch
variable {before : FileTree} {cwd root : Place} {workdir : Path} {free : List Name → Prop}
  (scratch : Scratch before cwd workdir root) (unlinked : ∀ names, free names)
include scratch unlinked

/-- Sections are written inside the directory, where no link is. -/
theorem maintains_writeSections (entry : Entry) (sources : List Section) :
    Maintains (OnFiles cwd (Working before root free))
      (MarkerSplit.writeSections entry (Path.ofPlace root) sources) := by
  rintro world ⟨rfl, working⟩
  have stands := scratch.stands_root working
  have inside : ∀ source ∈ sources, world.tree.ResolvesInside root source.name :=
    fun source _ below => scratch.isStraight working unlinked below.1
      (FileTree.proper_resolveFrom (FileTree.stands_nil world.tree).proper
        (Path.dot_not_mem_under stands.proper source.name))
  obtain ⟨kept, outside⟩ := MarkerSplit.keptOutside_writeSections (scratch.stands_home working)
    stands inside entry world ⟨.refl working.wellFormed, fun _ _ => rfl⟩
  refine ⟨kept.cwd, kept.wellFormed, kept.keeps.directory _ working.directory, fun place hp => ?_,
    fun names hf => ?_⟩
  · rw [outside place fun below => hp below.1, working.outside place hp]
  · rw [kept.keeps.link, working.unlinked names hf]

/-- **Splitting changes nothing outside of the directory.** -/
theorem maintains_split (entry : Entry) :
    Maintains (OnFiles cwd (Working before root free)) (MarkerSplit.split entry workdir) := by
  refine .bind (.ask _) fun content => ?_
  cases Utf8.decode content with
  | error fault => exact .pure _
  | ok text =>
    cases hs : Section.ofText? text with
    | none => simp only [hs]; exact .pure _
    | some sources =>
      simp only [hs]
      refine .bind_of_ok (.ask _) fun world target after hw ha => ?_
      obtain ⟨hc, rfl⟩ := Act.ask_ok.1 ha
      -- the directory is resolved to the place it was made at
      have leads := scratch.placeOf hw.2 true
      rw [hw.1, FileTree.canonical, FileTree.canonicalPlace_of_placeOf scratch.plain leads] at hc
      obtain rfl : Path.ofPlace root = target := Except.ok.inj hc
      exact Maintains.bind (scratch.maintains_writeSections unlinked entry sources)
        (fun _ => .pure _) after hw

end Scratch

/-! ## The round trip -/

namespace Scratch
variable {before : FileTree} {cwd root : Place} {workdir : Path} {free : List Name → Prop}
  (scratch : Scratch before cwd workdir root)
include scratch

theorem working_launch {machine : Machine} (confined : machine.Confined cwd free)
    {tree : FileTree} (working : Working before root free tree) (history : List Launch)
    (command : Command) :
    Working before root free (machine.respond history ⟨command, some workdir⟩ tree).2 := by
  have leads := scratch.placeOf working true
  have same := confined.inside history command workdir tree root leads
  refine ⟨confined.wellFormed _ _ _ working.wellFormed, ?_, fun place hp => ?_, fun names hf => ?_⟩
  · rw [same root fun below => below.2 rfl, working.directory]
  · rw [same place fun below => hp below.1, working.outside place hp]
  · exact confined.unlinked _ _ _ _ _ leads names hf (working.unlinked names hf)

theorem maintains_keep {name : Name} (proper : Path.IsProper name) (unlinked : free [name])
    (content : Text) :
    Maintains (OnFiles cwd (Working before root free)) (RoundTrip.keep workdir name content) := by
  refine .change fun tree working => ?_
  have built : FileTree.Built cwd (fun _ => False) (workdir.child name = ·) tree
      (reached (FileTree.write cwd .replace (workdir.child name) (Utf8.encode content) tree)) :=
    FileTree.Builds.write rfl tree working.wellFormed (scratch.stands_home working)
  refine scratch.of_built working built (fun _ _ hd => False.elim hd) ?_
  rintro _ place rfl reaches
  rw [scratch.reaches_child working proper unlinked reaches]
  exact List.prefix_append _ _

variable {machine : Machine} (confined : machine.Confined cwd free)
include confined

theorem maintains_run (command : Command) :
    Maintains (OnFiles cwd (Working before root free)) (Solc.run machine command (some workdir)) :=
  .bind (.launch fun history _ working => scratch.working_launch confined working history command)
    fun _ => .pure _

/-- **The round trip changes nothing outside of the directory**, if no program puts a link
where an export is kept. -/
theorem maintains_check (exported : free [exportedName]) (obtained : free [RoundTrip.obtainedName])
    (solc : Solc) (entry : Entry) (files : List Path) :
    Maintains (OnFiles cwd (Working before root free))
      (RoundTrip.check (solc.compiler machine) entry files workdir) := by
  have properE : Path.IsProper exportedName := ⟨by decide, by decide⟩
  have properO : Path.IsProper RoundTrip.obtainedName := ⟨by decide, by decide⟩
  have run := scratch.maintains_run confined
  have compare : Maintains (OnFiles cwd (Working before root free))
      (RoundTrip.compare (solc.compiler machine) entry files workdir) := by
    refine .bind (run _) fun first => .bind (scratch.maintains_keep properE exported _) fun _ => ?_
    split
    · exact .pure _
    refine .bind (.bind (scratch.maintains_keep properE exported _) fun _ => run _) fun second =>
      .bind (scratch.maintains_keep properO obtained _) fun _ => ?_
    split
    · exact .pure _
    · simp only
      split <;> exact .pure _
  refine .bind (.bind (run _) fun _ => .pure _) fun accepted => ?_
  split
  · exact compare
  · exact .pure _

end Scratch

/-- The walk that goes by markers, with a compiler that is a program of a machine. -/
def Walk.byMarkers (solc : Solc) (machine : Machine) (artifacts : Option Path)
    (scratchParent : Path) : Walk :=
  ⟨MarkerSplit.splitter, solc.compiler machine, artifacts, scratchParent⟩

theorem Working.mono {before tree : FileTree} {root : Place} {free less : List Name → Prop}
    (working : Working before root free tree) (h : ∀ names, less names → free names) :
    Working before root less tree :=
  ⟨working.wellFormed, working.directory, working.outside,
    fun names hf => working.unlinked names (h names hf)⟩

/-- All that is done to an entry stays in the scratch directory that was made for it. -/
def Walk.Contained (walk : Walk) (cwd : Place) (free : List Name → Prop) : Prop :=
  ∀ ⦃before : FileTree⦄ ⦃workdir : Path⦄ ⦃root : Place⦄, Scratch before cwd workdir root →
    ∀ (entry : Entry) ⦃world : World⦄, OnFiles cwd (Working before root fun _ => True) world →
      OnFiles cwd (Working before root free) (reached (walk.process entry workdir world))

/-- Saying what the files of an entry are changes none. -/
theorem Walk.maintains_files (entry : Entry) (result : SplitResult) (cwd : Place) (P : FileTree → Prop) :
    Maintains (OnFiles cwd P) (Walk.files entry result) := by
  cases result with
  | multiple files => exact .pure files
  | single file => exact .pure [file]
  | undecodable diagnostic =>
    exact .bind (.complainVerbatim (lasting_onFiles cwd P) _ _) fun _ => .pure _
  | unknown => exact .throw _

/-- **A walk that goes by markers with confined programs is contained.**  Links may come
to be in the directory only when its programs are started. -/
theorem Walk.contained_byMarkers {machine : Machine} {cwd : Place} {free : List Name → Prop}
    (confined : machine.Confined cwd free) (exported : free [exportedName])
    (obtained : free [RoundTrip.obtainedName]) (solc : Solc) (artifacts : Option Path)
    (scratchParent : Path) :
    (byMarkers solc machine artifacts scratchParent).Contained cwd free := by
  intro before workdir root scratch entry world h
  have weaker : ∀ {world}, OnFiles cwd (Working before root fun _ => True) world →
      OnFiles cwd (Working before root free) world :=
    fun h => ⟨h.1, h.2.mono fun _ _ => trivial⟩
  have split := scratch.maintains_split (fun _ => trivial) entry world h
  rw [Walk.process, bind_eq]
  cases hs : (byMarkers solc machine artifacts scratchParent).splitter.split entry workdir
      world with
  | error failure after =>
    rw [show MarkerSplit.split entry workdir world = _ from hs] at split
    exact weaker split
  | ok result after =>
    rw [show MarkerSplit.split entry workdir world = _ from hs] at split
    exact Maintains.bind (maintains_files entry result cwd _)
      (fun _ => scratch.maintains_check confined exported obtained solc entry _) after
      (weaker split)

end Reimport
