import Reimport.Proofs.Walk.GivenUp
import Reimport.Proofs.Walk.Scratch

/-!
# What a run leaves of the files

A visit works in a scratch directory of its own and removes it, however it ends.  What it
has kept of it elsewhere went along paths on the way to the artifacts or below them, and
everything else is as it was when the visit was begun (`Cleared.added`).  So it is for a
whole run, by induction on its visits (`files_of_run`): nothing is changed or removed but
under the path of the artifacts, and nothing at all if no artifacts are kept.

A link below the path of the artifacts leads what is written there elsewhere
(`kept_through_link`).
-/
namespace Reimport

namespace Walk

/-! ## The world when the work on an entry ends -/

section Worlds
variable {α β : Type} {walk : Walk} {P Q : World → Prop} {index : Nat} {entry : Entry}
  {workdir : Path}

/-- What follows an action and leaves the world alone leaves it as the action did. -/
theorem world_act_bind {action : Act α} {next : α → Step β}
    (still : ∀ a session, (reached (next a session)).world = session.world) (session : Session) :
    (reached ((Session.act action >>= next) session)).world = reached (action session.world) := by
  rw [← Maintains.world_act action session, bind_eq]
  cases Session.act action session with
  | ok a after => exact still a after
  | error failure after => rfl

theorem world_abandon (walk : Walk) (index : Nat) (entry : Entry) (workdir : Path)
    (failure : Failure) (session : Session) :
    (reached (walk.abandon index entry workdir failure session)).world =
      reached (walk.keepArtifacts index entry workdir session.world) :=
  world_act_bind (fun _ _ => rfl) { session with tally := session.tally.abort }

/-- What holds of a world, and after the artifacts are kept in it, holds when a failure is
settled. -/
theorem of_settleFailure {failure : Failure} {session : Session} (same : Q session.world)
    (kept : Q (reached (walk.keepArtifacts index entry workdir session.world))) :
    Q (reached (walk.settleFailure index entry workdir failure session)).world := by
  rw [settleFailure]
  split
  · rwa [world_abandon]
  · exact same

/-- And so it does when an outcome is. -/
theorem of_settleOutcome {outcome : Outcome} {stop : Bool} {session : Session}
    (same : Q session.world)
    (kept : Q (reached (walk.keepArtifacts index entry workdir session.world))) :
    Q (reached (walk.settleOutcome index entry workdir outcome stop session)).world := by
  rw [settleOutcome]
  split
  · rwa [world_act_bind fun _ _ => rfl]
  · exact same

/-- **What the work on an entry does to the world**: after the entry is processed something is
said of it, and its artifacts may be kept. -/
theorem of_step {session : Session} (lasting : Lasting P) (same : ∀ world, P world → Q world)
    (kept : ∀ world, P world → Q (reached (walk.keepArtifacts index entry workdir world)))
    (processed : P (reached (walk.process entry workdir session.world))) :
    Q (reached (walk.step index entry workdir session)).world := by
  cases hp : walk.process entry workdir session.world with
  | error failure after =>
    rw [hp] at processed
    rw [step_of_error hp]
    exact of_settleFailure (same _ processed) (kept _ processed)
  | ok outcome after =>
    rw [hp] at processed
    have recorded := Maintains.record lasting outcome { session with world := after } processed
    rw [step_of_ok hp]
    cases hr : Session.record (.outcome outcome) { session with world := after } with
    | error failure last =>
      rw [hr] at recorded
      exact of_settleFailure (same _ recorded) (kept _ recorded)
    | ok stop last =>
      rw [hr] at recorded
      exact of_settleOutcome (same _ recorded) (kept _ recorded)

end Worlds

/-! ## What a visit keeps -/

/-- A path at or below the path of the artifacts. -/
def KeepsAlong (walk : Walk) (path : Path) : Prop :=
  ∃ artifacts ∈ walk.artifacts, FileTree.AtOrBelow artifacts path

/-- A path on the way to the artifacts or below it. -/
def MakesAlong (walk : Walk) (path : Path) : Prop :=
  ∃ artifacts ∈ walk.artifacts,
    FileTree.OnWay artifacts path ∨ FileTree.AtOrBelow artifacts path

/-- The name of the directory in which the scratch directory of an entry is kept. -/
def artifactName (index : Nat) (entry : Entry) : Name :=
  .join [Text.decimalPadded 5 index, "_", entry.path.stem]

/-- A name with another character than the dot leads down. -/
theorem proper_of_mem {c : Char} {name : Name} (hm : c ∈ name) (hc : c ≠ '.') :
    Path.IsProper name := by
  constructor <;> rintro rfl <;> simp [hc] at hm

theorem proper_artifactName (index : Nat) (entry : Entry) :
    Path.IsProper (artifactName index entry) :=
  proper_of_mem (c := '_') (by simp [artifactName]) (by decide)

theorem proper_scratch (number : Nat) :
    Path.IsProper (scratchStem ++ Text.decimalNat number) :=
  proper_of_mem (c := 'a') (List.mem_append_left _ (by decide)) (by decide)

/-- Keeping the artifacts copies the directory, and what is said of it changes no files. -/
theorem files_keepArtifacts {walk : Walk} {artifacts : Path} (ha : walk.artifacts = some artifacts)
    (index : Nat) (entry : Entry) (workdir : Path) (world : World) :
    (reached (walk.keepArtifacts index entry workdir world)).cwd = world.cwd ∧
      (reached (walk.keepArtifacts index entry workdir world)).tree =
        reached (FileTree.copyTree world.cwd FileTree.pathLimit workdir
          (artifactPath artifacts index entry) world.tree) := by
  have said : ∀ tree level message,
      (reached (Act.log level message { world with tree := tree })).cwd = world.cwd ∧
        (reached (Act.log level message { world with tree := tree })).tree = tree :=
    fun tree level message => Maintains.log (lasting_onFiles world.cwd (· = tree)) level message _ ⟨rfl, rfl⟩
  obtain ⟨_, _, copies, ends, keeps⟩ := keeps ha index entry workdir world
  rw [copies, ends]
  cases keeps with
  | whole tree => exact said tree _ _
  | incomplete fault faults tree => exact said tree _ _
  | refused cause path tree => exact said tree _ _
  | mishap other tree => exact ⟨rfl, rfl⟩

/-- Keeping the artifacts goes along their path. -/
theorem built_keepArtifacts (walk : Walk) (index : Nat) (entry : Entry) (workdir : Path)
    (world : World) (wellFormed : world.tree.WellFormed) (home : world.tree.Stands world.cwd) :
    (reached (walk.keepArtifacts index entry workdir world)).cwd = world.cwd ∧
      FileTree.Built world.cwd walk.MakesAlong walk.KeepsAlong world.tree
        (reached (walk.keepArtifacts index entry workdir world)).tree := by
  cases ha : walk.artifacts with
  | none =>
    rw [keepArtifacts_of_none ha]
    exact ⟨rfl, .refl⟩
  | some artifacts =>
    have proper := proper_artifactName index entry
    obtain ⟨hcwd, htree⟩ := files_keepArtifacts ha index entry workdir world
    rw [htree]
    exact ⟨hcwd, (FileTree.builds_copyTree world.cwd FileTree.pathLimit workdir
      (artifactPath artifacts index entry)).mono
      (fun path hd => ⟨artifacts, ha, hd.elim (FileTree.onWay_child proper)
        fun hd => .inr (FileTree.atOrBelow_child proper hd)⟩)
      (fun path hf => ⟨artifacts, ha, FileTree.atOrBelow_child proper hf⟩)
      world.tree wellFormed home⟩

/-! ## What a visit leaves -/

/-- The directory at `root` is removed from a tree in which everything else is as it was
before that was made, but for what was kept of it along the path of the artifacts. -/
structure Cleared (walk : Walk) (before : FileTree) (cwd : Place) (workdir : Path) (root : Place)
    (free : List Name → Prop) (after : FileTree) : Prop where
  scratch : Scratch before cwd workdir root
  kept : ∃ tree built, Working before root free tree ∧
    FileTree.Built cwd walk.MakesAlong walk.KeepsAlong tree built ∧ after = built.removeBelow root

/-- The files when the work on an entry is done, before its directory is removed. -/
def Settled (walk : Walk) (before : FileTree) (cwd root : Place) (free : List Name → Prop)
    (after : FileTree) : Prop :=
  ∃ tree, Working before root free tree ∧
    FileTree.Built cwd walk.MakesAlong walk.KeepsAlong tree after

end Walk

namespace Walk

section Visits
variable {walk : Walk} {cwd root : Place} {free : List Name → Prop} {before : FileTree}
  {workdir : Path}

/-- **What the work on an entry leaves before its directory is removed.** -/
theorem settled_step (contained : walk.Contained cwd free) (scratch : Scratch before cwd workdir root)
    (index : Nat) (entry : Entry) (session : Session)
    (h : OnFiles cwd (Working before root fun _ => True) session.world) :
    OnFiles cwd (Settled walk before cwd root free)
      (reached (walk.step index entry workdir session)).world := by
  refine of_step (lasting_onFiles cwd (Working before root free))
    (fun world h => ⟨h.1, _, h.2, .refl⟩) ?_ (contained scratch entry h)
  rintro world ⟨rfl, working⟩
  have kept := walk.built_keepArtifacts index entry workdir world working.wellFormed
    (scratch.stands_home working)
  exact ⟨kept.1, _, working, kept.2⟩

theorem makeScratch_cases {parent path : Path} {world made : World}
    (wellFormed : world.tree.WellFormed) (home : world.tree.Stands world.cwd)
    (plain : Path.dot ∉ parent.parts) (h : makeScratch parent world = .ok path made) :
    ∃ root, Scratch world.tree world.cwd path root ∧
      made = { world with tree := world.tree.put root .directory } := by
  simp only [makeScratch] at h
  split at h
  · rename_i tree hm
    cases h
    obtain ⟨root, hp, hn, rfl⟩ := FileTree.makeDirectory_cases hm
    refine ⟨root, ⟨wellFormed, home, fun hd => ?_, hp, hn⟩, rfl⟩
    rcases List.mem_append.1 hd with hd | hd
    · exact plain hd
    · exact (proper_scratch _).1 (List.mem_singleton.1 hd).symm
  · cases h

theorem makeScratch_error {parent : Path} {world after : World} {failure : Failure}
    (h : makeScratch parent world = .error failure after) : after = world := by
  simp only [makeScratch] at h
  split at h
  · cases h
  · rename_i hm
    cases h
    rw [FileTree.makeDirectory_error hm]

theorem world_cleared (path : Path) (result : EStateM.Result Failure Session Bool) :
    (reached (cleared path result)).world = removeScratch path (reached result).world := by
  cases result <;> rfl

/-- A visit leaves the world as it is, if it can make no directory, or works in one and
removes it. -/
theorem ending_leaves (contained : walk.Contained cwd free) (plain : Path.dot ∉ walk.scratchParent.parts)
    {visit : Visit} (hcwd : visit.start.world.cwd = cwd)
    (wellFormed : visit.start.world.tree.WellFormed) (home : visit.start.world.tree.Stands cwd) :
    (reached (visit.ending walk)).world.cwd = cwd ∧
      ((∃ failure, makeScratch walk.scratchParent visit.start.world =
          .error failure visit.start.world ∧
          (reached (visit.ending walk)).world = visit.start.world) ∨
        ∃ workdir made root, makeScratch walk.scratchParent visit.start.world = .ok workdir made ∧
          Cleared walk visit.start.world.tree cwd workdir root free
            (reached (visit.ending walk)).world.tree) := by
  obtain ⟨index, entry, session⟩ := visit
  obtain rfl : session.world.cwd = cwd := hcwd
  rw [Visit.ending, take_eq]
  cases hm : makeScratch walk.scratchParent session.world with
  | error failure after =>
    obtain rfl := makeScratch_error hm
    rw [withScratch_of_error (begun session) hm]
    exact ⟨rfl, .inl ⟨failure, rfl, rfl⟩⟩
  | ok workdir made =>
    obtain ⟨root, scratch, rfl⟩ := makeScratch_cases wellFormed home plain hm
    rw [withScratch_of_ok (begun session) hm]
    have settled := settled_step contained scratch index entry { begun session with
      world := { session.world with tree := session.world.tree.put root .directory } }
      ⟨rfl, scratch.working_made _⟩
    generalize walk.step index entry workdir _ = result at settled ⊢
    obtain ⟨hcwd, tree, working, built⟩ := settled
    have leads : (reached result).world.tree.placeOf (reached result).world.cwd false workdir =
        .ok root := by
      rw [hcwd]
      exact built.keeps.placeOf (scratch.placeOf working false)
    have removed : removeScratch workdir (reached result).world = { (reached result).world with
        tree := (reached result).world.tree.removeBelow root } := by
      rw [removeScratch, leads]
    rw [world_cleared, removed]
    exact ⟨hcwd, .inr ⟨workdir, _, root, rfl, scratch, tree, _, working, built, rfl⟩⟩

/-- A place where keeping the artifacts may make a directory. -/
def MakesAt (walk : Walk) (tree : FileTree) (cwd place : Place) : Prop :=
  ∃ path, walk.MakesAlong path ∧ tree.Reaches cwd path place

/-- A place where keeping the artifacts may write a file. -/
def KeepsAt (walk : Walk) (tree : FileTree) (cwd place : Place) : Prop :=
  ∃ path, walk.KeepsAlong path ∧ tree.Reaches cwd path place

/-- The files differ from what they were by what was kept of scratch directories. -/
def Preserved (walk : Walk) (cwd : Place) (before after : FileTree) : Prop :=
  before.Added after (walk.MakesAt before cwd) (walk.KeepsAt before cwd)

theorem Preserved.trans {middle after : FileTree} (h : Preserved walk cwd before middle)
    (h' : Preserved walk cwd middle after) : Preserved walk cwd before after := by
  have same := fun place => (h.keeps.link place).symm
  exact FileTree.Added.trans h (FileTree.Added.mono h'
    (fun place => fun ⟨path, hm, hr⟩ => ⟨path, hm, hr.congr same⟩)
    fun place => fun ⟨path, hm, hr⟩ => ⟨path, hm, hr.congr same⟩)

/-- **A visit leaves everything as it was** but for what it has kept, and nothing of its
directory. -/
theorem Cleared.preserved {after : FileTree}
    (cleared : Cleared walk before cwd workdir root (fun _ => True) after) :
    Preserved walk cwd before after ∧ after.WellFormed ∧
      ∀ place, root <+: place → after.node? place = none := by
  obtain ⟨scratch, tree, left, working, built, rfl⟩ := cleared
  have nothing : ∀ place, root <+: place → (left.removeBelow root).node? place = none :=
    fun _ hp => FileTree.node?_removeBelow_inside left scratch.vacant.ne_nil hp
  refine ⟨fun place => ?_, (built.wellFormed working.wellFormed
    (scratch.stands_home working)).removeBelow root, nothing⟩
  by_cases hp : root <+: place
  · exact .inl ((nothing place hp).trans (scratch.nothing hp).symm)
  have outside := FileTree.node?_removeBelow_outside left hp
  -- No link is in the directory, so paths lead where they led before it was made.
  have same := fun place => (scratch.links working place).symm
  have along : ∀ (paths : Path → Prop) place, (∃ path, paths path ∧ tree.Reaches cwd path place) →
      ∃ path, paths path ∧ before.Reaches cwd path place := by
    rintro paths place ⟨path, hm, reaches⟩
    exact ⟨path, hm, reaches.congr same⟩
  have added : tree.Added left (walk.MakesAt before cwd) (walk.KeepsAt before cwd) :=
    built.added.mono (along walk.MakesAlong) (along walk.KeepsAlong)
  rw [outside, ← working.outside place hp]
  exact added place

/-- The directory that a visit works in is gone when the visit ends. -/
def LeavesNoScratch (walk : Walk) (visit : Visit) : Prop :=
  ∀ workdir made, makeScratch walk.scratchParent visit.start.world = .ok workdir made →
    ∃ root, visit.start.world.tree.placeOf visit.start.world.cwd false workdir = .ok root ∧
      ∀ place, root <+: place → (reached (visit.ending walk)).world.tree.node? place = none

/-- What every visit keeps to, from a well formed tree on. -/
theorem ending_preserved (contained : walk.Contained cwd fun _ => True)
    (plain : Path.dot ∉ walk.scratchParent.parts) {visit : Visit}
    {result : EStateM.Result Failure Session Bool} (ending : visit.ending walk = result)
    (hcwd : visit.start.world.cwd = cwd) (wellFormed : visit.start.world.tree.WellFormed)
    (home : visit.start.world.tree.Stands cwd) :
    (reached result).world.cwd = cwd ∧
      Preserved walk cwd visit.start.world.tree (reached result).world.tree ∧
      (reached result).world.tree.WellFormed ∧ walk.LeavesNoScratch visit := by
  subst ending
  obtain ⟨hafter, ⟨failure, hm, he⟩ | ⟨workdir, made, root, hm, cleared⟩⟩ :=
    ending_leaves contained plain hcwd wellFormed home
  · refine ⟨hafter, ?_, by rwa [he], fun workdir made hm' => ?_⟩
    · rw [he]
      exact FileTree.Added.refl _ _ _
    · rw [hm] at hm'
      cases hm'
  · obtain ⟨preserved, wellFormed', nothing⟩ := cleared.preserved
    refine ⟨hafter, preserved, wellFormed', fun workdir' made' hm' => ?_⟩
    rw [hm] at hm'
    cases hm'
    exact ⟨root, hcwd ▸ cleared.scratch.leads, nothing⟩

/-- **What a course of visits keeps to**, by induction on the visits. -/
theorem Course.preserved {index : Nat} {corpus : List Entry} {session : Session}
    {visits : List Visit} {result : EStateM.Result Failure Session Unit}
    (h : Course walk index corpus session visits result)
    (contained : walk.Contained cwd fun _ => True) (plain : Path.dot ∉ walk.scratchParent.parts)
    (hcwd : session.world.cwd = cwd) (wellFormed : session.world.tree.WellFormed)
    (home : session.world.tree.Stands cwd) :
    Preserved walk cwd session.world.tree (reached result).world.tree ∧
      ∀ visit ∈ visits, walk.LeavesNoScratch visit := by
  induction h with
  | done index session => exact ⟨FileTree.Added.refl _ _ _, fun _ hm => (nomatch hm)⟩
  | goesOn ending _ ih =>
    obtain ⟨hafter, preserved, wellFormed', noScratch⟩ :=
      ending_preserved contained plain ending hcwd wellFormed home
    obtain ⟨preserved', all⟩ := ih hafter wellFormed' (FileTree.Added.keeps preserved |>.stands home)
    refine ⟨preserved.trans preserved', fun visit hm => ?_⟩
    rcases List.mem_cons.1 hm with rfl | hm
    · exact noScratch
    · exact all visit hm
  | halts ending =>
    have visited := ending_preserved contained plain ending hcwd wellFormed home
    refine ⟨visited.2.1, fun visit hm => ?_⟩
    rw [List.mem_singleton.1 hm]
    exact visited.2.2.2
  | fails ending =>
    have visited := ending_preserved contained plain ending hcwd wellFormed home
    refine ⟨visited.2.1, fun visit hm => ?_⟩
    rw [List.mem_singleton.1 hm]
    exact visited.2.2.2

end Visits

/-! ## Runs -/

/-- **What a run has done to the files** when it ends, by its visits. -/
structure FilesLeft (walk : Walk) (cwd : Place) (before after : FileTree) (visits : List Visit) :
    Prop where
  /-- Nothing was removed, no directory or link was replaced, and what has come to be was
  kept along the path of the artifacts. -/
  preserved : Preserved walk cwd before after
  /-- If no artifacts are kept, everything is as it was. -/
  unchanged : walk.artifacts = none → ∀ place, after.node? place = before.node? place
  /-- If no link is at or below the place that the path of the artifacts leads to, all that
  has come to be elsewhere are directories on the way to it. -/
  inside : ∀ artifacts ∈ walk.artifacts, ∀ root, before.Reaches cwd artifacts root →
    (∀ place, root <+: place → before.linkTarget? place = none) →
    ∀ place, ¬ root <+: place → after.node? place = before.node? place ∨
      before.node? place = none ∧ after.node? place = some .directory ∧
        ∃ above, FileTree.OnWay artifacts above ∧ before.Reaches cwd above place
  /-- No visit leaves its scratch directory behind. -/
  noScratch : ∀ visit ∈ visits, walk.LeavesNoScratch visit

theorem filesLeft_of_preserved {walk : Walk} {cwd : Place} {before after : FileTree}
    {visits : List Visit} (preserved : Preserved walk cwd before after)
    (noScratch : ∀ visit ∈ visits, walk.LeavesNoScratch visit) :
    FilesLeft walk cwd before after visits := by
  refine ⟨preserved, fun ha place => ?_, fun artifacts ha root leads unlinked place outside => ?_,
    noScratch⟩
  · rcases preserved place with he | ⟨⟨_, ⟨_, hm, _⟩, _⟩, _⟩ | ⟨⟨_, ⟨_, hm, _⟩, _⟩, _⟩
    · exact he
    · rw [ha] at hm
      cases hm
    · rw [ha] at hm
      cases hm
  · rcases preserved place with he | ⟨⟨path, ⟨_, hm, hp⟩, reaches⟩, hn, hd⟩ |
        ⟨⟨path, ⟨_, hm, hp⟩, reaches⟩, -⟩
    · exact .inl he
    · cases hm.symm.trans ha
      rcases hp with onWay | below
      · exact .inr ⟨hn, hd, path, onWay, reaches⟩
      · exact absurd (FileTree.prefix_of_atOrBelow below leads unlinked reaches) outside
    · cases hm.symm.trans ha
      exact absurd (FileTree.prefix_of_atOrBelow hp leads unlinked reaches) outside

/-- **However a run ends, the files are as they were** but for what was kept along the path
of the artifacts, if its programs are confined and make no links. -/
theorem files_of_run {machine : Machine} {scratchParent : Path} (session : Session)
    (confined : machine.Confined session.world.cwd fun _ => True)
    (plain : Path.dot ∉ scratchParent.parts) (wellFormed : session.world.tree.WellFormed)
    (home : session.world.tree.Stands session.world.cwd) (solc : Solc) (artifacts : Option Path)
    (corpus : List Entry) (label : Text) :
    FilesLeft (byMarkers solc machine artifacts scratchParent) session.world.cwd
      session.world.tree
      (reached ((byMarkers solc machine artifacts scratchParent).run corpus label session)).world.tree
      ((byMarkers solc machine artifacts scratchParent).runVisits corpus label session) := by
  have contained := contained_byMarkers confined trivial trivial solc artifacts scratchParent
  rcases (byMarkers solc machine artifacts scratchParent).run_cases corpus label session with
    ⟨fault, _, hv, hr⟩ | ⟨line, result, _, course, hr⟩
  · rw [hv, hr]
    exact filesLeft_of_preserved (FileTree.Added.refl _ _ _) fun _ hm => (nomatch hm)
  · have left := course.preserved contained plain rfl wellFormed home
    rw [hr, world_finished]
    exact filesLeft_of_preserved left.1 left.2

/-- A machine that starts nothing changes nothing. -/
theorem confined_refusing (cwd : Place) (free : List Name → Prop) :
    refusingMachine.Confined cwd free :=
  ⟨fun _ _ _ h => h, fun _ _ _ _ _ _ _ _ => rfl, fun _ _ _ _ _ _ _ _ h => h⟩

/-- The first source can be written, and the name of the second one leads out of the working
directory. -/
def halfWritten : Text := "==== Source: x ====\nnew\n==== Source: ../y ====\n"

/-- The walk over such entries with a compiler that is not there, and artifacts in `/k`. -/
def keepingWalk : Walk :=
  byMarkers rootSolc refusingMachine (some (Path.ofPlace [['k']])) (Path.ofPlace [])

/-- The same walk with its artifacts elsewhere. -/
def keepingAt (artifacts : Path) : Walk := { keepingWalk with artifacts := some artifacts }

/-- A session over that entry as `/e`, with some other files. -/
def keepingSession (others : List (Place × Node)) : Session :=
  freshSession ⟨⟨([['e']], .file (Utf8.encode halfWritten)) :: others⟩, [], [], []⟩ [] false

/-- The file `/v`, and a directory of artifacts with a link to it. -/
def linkedFiles : List (Place × Node) :=
  [([['v']], .file (Utf8.encode "old\n")), ([['k']], .directory),
    ([['k'], "00000_e"], .directory), ([['k'], "00000_e", ['x']], .link "../../v")]

/-- The first scratch directory. -/
def firstScratch : Place := ["ast-roundtrip-0"]

/-- The world of such a session when the scratch directory is made, with what it holds. -/
def halfSplit (others held : List (Place × Node)) : World :=
  ⟨⟨([['e']], .file (Utf8.encode halfWritten)) :: others ++ (firstScratch, .directory) :: held⟩,
    [], [], []⟩

/-- The first source in the scratch directory. -/
def heldSource : List (Place × Node) := [(firstScratch ++ [['x']], .file (Utf8.encode "new\n"))]

theorem ofText?_halfWritten :
    Section.ofText? halfWritten = some [⟨['x'], "new\n"⟩, ⟨"../y", []⟩] := by
  decide +kernel

/-- What is left by a visit that a finding about the tools ends. -/
theorem world_of_abort (walk : Walk) (visit : Visit) {workdir : Path} {made after : World}
    {cause : Abort} (hm : makeScratch walk.scratchParent visit.start.world = .ok workdir made)
    (hp : walk.process visit.entry workdir made = .error (.abort cause) after) :
    (reached (visit.ending walk)).world =
      removeScratch workdir
        (reached (walk.keepArtifacts visit.index visit.entry workdir after)) := by
  rw [Visit.ending, take_eq, withScratch_of_ok (begun visit.start) hm, world_cleared,
    step_of_error (show walk.process visit.entry workdir
      (Session.mk made (begun visit.start).stdout (begun visit.start).tally).world = _ from hp),
    settleFailure, if_pos (show (Failure.abort cause).isAbort = true from rfl), world_abandon]

/-- With these other files, the first source of that entry is written and the second one refused. -/
structure HalfDone (others : List (Place × Node)) : Prop where
  made : makeScratch keepingWalk.scratchParent (keepingSession others).world =
    .ok (Path.ofPlace firstScratch) (halfSplit others [])
  leads : (keepingSession others).world.tree.placeOf [] false (Path.ofPlace firstScratch) =
    .ok firstScratch
  read : (halfSplit others []).tree.read [] soleEntry.path = .ok (Utf8.encode halfWritten)
  root : (halfSplit others []).tree.canonical [] (Path.ofPlace firstScratch) =
    .ok (Path.ofPlace firstScratch)
  written : MarkerSplit.writeSections soleEntry (Path.ofPlace firstScratch)
      [⟨['x'], "new\n"⟩, ⟨"../y", []⟩] (halfSplit others []) =
    .error (.abort (.splitter (.invalidName soleEntry "../y"))) (halfSplit others heldSource)

section Half
variable {others : List (Place × Node)} {left : FileTree} (done : HalfDone others)
include done

theorem process_keepingWalk :
    keepingWalk.process soleEntry (Path.ofPlace firstScratch) (halfSplit others []) =
      .error (.abort (.splitter (.invalidName soleEntry "../y"))) (halfSplit others heldSource) := by
  refine bind_of_error ?_
  show MarkerSplit.split soleEntry _ _ = _
  rw [MarkerSplit.split, bind_of_ok (Act.ask_ok.2 ⟨done.read, rfl⟩), Utf8.decode_encode]
  simp only [ofText?_halfWritten]
  rw [bind_of_ok (Act.ask_ok.2 ⟨done.root, rfl⟩), bind_of_error done.written]

/-- The tree that such a run leaves: the first source is copied to the artifacts, and the
scratch directory is removed. -/
theorem tree_of_keepingAt {artifacts : Path}
    (copied : reached (FileTree.copyTree [] FileTree.pathLimit (Path.ofPlace firstScratch)
      (artifactPath artifacts 0 soleEntry) (halfSplit others heldSource).tree) = left)
    (leads : left.placeOf [] false (Path.ofPlace firstScratch) = .ok firstScratch) :
    (reached ((keepingAt artifacts).run [soleEntry] ".sol" (keepingSession others))).world.tree =
      left.removeBelow firstScratch := by
  have ended := (account_run (keepingAt artifacts) [soleEntry] ".sol" (keepingSession others).world
    [] false).leaves.2 [] _ (runVisits_soleEntry _ _)
  have abandoned := world_of_abort (keepingAt artifacts) ⟨0, soleEntry,
    ⟨(keepingSession others).world, "Looking at 1 .sol files...\n", openTally [soleEntry] false⟩⟩
    done.made (process_keepingWalk done)
  obtain ⟨cwd, tree⟩ := files_keepArtifacts (show (keepingAt artifacts).artifacts = some _ from rfl)
    0 soleEntry (Path.ofPlace firstScratch) (halfSplit others heldSource)
  rw [show (halfSplit others heldSource).cwd = [] from rfl] at cwd tree
  rw [copied] at tree
  rw [removeScratch, tree, cwd, leads] at abandoned
  exact congrArg World.tree (ended.trans abandoned)

theorem tree_of_keepingWalk
    (copied : reached (FileTree.copyTree [] FileTree.pathLimit (Path.ofPlace firstScratch)
      (artifactPath (Path.ofPlace [['k']]) 0 soleEntry) (halfSplit others heldSource).tree) = left)
    (leads : left.placeOf [] false (Path.ofPlace firstScratch) = .ok firstScratch) :
    (reached (keepingWalk.run [soleEntry] ".sol" (keepingSession others))).world.tree =
      left.removeBelow firstScratch :=
  tree_of_keepingAt done copied leads

end Half

theorem halfDone_nil : HalfDone [] := ⟨by cbv, by cbv, by cbv, by cbv, by cbv⟩

theorem halfDone_linkedFiles : HalfDone linkedFiles := ⟨by cbv, by cbv, by cbv, by cbv, by cbv⟩

theorem files_of_run_keeping :
    FilesLeft keepingWalk [] (keepingSession []).world.tree
        (reached (keepingWalk.run [soleEntry] ".sol" (keepingSession []))).world.tree
        (keepingWalk.runVisits [soleEntry] ".sol" (keepingSession [])) ∧
      (reached (keepingWalk.run [soleEntry] ".sol" (keepingSession []))).world.tree.node?
        [['k'], "00000_e", ['x']] = some (.file (Utf8.encode "new\n")) := by
  refine ⟨files_of_run (keepingSession []) (confined_refusing _ _) (by decide)
    (FileTree.wellFormed_of_entries (by simp only [Path.IsProper]; decide)) (FileTree.stands_nil _)
    rootSolc (some (Path.ofPlace [['k']])) [soleEntry] ".sol", ?_⟩
  rw [tree_of_keepingWalk halfDone_nil rfl (by cbv)]
  cbv

/-- **A link in the directory of the artifacts leads what is kept out of it**: a file
elsewhere is overwritten, although the programs are confined and make no links. -/
theorem kept_through_link :
    refusingMachine.Confined [] (fun _ => True) ∧
      (keepingSession linkedFiles).world.tree.WellFormed ∧
      ¬ [['k']] <+: [['v']] ∧
      (keepingSession linkedFiles).world.tree.node? [['v']] =
        some (.file (Utf8.encode "old\n")) ∧
      (reached (keepingWalk.run [soleEntry] ".sol" (keepingSession linkedFiles))).world.tree.node?
        [['v']] = some (.file (Utf8.encode "new\n")) ∧
      Utf8.encode "new\n" ≠ Utf8.encode "old\n" := by
  refine ⟨confined_refusing _ _,
    FileTree.wellFormed_of_entries (by simp only [Path.IsProper]; decide), by decide, by decide, ?_,
    by decide⟩
  rw [tree_of_keepingWalk halfDone_linkedFiles rfl (by cbv)]
  cbv

end Walk

end Reimport
