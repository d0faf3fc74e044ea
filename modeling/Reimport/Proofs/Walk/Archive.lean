import Reimport.Proofs.RoundTrip.Kept
import Reimport.Proofs.Split.Obstacles
import Reimport.Proofs.Walk.Evidence

/-!
# What the artifacts hold after a run

A run that begins with an empty directory for its artifacts, or with none, leaves one directory
there for each entry that failed and nothing else, and each holds what the scratch directory of
its entry held when the work on that entry ended (`archived_of_run`).

What that was is told by how far the entry came (`contents_of_fails`): the sources that had been
split off when one was refused, or all of them together with the outputs of the calls that were
made of the compiler.

The run has to be left alone with its artifacts.  If their path turns back from a directory that
is missing, they are found elsewhere once that directory is made; and programs may write to them,
or to the scratch directories (`archive_disturbed`).
-/
namespace Reimport

namespace Walk

/-- The artifacts are kept at `shelf`, where there is an empty directory or none yet: their path
leads there directly, and it is in no scratch directory that can come to be. -/
structure EmptyShelf (walk : Walk) (cwd : Place) (artifacts : Path) (shelf : Place)
    (tree : FileTree) : Prop where
  wellFormed : tree.WellFormed
  home : tree.Stands cwd
  direct : tree.Direct cwd artifacts shelf
  vacant : tree.node? shelf = none ∨ tree.node? shelf = some .directory
  empty : ∀ name names, tree.node? (shelf ++ name :: names) = none
  outside : ∀ number root, tree.Reaches cwd (scratchPath walk.scratchParent number) root →
    ¬ root <+: shelf

theorem EmptyShelf.shelved {walk : Walk} {cwd shelf : Place} {artifacts : Path} {tree : FileTree}
    (empty : EmptyShelf walk cwd artifacts shelf tree) :
    Shelved walk cwd artifacts shelf tree := by
  refine ⟨empty.wellFormed, empty.home, empty.direct, fun names => ?_, empty.outside⟩
  rw [FileTree.linkTarget?]
  cases names with
  | nil => rcases empty.vacant with h | h <;> rw [List.append_nil, h]
  | cons name rest => rw [empty.empty]

/-- What the artifacts hold at the end of a course of visits. -/
structure Archived (walk : Walk) (cwd : Place) (artifacts : Path) (shelf : Place)
    (visits : List Visit) (after : FileTree) : Prop where
  /-- The artifacts are where they were to be kept. -/
  leads : after.Reaches cwd artifacts shelf
  /-- There is a directory for each entry that failed, and it holds what the scratch directory of
  the entry held. -/
  holds : ∀ visit ∈ visits, visit.fails walk = true →
    ∃ workdir root, visit.WorksIn walk workdir root ∧
      (visit.leftBehind walk).node? root = some .directory ∧
      after.Mirrors (visit.goal shelf) (visit.leftBehind walk) root
  /-- Whatever is there belongs to an entry that failed. -/
  alone : ∀ name names node, after.node? (shelf ++ name :: names) = some node →
    ∃ visit ∈ visits, visit.fails walk = true ∧ name = artifactName visit.index visit.entry
  /-- No two entries share a directory. -/
  apart : visits.Pairwise fun visit other =>
    artifactName visit.index visit.entry ≠ artifactName other.index other.entry

section Courses
variable {walk : Walk} {cwd shelf root : Place} {artifacts workdir : Path} {index : Nat}
  {corpus : List Entry} {session : Session} {visits : List Visit} {visit : Visit}
  {result : EStateM.Result Failure Session Unit}

theorem Course.pairwise (h : Course walk index corpus session visits result) :
    visits.Pairwise fun visit other =>
      artifactName visit.index visit.entry ≠ artifactName other.index other.entry := by
  rw [List.pairwise_iff_getElem]
  intro i j hi hj lt same
  have first := (h.start (List.getElem?_eq_getElem hi)).1
  have second := (h.start (List.getElem?_eq_getElem hj)).1
  have := artifactName_inj same
  omega

/-- A scratch directory is in no place for artifacts where nothing is. -/
theorem apart_of_absent (works : visit.WorksIn walk workdir root)
    (scratch : Scratch visit.start.world.tree cwd workdir root)
    (absent : visit.start.world.tree.node? (visit.goal shelf) = none) :
    ¬ visit.goal shelf <+: root := by
  intro hp
  by_cases he : visit.goal shelf = root
  · -- The names of the two begin differently.
    obtain ⟨number, rfl⟩ := works.path
    obtain ⟨above, hr⟩ := FileTree.placeOf_child_name (proper_scratch number) scratch.leads
    have names := (List.append_inj' (he.trans hr) rfl).2
    exact artifactName_ne_scratch _ _ number (List.cons.inj names).1
  · rw [scratch.above.directory _ hp he] at absent
    cases absent

/-- **After a course of visits that begins with an empty shelf**, it holds the scratch directories
of the entries that failed, if each of them could be copied. -/
theorem archived_of_course (course : Course walk index corpus session visits result)
    (contained : walk.Contained cwd fun _ => True) (plain : Path.dot ∉ walk.scratchParent.parts)
    (given : walk.artifacts = some artifacts) (hcwd : session.world.cwd = cwd)
    (empty : EmptyShelf walk cwd artifacts shelf session.world.tree)
    (whole : ∀ visit ∈ visits, visit.fails walk = true →
      ∃ root, visit.Reported walk artifacts root) :
    Archived walk cwd artifacts shelf visits (reached result).world.tree := by
  have shelved := empty.shelved
  obtain ⟨preserved, -⟩ := course.preserved contained plain hcwd empty.wellFormed empty.home
  refine ⟨empty.direct.reaches.congr (FileTree.Added.keeps preserved).link,
    fun visit hm fails => ?_, fun name names node hn => ?_, course.pairwise⟩
  -- an entry that failed: nothing stood where its directory is copied to
  · obtain ⟨root, reported⟩ := whole visit hm fails
    obtain ⟨-, -, workdir, kept, works, copied⟩ := reported
    obtain ⟨rfl, now, same⟩ := course.keeps contained plain given hcwd shelved hm
    have absent : ∀ names, session.world.tree.node? (visit.goal shelf ++ names) = none := by
      intro names
      rw [Visit.goal, List.append_assoc]
      exact empty.empty _ names
    obtain ⟨scratch, -⟩ :=
      ending_of_fails contained plain rfl now.wellFormed now.home fails works
    have apart : ¬ visit.goal shelf <+: root := by
      refine apart_of_absent works scratch ?_
      rw [(same _ (List.prefix_refl _)).1, ← List.append_nil (visit.goal shelf), absent]
    have kept := kept_of_course course contained plain hcwd shelved hm
      ⟨given, fails, workdir, kept, works, copied⟩ apart
    refine ⟨workdir, root, works, kept.worked, kept.exact.2 fun names node hn => ?_⟩
    rw [absent] at hn
    cases hn
  -- nothing else is there: a place that no entry is copied to is left empty
  · refine Classical.byContradiction fun alone => ?_
    have below : ¬ shelf ++ name :: names <+: shelf := by
      intro hp
      have := hp.length_le
      simp at this
    have untouched := course.untouched contained plain given hcwd shelved below
      fun visit hm fails hp => alone ⟨visit, hm, fails, ?_⟩
    · rw [untouched, empty.empty] at hn
      cases hn
    · obtain ⟨_, he⟩ := (List.prefix_append_right_inj _).1 hp
      exact (List.cons.inj he).1.symm

end Courses

/-! ## What is in a scratch directory -/

/-- What the scratch directory at `root` holds when an entry has failed, by how far the entry came
from the world on in which that directory was made. -/
inductive Contents (solc : Solc) (machine : Machine) (entry : Entry) (workdir : Path) (root : Place)
    (made : World) (left : FileTree) : Prop
  /-- A section was refused: there is what the sections before it have written. -/
  | refused {earlier later : List Section} {source : Section} {middle : World}
    (sections : MarkerSplit.sectionsOf made entry = earlier ++ source :: later)
    (written : MarkerSplit.writeSections entry (Path.ofPlace root) earlier made = .ok () middle)
    (refused : MarkerSplit.Refused middle root source.name)
    (holds : left = middle.tree)
  /-- The compiler was called: there is what the split has written, and the outputs of the calls
  that have one to keep, if the compiler itself writes no files. -/
  | tried {result : SplitResult} {split ready : World} {files : List Path}
    (answer : MarkerSplit.split entry workdir made = .ok result split)
    (given : Walk.files entry result split = .ok files ready)
    (holds : machine.WritesNothing → ∀ place, left.node? place =
      match (RoundTrip.Trial.mk solc machine files workdir).leftAt root place
        ((RoundTrip.Trial.mk solc machine files workdir).calls ready) with
      | some text => some (.file (Utf8.encode text))
      | none => split.tree.node? place)

section Contents
variable {solc : Solc} {machine : Machine} {entry : Entry} {artifacts : Option Path}
  {scratchParent workdir : Path} {before : FileTree} {cwd root : Place}

/-- A split that ends with a finding about the tools has refused a section. -/
theorem refused_of_split {made after : World} {failure : Failure}
    (workplace : EmptyWorkdir made workdir root)
    (h : MarkerSplit.split entry workdir made = .error failure after)
    (finding : failure.isAbort = true) :
    Contents solc machine entry workdir root made after.tree := by
  obtain ⟨ending, he, hsplit⟩ :=
    MarkerSplit.split_eq_writeSections workplace.canonical_workdir entry
  rw [hsplit] at h
  rcases bind_error.1 h with h | ⟨_, middle, _, h⟩
  · obtain ⟨earlier, source, later, middle, sections, written, failed⟩ :=
      MarkerSplit.writeSections_error h
    rcases MarkerSplit.failure_of_writeSection failed with rfl | ⟨error, rfl⟩
    · obtain ⟨-, rfl, refused⟩ := MarkerSplit.refused_of_writeSection failed
      exact .refused sections written refused rfl
    · cases finding
  · cases he with
    | result _ => cases h
    | mishap error =>
      cases h
      cases finding

/-- Saying what the files of an entry are finds no fault with the tools. -/
theorem mild_files (entry : Entry) (result : SplitResult) : (Walk.files entry result).Mild := by
  cases result with
  | multiple files => exact .pure files
  | single file => exact .pure [file]
  | undecodable diagnostic => exact .bind (.emit _) fun _ => .pure _
  | unknown =>
    intro world failure after h
    cases h
    rfl

section Process
variable {made : World} (scratch : Scratch before made.cwd workdir root)
  (workplace : EmptyWorkdir made workdir root)
  (working : Working before root (fun _ => True) made.tree)
include scratch workplace working

/-- Where a round trip begins, its working directory is the one that was made. -/
theorem site_of_working {ready : World}
    (now : OnFiles made.cwd (Working before root fun _ => True) ready) :
    RoundTrip.Site ready workdir root := by
  have resolved := FileTree.resolveFrom_of_placeOf workplace.plain workplace.leads
  have site : RoundTrip.Site made workdir root :=
    ⟨workplace.plain, resolved, working.unlinked _ trivial, working.unlinked _ trivial⟩
  exact site.of_links now.1 fun place =>
    (scratch.links now.2 place).trans (scratch.links working place).symm

/-- An entry that comes to an outcome has been tried. -/
theorem contents_of_ok {outcome : Outcome} {after : World}
    (h : (byMarkers solc machine artifacts scratchParent).process entry workdir made =
      .ok outcome after) : Contents solc machine entry workdir root made after.tree := by
  obtain ⟨result, split, hs, h⟩ := bind_ok.1 h
  obtain ⟨files, ready, hf, hc⟩ := bind_ok.1 h
  have splits := scratch.maintains_split (fun _ => trivial) entry made ⟨rfl, working⟩
  rw [show MarkerSplit.split entry workdir made = _ from hs, reached_ok] at splits
  have same := maintains_files entry result split.cwd (· = split.tree) split ⟨rfl, rfl⟩
  rw [hf, reached_ok] at same
  have site := site_of_working scratch workplace working
    ⟨same.1.trans splits.1, same.2.symm ▸ splits.2⟩
  refine .tried hs hf fun tidy place => ?_
  let trial : RoundTrip.Trial := ⟨solc, machine, files, workdir⟩
  have leaves := trial.check_leaves tidy site hc place
  rw [same.2] at leaves
  exact leaves

omit scratch working in
/-- An entry that comes to no outcome by a finding about the tools was refused by the splitter. -/
theorem contents_of_error {failure : Failure} {after : World}
    (h : (byMarkers solc machine artifacts scratchParent).process entry workdir made =
      .error failure after) (finding : failure.isAbort = true) :
    Contents solc machine entry workdir root made after.tree := by
  rcases bind_error.1 h with hs | ⟨result, split, -, h⟩
  · exact refused_of_split workplace hs finding
  rcases bind_error.1 h with hf | ⟨files, ready, -, hc⟩
  · rw [mild_files _ _ _ _ _ hf] at finding
    cases finding
  · rw [RoundTrip.mild_check _ _ _ _ _ _ _ _ hc] at finding
    cases finding

end Process

/-- **What the scratch directory of a failing entry holds** when the work on it ends. -/
theorem contents_of_fails {visit : Visit} {made : World}
    (wellFormed : visit.start.world.tree.WellFormed)
    (home : visit.start.world.tree.Stands visit.start.world.cwd)
    (plain : Path.dot ∉ scratchParent.parts)
    (works : visit.WorksIn (byMarkers solc machine artifacts scratchParent) workdir root)
    (make : makeScratch scratchParent visit.start.world = .ok workdir made)
    (fails : visit.fails (byMarkers solc machine artifacts scratchParent) = true) :
    Contents solc machine visit.entry workdir root made
      (visit.leftBehind (byMarkers solc machine artifacts scratchParent)) := by
  have left : visit.leftBehind (byMarkers solc machine artifacts scratchParent) =
      (reached ((byMarkers solc machine artifacts scratchParent).process visit.entry workdir
        made)).tree := by
    rw [Visit.leftBehind, attempt_eq, bind_of_ok (show makeScratch (byMarkers solc machine
      artifacts scratchParent).scratchParent visit.start.world = _ from make)]
  rw [Twins.fails_eq _ make] at fails
  rw [left]
  obtain ⟨place, scratch, rfl⟩ := makeScratch_cases wellFormed home plain make
  obtain rfl : place = root := Except.ok.inj (scratch.leads.symm.trans works.leads)
  have workplace := scratch.emptyWorkdir visit.start.world.launches visit.start.world.stderr
  cases hp : (byMarkers solc machine artifacts scratchParent).process visit.entry workdir
      { visit.start.world with tree := visit.start.world.tree.put place .directory } with
  | ok outcome after =>
    have scratch : Scratch visit.start.world.tree ({ visit.start.world with
      tree := visit.start.world.tree.put place .directory } : World).cwd workdir place := scratch
    exact contents_of_ok scratch workplace (scratch.working_made _) hp
  | error failure after =>
    have worked : (byMarkers solc machine artifacts scratchParent).work visit.entry workdir
        { begun visit.start with world :=
          { visit.start.world with tree := visit.start.world.tree.put place .directory } } = _ :=
      work_of_error hp
    rw [worked] at fails
    exact contents_of_error workplace hp fails

end Contents

/-! ## Runs -/

section Runs
variable {solc : Solc} {machine : Machine} {artifacts scratchParent : Path} {walk : Walk}
  {session : Session} {corpus : List Entry} {label : Text} {shelf : Place}

/-- **What a run leaves among its artifacts**, when there were none before and each failing entry
could be copied: for each of these entries a directory of its own with what its scratch directory
held, which is what the splitter and the calls of the compiler have made, and nothing else. -/
theorem archived_of_run (marked : walk = byMarkers solc machine (some artifacts) scratchParent)
    (confined : machine.Confined session.world.cwd fun _ => True)
    (plain : Path.dot ∉ scratchParent.parts)
    (empty : EmptyShelf walk session.world.cwd artifacts shelf session.world.tree)
    (whole : ∀ visit ∈ walk.runVisits corpus label session, visit.fails walk = true →
      ∃ root, visit.Reported walk artifacts root) :
    Archived walk session.world.cwd artifacts shelf (walk.runVisits corpus label session)
        (reached (walk.run corpus label session)).world.tree ∧
      ∀ visit ∈ walk.runVisits corpus label session, visit.fails walk = true →
        ∀ workdir root made, visit.WorksIn walk workdir root →
          makeScratch scratchParent visit.start.world = .ok workdir made →
          Contents solc machine visit.entry workdir root made (visit.leftBehind walk) := by
  subst marked
  have contained := contained_byMarkers confined trivial trivial solc (some artifacts) scratchParent
  rcases (byMarkers solc machine (some artifacts) scratchParent).run_cases corpus label session with
    ⟨_, _, hv, hr⟩ | ⟨line, result, _, course, hr⟩
  · rw [hv, hr]
    exact ⟨archived_of_course (.done 0 session) contained plain rfl rfl empty
      fun _ hm => (nomatch hm), fun _ hm => (nomatch hm)⟩
  · rw [hr, world_finished]
    refine ⟨archived_of_course course contained plain rfl rfl empty whole,
      fun visit hm fails workdir root made works make => ?_⟩
    obtain ⟨hcwd, now, -⟩ := course.keeps contained plain rfl rfl empty.shelved hm
    exact contents_of_fails now.wellFormed (hcwd.symm ▸ now.home) plain works make fails

end Runs

theorem archived_of_run_keeping :
    ∃ visit made, keepingWalk.runVisits [soleEntry] ".sol" (keepingSession []) = [visit] ∧
      visit.fails keepingWalk = true ∧
      Archived keepingWalk [] (Path.ofPlace [['k']]) [['k']] [visit]
        (reached (keepingWalk.run [soleEntry] ".sol" (keepingSession []))).world.tree ∧
      Contents rootSolc refusingMachine soleEntry (Path.ofPlace firstScratch) firstScratch made
        (visit.leftBehind keepingWalk) := by
  obtain ⟨shelved, reported⟩ := reported_fresh
  have marked : keepingWalk =
      byMarkers rootSolc refusingMachine (some (Path.ofPlace [['k']])) (Path.ofPlace []) := rfl
  have vacant : (keepingSession []).world.tree.node? [['k']] = none := by decide
  have empty : EmptyShelf keepingWalk (keepingSession []).world.cwd (Path.ofPlace [['k']]) [['k']]
      (keepingSession []).world.tree :=
    ⟨shelved.wellFormed, shelved.home, shelved.direct, .inl vacant, fun name names =>
      shelved.wellFormed.nothing_below (by simp [vacant]) (List.cons_ne_nil name names),
      shelved.outside⟩
  have visits := runVisits_keeping keepingWalk []
  have whole : ∀ visit ∈ keepingWalk.runVisits [soleEntry] ".sol" (keepingSession []),
      visit.fails keepingWalk = true →
        ∃ root, visit.Reported keepingWalk (Path.ofPlace [['k']]) root := by
    intro visit hm _
    rw [visits, List.mem_singleton] at hm
    exact ⟨_, hm ▸ reported⟩
  obtain ⟨archived, contents⟩ :=
    archived_of_run marked (confined_refusing _ _) (by decide) empty whole
  have works : (keepingVisit []).WorksIn keepingWalk (Path.ofPlace firstScratch) firstScratch :=
    ⟨⟨_, halfDone_nil.made⟩, halfDone_nil.leads⟩
  exact ⟨_, _, visits, reported.fails, visits ▸ archived,
    contents _ (keepingVisit_mem []) reported.fails _ _ _ works halfDone_nil.made⟩

/-! ### Artifacts in other places, and other programs that write to them -/

/-- A directory `/k` with a file. -/
def strangeFiles : List (Place × Node) :=
  [([['k']], .directory), ([['k'], "old"], .file (Utf8.encode "old\n"))]

theorem halfDone_strangeFiles : HalfDone strangeFiles := ⟨by cbv, by cbv, by cbv, by cbv, by cbv⟩

/-- The programs of a machine that also write an empty file, at a path that is told by their
working directory. -/
def touching (machine : Machine) (goal : Path → Path) : Machine :=
  ⟨fun history launch tree => ((machine.respond history launch tree).1,
    match FileTree.write [] .replace (goal (launch.directory.getD (Path.ofPlace []))) [] tree with
    | .ok _ after => after
    | .error _ _ => tree)⟩

/-- Such programs make no links. -/
theorem unlinked_touching (machine : Machine) (goal : Path → Path) (history : List Launch)
    (launch : Launch) {tree : FileTree} {place : Place} (h : tree.linkTarget? place = none) :
    ((touching machine goal).respond history launch tree).2.linkTarget? place = none := by
  rw [touching]
  dsimp only
  split
  · rename_i _ after hw
    obtain ⟨other, -, written⟩ := FileTree.write_cases hw
    have nonempty : other ≠ [] := by
      rintro rfl
      simp [FileTree.node?_nil] at written
    obtain ⟨content, rfl⟩ : ∃ content, after = tree.put other (.file content) := by
      rcases written with ⟨_, -, rfl⟩ | ⟨-, rfl⟩ <;> exact ⟨_, rfl⟩
    rw [FileTree.linkTarget?, FileTree.node?_put _ nonempty]
    split <;> rename_i he
    · split at he
      · cases he
      · rwa [FileTree.linkTarget?, he] at h
    · rfl
  · exact h

/-- The entries `/a` and `/b`, and an empty directory for artifacts. -/
def shelvedPair : Session :=
  freshSession ⟨⟨pairSession.world.tree.entries ++ [([['k']], .directory)]⟩, [], [], []⟩ [] false

/-- A walk over `/b` with programs that write to the artifacts. -/
def litteringWalk : Walk :=
  byMarkers rootSolc (touching pickyMachine fun _ => Path.ofPlace [['k'], ['z']])
    (some (Path.ofPlace [['k']])) (Path.ofPlace [])

theorem fails_littering :
    ∀ visit ∈ litteringWalk.runVisits [⟨Path.ofPlace [['b']]⟩] ".sol" shelvedPair,
      visit.fails litteringWalk = false := by
  rw [shelvedPair, runVisits_single]
  intro visit hm
  rw [List.mem_singleton.1 hm]
  cbv

/-- A walk over `/a` with programs that write to their working directory. -/
def spillingWalk : Walk :=
  byMarkers rootSolc (touching differingMachine (·.child ['z'])) (some (Path.ofPlace [['k']]))
    (Path.ofPlace [])

/-- Its one visit. -/
def spillingVisit : Visit :=
  ⟨0, ⟨Path.ofPlace [['a']]⟩, ⟨pairSession.world, "Looking at 1 .sol files...\n",
    openTally [⟨Path.ofPlace [['a']]⟩] false⟩⟩

theorem spills_spilling :
    Spills (touching differingMachine (·.child ['z'])) [(firstScratch ++ [['z']], .file [])] := by
  refine ⟨fun command held launches h => ?_, fun held launches h => ?_, fun launches => by cbv⟩
  · have answer : Solc.run (touching differingMachine (·.child ['z'])) command
        (some (Path.ofPlace firstScratch)) (underway held launches) =
        .ok ⟨command, 0, if command[1]? = some ("--import-ast" : Text) then ['x'] else [], []⟩
          ⟨match FileTree.write [] .replace ((Path.ofPlace firstScratch).child ['z']) []
              (underway held launches).tree with
            | .ok _ after => after
            | .error _ _ => (underway held launches).tree,
            [], launches ++ [⟨command, some (Path.ofPlace firstScratch)⟩], []⟩ := rfl
    have written : FileTree.write [] .replace ((Path.ofPlace firstScratch).child ['z']) []
        (underway held launches).tree = .ok () (underway (if held = [] then
          [(firstScratch ++ [['z']], .file [])] else held) launches).tree := by
      rcases h with rfl | rfl | rfl <;> cbv
    rw [answer, written]
    rfl
  · rcases h with rfl | rfl <;> cbv

/-- What they write is preserved with the rest. -/
theorem reported_spilling :
    spillingVisit.Reported spillingWalk (Path.ofPlace [['k']]) firstScratch ∧
      (spillingVisit.leftBehind spillingWalk).node? (firstScratch ++ [['z']]) =
        some (.file []) := by
  have made : makeScratch spillingWalk.scratchParent spillingVisit.start.world =
      .ok (Path.ofPlace firstScratch) (underway [] []) := by cbv
  have processed := spills_spilling.process (some (Path.ofPlace [['k']]))
  have left : spillingVisit.leftBehind spillingWalk =
      (differingEnd [(firstScratch ++ [['z']], .file [])]).tree := by
    rw [Visit.leftBehind, attempt_eq, bind_of_ok made]
    exact congrArg (fun result => (reached result).tree) processed
  have mismatched : spillingWalk.mismatchedIn spillingVisit = true := by
    rw [mismatchedIn, Visit.outcome?, attempt_eq, bind_of_ok made]
    exact congrArg (fun result => (outcomeOf result).any Outcome.isMismatch) processed
  have copied : FileTree.copyTree [] FileTree.pathLimit (Path.ofPlace firstScratch)
      (artifactPath (Path.ofPlace [['k']]) 0 ⟨Path.ofPlace [['a']]⟩)
      (spillingVisit.leftBehind spillingWalk) =
      .ok [] ⟨(spillingVisit.leftBehind spillingWalk).entries ++ [([['k']], .directory),
        ([['k'], "00000_a"], .directory), ([['k'], "00000_a", ['z']], .file []),
        ([['k'], "00000_a", exportedName], .file []),
        ([['k'], "00000_a", RoundTrip.obtainedName], .file [120])]⟩ := by
    rw [left]
    cbv
  refine ⟨⟨rfl, ?_, _, _, ⟨⟨_, made⟩, by cbv⟩, copied⟩, ?_⟩
  · rw [Visit.fails, mismatched, Bool.true_or]
  · rw [left]
    decide

/-- **There can be more among the artifacts than was kept, or less**, although there were none and
each copy succeeds: if their path turns back from a directory that is made on the way, if a
program writes there, or if they are to be kept in a scratch directory.  And a scratch directory
holds more than what was split and exported if a program writes there. -/
theorem archive_disturbed :
    (∀ machine goal history launch tree place, tree.linkTarget? place = none →
      ((touching machine goal).respond history launch tree).2.linkTarget? place = none) ∧
    (∃ artifacts visit after,
      (keepingSession strangeFiles).world.tree.pathExists [] artifacts = .ok false ∧
      (keepingAt artifacts).runVisits [soleEntry] ".sol" (keepingSession strangeFiles) = [visit] ∧
      visit.Reported (keepingAt artifacts) artifacts firstScratch ∧
      after = (reached ((keepingAt artifacts).run [soleEntry] ".sol"
        (keepingSession strangeFiles))).world.tree ∧
      after.placeOf [] true artifacts = .ok [['k']] ∧
      after.node? [['k'], "old"] = some (.file (Utf8.encode "old\n")) ∧
      visit.goal [['k']] ≠ [['k'], "old"]) ∧
    (shelvedPair.world.tree.list [] (Path.ofPlace [['k']]) = .ok [] ∧
      (∀ visit ∈ litteringWalk.runVisits [⟨Path.ofPlace [['b']]⟩] ".sol" shelvedPair,
        visit.fails litteringWalk = false) ∧
      (reached (litteringWalk.run [⟨Path.ofPlace [['b']]⟩] ".sol" shelvedPair)).world.tree.node?
        [['k'], ['z']] = some (.file [])) ∧
    (∃ artifacts visit,
      (keepingSession []).world.tree.pathExists [] artifacts = .ok false ∧
      (keepingAt artifacts).runVisits [soleEntry] ".sol" (keepingSession []) = [visit] ∧
      visit.Reported (keepingAt artifacts) artifacts firstScratch ∧
      (reached ((keepingAt artifacts).run [soleEntry] ".sol"
          (keepingSession []))).world.tree.pathExists [] artifacts = .ok false) ∧
    ∃ visit, spillingWalk.runVisits [⟨Path.ofPlace [['a']]⟩] ".sol" pairSession = [visit] ∧
      visit.Reported spillingWalk (Path.ofPlace [['k']]) firstScratch ∧
      (visit.leftBehind spillingWalk).node? (firstScratch ++ [['z']]) = some (.file []) := by
  refine ⟨fun machine goal history launch _ _ => unlinked_touching machine goal history launch,
    ?_, ⟨by cbv, fails_littering, by cbv⟩, ?_, _, runVisits_single _ _ _, reported_spilling⟩
  · have copied : FileTree.copyTree [] FileTree.pathLimit (Path.ofPlace firstScratch)
        (artifactPath (Path.ofPlace [['x'], Path.dotDot, ['k']]) 0 soleEntry)
        (halfSplit strangeFiles heldSource).tree =
        .ok [] ⟨(halfSplit strangeFiles heldSource).tree.entries ++ [([['x']], .directory),
          ([['k'], "00000_e"], .directory),
          ([['k'], "00000_e", ['x']], .file (Utf8.encode "new\n"))]⟩ := by
      cbv
    obtain ⟨reported, -⟩ := reported_keepingVisit halfDone_strangeFiles copied
    refine ⟨_, _, _, by cbv, runVisits_keeping _ _, reported,
      (tree_of_keepingAt halfDone_strangeFiles (congrArg reached copied) (by cbv)).symm, by cbv, by cbv, ?_⟩
    rw [goal_keepingVisit]
    decide
  · have copied : FileTree.copyTree [] FileTree.pathLimit (Path.ofPlace firstScratch)
        (artifactPath (Path.ofPlace (firstScratch ++ [['k']])) 0 soleEntry)
        (halfSplit [] heldSource).tree =
        .ok [] ⟨(halfSplit [] heldSource).tree.entries ++
          [(firstScratch ++ [['k']], .directory), (firstScratch ++ [['k'], "00000_e"], .directory),
            (firstScratch ++ [['k'], "00000_e", ['x']], .file (Utf8.encode "new\n"))]⟩ := by
      cbv
    obtain ⟨reported, -⟩ := reported_keepingVisit halfDone_nil copied
    refine ⟨_, _, by cbv, runVisits_keeping _ _, reported, ?_⟩
    rw [tree_of_keepingAt halfDone_nil (congrArg reached copied) (by cbv)]
    cbv

end Walk
end Reimport
