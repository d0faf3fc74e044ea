import Reimport.Proofs.RoundTrip.Calls
import Reimport.Proofs.Split.Faithful

/-!
# What a round trip leaves in its working directory

A round trip keeps the output of its export and of its import in the working directory,
each under a fixed name, and touches nothing else.  With a compiler that writes no files,
what is at a place afterwards is therefore told by the calls alone (`check_leaves`).

The sources of an entry are in the same directory under names of their own.  A source is
what it was unless it goes to one of the two places and the round trip gets as far as to
keep an output there (`sources_after_check`).
-/
namespace Reimport

/-- The programs of a machine write no files. -/
def Machine.WritesNothing (machine : Machine) : Prop :=
  ∀ history launch tree, (machine.respond history launch tree).2 = tree

namespace RoundTrip

/-- The working directory `workdir` is at the place `root`, and no link is there under the
names of the exports. -/
structure Site (world : World) (workdir : Path) (root : Place) : Prop where
  plain : Path.dot ∉ workdir.parts
  resolved : world.tree.resolveFrom world.tree.entries.length []
    (FileTree.start world.cwd workdir) workdir.parts = ⟨root, true⟩
  exported : world.tree.linkTarget? (root ++ [exportedName]) = none
  obtained : world.tree.linkTarget? (root ++ [obtainedName]) = none

/-- The file in which the output of a call is kept. -/
def Phase.product? : Phase → Option Name
  | .probing => none
  | .exporting => some exportedName
  | .importing => some obtainedName

/-- What some calls leave at a place, with the working directory at `root`. -/
def Trial.leftAt (trial : Trial) (root place : Place) (calls : List Call) : Option Text :=
  calls.findSome? fun call =>
    if call.phase.product?.map (root ++ [·]) = some place then some (trial.answer call).stdout
    else none

namespace Site
variable {world after : World} {workdir : Path} {root place : Place} {name : Name}

/-- The working directory stays where it is as long as the links do. -/
theorem of_links (site : Site world workdir root) (home : after.cwd = world.cwd)
    (same : ∀ place, after.tree.linkTarget? place = world.tree.linkTarget? place) :
    Site after workdir root := by
  refine ⟨site.plain, ?_, by rw [same]; exact site.exported, by rw [same]; exact site.obtained⟩
  rw [home, FileTree.resolveFrom_congr same (FileTree.room_nil _) (FileTree.room_nil world.tree)]
  exact site.resolved

/-- A name in the working directory leads to the place of that name, if no link is there. -/
theorem placeOf_child (site : Site world workdir root) (proper : Path.IsProper name)
    (unlinked : world.tree.linkTarget? (root ++ [name]) = none)
    (h : world.tree.placeOf world.cwd true (workdir.child name) = .ok place) :
    place = root ++ [name] := by
  have plain : Path.dot ∉ (workdir.child name).parts := by
    intro hm
    rcases List.mem_append.1 hm with hm | hm
    · exact site.plain hm
    · exact proper.1 (List.mem_singleton.1 hm).symm
  have reached := FileTree.resolveFrom_of_placeOf plain h
  have direct : world.tree.resolveFrom world.tree.entries.length []
      (FileTree.start world.cwd workdir) (workdir.parts ++ [name]) = ⟨root ++ [name], true⟩ := by
    rw [FileTree.resolveFrom_append, site.resolved, FileTree.Resolved.andThen, if_pos rfl,
      FileTree.resolveFrom_down proper.2 unlinked, FileTree.resolveFrom]
  exact (congrArg FileTree.Resolved.place (direct.symm.trans reached)).symm

/-- Keeping a text puts it at the place of its name and changes nothing else. -/
theorem keep (site : Site world workdir root) (proper : Path.IsProper name)
    (unlinked : world.tree.linkTarget? (root ++ [name]) = none) {content : Text}
    (h : RoundTrip.keep workdir name content world = .ok () after) :
    Site after workdir root ∧ ∀ place, after.tree.node? place =
      if place = root ++ [name] then some (.file (Utf8.encode content))
      else world.tree.node? place := by
  obtain ⟨tree, hw, rfl⟩ := Act.change_ok.1 h
  obtain ⟨place, hp, hcases⟩ := FileTree.write_cases hw
  obtain rfl := site.placeOf_child proper unlinked hp
  have nonempty : root ++ [name] ≠ [] := by simp
  obtain rfl : tree = world.tree.put (root ++ [name]) (.file (Utf8.encode content)) := by
    rcases hcases with ⟨_, _, rfl⟩ | ⟨_, rfl⟩ <;> rfl
  have nodes := fun other => FileTree.node?_put world.tree nonempty other
    (.file (Utf8.encode content))
  refine ⟨site.of_links rfl fun other => ?_, nodes⟩
  by_cases he : other = root ++ [name]
  · subst he
    rw [unlinked, FileTree.linkTarget?, nodes, if_pos rfl]
  · exact FileTree.linkTarget?_of_node? (by rw [nodes, if_neg he])

theorem keep_exported (site : Site world workdir root) {content : Text}
    (h : RoundTrip.keep workdir exportedName content world = .ok () after) :
    Site after workdir root ∧ ∀ place, after.tree.node? place =
      if place = root ++ [exportedName] then some (.file (Utf8.encode content))
      else world.tree.node? place :=
  site.keep ⟨by decide, by decide⟩ site.exported h

theorem keep_obtained (site : Site world workdir root) {content : Text}
    (h : RoundTrip.keep workdir obtainedName content world = .ok () after) :
    Site after workdir root ∧ ∀ place, after.tree.node? place =
      if place = root ++ [obtainedName] then some (.file (Utf8.encode content))
      else world.tree.node? place :=
  site.keep ⟨by decide, by decide⟩ site.obtained h

/-- Keeping the export twice is as good as keeping it once. -/
theorem supply {trial : Trial} (site : Site world trial.workdir root) {exported : Text}
    (h : trial.supply exported world = .ok () after) :
    Site after trial.workdir root ∧ ∀ place, after.tree.node? place =
      if place = root ++ [exportedName] then some (.file (Utf8.encode exported))
      else world.tree.node? place := by
  obtain ⟨_, middle, first, second⟩ := bind_ok.1 h
  obtain ⟨site', kept⟩ := site.keep_exported first
  obtain ⟨site'', again⟩ := site'.keep_exported second
  refine ⟨site'', fun place => ?_⟩
  rw [again, kept]
  split <;> rfl

end Site

namespace Trial
variable {trial : Trial} {root : Place} {world after : World} {entry : Entry} {outcome : Outcome}

/-- A compiler that writes no files leaves the files as they were. -/
theorem tree_after (tidy : trial.machine.WritesNothing) (call : Call) :
    (trial.after call).tree = call.world.tree :=
  tidy _ _ _

theorem site_after (tidy : trial.machine.WritesNothing) {call : Call}
    (site : Site call.world trial.workdir root) : Site (trial.after call) trial.workdir root :=
  site.of_links rfl fun place => by rw [tree_after tidy]

theorem leftAt_nil (trial : Trial) (root place : Place) : trial.leftAt root place [] = none := rfl

theorem leftAt_cons (trial : Trial) (root place : Place) (call : Call) (rest : List Call) :
    trial.leftAt root place (call :: rest) =
      if call.phase.product?.map (root ++ [·]) = some place then some (trial.answer call).stdout
      else trial.leftAt root place rest := by
  rw [leftAt, List.findSome?_cons]
  split
  · rename_i h
    split at h
    · rw [if_pos ‹_›, ← h]
    · cases h
  · rename_i h
    split at h
    · cases h
    · rw [if_neg ‹_›, leftAt]

/-- Nothing is left but under the names of the exports. -/
theorem leftAt_eq_none {place : Place} (exported : place ≠ root ++ [exportedName])
    (obtained : place ≠ root ++ [obtainedName]) (calls : List Call) :
    trial.leftAt root place calls = none := by
  induction calls with
  | nil => rfl
  | cons call rest ih =>
    rw [leftAt_cons, ih, ite_eq_right_iff]
    obtain ⟨phase, world⟩ := call
    cases phase with
    | probing => simp [Phase.product?]
    | exporting => simp [Phase.product?, exported.symm]
    | importing => simp [Phase.product?, obtained.symm]

/-- **What a comparison leaves.** -/
theorem compare_leaves (tidy : trial.machine.WritesNothing) (site : Site world trial.workdir root)
    (h : compare trial.compiler entry trial.files trial.workdir world = .ok outcome after)
    (place : Place) :
    after.tree.node? place =
      match trial.leftAt root place (trial.comparisonCalls world) with
      | some text => some (.file (Utf8.encode text))
      | none => world.tree.node? place := by
  have hc := trial.compares entry world
  rw [h] at hc
  have launched : Site (trial.after ⟨.exporting, world⟩) trial.workdir root := site_after tidy site
  generalize trial.comparisonCalls world = calls at hc ⊢
  cases hc with
  | failed _ keeps =>
    obtain ⟨_, kept⟩ := launched.keep_exported keeps
    rw [kept, tree_after tidy, leftAt_cons, leftAt_nil]
    by_cases he : place = root ++ [exportedName]
    · subst he
      simp [Phase.product?]
    · simp [Phase.product?, he, Ne.symm he]
  | @concluded supplied _ _ supplies keeps =>
    obtain ⟨site', kept⟩ := launched.supply supplies
    have launched' : Site (trial.after ⟨.importing, supplied⟩) trial.workdir root :=
      site_after tidy site'
    obtain ⟨_, kept'⟩ := launched'.keep_obtained keeps
    have apart : exportedName ≠ obtainedName := by decide
    rw [kept', tree_after tidy, kept, tree_after tidy, leftAt_cons, leftAt_cons, leftAt_nil]
    by_cases he : place = root ++ [exportedName]
    · subst he
      simp [Phase.product?, apart]
    · by_cases ho : place = root ++ [obtainedName]
      · subst ho
        simp [Phase.product?, apart]
      · simp [Phase.product?, he, Ne.symm he, ho, Ne.symm ho]

/-- **What a round trip leaves**: the output of each call that has one to keep, and
everything else as it was. -/
theorem check_leaves (tidy : trial.machine.WritesNothing) (site : Site world trial.workdir root)
    (h : check trial.compiler entry trial.files trial.workdir world = .ok outcome after)
    (place : Place) :
    after.tree.node? place =
      match trial.leftAt root place (trial.calls world) with
      | some text => some (.file (Utf8.encode text))
      | none => world.tree.node? place := by
  have unmoved : (trial.after ⟨.probing, world⟩).tree = world.tree := tree_after tidy _
  have nothing : ¬ Phase.probing.product?.map (root ++ [·]) = some place := by simp [Phase.product?]
  rw [check_eq] at h
  rw [calls, leftAt_cons, if_neg nothing]
  split at h
  · rename_i accepts
    have probed : Site (trial.after ⟨.probing, world⟩) trial.workdir root := site_after tidy site
    rw [if_pos accepts, ← unmoved]
    exact compare_leaves tidy probed h place
  · rename_i rejects
    cases h
    rw [if_neg rejects, unmoved, leftAt_nil]

end Trial
end RoundTrip

open RoundTrip (Trial Site)

namespace MarkerSplit

/-- An entry that is split into several sources is marked, and they are its pieces. -/
theorem split_multiple {world after : World} {entry : Entry} {workdir : Path} {root : Place}
    {files : List Path} (workplace : EmptyWorkdir world workdir root)
    (h : split entry workdir world = .ok (.multiple files) after) :
    ∃ text pieces tree, world.tree.read world.cwd entry.path = .ok (Utf8.encode text) ∧
      SourcePiece.IsSplit text pieces ∧
      Holds world.tree root (goalOf world workdir) pieces tree ∧
      files = (pieces.map SourcePiece.name).eraseDups.map Path.parse ∧
      after = { world with tree := tree } := by
  obtain ⟨content, _, hread, _⟩ := bind_ok.1 h
  have readable := (Act.ask_ok.1 hread).1
  cases hd : Utf8.decode content with
  | error fault =>
    rw [split_undecodable readable hd] at h
    cases h
  | ok text =>
    obtain rfl := Utf8.decode_eq_ok_iff.1 hd
    by_cases marked : Section.marker <+: text
    · have hs := SourcePiece.isSplit_ofLines marked
      obtain ⟨tree, holds, hresult, hafter⟩ := split_marked workplace readable marked h hs
      cases hresult
      exact ⟨text, _, tree, readable, hs, holds, rfl, hafter⟩
    · rw [split_single readable marked] at h
      cases h

/-- Once an entry is split, the working directory is still where it was. -/
theorem site_of_filled {world : World} {workdir : Path} {root : Place} {tree : FileTree}
    (workplace : EmptyWorkdir world workdir root) (filled : world.tree.Filled root tree) :
    Site { world with tree := tree } workdir root := by
  have child (name : Name) : tree.linkTarget? (root ++ [name]) = none :=
    filled.unlinked _ ⟨List.prefix_append _ _, by simp⟩
  refine ⟨workplace.plain, ?_, child _, child _⟩
  show tree.resolveFrom tree.entries.length [] _ _ = _
  rw [FileTree.resolveFrom_congr (filled.linkTarget?_eq workplace) (FileTree.room_nil _)
    (FileTree.room_nil world.tree)]
  exact FileTree.resolveFrom_of_placeOf workplace.plain workplace.leads

end MarkerSplit

/-- **What becomes of the sources of an entry.**  It is split into an empty working
directory, and its round trip comes to an outcome, with a compiler that writes no files.
Then a source holds its sections, unless the round trip has kept an output at its place:
then it holds that output.  No other file has changed. -/
theorem sources_after_check {trial : Trial} {world start after : World} {root : Place}
    {entry : Entry} {outcome : Outcome} (tidy : trial.machine.WritesNothing)
    (workplace : EmptyWorkdir world trial.workdir root)
    (hs : MarkerSplit.split entry trial.workdir world = .ok (.multiple trial.files) start)
    (hc : RoundTrip.check trial.compiler entry trial.files trial.workdir start =
      .ok outcome after) :
    ∃ text pieces, world.tree.read world.cwd entry.path = .ok (Utf8.encode text) ∧
      SourcePiece.IsSplit text pieces ∧
      trial.files = (pieces.map SourcePiece.name).eraseDups.map Path.parse ∧
      (∀ piece ∈ pieces, ∃ place,
        MarkerSplit.goalOf world trial.workdir piece.name = some place ∧ Below root place ∧
        after.tree.node? place = some (.file
          (match trial.leftAt root place (trial.calls start) with
          | some output => Utf8.encode output
          | none => MarkerSplit.contentFor (MarkerSplit.goalOf world trial.workdir) place
              pieces))) ∧
      ∀ place, place ≠ root ++ [exportedName] → place ≠ root ++ [RoundTrip.obtainedName] →
        after.tree.node? place = start.tree.node? place := by
  obtain ⟨text, pieces, tree, readable, split, holds, hfiles, rfl⟩ :=
    MarkerSplit.split_multiple workplace hs
  have leaves := Trial.check_leaves tidy (MarkerSplit.site_of_filled workplace holds.filled) hc
  refine ⟨text, pieces, readable, split, hfiles, fun piece hm => ?_, fun place he ho => ?_⟩
  · obtain ⟨place, hg, hb⟩ := holds.inside piece hm
    refine ⟨place, hg, hb, ?_⟩
    rw [leaves place]
    cases trial.leftAt root place (trial.calls { world with tree := tree }) with
    | some output => rfl
    | none => exact (holds.files place _ hb).2 ⟨⟨piece, hm, hg⟩, rfl⟩
  · rw [leaves place, Trial.leftAt_eq_none he ho]

/-- An entry one of whose sources has the name under which the export is kept. -/
def clashing : Text := "==== Source: a ====\nx\n==== Source: expected.json ====\ny\n"

/-- The entry `/e`. -/
def clashingEntry : Entry := ⟨Path.ofPlace [['e']]⟩

/-- A world that holds that entry and the empty directory `/w`. -/
def clashingWorld : World :=
  ⟨⟨[([['w']], .directory), ([['e']], .file (Utf8.encode clashing))]⟩, [], [], []⟩

/-- A machine whose compiler accepts everything and fails to export it. -/
def failingMachine : Machine :=
  ⟨fun history _ tree =>
    (if history = [] then .finished 0 [] [] else .finished 1 ['p'] ['c'], tree)⟩

/-- The round trip of the entry in that directory. -/
def clashingTrial : Trial :=
  ⟨⟨Path.ofPlace ["solc"], 4⟩, failingMachine, [⟨.none, ["a"]⟩, ⟨.none, [exportedName]⟩],
    Path.ofPlace [['w']]⟩

theorem emptyWorkdir_clashing :
    EmptyWorkdir clashingWorld (Path.ofPlace [['w']]) [['w']] :=
  MarkerSplit.emptyWorkdir_beside (Utf8.encode clashing)

/-- That world with the sources of the entry. -/
def clashingStart : World :=
  { clashingWorld with tree := ⟨clashingWorld.tree.entries ++
    [([['w'], ['a']], .file [120, 10]), ([['w'], exportedName], .file [121, 10])]⟩ }

/-- The pieces of that entry. -/
def clashingPieces : List SourcePiece := SourcePiece.ofLines (Text.lines clashing)

theorem isSplit_clashing : SourcePiece.IsSplit clashing clashingPieces :=
  SourcePiece.isSplit_ofLines (by decide)

theorem split_clashing :
    MarkerSplit.split clashingEntry clashingTrial.workdir clashingWorld =
      .ok (.multiple clashingTrial.files) clashingStart := by
  have readable : clashingWorld.tree.read clashingWorld.cwd clashingEntry.path =
      .ok (Utf8.encode clashing) := by
    cbv
  have sections : clashingPieces.map SourcePiece.toSection =
      [⟨['a'], ['x', '\n']⟩, ⟨exportedName, ['y', '\n']⟩] := by
    decide +kernel
  have names : clashingPieces.map SourcePiece.name = [['a'], exportedName] := by decide +kernel
  have files : [['a'], exportedName].eraseDups.map Path.parse = clashingTrial.files := by cbv
  have written : MarkerSplit.writeSections clashingEntry (Path.ofPlace [['w']])
      [⟨['a'], ['x', '\n']⟩, ⟨exportedName, ['y', '\n']⟩] clashingWorld =
      .ok () clashingStart := by
    cbv
  rw [← sections] at written
  refine (MarkerSplit.split_eq_of_marked emptyWorkdir_clashing readable (by decide)
    isSplit_clashing).trans ?_
  rw [bind_of_ok written, names, files]
  rfl

/-- What the failed export leaves. -/
def clashingEnd : World :=
  ⟨⟨clashingWorld.tree.entries ++
      [([['w'], ['a']], .file [120, 10]), ([['w'], exportedName], .file [112])]⟩, [],
    [clashingTrial.launch .probing, clashingTrial.launch .exporting], []⟩

theorem check_clashing :
    RoundTrip.check clashingTrial.compiler clashingEntry clashingTrial.files
        clashingTrial.workdir clashingStart =
      .ok (.exportFailed ⟨clashingEntry, clashingTrial.reproduction, ['c'], ['p']⟩)
        clashingEnd := by
  cbv

theorem sources_after_check_clashing :
    ∃ outcome after,
      RoundTrip.check clashingTrial.compiler clashingEntry clashingTrial.files
        clashingTrial.workdir clashingStart = .ok outcome after ∧
      ∃ text pieces, clashingWorld.tree.read clashingWorld.cwd clashingEntry.path =
          .ok (Utf8.encode text) ∧
        SourcePiece.IsSplit text pieces ∧
        ∀ piece ∈ pieces, ∃ place,
          MarkerSplit.goalOf clashingWorld clashingTrial.workdir piece.name = some place ∧
          after.tree.node? place = some (.file
            (match clashingTrial.leftAt [['w']] place (clashingTrial.calls clashingStart) with
            | some output => Utf8.encode output
            | none => MarkerSplit.contentFor
                (MarkerSplit.goalOf clashingWorld clashingTrial.workdir) place pieces)) := by
  have tidy : clashingTrial.machine.WritesNothing := fun _ _ _ => rfl
  obtain ⟨text, pieces, readable, split, -, sources, -⟩ :=
    sources_after_check tidy emptyWorkdir_clashing split_clashing check_clashing
  refine ⟨_, _, check_clashing, text, pieces, readable, split, fun piece hm => ?_⟩
  obtain ⟨place, hg, -, kept⟩ := sources piece hm
  exact ⟨place, hg, kept⟩

/-- The second source of that entry no longer holds its section after the export has
failed: the output of the export is there. -/
theorem failed_export_replaces_source :
    ∃ outcome after piece place,
      MarkerSplit.split clashingEntry clashingTrial.workdir clashingWorld =
        .ok (.multiple clashingTrial.files) clashingStart ∧
      RoundTrip.check clashingTrial.compiler clashingEntry clashingTrial.files
        clashingTrial.workdir clashingStart = .ok outcome after ∧
      piece ∈ clashingPieces ∧
      MarkerSplit.goalOf clashingWorld clashingTrial.workdir piece.name = some place ∧
      clashingStart.tree.node? place = some (.file (Utf8.encode piece.source)) ∧
      after.tree.node? place = some (.file (Utf8.encode ['p'])) ∧
      Utf8.encode piece.source ≠ Utf8.encode ['p'] := by
  have member : ⟨"==== Source: expected.json ====\n", [['y', '\n']]⟩ ∈ clashingPieces := by
    decide +kernel
  exact ⟨_, _, _, [['w'], exportedName], split_clashing, check_clashing, member, by cbv, by cbv,
    by cbv, by decide +kernel⟩

end Reimport
