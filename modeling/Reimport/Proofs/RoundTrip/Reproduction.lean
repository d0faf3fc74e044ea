import Mathlib
import Reimport.Proofs.FileTree.Change
import Reimport.Proofs.RoundTrip.Calls

/-!
# The reported commands are the ones that were run

An outcome that somebody may want to look into says how to repeat it: the command of the
export, the command of the import and the directory of both.  These are not taken from
the calls but put together a second time, and the file that holds the export is named
once more.  `reproduction_launched` says that they agree with the calls: what is reported
is what was launched, and the file that the reported import names held the export when
the import was launched.
-/
namespace Reimport

namespace Outcome

/-- How an outcome is repeated, if it is one to look into. -/
def reproduction? : Outcome → Option Reproduction
  | .mismatched _ reproduction _ => some reproduction
  | .exportFailed breakdown => some breakdown.reproduction
  | .importFailed breakdown => some breakdown.reproduction
  | .passed _ | .uncompilable _ => none

/-- Whether the export failed. -/
def isExportFailure : Outcome → Bool
  | .exportFailed _ => true
  | _ => false

end Outcome

namespace Reproduction

/-- The launch of the reported export. -/
def exportLaunch (reproduction : Reproduction) : Launch :=
  ⟨reproduction.exportCommand, some reproduction.workdir⟩

/-- The launch of the reported import. -/
def importLaunch (reproduction : Reproduction) : Launch :=
  ⟨reproduction.importCommand, some reproduction.workdir⟩

end Reproduction

namespace RoundTrip

/-- The name under which the export is kept leads into the working directory. -/
theorem under_exportedName (workdir : Path) :
    workdir.under (Path.parse exportedName) = workdir.child exportedName := by
  have relative : (Path.parse exportedName).isAbsolute = false := by cbv
  have single : (Path.parse exportedName).parts = [exportedName] := by cbv
  rw [Path.under, relative, single]
  rfl

/-- What is kept in the working directory is read there. -/
theorem read_of_keep {workdir : Path} {name : Name} {content : Text} {world after : World}
    (h : keep workdir name content world = .ok () after) :
    after.tree.read after.cwd (workdir.child name) = .ok (Utf8.encode content) := by
  obtain ⟨tree, hw, rfl⟩ := Act.change_ok.1 h
  exact FileTree.read_of_write hw

namespace Trial
variable {trial : Trial} {entry : Entry} {world after supplied : World} {outcome : Outcome}

/-- An export that was put into the working directory is read there. -/
theorem read_of_supply {exported : Text}
    (h : trial.supply exported world = .ok () supplied) :
    supplied.tree.read supplied.cwd (trial.workdir.child exportedName) =
      .ok (Utf8.encode exported) := by
  obtain ⟨_, _, _, hk⟩ := bind_ok.1 h
  exact read_of_keep hk

/-- The last word of the import names the file that holds the export. -/
theorem getLast?_importCommand :
    trial.reproduction.importCommand.getLast? = some exportedName :=
  List.getLast?_concat

/-- What comes of a good export is no failed export, and says how it is repeated if it is
to be looked into. -/
theorem conclude_cases (entry : Entry) (exported imported : Invocation) :
    (trial.conclude entry exported imported).isExportFailure = false ∧
      ∀ reproduction ∈ (trial.conclude entry exported imported).reproduction?,
        reproduction = trial.reproduction := by
  rw [conclude]
  split
  · simp only
    split
    · exact ⟨rfl, fun _ hr => (Option.some.inj hr).symm⟩
    · exact ⟨rfl, fun _ hr => (nomatch hr)⟩
  · exact ⟨rfl, fun _ hr => (Option.some.inj hr).symm⟩

end Trial

/-- **What is reported is what was launched.**  The reported export was launched in the
reported directory.  If it failed, nothing else was launched.  Otherwise the reported import
was launched there after it, and at that moment the file that its last word names held
exactly what the export had printed. -/
theorem reproduction_launched {trial : Trial} {entry : Entry} {world after : World}
    {outcome : Outcome} {reproduction : Reproduction}
    (h : compare trial.compiler entry trial.files trial.workdir world = .ok outcome after)
    (reported : outcome.reproduction? = some reproduction) :
    trial.launch .exporting = reproduction.exportLaunch ∧
      (outcome.isExportFailure = true ∧
          trial.comparisonCalls world = [⟨.exporting, world⟩] ∧
          after.launches = world.launches ++ [reproduction.exportLaunch] ∨
        outcome.isExportFailure = false ∧ trial.launch .importing = reproduction.importLaunch ∧
          ∃ supplied file,
            trial.comparisonCalls world = [⟨.exporting, world⟩, ⟨.importing, supplied⟩] ∧
            supplied.launches = world.launches ++ [reproduction.exportLaunch] ∧
            after.launches =
              world.launches ++ [reproduction.exportLaunch, reproduction.importLaunch] ∧
            reproduction.importCommand.getLast? = some file ∧
            supplied.tree.read supplied.cwd (reproduction.workdir.under (Path.parse file)) =
              .ok (Utf8.encode (trial.answer ⟨.exporting, world⟩).stdout)) := by
  have hl := trial.launches_compare entry world
  have hc := trial.compares entry world
  rw [h] at hl hc
  rw [reached_ok] at hl
  generalize trial.comparisonCalls world = calls at hl hc ⊢
  cases hc with
  | failed _ keeps =>
    cases reported
    exact ⟨rfl, .inl ⟨rfl, rfl, hl⟩⟩
  | @concluded supplied _ _ supplies keeps =>
    obtain ⟨exported, same⟩ := trial.conclude_cases entry (trial.answer ⟨.exporting, world⟩)
      (trial.answer ⟨.importing, supplied⟩)
    obtain rfl := same reproduction reported
    refine ⟨rfl, .inr ⟨exported, rfl, supplied, exportedName, rfl, ?_, hl,
      Trial.getLast?_importCommand, ?_⟩⟩
    · exact (trial.quiet_supply _).of_ok supplies
    · rw [under_exportedName]
      exact Trial.read_of_supply supplies

/-- A compiler that exports `x`, and prints `y` when it fails to import that. -/
def oneWayMachine : Machine :=
  ⟨fun history _ tree =>
    (if history = [] then .finished 0 ['x'] [] else .finished 1 ['y'] ['z'], tree)⟩

/-- A round trip in the directory `/w` with that compiler. -/
def oneWayTrial : Trial :=
  ⟨⟨Path.ofPlace ["solc"], 2⟩, oneWayMachine, [⟨.none, [['a']]⟩], Path.ofPlace [['w']]⟩

/-- A world with the directory `/w`, in which an export lies already. -/
def usedWorld : World :=
  ⟨⟨[([['w']], .directory), ([['w'], exportedName], .file [0])]⟩, [], [], []⟩

/-- The outcome there. -/
def oneWayOutcome : Outcome :=
  .importFailed ⟨⟨Path.ofPlace [['e']]⟩, oneWayTrial.reproduction, ['z'], ['y']⟩

theorem compare_oneWay :
    compare oneWayTrial.compiler ⟨Path.ofPlace [['e']]⟩ oneWayTrial.files oneWayTrial.workdir
        usedWorld =
      .ok oneWayOutcome
        ⟨⟨[([['w']], .directory), ([['w'], exportedName], .file [120]),
            ([['w'], obtainedName], .file [121])]⟩, [],
          [oneWayTrial.launch .exporting, oneWayTrial.launch .importing], []⟩ := by
  cbv

theorem reproduction_launched_oneWay :
    ∃ after supplied,
      compare oneWayTrial.compiler ⟨Path.ofPlace [['e']]⟩ oneWayTrial.files oneWayTrial.workdir
        usedWorld = .ok oneWayOutcome after ∧
      oneWayTrial.comparisonCalls usedWorld =
        [⟨.exporting, usedWorld⟩, ⟨.importing, supplied⟩] ∧
      after.launches =
        [oneWayTrial.reproduction.exportLaunch, oneWayTrial.reproduction.importLaunch] ∧
      supplied.tree.read supplied.cwd (Path.ofPlace [['w'], exportedName]) = .ok [120] := by
  obtain ⟨-, ⟨exported, -⟩ | ⟨-, -, supplied, file, calls, -, launches, named, read⟩⟩ :=
    reproduction_launched compare_oneWay rfl
  · cases exported
  · cases named
    exact ⟨_, supplied, compare_oneWay, calls, launches, read⟩

end RoundTrip
end Reimport
