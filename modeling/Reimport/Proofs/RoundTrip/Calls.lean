import Reimport.Proofs.RoundTrip

/-!
# The compiler calls of a round trip

A round trip calls the compiler up to three times: to try it on the files, to export
them, and to import the export.  `Trial.calls` lists the calls that are made, each with
the world in which the compiler is launched, and `Trial.launches_check` says that these
are the launches of the round trip, all of them and in order, whether or not it comes to
an outcome.

How a comparison goes is told by its calls (`Trial.compares`): the export is put into the
working directory and put there again before it is imported, so the call that imports it
finds it there.
-/
namespace Reimport.RoundTrip

/-- What a round trip calls the compiler for. -/
inductive Phase where
  /-- To try it on the files. -/
  | probing
  /-- To export them. -/
  | exporting
  /-- To import the export and export it again. -/
  | importing
  deriving DecidableEq, Repr

/-- What a round trip works with. -/
structure Trial where
  /-- The compiler. -/
  solc : Solc
  /-- The machine on which it is a program. -/
  machine : Machine
  /-- The files it is given. -/
  files : List Path
  /-- The working directory. -/
  workdir : Path

/-- A compiler call with the world in which the compiler is launched. -/
structure Call where
  /-- What it is called for. -/
  phase : Phase
  /-- The world before the launch. -/
  world : World

namespace Trial
variable (trial : Trial)

/-- The compiler as the round trip uses it. -/
abbrev compiler : Compiler := trial.solc.compiler trial.machine

/-- The command of a call. -/
def command : Phase → Command
  | .probing => trial.solc.probeCommand trial.files
  | .exporting => trial.solc.exportCommand trial.files
  | .importing => trial.solc.importCommand ++ [exportedName]

/-- The launch of a call. -/
def launch (phase : Phase) : Launch := ⟨trial.command phase, some trial.workdir⟩

/-- What comes of the launch of a call. -/
def response (call : Call) : Response :=
  (trial.machine.respond call.world.launches (trial.launch call.phase) call.world.tree).1

/-- What the compiler answers to a call. -/
def answer (call : Call) : Invocation :=
  .ofResponse (trial.command call.phase) (trial.response call)

/-- The world after a call. -/
def after (call : Call) : World :=
  { call.world with
    tree := (trial.machine.respond call.world.launches (trial.launch call.phase)
      call.world.tree).2
    launches := call.world.launches ++ [trial.launch call.phase] }

/-- Puts an export into the working directory, twice: the comparison keeps it there, and
the compiler puts it there to import it. -/
def supply (exported : Text) : Act Unit := do
  keep trial.workdir exportedName exported
  keep trial.workdir exportedName exported

/-- The calls of a comparison. -/
def comparisonCalls (world : World) : List Call :=
  let exporting : Call := ⟨.exporting, world⟩
  exporting ::
    if (trial.answer exporting).success then
      match trial.supply (trial.answer exporting).stdout (trial.after exporting) with
      | .ok _ supplied => [⟨.importing, supplied⟩]
      | .error _ _ => []
    else []

/-- The calls of a round trip. -/
def calls (world : World) : List Call :=
  let probing : Call := ⟨.probing, world⟩
  probing ::
    if (trial.answer probing).success then trial.comparisonCalls (trial.after probing) else []

/-- How the round trip is repeated. -/
def reproduction : Reproduction := RoundTrip.reproduction trial.compiler trial.files trial.workdir

/-- What comes of an entry whose export went well, by the two answers. -/
def conclude (entry : Entry) (exported imported : Invocation) : Outcome :=
  if imported.success then
    let difference := Diff.compare exported.stdout imported.stdout exportedName obtainedName
    if difference.changed then .mismatched entry trial.reproduction difference.diff
    else .passed entry
  else .importFailed ⟨entry, trial.reproduction, imported.stderr, imported.stdout⟩

/-! ## Calls -/

/-- Running the command of a call answers it and leaves the world after it. -/
theorem run_call (call : Call) :
    Solc.run trial.machine (trial.command call.phase) (some trial.workdir) call.world =
      .ok (trial.answer call) (trial.after call) := rfl

@[simp] theorem launches_after (call : Call) :
    (trial.after call).launches = call.world.launches ++ [trial.launch call.phase] := rfl

end Trial

/-- Keeping a text launches nothing. -/
theorem quiet_keep (workdir : Path) (name : Name) (content : Text) :
    (keep workdir name content).Quiet :=
  .change _

namespace Trial
variable {trial : Trial} {entry : Entry} {world : World}

/-! ## How a comparison goes -/

/-- How a comparison goes, by its calls and its end. -/
inductive Compares (trial : Trial) (entry : Entry) (world : World) :
    List Call → EStateM.Result Failure World Outcome → Prop where
  /-- The export cannot be kept. -/
  | unkept {failure : Failure} {left : World}
    (keeps : keep trial.workdir exportedName (trial.answer ⟨.exporting, world⟩).stdout
      (trial.after ⟨.exporting, world⟩) = .error failure left) :
    Compares trial entry world [⟨.exporting, world⟩] (.error failure left)
  /-- The export fails. -/
  | failed {left : World} (fails : (trial.answer ⟨.exporting, world⟩).success = false)
    (keeps : keep trial.workdir exportedName (trial.answer ⟨.exporting, world⟩).stdout
      (trial.after ⟨.exporting, world⟩) = .ok () left) :
    Compares trial entry world [⟨.exporting, world⟩]
      (.ok (.exportFailed ⟨entry, trial.reproduction, (trial.answer ⟨.exporting, world⟩).stderr,
        (trial.answer ⟨.exporting, world⟩).stdout⟩) left)
  /-- The export is kept but cannot be put where it is imported from. -/
  | unsupplied {failure : Failure} {left : World}
    (exports : (trial.answer ⟨.exporting, world⟩).success = true)
    (supplies : trial.supply (trial.answer ⟨.exporting, world⟩).stdout
      (trial.after ⟨.exporting, world⟩) = .error failure left) :
    Compares trial entry world [⟨.exporting, world⟩] (.error failure left)
  /-- The second export cannot be kept. -/
  | unobtained {failure : Failure} {supplied left : World}
    (exports : (trial.answer ⟨.exporting, world⟩).success = true)
    (supplies : trial.supply (trial.answer ⟨.exporting, world⟩).stdout
      (trial.after ⟨.exporting, world⟩) = .ok () supplied)
    (keeps : keep trial.workdir obtainedName (trial.answer ⟨.importing, supplied⟩).stdout
      (trial.after ⟨.importing, supplied⟩) = .error failure left) :
    Compares trial entry world [⟨.exporting, world⟩, ⟨.importing, supplied⟩] (.error failure left)
  /-- The import decides. -/
  | concluded {supplied left : World}
    (exports : (trial.answer ⟨.exporting, world⟩).success = true)
    (supplies : trial.supply (trial.answer ⟨.exporting, world⟩).stdout
      (trial.after ⟨.exporting, world⟩) = .ok () supplied)
    (keeps : keep trial.workdir obtainedName (trial.answer ⟨.importing, supplied⟩).stdout
      (trial.after ⟨.importing, supplied⟩) = .ok () left) :
    Compares trial entry world [⟨.exporting, world⟩, ⟨.importing, supplied⟩]
      (.ok (trial.conclude entry (trial.answer ⟨.exporting, world⟩)
        (trial.answer ⟨.importing, supplied⟩)) left)

/-- The end of a comparison whose import was answered. -/
theorem conclude_eq (trial : Trial) (entry : Entry) (exported imported : Invocation) :
    (if !imported.success then
        return .importFailed ⟨entry, RoundTrip.reproduction trial.compiler trial.files trial.workdir,
          imported.stderr, imported.stdout⟩
      else if (Diff.compare exported.stdout imported.stdout exportedName obtainedName).changed then
        return .mismatched entry
          (RoundTrip.reproduction trial.compiler trial.files trial.workdir)
          (Diff.compare exported.stdout imported.stdout exportedName obtainedName).diff
      else return .passed entry : Act Outcome) =
      return trial.conclude entry exported imported := by
  unfold conclude
  cases imported.success with
  | false => rfl
  | true =>
    simp only [Bool.not_true, if_true, if_neg Bool.false_ne_true]
    split <;> rfl

/-- **A comparison goes by its calls.** -/
theorem compares (trial : Trial) (entry : Entry) (world : World) :
    Compares trial entry world (trial.comparisonCalls world)
      (compare trial.compiler entry trial.files trial.workdir world) := by
  have hx : trial.compiler.exportFiles trial.files trial.workdir world =
      .ok (trial.answer ⟨.exporting, world⟩) (trial.after ⟨.exporting, world⟩) := rfl
  rw [compare, bind_of_ok hx, comparisonCalls]
  cases hk : keep trial.workdir exportedName (trial.answer ⟨.exporting, world⟩).stdout
      (trial.after ⟨.exporting, world⟩) with
  | error failure left =>
    have hs : trial.supply (trial.answer ⟨.exporting, world⟩).stdout
        (trial.after ⟨.exporting, world⟩) = .error failure left := bind_of_error hk
    rw [bind_of_error hk]
    simp only [hs, ite_self]
    exact .unkept hk
  | ok _ kept =>
    rw [bind_of_ok hk]
    cases hf : (trial.answer ⟨.exporting, world⟩).success with
    | false => exact .failed hf hk
    | true =>
      simp only [Bool.not_true, if_true, if_neg Bool.false_ne_true]
      cases hk' : keep trial.workdir exportedName (trial.answer ⟨.exporting, world⟩).stdout
          kept with
      | error failure left =>
        have hs : trial.supply (trial.answer ⟨.exporting, world⟩).stdout
            (trial.after ⟨.exporting, world⟩) = .error failure left :=
          bind_error.2 (.inr ⟨_, _, hk, hk'⟩)
        have hi : trial.compiler.reexport (trial.answer ⟨.exporting, world⟩).stdout trial.workdir
            kept = .error failure left := bind_of_error hk'
        rw [bind_of_error hi, hs]
        exact .unsupplied hf hs
      | ok _ supplied =>
        have hs : trial.supply (trial.answer ⟨.exporting, world⟩).stdout
            (trial.after ⟨.exporting, world⟩) = .ok () supplied := bind_ok.2 ⟨_, _, hk, hk'⟩
        have hi : trial.compiler.reexport (trial.answer ⟨.exporting, world⟩).stdout trial.workdir
            kept = .ok (trial.answer ⟨.importing, supplied⟩)
              (trial.after ⟨.importing, supplied⟩) := bind_ok.2 ⟨_, _, hk', rfl⟩
        rw [bind_of_ok hi, hs]
        cases ho : keep trial.workdir obtainedName (trial.answer ⟨.importing, supplied⟩).stdout
            (trial.after ⟨.importing, supplied⟩) with
        | error failure left =>
          rw [bind_of_error ho]
          exact .unobtained hf hs ho
        | ok _ left =>
          rw [bind_of_ok ho]
          rw [conclude_eq]
          exact .concluded hf hs ho

/-- Putting an export into the working directory launches nothing. -/
theorem quiet_supply (trial : Trial) (exported : Text) : (trial.supply exported).Quiet :=
  .bind (quiet_keep _ _ _) fun _ => quiet_keep _ _ _

/-- **A comparison launches its calls and nothing else.** -/
theorem launches_compare (trial : Trial) (entry : Entry) (world : World) :
    (reached (compare trial.compiler entry trial.files trial.workdir world)).launches =
      world.launches ++ (trial.comparisonCalls world).map fun call => trial.launch call.phase := by
  have h := trial.compares entry world
  generalize trial.comparisonCalls world = calls at h ⊢
  generalize compare trial.compiler entry trial.files trial.workdir world = result at h ⊢
  cases h with
  | unkept keeps => exact (quiet_keep _ _ _).of_error keeps
  | failed _ keeps => exact (quiet_keep _ _ _).of_ok keeps
  | unsupplied _ supplies => exact (trial.quiet_supply _).of_error supplies
  | unobtained _ supplies keeps =>
    have hs := (trial.quiet_supply _).of_ok supplies
    have hk := (quiet_keep _ _ _).of_error keeps
    rw [reached_error, hk, launches_after, hs, launches_after, List.append_assoc]
    rfl
  | concluded _ supplies keeps =>
    have hs := (trial.quiet_supply _).of_ok supplies
    have hk := (quiet_keep _ _ _).of_ok keeps
    rw [reached_ok, hk, launches_after, hs, launches_after, List.append_assoc]
    rfl

/-! ## How a round trip goes -/

theorem check_eq (trial : Trial) (entry : Entry) (world : World) :
    check trial.compiler entry trial.files trial.workdir world =
      if (trial.answer ⟨.probing, world⟩).success then
        compare trial.compiler entry trial.files trial.workdir (trial.after ⟨.probing, world⟩)
      else .ok (.uncompilable entry) (trial.after ⟨.probing, world⟩) := by
  have hp : trial.compiler.accepts trial.files trial.workdir world =
      .ok (trial.answer ⟨.probing, world⟩).success (trial.after ⟨.probing, world⟩) := rfl
  rw [check, bind_of_ok hp]
  split <;> rfl

/-- **A round trip launches its calls and nothing else.** -/
theorem launches_check (trial : Trial) (entry : Entry) (world : World) :
    (reached (check trial.compiler entry trial.files trial.workdir world)).launches =
      world.launches ++ (trial.calls world).map fun call => trial.launch call.phase := by
  rw [check_eq, calls]
  cases (trial.answer ⟨.probing, world⟩).success with
  | false => rfl
  | true =>
    simp only [if_true, launches_compare, launches_after, List.map_cons, List.append_assoc,
      List.singleton_append]

end Trial
end Reimport.RoundTrip
