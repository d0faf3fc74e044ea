import Reimport.Proofs.Diff.Restore
import Reimport.Proofs.FileTree.Agreement
import Reimport.Proofs.RoundTrip.Kept

/-!
# A round trip through any compiler

What a round trip comes to and what it leaves behind is a matter of the compiler's
answers alone, whatever the compiler is.  It has to answer each of its calls and to
leave the files as they are (`Compiler.Tidy`), and the working directory has to have
room for the two exports (`Slot`).  Then the outcome and the files afterwards are told
by at most three answers (`check_of_answers`), and a call that is not made could have
done anything (`check_exact`).

Both exports are written to the places that their names lead to, so a link under one of
the names has another file written (`linked_export_written_through`).
-/
namespace Reimport

/-- The files and the working directory of the run are as they were. -/
structure World.Untouched (world after : World) : Prop where
  tree : after.tree.Agrees world.tree
  cwd : after.cwd = world.cwd

/-- A compiler that answers and writes no files.  It is called to import an export when
that is in the working directory already. -/
structure Compiler.Tidy (compiler : Compiler) : Prop where
  accepts : ∀ files workdir world, ∃ accepted after,
    compiler.accepts files workdir world = .ok accepted after ∧ world.Untouched after
  exportFiles : ∀ files workdir world, ∃ exported after,
    compiler.exportFiles files workdir world = .ok exported after ∧ world.Untouched after
  reexport : ∀ exported workdir world place,
    world.tree.placeOf world.cwd true (workdir.child exportedName) = .ok place →
    world.tree.node? place = some (.file (Utf8.encode exported)) →
    ∃ imported after,
      compiler.reexport exported workdir world = .ok imported after ∧ world.Untouched after

namespace RoundTrip

/-- A file can be written under a name in the working directory, which is at the place
`root`: no directory is there and no link. -/
structure Slot (world : World) (workdir : Path) (root : Place) (name : Name) : Prop where
  leads : world.tree.placeOf world.cwd false (workdir.child name) = .ok (root ++ [name])
  vacant : world.tree.Vacant (root ++ [name])

/-- The world with a text in the file under a name. -/
def holding (world : World) (root : Place) (name : Name) (text : Text) : World :=
  { world with tree := world.tree.put (root ++ [name]) (.file (Utf8.encode text)) }

namespace Slot
variable {world after : World} {workdir : Path} {root : Place} {name other : Name}

theorem writable (slot : Slot world workdir root name) :
    world.tree.placeOf world.cwd true (workdir.child name) = .ok (root ++ [name]) :=
  FileTree.placeOf_of_unlinked slot.leads slot.vacant.link

theorem keep (slot : Slot world workdir root name) (text : Text) :
    RoundTrip.keep workdir name text world = .ok () (holding world root name text) := by
  refine Act.change_ok.2 ⟨_, ?_, rfl⟩
  rw [FileTree.write, slot.writable]
  cases hn : world.tree.node? (root ++ [name]) with
  | none => simp only [hn]
  | some node =>
    cases node with
    | file old => simp only [hn, FileTree.WriteMode.combine]
    | directory => exact absurd hn slot.vacant.directory
    | link target =>
      have linked := FileTree.linkTarget?_eq_some.2 hn
      rw [slot.vacant.link] at linked
      cases linked

theorem untouched (slot : Slot world workdir root name) (same : world.Untouched after) :
    Slot after workdir root name := by
  refine ⟨?_, ?_, ?_⟩
  · rw [same.cwd, same.tree.placeOf, slot.leads]
  · rw [same.tree]
    exact slot.vacant.directory
  · rw [same.tree.linkTarget?, slot.vacant.link]

theorem node?_holding (text : Text) (place : Place) :
    (holding world root name text).tree.node? place =
      if place = root ++ [name] then some (.file (Utf8.encode text))
      else world.tree.node? place :=
  FileTree.node?_put _ (by simp) _ _

/-- Writing to one slot leaves the others, itself included. -/
theorem holding (slot : Slot world workdir root name) (slot' : Slot world workdir root other)
    (text : Text) : Slot (holding world root name text) workdir root other := by
  have keeps : world.tree.Keeps (RoundTrip.holding world root name text).tree :=
    slot.vacant.keeps_put fun _ => Node.noConfusion
  refine ⟨keeps.placeOf slot'.leads, ?_, ?_⟩
  · rw [node?_holding]
    split
    · exact fun h => (nomatch h)
    · exact slot'.vacant.directory
  · rw [keeps.link, slot'.vacant.link]

end Slot

/-- The answers of a compiler to the calls of a round trip, with the worlds after them.
Only those to calls that are made have to be answers. -/
structure Answers (compiler : Compiler) (files : List Path) (workdir : Path) (root : Place)
    (world : World) where
  /-- Whether the compiler accepts the files. -/
  accepted : Bool
  /-- The world after it was asked. -/
  probed : World
  /-- What came of the export. -/
  exported : Invocation
  /-- The world after the export. -/
  written : World
  /-- What came of the import. -/
  imported : Invocation
  /-- The world after the import. -/
  left : World
  accepts : compiler.accepts files workdir world = .ok accepted probed
  exports : accepted = true → compiler.exportFiles files workdir probed = .ok exported written
  imports : accepted = true → exported.success = true →
    compiler.reexport exported.stdout workdir (holding written root exportedName exported.stdout) =
      .ok imported left

namespace Answers
variable {compiler : Compiler} {files : List Path} {workdir : Path} {root : Place} {world : World}
  (answers : Answers compiler files workdir root world)

/-- The outcome that the answers amount to. -/
def outcome (entry : Entry) : Outcome :=
  let reproduction := reproduction compiler files workdir
  if answers.accepted = false then .uncompilable entry
  else if answers.exported.success = false then
    .exportFailed ⟨entry, reproduction, answers.exported.stderr, answers.exported.stdout⟩
  else if answers.imported.success = false then
    .importFailed ⟨entry, reproduction, answers.imported.stderr, answers.imported.stdout⟩
  else if answers.exported.stdout = answers.imported.stdout then .passed entry
  else .mismatched entry reproduction (Diff.compare answers.exported.stdout
    answers.imported.stdout exportedName obtainedName).diff

/-- The world that is left. -/
def after : World :=
  if answers.accepted = false then answers.probed
  else if answers.exported.success = false then
    holding answers.written root exportedName answers.exported.stdout
  else holding answers.left root obtainedName answers.imported.stdout

/-- How a round trip can end. -/
theorem outcome_cases (entry : Entry) :
    (answers.accepted = false ∧ answers.outcome entry = .uncompilable entry) ∨
      answers.accepted = true ∧
        ((answers.exported.success = false ∧ answers.outcome entry =
            .exportFailed ⟨entry, reproduction compiler files workdir, answers.exported.stderr,
              answers.exported.stdout⟩) ∨
          answers.exported.success = true ∧
            ((answers.imported.success = false ∧ answers.outcome entry =
                .importFailed ⟨entry, reproduction compiler files workdir,
                  answers.imported.stderr, answers.imported.stdout⟩) ∨
              answers.imported.success = true ∧
                ((answers.exported.stdout = answers.imported.stdout ∧
                    answers.outcome entry = .passed entry) ∨
                  answers.exported.stdout ≠ answers.imported.stdout ∧ answers.outcome entry =
                    .mismatched entry (reproduction compiler files workdir)
                      (Diff.compare answers.exported.stdout answers.imported.stdout exportedName
                        obtainedName).diff))) := by
  rw [outcome]
  cases answers.accepted with
  | false => exact .inl ⟨rfl, rfl⟩
  | true =>
    refine .inr ⟨rfl, ?_⟩
    cases answers.exported.success with
    | false => exact .inl ⟨rfl, rfl⟩
    | true =>
      refine .inr ⟨rfl, ?_⟩
      cases answers.imported.success with
      | false => exact .inl ⟨rfl, rfl⟩
      | true =>
        refine .inr ⟨rfl, ?_⟩
        by_cases he : answers.exported.stdout = answers.imported.stdout
        · exact .inl ⟨he, if_pos he⟩
        · exact .inr ⟨he, if_neg he⟩

section Endings
variable {answers} (entry : Entry)

theorem uncompilable_iff (other : Entry) : answers.outcome entry = .uncompilable other ↔
    answers.accepted = false ∧ other = entry := by
  constructor
  · intro h
    rcases answers.outcome_cases entry with ⟨ha, ho⟩ | ⟨-, ⟨-, ho⟩ | ⟨-, ⟨-, ho⟩ |
      ⟨-, ⟨-, ho⟩ | ⟨-, ho⟩⟩⟩⟩ <;> cases ho.symm.trans h
    exact ⟨ha, rfl⟩
  · rintro ⟨ha, rfl⟩
    rw [outcome, if_pos ha]

theorem exportFailed_iff (breakdown : Breakdown) :
    answers.outcome entry = .exportFailed breakdown ↔
      (answers.accepted = true ∧ answers.exported.success = false) ∧
        breakdown = ⟨entry, reproduction compiler files workdir, answers.exported.stderr,
          answers.exported.stdout⟩ := by
  constructor
  · intro h
    rcases answers.outcome_cases entry with ⟨-, ho⟩ | ⟨ha, ⟨hx, ho⟩ | ⟨-, ⟨-, ho⟩ |
      ⟨-, ⟨-, ho⟩ | ⟨-, ho⟩⟩⟩⟩ <;> cases ho.symm.trans h
    exact ⟨⟨ha, hx⟩, rfl⟩
  · rintro ⟨⟨ha, hx⟩, rfl⟩
    rw [outcome, if_neg (by rw [ha]; decide), if_pos hx]

theorem importFailed_iff (breakdown : Breakdown) :
    answers.outcome entry = .importFailed breakdown ↔
      (answers.accepted = true ∧ answers.exported.success = true ∧
        answers.imported.success = false) ∧
        breakdown = ⟨entry, reproduction compiler files workdir, answers.imported.stderr,
          answers.imported.stdout⟩ := by
  constructor
  · intro h
    rcases answers.outcome_cases entry with ⟨-, ho⟩ | ⟨ha, ⟨-, ho⟩ | ⟨hx, ⟨hi, ho⟩ |
      ⟨-, ⟨-, ho⟩ | ⟨-, ho⟩⟩⟩⟩ <;> cases ho.symm.trans h
    exact ⟨⟨ha, hx, hi⟩, rfl⟩
  · rintro ⟨⟨ha, hx, hi⟩, rfl⟩
    rw [outcome, if_neg (by rw [ha]; decide), if_neg (by rw [hx]; decide), if_pos hi]

theorem passed_iff (other : Entry) : answers.outcome entry = .passed other ↔
    (answers.accepted = true ∧ answers.exported.success = true ∧
      answers.imported.success = true ∧ answers.exported.stdout = answers.imported.stdout) ∧
      other = entry := by
  constructor
  · intro h
    rcases answers.outcome_cases entry with ⟨-, ho⟩ | ⟨ha, ⟨-, ho⟩ | ⟨hx, ⟨-, ho⟩ |
      ⟨hi, ⟨he, ho⟩ | ⟨-, ho⟩⟩⟩⟩ <;> cases ho.symm.trans h
    exact ⟨⟨ha, hx, hi, he⟩, rfl⟩
  · rintro ⟨⟨ha, hx, hi, he⟩, rfl⟩
    rw [outcome, if_neg (by rw [ha]; decide), if_neg (by rw [hx]; decide),
      if_neg (by rw [hi]; decide), if_pos he]

theorem mismatched_iff (other : Entry) (repeated : Reproduction) (diff : Text) :
    answers.outcome entry = .mismatched other repeated diff ↔
      (answers.accepted = true ∧ answers.exported.success = true ∧
        answers.imported.success = true ∧
        answers.exported.stdout ≠ answers.imported.stdout) ∧
        other = entry ∧ repeated = reproduction compiler files workdir ∧
        diff = (Diff.compare answers.exported.stdout answers.imported.stdout exportedName
          obtainedName).diff := by
  constructor
  · intro h
    rcases answers.outcome_cases entry with ⟨-, ho⟩ | ⟨ha, ⟨-, ho⟩ | ⟨hx, ⟨-, ho⟩ |
      ⟨hi, ⟨-, ho⟩ | ⟨he, ho⟩⟩⟩⟩ <;> cases ho.symm.trans h
    exact ⟨⟨ha, hx, hi, he⟩, rfl, rfl, rfl⟩
  · rintro ⟨⟨ha, hx, hi, he⟩, rfl, rfl, rfl⟩
    rw [outcome, if_neg (by rw [ha]; decide), if_neg (by rw [hx]; decide),
      if_neg (by rw [hi]; decide), if_neg he]

/-- A mismatch has a difference to show. -/
theorem diff_ne_nil {other : Entry} {repeated : Reproduction} {diff : Text}
    (h : answers.outcome entry = .mismatched other repeated diff) : diff ≠ [] := by
  obtain ⟨⟨-, -, -, he⟩, -, -, rfl⟩ := (mismatched_iff entry other repeated diff).1 h
  exact fun hn => he (Diff.diff_eq_nil_iff.1 hn)

end Endings

/-- The calls left the files as they were. -/
structure Clean : Prop where
  probed : world.Untouched answers.probed
  written : answers.probed.Untouched answers.written
  left : (holding answers.written root exportedName answers.exported.stdout).Untouched answers.left

end Answers

section Checks
variable {compiler : Compiler} {files : List Path} {workdir : Path} {root : Place} {world : World}

/-- A tidy compiler answers every call. -/
theorem exists_answers (tidy : compiler.Tidy) (slot : Slot world workdir root exportedName)
    (files : List Path) :
    ∃ answers : Answers compiler files workdir root world, answers.Clean := by
  obtain ⟨accepted, probed, accepts, same⟩ := tidy.accepts files workdir world
  obtain ⟨exported, written, exports, same'⟩ := tidy.exportFiles files workdir probed
  have slot := (slot.untouched same).untouched same'
  have kept := slot.holding slot exported.stdout
  have node : (holding written root exportedName exported.stdout).tree.node?
      (root ++ [exportedName]) = some (.file (Utf8.encode exported.stdout)) := by
    rw [Slot.node?_holding, if_pos rfl]
  obtain ⟨imported, left, imports, same''⟩ :=
    tidy.reexport exported.stdout workdir _ _ kept.writable node
  exact ⟨⟨accepted, probed, exported, written, imported, left, accepts, fun _ => exports,
    fun _ _ => imports⟩, same, same', same''⟩

variable {answers : Answers compiler files workdir root world}

/-- **The answers tell how a round trip ends.** -/
theorem check_of_answers (clean : answers.Clean) (first : Slot world workdir root exportedName)
    (second : Slot world workdir root obtainedName) (entry : Entry) :
    check compiler entry files workdir world = .ok (answers.outcome entry) answers.after := by
  rw [check, bind_of_ok answers.accepts, Answers.outcome, Answers.after]
  cases ha : answers.accepted with
  | false => rfl
  | true =>
    have slot := (first.untouched clean.probed).untouched clean.written
    have slot' := (second.untouched clean.probed).untouched clean.written
    simp only [if_true, Bool.true_eq_false, if_false]
    rw [compare, bind_of_ok (answers.exports ha), bind_of_ok (slot.keep _)]
    cases hx : answers.exported.success with
    | false => rfl
    | true =>
      have kept := (slot.holding slot' answers.exported.stdout).untouched clean.left
      simp only [Bool.not_true, Bool.true_eq_false, Bool.false_eq_true, if_false]
      rw [bind_of_ok (answers.imports ha hx), bind_of_ok (kept.keep _)]
      cases hi : answers.imported.success with
      | false => rfl
      | true =>
        simp only [Bool.not_true, Bool.true_eq_false, Bool.false_eq_true, if_false]
        have changed : (Diff.compare answers.exported.stdout answers.imported.stdout exportedName
          obtainedName).changed = true ↔ _ := Diff.changed_iff
        generalize Diff.compare answers.exported.stdout answers.imported.stdout exportedName
          obtainedName = difference at changed ⊢
        by_cases he : answers.exported.stdout = answers.imported.stdout
        · rw [if_pos he, if_neg fun hc => changed.1 hc he]
          rfl
        · rw [if_neg he, if_pos (changed.2 he)]
          rfl

/-- Nothing but the two exports is written, each if its call is made. -/
theorem node?_after (clean : answers.Clean) (place : Place) :
    answers.after.tree.node? place =
      if answers.accepted = true ∧ place = root ++ [exportedName] then
        some (.file (Utf8.encode answers.exported.stdout))
      else if (answers.accepted = true ∧ answers.exported.success = true) ∧
          place = root ++ [obtainedName] then
        some (.file (Utf8.encode answers.imported.stdout))
      else world.tree.node? place := by
  have apart : root ++ [exportedName] ≠ root ++ [obtainedName] := by
    intro he
    exact absurd (List.append_cancel_left he) (by decide)
  rw [Answers.after]
  cases answers.accepted with
  | false => simpa using clean.probed.tree place
  | true =>
    cases answers.exported.success with
    | false =>
      simp [Slot.node?_holding, clean.written.tree place, clean.probed.tree place]
    | true =>
      simp only [Bool.true_eq_false, if_false, Slot.node?_holding, true_and,
        clean.left.tree place, clean.written.tree place, clean.probed.tree place]
      by_cases he : place = root ++ [exportedName]
      · rw [if_neg fun ho => apart (he.symm.trans ho), if_pos he, if_pos he]
      · rw [if_neg he, if_neg he]

/-- What a compiler would do after it has rejected the files makes no difference. -/
theorem check_of_rejected (rejected : answers.accepted = false) (entry : Entry) {other : Compiler}
    (same : other.accepts = compiler.accepts) :
    check other entry files workdir world = .ok (answers.outcome entry) answers.after := by
  have asked : other.accepts files workdir world = .ok false answers.probed := by
    rw [same, answers.accepts, rejected]
  rw [check, bind_of_ok asked, Answers.outcome, if_pos rejected, Answers.after, if_pos rejected]
  rfl

/-- What a compiler would import after a failed export makes no difference. -/
theorem check_of_failed (clean : answers.Clean) (first : Slot world workdir root exportedName)
    (second : Slot world workdir root obtainedName) (entry : Entry)
    (failed : answers.exported.success = false) (reexport : Text → Path → Act Invocation) :
    check { compiler with reexport } entry files workdir world =
      .ok (answers.outcome entry) answers.after := by
  let other : Answers { compiler with reexport } files workdir root world :=
    { answers with
      accepts := answers.accepts
      exports := answers.exports
      imports := fun _ h => absurd h (by rw [failed]; decide) }
  have clean' : other.Clean := ⟨clean.probed, clean.written, clean.left⟩
  exact check_of_answers clean' first second entry

/-- What a round trip comes to, told by the compiler's answers. -/
structure Exact (answers : Answers compiler files workdir root world) (entry : Entry)
    (outcome : Outcome) (after : World) : Prop where
  /-- The files are not compiled if the compiler rejects them. -/
  uncompilable : ∀ other, outcome = .uncompilable other ↔
    answers.accepted = false ∧ other = entry
  /-- The export has failed if it was called and failed, and its streams are told. -/
  exportFailed : ∀ breakdown, outcome = .exportFailed breakdown ↔
    (answers.accepted = true ∧ answers.exported.success = false) ∧
      breakdown = ⟨entry, reproduction compiler files workdir, answers.exported.stderr,
        answers.exported.stdout⟩
  /-- The import has failed if it was called and failed, and its streams are told. -/
  importFailed : ∀ breakdown, outcome = .importFailed breakdown ↔
    (answers.accepted = true ∧ answers.exported.success = true ∧
      answers.imported.success = false) ∧
      breakdown = ⟨entry, reproduction compiler files workdir, answers.imported.stderr,
        answers.imported.stdout⟩
  /-- The entry has passed if both calls went well and gave the same text. -/
  passed : ∀ other, outcome = .passed other ↔
    (answers.accepted = true ∧ answers.exported.success = true ∧
      answers.imported.success = true ∧ answers.exported.stdout = answers.imported.stdout) ∧
      other = entry
  /-- There is a mismatch if both calls went well and gave different texts. -/
  mismatched : ∀ other repeated diff, outcome = .mismatched other repeated diff ↔
    (answers.accepted = true ∧ answers.exported.success = true ∧
      answers.imported.success = true ∧ answers.exported.stdout ≠ answers.imported.stdout) ∧
      other = entry ∧ repeated = reproduction compiler files workdir ∧
      diff = (Diff.compare answers.exported.stdout answers.imported.stdout exportedName
        obtainedName).diff
  /-- A mismatch has a difference to show. -/
  shown : ∀ other repeated diff, outcome = .mismatched other repeated diff → diff ≠ []
  /-- The files are as they were but for the exports that were made. -/
  changed : ∀ place, after.tree.node? place =
    if answers.accepted = true ∧ place = root ++ [exportedName] then
      some (.file (Utf8.encode answers.exported.stdout))
    else if (answers.accepted = true ∧ answers.exported.success = true) ∧
        place = root ++ [obtainedName] then
      some (.file (Utf8.encode answers.imported.stdout))
    else world.tree.node? place
  /-- Without an export nothing has happened since the compiler was asked, and whatever
  it would export and import makes no difference. -/
  unexported : answers.accepted = false → after = answers.probed ∧
    ∀ other : Compiler, other.accepts = compiler.accepts →
      check other entry files workdir world = .ok outcome after
  /-- Without an import nothing but the export was written since it was made, and whatever
  the compiler would import makes no difference. -/
  unimported : answers.accepted = true → answers.exported.success = false →
    after = holding answers.written root exportedName answers.exported.stdout ∧
      ∀ reexport, check { compiler with reexport } entry files workdir world = .ok outcome after

/-- **A round trip is told by the compiler's answers**, to the calls that it makes: its
outcome exactly, and all that it changes. -/
theorem check_exact (tidy : compiler.Tidy) (first : Slot world workdir root exportedName)
    (second : Slot world workdir root obtainedName) (entry : Entry) (files : List Path) :
    ∃ (answers : Answers compiler files workdir root world) (outcome : Outcome) (after : World),
      check compiler entry files workdir world = .ok outcome after ∧
        Exact answers entry outcome after := by
  obtain ⟨answers, clean⟩ := exists_answers tidy first files
  have checked := check_of_answers clean first second entry
  refine ⟨answers, answers.outcome entry, answers.after, checked, ?_⟩
  refine ⟨Answers.uncompilable_iff entry, Answers.exportFailed_iff entry,
    Answers.importFailed_iff entry, Answers.passed_iff entry, Answers.mismatched_iff entry,
    fun _ _ _ => Answers.diff_ne_nil entry, node?_after clean, ?_, ?_⟩
  · intro rejected
    exact ⟨by rw [Answers.after, if_pos rejected], fun other => check_of_rejected rejected entry⟩
  · intro accepted failed
    refine ⟨?_, check_of_failed clean first second entry failed⟩
    rw [Answers.after, if_neg (by rw [accepted]; decide), if_pos failed]

end Checks
/-! ## The compiler as a program -/

/-- A compiler that is a program which writes no files is tidy: the export that it puts
into the working directory before it imports it is there already. -/
theorem tidy_compiler {machine : Machine} (quiet : machine.WritesNothing) (solc : Solc) :
    (solc.compiler machine).Tidy := by
  have launched : ∀ command directory world, ∃ answer after,
      Solc.run machine command directory world = .ok answer after ∧ world.Untouched after := by
    intro command directory world
    refine ⟨_, _, rfl, fun place => ?_, rfl⟩
    exact congrArg (FileTree.node? · place) (quiet _ _ _)
  refine ⟨fun files workdir world => ?_, fun files workdir => launched _ _, ?_⟩
  · obtain ⟨answer, after, hr, same⟩ := launched (solc.probeCommand files) (some workdir) world
    exact ⟨answer.success, after, bind_of_ok hr, same⟩
  · intro exported workdir world place leads holds
    have vacant := FileTree.vacant_of_file holds
    have rewritten : (Act.change fun cwd => FileTree.write cwd .replace
        (workdir.child exportedName) (Utf8.encode exported)) world =
        .ok () { world with tree := world.tree.put place (.file (Utf8.encode exported)) } := by
      refine Act.change_ok.2 ⟨_, ?_, rfl⟩
      rw [FileTree.write, leads]
      simp only [holds, FileTree.WriteMode.combine]
    obtain ⟨answer, after, hr, same⟩ := launched (solc.importCommand ++ [exportedName])
      (some workdir) { world with tree := world.tree.put place (.file (Utf8.encode exported)) }
    refine ⟨answer, after, (bind_of_ok rewritten).trans hr, same.tree.trans fun other => ?_,
      same.cwd⟩
    rw [FileTree.node?_put _ vacant.ne_nil]
    split
    · rename_i he
      rw [he, holds]
    · rfl

/-- A machine whose compiler always gives the same text. -/
def constantMachine : Machine := ⟨fun _ _ tree => (.finished 0 ['p'] [], tree)⟩

/-- The entry `/w/a`. -/
def sourceEntry : Entry := ⟨Path.ofPlace [['w'], ['a']]⟩

/-- The round trip of that entry in the directory `/w`. -/
def sourceTrial : Trial :=
  ⟨⟨Path.ofPlace ["solc"], 4⟩, constantMachine, [sourceEntry.path], Path.ofPlace [['w']]⟩

/-- A world with the directory and the entry. -/
def sourceWorld : World :=
  ⟨⟨[([['w']], .directory), ([['w'], ['a']], .file (Utf8.encode ['x']))]⟩, [], [], []⟩

theorem slot_source {name : Name} (h : name ∈ [exportedName, obtainedName]) :
    Slot sourceWorld sourceTrial.workdir [['w']] name := by
  rcases List.mem_cons.1 h with rfl | h
  · exact ⟨by cbv, FileTree.vacant_of_none (by cbv)⟩
  · rw [List.mem_singleton.1 h]
    exact ⟨by cbv, FileTree.vacant_of_none (by cbv)⟩

theorem check_exact_source :
    ∃ (answers : Answers sourceTrial.compiler sourceTrial.files sourceTrial.workdir [['w']]
        sourceWorld) (outcome : Outcome) (after : World),
      check sourceTrial.compiler sourceEntry sourceTrial.files sourceTrial.workdir sourceWorld =
        .ok outcome after ∧ Exact answers sourceEntry outcome after :=
  check_exact (tidy_compiler (fun _ _ _ => rfl) sourceTrial.solc) (slot_source (by simp))
    (slot_source (by simp)) sourceEntry sourceTrial.files

/-- That world with a link from the name of the export to the entry. -/
def linkedWorld : World :=
  { sourceWorld with
    tree := ⟨sourceWorld.tree.entries ++ [([['w'], exportedName], .link ['a'])]⟩ }

/-- What the round trip leaves there. -/
def linkedEnd : World :=
  ⟨⟨[([['w']], .directory), ([['w'], ['a']], .file (Utf8.encode ['p'])),
      ([['w'], exportedName], .link ['a']), ([['w'], obtainedName], .file (Utf8.encode ['p']))]⟩,
    [], [sourceTrial.launch .probing, sourceTrial.launch .exporting,
      sourceTrial.launch .importing], []⟩

/-- Under the name of the export a file can be written, through a link: then the entry is
overwritten. -/
theorem linked_export_written_through :
    sourceTrial.compiler.Tidy ∧
      (∃ place, linkedWorld.tree.placeOf linkedWorld.cwd true
          (sourceTrial.workdir.child exportedName) = .ok place ∧
        linkedWorld.tree.Vacant place) ∧
      (∃ place, linkedWorld.tree.placeOf linkedWorld.cwd true
          (sourceTrial.workdir.child obtainedName) = .ok place ∧
        linkedWorld.tree.Vacant place) ∧
      ∃ after,
        check sourceTrial.compiler sourceEntry sourceTrial.files sourceTrial.workdir linkedWorld =
          .ok (.passed sourceEntry) after ∧
        linkedWorld.tree.node? [['w'], ['a']] = some (.file (Utf8.encode ['x'])) ∧
        after.tree.node? [['w'], ['a']] = some (.file (Utf8.encode ['p'])) ∧
        Utf8.encode ['x'] ≠ Utf8.encode ['p'] := by
  have overwritten : linkedWorld.tree.node? [['w'], ['a']] = some (.file (Utf8.encode ['x'])) := by
    cbv
  refine ⟨tidy_compiler (fun _ _ _ => rfl) sourceTrial.solc,
    ⟨[['w'], ['a']], by cbv, FileTree.vacant_of_file overwritten⟩,
    ⟨[['w'], obtainedName], by cbv, FileTree.vacant_of_none (by cbv)⟩,
    linkedEnd, by cbv, overwritten, by cbv, by decide +kernel⟩

end RoundTrip
end Reimport
