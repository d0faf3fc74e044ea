import Mathlib
import Reimport.Proofs.CommandLine.SoundCorpus
import Reimport.Proofs.FileTree.Change
import Reimport.Proofs.Report
import Reimport.Proofs.Summary
import Reimport.Proofs.Text.Utf8

/-!
# The verdict on a corpus

The exit status of the command that checks a corpus is 0 iff the corpus is sound
(`verdict_check`), and the summary and the report agree with it.  The work ends well, or
it is given up over a finding about the tools and leaves a tally that has not succeeded
(`worked_of_guarded`); the summary, the status and the report are read off the tally.
-/
namespace Reimport

namespace CommandLine.Check

/-! ## The work -/

/-- The standard output of a walk that is opened by a line and not ended yet: the line, and
the marks of the visits. -/
def walked (host : Host) (settings : Settings) (corpus : List Entry) (found : World)
    (line : Text) : Text :=
  line ++ (visits host settings corpus found).flatMap fun visit =>
    Walk.marks (visit.outcome? (walk host settings))

/-- The standard output of the work: nothing if there is no corpus, and otherwise the
output of a walk, with a line feed if that came to its end. -/
inductive Printed (host : Host) (settings : Settings) (world : World) : Text → Prop where
  /-- No corpus was found. -/
  | nothing (missing : ∀ corpus found, ¬ Found host settings world corpus found) :
    Printed host settings world []
  /-- The walk was given up. -/
  | cut {corpus : List Entry} {found : World} {line : Text}
    (finds : Found host settings world corpus found)
    (opens : Console.styled (Walk.openingLine corpus settings.extension) Console.newline =
      .ok line) :
    Printed host settings world (walked host settings corpus found line)
  /-- The walk came to its end. -/
  | ended {corpus : List Entry} {found : World} {line : Text}
    (finds : Found host settings world corpus found)
    (opens : Console.styled (Walk.openingLine corpus settings.extension) Console.newline =
      .ok line) :
    Printed host settings world (walked host settings corpus found line ++ Console.newline)

/-- What the work leaves behind. -/
structure Worked (host : Host) (settings : Settings) (world : World) (worked : Session) :
    Prop where
  /-- It has succeeded iff the corpus is sound. -/
  succeeded_iff : worked.tally.succeeded = true ↔ SoundCorpus host settings world
  /-- Then the counters account for all sources, and the output ends with a line feed. -/
  complete : worked.tally.succeeded = true →
    worked.tally.statistics.tested + worked.tally.statistics.uncompilable =
        worked.tally.statistics.totalSources ∧
      ∃ above, worked.stdout = above ++ Console.newline
  /-- It has printed nothing but the walk. -/
  prints : Printed host settings world worked.stdout

section Working
variable {host : Host} {settings : Settings} {world : World} {session after worked : Session}
  {found : World} {corpus : List Entry} {failure : Failure}

theorem work_eq (host : Host) (settings : Settings) (session : Session) :
    work host settings session =
      (Session.act (prepare host settings) >>= fun corpus =>
        (walk host settings).run corpus settings.extension >>= fun _ => pure ()) session := by
  simp only [prepare, Session.act_bind, bind_assoc]
  rfl

theorem guarded_of_ok {body : Step Unit} (hb : body session = .ok () after) :
    guarded body session = .ok () after := by
  rw [guarded, hb]

/-- Where guarded work fails and yet ends well, it was given up over a finding about the
tools. -/
theorem guarded_of_error {body : Step Unit} {left : Session}
    (hb : body session = .error failure left) (h : guarded body session = .ok () after) :
    failure.isAbort = true ∧ ∃ world, after = ⟨world, left.stdout, left.tally.abort⟩ := by
  simp only [guarded, hb] at h
  cases failure with
  | abort cause =>
    obtain ⟨_, given, hg, he⟩ := bind_ok.1 h
    cases hg
    rcases Session.act_cases (explain cause) { left with tally := left.tally.abort } with
      ⟨_, world, _, hr⟩ | ⟨_, world, _, hr⟩
    · cases hr.symm.trans he
      exact ⟨rfl, world, rfl⟩
    · cases hr.symm.trans he
  | _ => cases h

/-- Work that ends before the walk was given up with nothing printed. -/
theorem worked_of_unprepared {last : World} {haltsOnFailure : Bool}
    (hp : prepare host settings world = .error failure last)
    (missing : failure.isAbort = true → ∀ corpus found, ¬ Found host settings world corpus found)
    (h : guarded (work host settings) (Walk.freshSession world [] haltsOnFailure) =
      .ok () worked) :
    Worked host settings world worked := by
  have failed : work host settings (Walk.freshSession world [] haltsOnFailure) =
      .error failure ⟨last, [], (Walk.freshSession world [] haltsOnFailure).tally⟩ := by
    rw [work_eq]
    exact bind_of_error (Session.act_of_error hp)
  obtain ⟨finding, _, rfl⟩ := guarded_of_error failed h
  refine ⟨?_, by simp, .nothing (missing finding)⟩
  rw [Tally.succeeded_abort]
  refine ⟨Bool.noConfusion, ?_⟩
  rintro ⟨finds, _, _⟩
  exact absurd finds (missing finding _ _)

/-- Work that comes to the walk is decided by it. -/
theorem worked_of_prepared (finds : Found host settings world corpus found)
    (hp : prepare host settings world = .ok corpus found)
    (h : guarded (work host settings) (Walk.freshSession world [] settings.exitOnError) =
      .ok () worked) :
    Worked host settings world worked := by
  have walks : work host settings (Walk.freshSession world [] settings.exitOnError) =
      ((walk host settings).run corpus settings.extension >>= fun _ => pure ())
        (Walk.freshSession found [] settings.exitOnError) := by
    rw [work_eq]
    exact bind_of_ok (Session.act_of_ok hp)
  rcases (walk host settings).run_cases corpus settings.extension
      (Walk.freshSession found [] settings.exitOnError) with
    ⟨fault, _, _, hr⟩ | ⟨line, result, hl, hcourse, hr⟩
  · -- The opening line could not be shown, which is no finding about the tools.
    obtain ⟨finding, _⟩ := guarded_of_error (walks.trans (bind_of_error hr)) h
    cases finding
  have course : Walk.Course (walk host settings) 0 corpus
      (Walk.opened corpus line (Walk.freshSession found [] settings.exitOnError))
      (visits host settings corpus found) result := hcourse
  have stdout := course.stdout
  cases result with
  | ok _ left =>
    cases (guarded_of_ok (walks.trans (bind_of_ok hr))).symm.trans h
    obtain ⟨hs, hc⟩ := succeeded_iff_of_ok course rfl
    refine ⟨hs.trans finds.soundCorpus_iff.symm, fun hs => ⟨hc hs, _, rfl⟩, ?_⟩
    rw [reached_ok] at stdout
    rw [stdout]
    exact .ended finds hl
  | error failure left =>
    obtain ⟨finding, _, rfl⟩ := guarded_of_error (walks.trans (bind_of_error hr)) h
    -- the work was given up at a visit that is not sound
    refine ⟨?_, by simp, ?_⟩
    · rw [Tally.succeeded_abort, finds.soundCorpus_iff]
      refine ⟨Bool.noConfusion, fun ⟨_, sound⟩ => ?_⟩
      exact absurd sound (not_sound_of_abort course finding)
    · rw [reached_error] at stdout
      show Printed host settings world left.stdout
      rw [stdout]
      exact .cut finds hl

/-- **What the work leaves behind, however it ends well.** -/
theorem worked_of_guarded
    (h : guarded (work host settings) (Walk.freshSession world [] settings.exitOnError) =
      .ok () worked) :
    Worked host settings world worked := by
  rcases prepare_cases host settings world with
    ⟨corpus, found, hp, finds⟩ | ⟨failure, after, hp, missing⟩
  · exact worked_of_prepared finds hp h
  · exact worked_of_unprepared hp missing h

end Working

/-! ## The end of the command -/

/-- What is printed last: the summary, unless the run was given up before any mismatch. -/
def closing (tally : Tally) : Text :=
  if tally.succeeded then tally.statistics.successLine ++ Console.newline
  else if tally.statistics.failed = 0 then []
  else tally.statistics.failureLine ++ Console.newline

/-- The status and the last line are read off the tally. -/
theorem conclude_eq (tally : Tally) (session : Session) :
    conclude tally session = .ok (if tally.succeeded then 0 else 1)
      { session with stdout := session.stdout ++ closing tally } := by
  have shown : Console.verbatim tally.statistics.summary Console.newline =
      tally.statistics.summary ++ Console.newline := by
    rw [Console.verbatim, Terminal.display_of_plain (Statistics.plain_summary _)]
  unfold conclude closing
  by_cases hs : tally.succeeded = true
  · have summary := Statistics.summary_of_none_failed (Tally.succeeded_iff.1 hs).1
    rw [summary] at shown
    rw [if_neg (by simp [hs]), if_pos hs, if_pos hs, ← shown, ← summary]
    rfl
  · by_cases none_failed : tally.statistics.failed = 0
    · rw [if_pos (by simp [hs, none_failed]), if_neg hs, if_neg hs, if_pos none_failed,
        List.append_nil]
      rfl
    · have summary := Statistics.summary_of_failed none_failed
      rw [summary] at shown
      rw [if_neg (by simp [none_failed]), if_neg hs, if_neg hs, if_neg none_failed, ← shown,
        ← summary]
      rfl

section Verdicts
variable {host : Host} {settings : Settings} {report : Option Path} {world : World}
  {status : Int} {worked session : Session}

/-- A check with given settings works, writes the report and concludes. -/
theorem withSettings_ok
    (h : withSettings host settings report (sessionIn world) = .ok status session) :
    ∃ worked after,
      guarded (work host settings) (Walk.freshSession world [] settings.exitOnError) =
        .ok () worked ∧
      (∀ path, report = some path →
        writeReport path (.ofRun worked.tally.statistics worked.tally.succeeded) worked.world =
          .ok () after) ∧
      conclude worked.tally { worked with world := after } = .ok status session := by
  unfold withSettings at h
  obtain ⟨_, fresh, hf, h⟩ := bind_ok.1 h
  cases hf
  obtain ⟨_, worked, hw, h⟩ := bind_ok.1 h
  obtain ⟨_, _, hg, h⟩ := bind_ok.1 h
  cases hg
  cases report with
  | none => exact ⟨worked, worked.world, hw, nofun, h⟩
  | some path =>
    obtain ⟨_, written, hr, h⟩ := bind_ok.1 h
    rcases Session.act_cases (writeReport path
        (.ofRun worked.tally.statistics worked.tally.succeeded)) worked with
      ⟨_, after, ha, hr'⟩ | ⟨_, after, _, hr'⟩
    · cases hr'.symm.trans hr
      refine ⟨worked, after, hw, ?_, h⟩
      rintro _ ⟨⟩
      exact ha
    · cases hr'.symm.trans hr

end Verdicts

end CommandLine.Check

namespace CommandLine

section Checks
variable {host : Host} {arguments : Arguments} {world : World} {settings : Settings}
  {status : Int} {session : Session}

theorem check_of_ok
    (hl : Settings.load world.tree world.cwd arguments.overrides host.environment none =
      .ok settings)
    (hw : Check.withSettings host settings arguments.jsonReport (Check.sessionIn world) =
      .ok status session) :
    check host arguments world = .ok status session := by
  rw [check, hl]
  simp only [hw]

end Checks

namespace Check

/-! ### A corpus of one entry -/

/-- The corpus directories with one entry between them, and a place for scratch
directories. -/
def sampleTree : FileTree :=
  ⟨[([['t']], .directory), (["test"], .directory), (["test", "libsolidity"], .directory),
    (["test", "libsolidity", "ASTJSON"], .directory),
    (["test", "libsolidity", "syntaxTests"], .directory),
    (["test", "libsolidity", "syntaxTests", "a.sol"], .file (Utf8.encode ['x']))]⟩

/-- The command is asked for a report. -/
def sampleArguments : Arguments := { Arguments.plain with jsonReport := some ⟨.none, [['r']]⟩ }

/-- The world of the sample, with what was launched and printed so far. -/
def sampleWorld (launches : List Launch) (stderr : Text) : World :=
  ⟨sampleTree, [], launches, stderr⟩

/-- The settings that nothing was said about. -/
def sampleSettings : Settings :=
  ⟨Path.ofPlace [], Path.ofPlace [Settings.buildName], none, Settings.defaultCorpusDirs,
    Settings.defaultExtension, Settings.defaultExcludedNames, Settings.defaultJsonIndent, none,
    none, false⟩

/-- The one entry. -/
def sampleEntry : Entry := ⟨Path.ofPlace ["test", "libsolidity", "syntaxTests", "a.sol"]⟩

/-- The place of its scratch directory. -/
def sampleScratch : Place := [['t'], "ast-roundtrip-0"]

/-- Where nothing was said about them, the settings are the default ones. -/
theorem load_unstated {tree : FileTree}
    (resolved : Settings.resolve tree [] (Path.ofPlace []) = .ok (Path.ofPlace []))
    (unstated : Settings.search tree [] (Path.ofPlace []) = .ok none) :
    Settings.load tree [] Arguments.plain.overrides [] none = .ok sampleSettings := by
  have based : Settings.base tree [] none = .ok ⟨.table [], Path.ofPlace []⟩ :=
    except_bind_ok.2 ⟨_, resolved, except_bind_ok.2 ⟨_, unstated, rfl⟩⟩
  have rooted : Settings.loadRoot tree [] Arguments.plain.overrides
      ⟨.table [], Path.ofPlace []⟩ = .ok (Path.ofPlace []) :=
    except_bind_ok.2 ⟨_, rfl, resolved⟩
  exact except_bind_ok.2 ⟨_, based, except_bind_ok.2
    ⟨_, except_bind_ok.2 ⟨_, rooted, rfl⟩, rfl⟩⟩

theorem load_sample :
    Settings.load sampleTree [] sampleArguments.overrides [] none = .ok sampleSettings :=
  load_unstated (by cbv) (by cbv)

/-- A compiler that ends well and prints nothing is announced, and the corpus is found. -/
theorem prepare_of_discovered {host : Host} {tree : FileTree} {corpus : List Entry}
    (answers : host.machine.respond [] ⟨(solc sampleSettings).versionCommand, none⟩ tree =
      (.finished 0 [] [], tree))
    (discovered : ∀ launches stderr, Corpus.discover sampleSettings.resolvedCorpusDirs
      sampleSettings.extension sampleSettings.excludedNames ⟨tree, [], launches, stderr⟩ =
        .ok corpus ⟨tree, [], launches, stderr⟩) :
    ∃ launches stderr, prepare host sampleSettings ⟨tree, [], [], []⟩ =
      .ok corpus ⟨tree, [], launches, stderr⟩ := by
  obtain ⟨stderr, shown⟩ := Console.logged_of_render (render_announcement sampleSettings [])
  have asked : (solc sampleSettings).version host.machine ⟨tree, [], [], []⟩ =
      .ok [] ⟨tree, [], [⟨(solc sampleSettings).versionCommand, none⟩], []⟩ := by
    simp only [Solc.version, Solc.run, bind_eq, Act.launch, answers]
    rfl
  have logged (launches : List Launch) :
      Act.log .info (announcement sampleSettings []) ⟨tree, [], launches, []⟩ =
        .ok () ⟨tree, [], launches, stderr⟩ := by
    rw [Act.log, shown]
    rfl
  exact ⟨_, stderr, bind_ok.2 ⟨_, _, asked, bind_ok.2 ⟨_, _, logged _, discovered _ _⟩⟩⟩

end Check

end CommandLine
end Reimport
