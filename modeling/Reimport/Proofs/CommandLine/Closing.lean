import Reimport.Proofs.CommandLine.Verdict
import Reimport.Proofs.Walk.Halting

/-!
# The last line of a check

Whether a check ends with its summary is read off two things: whether its work was given up
over a finding about the tools (`GivenUp`), and whether an entry of the corpus had mismatched
by then (`Mismatching`).  The tally knows of both (`counted_of_work`).  A check whose work was
not given up always prints the summary, and one that was given up prints it iff an entry had
mismatched (`summary_after_check`): the counters are incomplete then all the same
(`summary_of_given_up`).
-/
namespace Reimport
namespace CommandLine.Check

/-- The session in which the work of a check begins. -/
abbrev outset (settings : Settings) (world : World) : Session :=
  Walk.freshSession world [] settings.exitOnError

/-- What the work of a check prints on the standard output, however it ends. -/
def printed (host : Host) (settings : Settings) (world : World) : Text :=
  (reached (work host settings (outset settings world))).stdout

/-- The work is given up over a finding about the tools: the compiler does not answer for its
version, an entry cannot be split, or an export or an import fails. -/
def GivenUp (host : Host) (settings : Settings) (world : World) : Prop :=
  ∃ cause left, work host settings (outset settings world) = .error (.abort cause) left

/-- An entry of the corpus is visited and mismatches. -/
def Mismatching (host : Host) (settings : Settings) (world : World) : Prop :=
  ∃ corpus found, Found host settings world corpus found ∧
    ∃ visit ∈ visits host settings corpus found,
      (walk host settings).mismatchedIn visit = true

section Counting
variable {host : Host} {settings : Settings} {world found : World} {corpus : List Entry}
  {result : EStateM.Result Failure Session Unit}

/-- A corpus that is found is the one whose entries mismatch. -/
theorem Found.mismatching_iff (finds : Found host settings world corpus found) :
    Mismatching host settings world ↔
      ∃ visit ∈ visits host settings corpus found,
        (walk host settings).mismatchedIn visit = true := by
  constructor
  · rintro ⟨other, found', finds', mismatched⟩
    obtain ⟨rfl, rfl⟩ := finds.unique finds'
    exact mismatched
  · intro mismatched
    exact ⟨corpus, found, finds, mismatched⟩

/-- **What the tally shows at the end of the work**, if that ends well or is given up: entries
have failed iff one of them mismatched, and work that ends well is not given up. -/
theorem counted_of_work (h : work host settings (outset settings world) = result)
    (tools : ∀ failure after, result = .error failure after → failure.isAbort = true) :
    ((reached result).tally.statistics.failed ≠ 0 ↔ Mismatching host settings world) ∧
      ∀ after, result = .ok () after → after.tally.aborted = false := by
  rw [work_eq] at h
  rcases prepare_cases host settings world with
    ⟨corpus, found, prepared, finds⟩ | ⟨failure, last, prepared, missing⟩
  · rw [bind_of_ok (Session.act_of_ok prepared)] at h
    rcases (walk host settings).run_cases corpus settings.extension (outset settings found) with
      ⟨fault, -, -, hr⟩ | ⟨line, ended, -, course, hr⟩
    · -- an opening line that cannot be shown is no finding about the tools
      have finding := tools _ _ (h.symm.trans (bind_of_error hr))
      cases finding
    have failed := Walk.failed_eq_zero_iff course rfl
    have counted : (reached ended).tally.statistics.failed ≠ 0 ↔
        Mismatching host settings world := by
      rw [ne_eq, failed, finds.mismatching_iff]
      simp [visits]
    cases ended with
    | error failure last =>
      obtain rfl := h.symm.trans (bind_of_error hr)
      exact ⟨counted, nofun⟩
    | ok _ last =>
      obtain rfl := h.symm.trans (bind_of_ok hr)
      refine ⟨counted, ?_⟩
      rintro _ ⟨⟩
      obtain ⟨_, whole⟩ := Walk.outcomes_of_ok course.returns.1
      have tally := course.tally_of_ok
      have going := Tally.aborted_afterAll whole
        (Walk.opened corpus line (outset settings found)).tally
      rw [← tally] at going
      exact going
  · -- nothing was counted, and there is no corpus
    obtain rfl := h.symm.trans (bind_of_error (Session.act_of_error prepared))
    refine ⟨?_, nofun⟩
    have none_failed : ¬ (outset settings world).tally.statistics.failed ≠ 0 := fun h => h rfl
    refine iff_of_false none_failed ?_
    rintro ⟨corpus, found, finds, -⟩
    exact missing (tools _ _ rfl) corpus found finds

end Counting

/-! ## What is printed after the work -/

section Printing
variable {host : Host} {settings : Settings} {report : Option Path} {world : World}
  {worked session : Session} {failure : Failure}

theorem stdout_act {α : Type} (action : Act α) (session : Session) :
    (reached (Session.act action session)).stdout = session.stdout := by
  rw [Session.act]
  cases action session.world <;> rfl

/-- A finding about the tools is reported on the standard error alone. -/
theorem stdout_guarded (body : Step Unit) (session : Session) :
    (reached (guarded body session)).stdout = (reached (body session)).stdout := by
  rw [guarded]
  cases hb : body session with
  | ok _ after => rfl
  | error failure after =>
    cases failure with
    | abort cause => exact stdout_act (explain cause) { after with tally := after.tally.abort }
    | _ => rfl

/-- A check that is ended by a mishap has printed what its work has. -/
theorem stdout_of_mishap
    (h : withSettings host settings report (sessionIn world) = .error failure session) :
    session.stdout = printed host settings world := by
  have prints := stdout_guarded (work host settings) (outset settings world)
  unfold withSettings at h
  rcases bind_error.1 h with h | ⟨_, fresh, hf, h⟩
  · cases h
  cases hf
  -- the mishap was met at work, or later in the report, which prints nothing
  rcases bind_error.1 h with h | ⟨_, worked, hw, h⟩
  · rw [show guarded (work host settings) (outset settings world) = .error failure session from h]
      at prints
    exact prints
  rw [show guarded (work host settings) (outset settings world) = .ok () worked from hw] at prints
  rcases bind_error.1 h with h | ⟨_, _, hg, h⟩
  · cases h
  cases hg
  cases report with
  | none => cases (conclude_eq _ _).symm.trans h
  | some path =>
    rcases bind_error.1 h with h | ⟨_, last, _, h⟩
    · have same := stdout_act (writeReport path
        (.ofRun worked.tally.statistics worked.tally.succeeded)) worked
      rw [h] at same
      exact same.trans prints
    · cases (conclude_eq _ _).symm.trans h

/-- Work that ends well, or is given up, leaves its tally, given up as well in the second case. -/
theorem guarded_work_cases
    (h : guarded (work host settings) (outset settings world) = .ok () worked) :
    work host settings (outset settings world) = .ok () worked ∨
      ∃ cause left, work host settings (outset settings world) = .error (.abort cause) left ∧
        worked.tally = left.tally.abort := by
  cases hw : work host settings (outset settings world) with
  | ok _ after =>
    rw [guarded_of_ok hw] at h
    cases h
    exact .inl rfl
  | error failure left =>
    obtain ⟨finding, world, rfl⟩ := guarded_of_error hw h
    cases failure with
    | abort cause => exact .inr ⟨cause, left, rfl, rfl⟩
    | _ => cases finding

/-- **The summary is left out iff the work was given up before any mismatch.** -/
theorem closing_cases
    (h : guarded (work host settings) (outset settings world) = .ok () worked) :
    closing worked.tally = worked.tally.statistics.summary ++ Console.newline ∧
        (¬ GivenUp host settings world ∨ Mismatching host settings world) ∨
      closing worked.tally = [] ∧ GivenUp host settings world ∧
        ¬ Mismatching host settings world := by
  rcases guarded_work_cases h with hw | ⟨cause, left, hw, tally⟩
  · -- the tally of work that ends well shows whether an entry has failed
    obtain ⟨-, going⟩ := counted_of_work hw fun _ _ he => by cases he
    have unabandoned : ¬ GivenUp host settings world := by
      rintro ⟨cause, left, given⟩
      rw [hw] at given
      cases given
    refine .inl ⟨?_, .inl unabandoned⟩
    rw [closing]
    by_cases none_failed : worked.tally.statistics.failed = 0
    · rw [if_pos (Tally.succeeded_iff.2 ⟨none_failed, going worked rfl⟩),
        Statistics.summary_of_none_failed none_failed]
    · rw [if_neg fun hs => none_failed (Tally.succeeded_iff.1 hs).1, if_neg none_failed,
        Statistics.summary_of_failed none_failed]
  · obtain ⟨failed, -⟩ := counted_of_work hw fun _ _ he => by cases he; rfl
    have given : GivenUp host settings world := ⟨cause, left, hw⟩
    have unsuccessful : ¬ worked.tally.succeeded = true := by
      rw [tally, Tally.succeeded_abort]
      exact Bool.noConfusion
    -- giving up leaves the counters as they are
    have kept : worked.tally.statistics.failed = left.tally.statistics.failed := by
      rw [tally]
      rfl
    rw [closing, if_neg unsuccessful]
    by_cases none_failed : worked.tally.statistics.failed = 0
    · rw [if_pos none_failed]
      refine .inr ⟨rfl, given, fun mismatched => ?_⟩
      exact failed.2 mismatched (kept.symm.trans none_failed)
    · rw [if_neg none_failed, Statistics.summary_of_failed none_failed]
      exact .inl ⟨rfl, .inr (failed.1 fun he => none_failed (kept.trans he))⟩

end Printing

/-- How the standard output of a check ends. -/
structure LastLine (host : Host) (settings : Settings) (world : World) (session : Session) :
    Prop where
  /-- The work prints nothing but the walk. -/
  prints : Printed host settings world (printed host settings world)
  /-- The summary of the final counters follows iff the work was not given up, or was given up
  after a mismatch. -/
  summed_iff : session.stdout = printed host settings world ++
      (session.tally.statistics.summary ++ Console.newline) ↔
    ¬ GivenUp host settings world ∨ Mismatching host settings world
  /-- Nothing follows iff the work was given up before any mismatch. -/
  bare_iff : session.stdout = printed host settings world ↔
    GivenUp host settings world ∧ ¬ Mismatching host settings world

theorem lastLine_of_ok {host : Host} {settings : Settings} {report : Option Path} {world : World}
    {status : Int} {session : Session}
    (h : withSettings host settings report (sessionIn world) = .ok status session) :
    LastLine host settings world session := by
  obtain ⟨worked, after, hw, -, hc⟩ := withSettings_ok h
  have prints := stdout_guarded (work host settings) (outset settings world)
  rw [hw, reached_ok] at prints
  have walked := (worked_of_guarded hw).prints
  rw [prints] at walked
  rw [conclude_eq] at hc
  obtain ⟨-, rfl⟩ : _ ∧ _ = session := EStateM.Result.ok.inj hc
  have stdout : worked.stdout = printed host settings world := prints
  -- a summary is a text that is not empty
  have shown : worked.tally.statistics.summary ++ Console.newline ≠ [] := by
    simp [Console.newline]
  refine ⟨walked, ?_, ?_⟩
  · show worked.stdout ++ closing worked.tally = _ ↔ _
    rw [stdout, List.append_cancel_left_eq]
    rcases closing_cases hw with ⟨he, holds⟩ | ⟨he, given, unmatched⟩
    · exact iff_of_true he holds
    · rw [he]
      refine iff_of_false (fun same => shown same.symm) ?_
      rintro (unabandoned | mismatched)
      · exact unabandoned given
      · exact unmatched mismatched
  · show worked.stdout ++ closing worked.tally = _ ↔ _
    rw [stdout, List.append_right_eq_self]
    rcases closing_cases hw with ⟨he, holds⟩ | ⟨he, given, unmatched⟩
    · rw [he]
      refine iff_of_false shown ?_
      rintro ⟨given, unmatched⟩
      exact holds.elim (fun unabandoned => unabandoned given) unmatched
    · exact iff_of_true he ⟨given, unmatched⟩

end CommandLine.Check

namespace CommandLine

/-- **When a check prints its summary.**  A check that ends prints it iff its work was not given
up over a finding about the tools, or was given up after an entry had mismatched; a check that
is ended by a mishap prints none. -/
theorem summary_after_check {host : Host} {arguments : Arguments} {world : World}
    {settings : Settings}
    (hl : Settings.load world.tree world.cwd arguments.overrides host.environment none =
      .ok settings) :
    (∀ status session, check host arguments world = .ok status session →
      Check.LastLine host settings world session) ∧
    ∀ mishap session, check host arguments world = .error mishap session →
      session.stdout = Check.printed host settings world := by
  cases hw : Check.withSettings host settings arguments.jsonReport (Check.sessionIn world) with
  | ok status session =>
    have checked : check host arguments world = .ok status session := by
      simp only [check, hl, hw]
    rw [checked]
    refine ⟨?_, fun _ _ he => by cases he⟩
    rintro _ _ ⟨⟩
    exact Check.lastLine_of_ok hw
  | error failure session =>
    have checked : check host arguments world = .error (.work failure) session := by
      simp only [check, hl, hw]
    rw [checked]
    refine ⟨fun _ _ he => (by cases he), ?_⟩
    rintro _ _ ⟨⟩
    exact Check.stdout_of_mishap hw

namespace Check

/-! ### Checks that are given up -/

/-- A check whose work is given up ends with the status 1. -/
theorem withSettings_of_givenUp {host : Host} {settings : Settings} {world after : World}
    {cause : Abort} {left : Session}
    (hw : work host settings (outset settings world) = .error (.abort cause) left)
    (explained : explain cause left.world = .ok () after) :
    ∃ session, withSettings host settings none (sessionIn world) = .ok 1 session ∧
      session.stdout = left.stdout ++ closing left.tally.abort := by
  have guards : guarded (work host settings) (outset settings world) =
      .ok () ⟨after, left.stdout, left.tally.abort⟩ := by
    simp only [guarded, hw]
    exact bind_ok.2 ⟨(), { left with tally := left.tally.abort }, rfl, Session.act_of_ok explained⟩
  have asked : (get : Step Session) ⟨after, left.stdout, left.tally.abort⟩ =
      .ok ⟨after, left.stdout, left.tally.abort⟩ ⟨after, left.stdout, left.tally.abort⟩ := rfl
  have counted : Session.count (fun _ => .ofStatistics (.fresh settings.exitOnError))
      (sessionIn world) = .ok () (outset settings world) := rfl
  have ends : withSettings host settings none (sessionIn world) =
      conclude left.tally.abort ⟨after, left.stdout, left.tally.abort⟩ := by
    rw [withSettings, bind_of_ok counted, bind_of_ok guards, bind_of_ok asked]
  have concluded := ends.trans (conclude_eq _ _)
  rw [Tally.succeeded_abort, if_neg Bool.false_ne_true] at concluded
  exact ⟨_, concluded, rfl⟩

/-- A host that starts no program. -/
def idleHost : Host := ⟨Walk.refusingMachine, "python3", Path.ofPlace [['t']], []⟩

end Check

/-- Where the compiler cannot be started the check ends without a summary. -/
theorem summary_after_check_idle :
    ∃ session, check Check.idleHost Arguments.plain (Check.sampleWorld [] []) = .ok 1 session ∧
      session.stdout = [] := by
  have work : ∃ left, Check.work Check.idleHost Check.sampleSettings
      (Check.outset Check.sampleSettings (Check.sampleWorld [] [])) =
        .error (.abort (.compilerUnavailable Check.sampleSettings.compiler "absent"))
          ⟨left, [], .ofStatistics (.fresh false)⟩ :=
    ⟨_, bind_of_error rfl⟩
  obtain ⟨left, hw⟩ := work
  obtain ⟨text, shown⟩ := Console.logged_escape .error
    (Abort.compilerUnavailable Check.sampleSettings.compiler "absent").message
  have explained : Check.explain (.compilerUnavailable Check.sampleSettings.compiler "absent")
      left = .ok () { left with stderr := left.stderr ++ text } := by
    show Act.log .error _ left = _
    rw [Act.log, shown]
    rfl
  obtain ⟨session, ended, -⟩ := Check.withSettings_of_givenUp hw explained
  have checked : check Check.idleHost Arguments.plain (Check.sampleWorld [] []) = .ok 1 session :=
    check_of_ok Check.load_sample ended
  obtain ⟨last, -⟩ := @summary_after_check Check.idleHost Arguments.plain
    (Check.sampleWorld [] []) Check.sampleSettings Check.load_sample
  refine ⟨session, checked, ?_⟩
  have nothing : Check.printed Check.idleHost Check.sampleSettings (Check.sampleWorld [] []) =
      [] := by
    rw [Check.printed, hw]
    rfl
  have bare := (last 1 session checked).bare_iff
  rw [nothing] at bare
  refine bare.2 ⟨⟨_, _, hw⟩, ?_⟩
  rintro ⟨corpus, found, ⟨asks, answers, -⟩, -⟩
  cases asks
  cases answers

namespace Check

/-- The place of a second entry. -/
def strayingPlace : Place := ["test", "libsolidity", "syntaxTests", "b.sol"]

/-- The corpus directories with that entry, whose source is to leave the working directory. -/
def strayingTree : FileTree :=
  ⟨sampleTree.entries ++ [(strayingPlace, .file (Utf8.encode Walk.escaping))]⟩

/-- The second entry. -/
def strayingEntry : Entry := ⟨Path.ofPlace strayingPlace⟩

/-- The corpus. -/
def strayingCorpus : List Entry := [sampleEntry, strayingEntry]

/-- A host with a compiler that prints something else once it has imported. -/
def differingHost : Host := ⟨Walk.differingMachine, "python3", Path.ofPlace [['t']], []⟩

/-- The walk of that host. -/
def differingWalk : Walk := walk differingHost sampleSettings

/-- Its world between two entries. -/
def strayingWorld (launches : List Launch) (stderr : Text) : World :=
  ⟨strayingTree, [], launches, stderr⟩

/-- Its world in the course of an entry, with what the scratch directory holds. -/
def strayingScratch (held : List (Place × Node)) (launches : List Launch) (stderr : Text) :
    World :=
  ⟨⟨strayingTree.entries ++ (sampleScratch, .directory) :: held⟩, [], launches, stderr⟩

/-- The exports of the first entry. -/
def differingExports : List (Place × Node) :=
  [(sampleScratch ++ [exportedName], .file []),
    (sampleScratch ++ [RoundTrip.obtainedName], .file (Utf8.encode ['x']))]

theorem made_straying (launches : List Launch) (stderr : Text) :
    Walk.makeScratch differingWalk.scratchParent (strayingWorld launches stderr) =
      .ok (Path.ofPlace sampleScratch) (strayingScratch [] launches stderr) := by
  cbv

theorem run_straying {command : Command} {out : Text} (directory : Option Path)
    (h : (if command[1]? = some ("--import-ast" : Text) then ['x'] else []) = out)
    (held : List (Place × Node)) (launches : List Launch) (stderr : Text) :
    Solc.run differingHost.machine command directory (strayingScratch held launches stderr) =
      .ok ⟨command, 0, out, []⟩
        (strayingScratch held (launches ++ [⟨command, directory⟩]) stderr) := by
  subst h
  rfl

/-- What comes of the first entry. -/
def differingOutcome : Outcome :=
  .mismatched sampleEntry
    (RoundTrip.reproduction differingWalk.compiler [sampleEntry.path] (Path.ofPlace sampleScratch))
    (Diff.compare [] ['x'] exportedName RoundTrip.obtainedName).diff

theorem process_differing (launches : List Launch) (stderr : Text) :
    ∃ later, differingWalk.process sampleEntry (Path.ofPlace sampleScratch)
        (strayingScratch [] launches stderr) =
      .ok differingOutcome (strayingScratch differingExports later stderr) := by
  have content : (strayingScratch [] launches stderr).tree.read [] sampleEntry.path =
      .ok (Utf8.encode ['x']) := by
    cbv
  have split : MarkerSplit.split sampleEntry (Path.ofPlace sampleScratch)
      (strayingScratch [] launches stderr) =
        .ok (.single sampleEntry.path) (strayingScratch [] launches stderr) :=
    MarkerSplit.split_single content (by decide)
  have kept : ∀ launches, RoundTrip.keep (Path.ofPlace sampleScratch) exportedName []
      (strayingScratch [] launches stderr) =
        .ok () (strayingScratch (differingExports.take 1) launches stderr) := by
    intro launches
    cbv
  have again : ∀ launches, RoundTrip.keep (Path.ofPlace sampleScratch) exportedName []
      (strayingScratch (differingExports.take 1) launches stderr) =
        .ok () (strayingScratch (differingExports.take 1) launches stderr) := by
    intro launches
    cbv
  have obtained : ∀ launches, RoundTrip.keep (Path.ofPlace sampleScratch) RoundTrip.obtainedName
      ['x'] (strayingScratch (differingExports.take 1) launches stderr) =
        .ok () (strayingScratch differingExports launches stderr) := by
    intro launches
    cbv
  have compared (launches : List Launch) : ∃ later,
      RoundTrip.compare differingWalk.compiler sampleEntry [sampleEntry.path]
        (Path.ofPlace sampleScratch) (strayingScratch [] launches stderr) =
          .ok differingOutcome (strayingScratch differingExports later stderr) :=
    ⟨_, bind_ok.2 ⟨_, _, run_straying _ rfl _ _ _, bind_ok.2 ⟨_, _, kept _, bind_ok.2 ⟨_, _,
      bind_ok.2 ⟨_, _, again _, run_straying _ rfl _ _ _⟩, bind_ok.2 ⟨_, _, obtained _, rfl⟩⟩⟩⟩⟩
  obtain ⟨later, hc⟩ := compared _
  exact ⟨later, bind_ok.2 ⟨_, _, split, bind_ok.2 ⟨[sampleEntry.path],
    strayingScratch [] launches stderr, rfl, bind_ok.2 ⟨true, _,
      bind_ok.2 ⟨_, _, run_straying _ rfl _ _ _, rfl⟩, hc⟩⟩⟩⟩

/-- The first visit mismatches, and the walk goes on. -/
theorem ending_differing (launches : List Launch) (stderr stdout : Text) (tally : Tally) :
    ∃ later said,
      (⟨0, sampleEntry, ⟨strayingWorld launches stderr, stdout, tally⟩⟩ : Visit).ending
          differingWalk =
        .ok (tally.after differingOutcome).halted ⟨strayingWorld later said,
          stdout ++ Walk.marks (some differingOutcome), tally.after differingOutcome⟩ := by
  obtain ⟨later, processed⟩ := process_differing launches stderr
  have made := made_straying launches stderr
  have outcome : (⟨0, sampleEntry, ⟨strayingWorld launches stderr, stdout, tally⟩⟩ : Visit).outcome?
      differingWalk = some differingOutcome := by
    rw [Visit.outcome?, Walk.attempt_eq, bind_of_ok made]
    exact congrArg Walk.outcomeOf processed
  obtain ⟨⟨⟨tree, cwd, launched, said⟩, out, counted⟩, hcwd, htree, hend⟩ :=
    @Walk.ending_of_mismatch differingWalk
      ⟨0, sampleEntry, ⟨strayingWorld launches stderr, stdout, tally⟩⟩ _ _ _ _ made processed rfl
  obtain rfl : cwd = _ := hcwd
  obtain rfl : tree = _ := htree
  have removed : Walk.removeScratch (Path.ofPlace sampleScratch)
      (strayingScratch differingExports launched said) = strayingWorld launched said := by
    cbv
  -- no artifacts are kept
  have left : Walk.cleared (Path.ofPlace sampleScratch) (.ok (tally.after differingOutcome).halted
      ⟨strayingScratch differingExports launched said, out, counted⟩) =
        .ok (tally.after differingOutcome).halted ⟨strayingWorld launched said, out, counted⟩ := by
    rw [Walk.cleared, removed]
  have ended := hend.trans left
  have taken := Visit.taken differingWalk
    ⟨0, sampleEntry, ⟨strayingWorld launches stderr, stdout, tally⟩⟩
  rw [outcome, ended] at taken
  generalize hs : (⟨strayingWorld launched said, out, counted⟩ : Session) = session at taken ended
  cases taken with
  | recorded whole =>
    cases hs
    exact ⟨launched, said, ended⟩

theorem split_straying (launches : List Launch) (stderr : Text) :
    MarkerSplit.split strayingEntry (Path.ofPlace sampleScratch)
        (strayingScratch [] launches stderr) =
      .error (.abort (.splitter (.invalidName strayingEntry "../a")))
        (strayingScratch [] launches stderr) := by
  have content : (strayingScratch [] launches stderr).tree.read [] strayingEntry.path =
      .ok (Utf8.encode Walk.escaping) := by
    cbv
  have leads : (strayingScratch [] launches stderr).tree.canonical []
      (Path.ofPlace sampleScratch) = .ok (Path.ofPlace sampleScratch) := by
    cbv
  have sections : Section.ofText? Walk.escaping = some [⟨"../a", []⟩] := by
    cbv
  have refused : MarkerSplit.writeSections strayingEntry (Path.ofPlace sampleScratch)
      [⟨"../a", []⟩] (strayingScratch [] launches stderr) =
        .error (.abort (.splitter (.invalidName strayingEntry "../a")))
          (strayingScratch [] launches stderr) := by
    cbv
  rw [MarkerSplit.split, bind_of_ok (Act.ask_ok.2 ⟨content, rfl⟩), Utf8.decode_encode]
  dsimp only
  rw [sections]
  dsimp only
  rw [bind_of_ok (Act.ask_ok.2 ⟨leads, rfl⟩)]
  exact bind_of_error refused

/-- What the second visit gives up over. -/
def strayingCause : Abort := .splitter (.invalidName strayingEntry "../a")

/-- The second visit gives the run up, and its entry is not counted. -/
theorem ending_straying (launches : List Launch) (stderr stdout : Text) (tally : Tally) :
    ∃ world,
      (⟨1, strayingEntry, ⟨strayingWorld launches stderr, stdout, tally⟩⟩ : Visit).ending
          differingWalk =
        .error (.abort strayingCause) ⟨world, stdout ++ Walk.progressMark, tally.abort⟩ := by
  have made := made_straying launches stderr
  have failed : differingWalk.process strayingEntry (Path.ofPlace sampleScratch)
      (strayingScratch [] launches stderr) =
        .error (.abort strayingCause) (strayingScratch [] launches stderr) :=
    bind_of_error (split_straying launches stderr)
  -- a split that fails gives no outcome and one fault
  have unresolved : (⟨1, strayingEntry, ⟨strayingWorld launches stderr, stdout, tally⟩⟩ :
      Visit).outcome? differingWalk = none := by
    rw [Visit.outcome?, Walk.attempt_eq, bind_of_ok made]
    exact congrArg Walk.outcomeOf failed
  have fault : (⟨1, strayingEntry, ⟨strayingWorld launches stderr, stdout, tally⟩⟩ :
      Visit).fault? differingWalk = some (.abort strayingCause) := by
    rw [Visit.fault?, Session.act_of_ok made]
    dsimp only
    rw [Walk.work_of_error failed]
  obtain ⟨failure, after, ended, hfailure, htally⟩ := Walk.ending_of_fault fault
  obtain rfl : failure = .abort strayingCause := hfailure.resolve_right fun h => h.1 rfl
  have taken := Visit.taken differingWalk
    ⟨1, strayingEntry, ⟨strayingWorld launches stderr, stdout, tally⟩⟩
  rw [unresolved, ended] at taken
  cases taken with
  | aborted _ _ => exact ⟨_, ended⟩
  | lost mishap _ => cases mishap

/-- The standard output when the work is given up. -/
def strayingOutput : Text := "Looking at 2 .sol files...\n··"

/-- The tally when the work is given up. -/
def strayingTally : Tally :=
  ((Walk.openTally strayingCorpus false).after differingOutcome).abort

theorem work_straying :
    ∃ world, work differingHost sampleSettings (outset sampleSettings (strayingWorld [] [])) =
      .error (.abort strayingCause) ⟨world, strayingOutput, strayingTally⟩ := by
  obtain ⟨launches, stderr, prepared⟩ : ∃ launches stderr,
      prepare differingHost sampleSettings (strayingWorld [] []) =
        .ok strayingCorpus (strayingWorld launches stderr) :=
    prepare_of_discovered rfl fun launches stderr => by cbv
  have announced : Walk.announce strayingCorpus sampleSettings.extension
      (outset sampleSettings (strayingWorld launches stderr)) =
        .ok () ⟨strayingWorld launches stderr, "Looking at 2 .sol files...\n",
          Walk.openTally strayingCorpus false⟩ := by
    rw [Walk.announce]
    refine bind_ok.2 ⟨_, _, rfl, ?_⟩
    cbv
  -- the first entry is counted as failing, and the second one gives the run up
  obtain ⟨later, said, first⟩ := ending_differing launches stderr
    "Looking at 2 .sol files...\n" (Walk.openTally strayingCorpus false)
  obtain ⟨world, second⟩ := ending_straying later said
    (("Looking at 2 .sol files...\n" : Text) ++ Walk.marks (some differingOutcome))
    ((Walk.openTally strayingCorpus false).after differingOutcome)
  have walked : differingWalk.entries 0 strayingCorpus
      ⟨strayingWorld launches stderr, "Looking at 2 .sol files...\n",
        Walk.openTally strayingCorpus false⟩ =
          .error (.abort strayingCause) ⟨world, strayingOutput, strayingTally⟩ := by
    rw [strayingCorpus, Walk.entries_cons]
    refine (bind_of_ok first).trans ?_
    show differingWalk.entries 1 [strayingEntry] _ = _
    rw [Walk.entries_cons]
    exact bind_of_error second
  refine ⟨world, ?_⟩
  rw [work_eq, bind_of_ok (Session.act_of_ok prepared)]
  refine bind_of_error ?_
  rw [Walk.run_eq]
  exact (bind_of_ok announced).trans (bind_of_error walked)

end Check

/-- **The counters of a check that was given up may be summed up all the same**: the first entry
has mismatched when the second one cannot be split. -/
theorem summary_of_given_up :
    Settings.load Check.strayingTree [] Arguments.plain.overrides [] none =
        .ok Check.sampleSettings ∧
      Check.GivenUp Check.differingHost Check.sampleSettings (Check.strayingWorld [] []) ∧
      ∃ session, check Check.differingHost Arguments.plain (Check.strayingWorld [] []) =
          .ok 1 session ∧
        session.stdout = Check.strayingOutput ++
          ("FAILURE: Out of 2 sources, 1 tested, 1 failed, (0 could not be compiled).\n" : Text) := by
  obtain ⟨world, worked⟩ := Check.work_straying
  obtain ⟨text, shown⟩ := Console.logged_escape .error Check.strayingCause.message
  have explained : Check.explain Check.strayingCause world =
      .ok () { world with stderr := world.stderr ++ Console.newline ++ text } := by
    refine bind_ok.2 ⟨(), { world with stderr := world.stderr ++ Console.newline }, ?_, ?_⟩
    · cbv
    · refine bind_ok.2 ⟨(), _, ?_, rfl⟩
      show Act.log .error (Markup.escape Check.strayingCause.message) _ = _
      rw [Act.log, shown]
      rfl
  obtain ⟨session, ended, stdout⟩ := Check.withSettings_of_givenUp worked explained
  have loaded : Settings.load Check.strayingTree [] Arguments.plain.overrides [] none =
      .ok Check.sampleSettings :=
    Check.load_unstated (by cbv) (by cbv)
  have last : Check.closing Check.strayingTally.abort =
      "FAILURE: Out of 2 sources, 1 tested, 1 failed, (0 could not be compiled).\n" := by
    cbv
  refine ⟨loaded, ⟨_, _, worked⟩, session, check_of_ok loaded ended, ?_⟩
  exact stdout.trans (congrArg (Check.strayingOutput ++ ·) last)

end CommandLine
end Reimport
