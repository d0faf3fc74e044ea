import Reimport.Proofs.CommandLine.Closing
import Reimport.Proofs.Console.Opening
import Reimport.Proofs.Console.Sites

/-!
# What is shown of texts from outside

Paths, names, wordings and what programs have said come into the messages of a run from outside.
Wherever such a text is shown, it is escaped or printed as it is, with one exception, the label of
the opening line.  So a message shows its texts iff none of them loses a backslash, and it never
fails; the opening line shows the label iff that is read as it stands, and fails only if the label
holds a tag (`texts_shown`).  Both limits are met (`texts_read_as_markup`): escaping leaves alone a
bracket that begins no tag, and reading then takes the backslash before it for one that escaping
has put there.
-/
namespace Reimport
open Console (Message newline)
open CommandLine (Host Arguments)

namespace CommandLine.Check

/-- What is left of the work once the compiler has answered for its version. -/
def workOn (host : Host) (settings : Settings) (version : Text) : Step Unit := do
  Session.act (Message.compiler settings.compiler (banner version)).send
  let corpus ← Session.act
    (Corpus.discover settings.resolvedCorpusDirs settings.extension settings.excludedNames)
  let _ ← (walk host settings).run corpus settings.extension

/-- Work announces the compiler as soon as that has answered. -/
theorem work_of_version {host : Host} {settings : Settings} {session : Session} {version : Text}
    {asked : World} (h : (solc settings).version host.machine session.world = .ok version asked) :
    work host settings session = workOn host settings version { session with world := asked } := by
  rw [work, bind_of_ok (Session.act_of_ok h), workOn, ← log_announcement]
  rfl

/-- A report is announced as soon as it is written. -/
theorem writeReport_eq (path : Path) (report : Report) :
    writeReport path report = (do
      Act.change fun cwd => FileTree.makePath cwd path.parent
      Act.change fun cwd => FileTree.write cwd .replace path (Utf8.encode report.text)
      (Message.report path).send : Act Unit) := by
  rw [writeReport, log_report]

end CommandLine.Check

namespace Console

/-- How a command with some settings, and a run with a label, show texts from outside. -/
structure TextsShown (host : Host) (settings : Settings) (label : Text) : Prop where
  /-- Every message about texts that do not end with a backslash is shown. -/
  message : ∀ message : Message, message.Unended → message.Shown
  /-- What is printed as it is stands there as it is, if the terminal receives it. -/
  verbatim : ∀ text ending, (∀ c ∈ text, Terminal.canShow c = true) →
    verbatim text ending = text ++ ending
  /-- Looking for a corpus says which roots are missing. -/
  roots : ∀ {roots extension excluded world corpus after},
    (∀ root ∈ roots, (Message.missing root).Unended) →
    Corpus.discover roots extension excluded world = .ok corpus after →
    after = { world with
      stderr := world.stderr ++ Corpus.notices world.tree world.cwd roots }
  /-- That never ends over a message. -/
  discover : ∀ roots extension excluded, Unmarked (Corpus.discover roots extension excluded)
  /-- The compiler is announced. -/
  compiler : ∀ {session version asked},
    (CommandLine.Check.solc settings).version host.machine session.world = .ok version asked →
    CommandLine.Check.work host settings session =
      CommandLine.Check.workOn host settings version { session with world := asked }
  /-- An entry that is no text is reported as it is. -/
  undecodable : ∀ entry diagnostic world,
    Walk.files entry (.undecodable diagnostic) world = .ok [entry.path] { world with
      stderr := world.stderr ++ Console.verbatim (.join ["\n\n", diagnostic, "\n\n"]) newline }
  /-- The outcome of an entry is explained. -/
  outcome : ∀ {outcome : Outcome}, (∀ message ∈ outcome.messages, message.Unended) →
    ∀ session, (reached (Session.record (.outcome outcome) session)).world =
      { session.world with stderr := session.world.stderr ++ Session.explanation outcome }
  /-- It is said how keeping the artifacts of an entry has ended. -/
  artifacts : ∀ {walk : Walk} {index entry workdir artifacts world message},
    walk.artifacts = some artifacts →
    Walk.artifactsMessage? entry (Walk.artifactPath artifacts index entry)
      (FileTree.copyTree world.cwd FileTree.pathLimit workdir
        (Walk.artifactPath artifacts index entry) world.tree) = some message →
    walk.keepArtifacts index entry workdir world = message.send { world with
      tree := reached (FileTree.copyTree world.cwd FileTree.pathLimit workdir
        (Walk.artifactPath artifacts index entry) world.tree) }
  /-- Where nothing is said about them, that is because it has ended with a mishap. -/
  unsaid : ∀ {walk : Walk} {index entry workdir artifacts world},
    walk.artifacts = some artifacts →
    Walk.artifactsMessage? entry (Walk.artifactPath artifacts index entry)
      (FileTree.copyTree world.cwd FileTree.pathLimit workdir
        (Walk.artifactPath artifacts index entry) world.tree) = none →
    ∃ error after, walk.keepArtifacts index entry workdir world = .error (.file error) after
  /-- A finding about the tools is explained. -/
  finding : ∀ {cause : Abort}, (Message.finding cause.message).Unended →
    (CommandLine.Check.explain cause).Says (CommandLine.Check.explanation cause)
  /-- A report that is written is announced. -/
  report : ∀ path report, CommandLine.Check.writeReport path report = (do
    Act.change fun cwd => FileTree.makePath cwd path.parent
    Act.change fun cwd => FileTree.write cwd .replace path (Utf8.encode report.text)
    (Message.report path).send : Act Unit)
  /-- The opening line shows the label iff that holds no tag and no backslash in it stands before a
  bracket. -/
  opening : (∀ c ∈ label, Terminal.canShow c = true) → ∀ corpus session,
    Walk.announce corpus label session = .ok ()
        (Walk.opened corpus (Walk.openingLine corpus label ++ newline) session) ↔
      ¬ Markup.HoldsTag label ∧ ¬ Markup.HidesBackslash label
  /-- A run ends over a message only if its label holds a tag. -/
  run : ∀ {corpus session fault after},
    (CommandLine.Check.walk host settings).run corpus label session =
      .error (.markup fault) after → Markup.HoldsTag label
  /-- The command ends over a message only if its extension holds a tag. -/
  check : ∀ {arguments world fault session},
    Settings.load world.tree world.cwd arguments.overrides host.environment none = .ok settings →
    CommandLine.check host arguments world = .error (.work (.markup fault)) session →
    Markup.HoldsTag settings.extension

/-- **Texts from outside are shown as they are**, but for a backslash that is lost and a label that
is read as markup. -/
theorem texts_shown (host : Host) (settings : Settings) (label : Text) :
    TextsShown host settings label where
  message _ := Message.shown_of_unended
  verbatim _ ending showable := congrArg (· ++ ending) (Terminal.display_of_canShow showable)
  roots := Corpus.world_of_discover
  discover := Unmarked.discover
  compiler := CommandLine.Check.work_of_version
  undecodable _ _ _ := rfl
  outcome := Session.world_of_record
  artifacts := Walk.keepArtifacts_eq
  unsaid := Walk.keepArtifacts_unsaid
  finding := CommandLine.Check.says_explain
  report := CommandLine.Check.writeReport_eq
  opening showable _ _ := Walk.announce_iff showable
  run := Walk.holdsTag_of_run CommandLine.Check.unmarked_process
  check loaded := CommandLine.holdsTag_of_check loaded

end Console

/-! ### Texts that are read as markup -/

/-- A run over no entries is its opening line. -/
theorem Walk.run_nil (walk : Walk) (label : Text) (session : Session) :
    walk.run [] label session =
      match Console.styled (openingLine [] label) newline with
      | .ok line => finished (.ok () (opened [] line session))
      | .error fault => .error (.markup fault) (withSources [] session) := by
  have announced := announce_eq [] label session
  rw [run_eq]
  cases shown : Console.styled (openingLine [] label) newline with
  | error fault =>
    rw [shown] at announced
    exact bind_of_error announced
  | ok line =>
    rw [shown] at announced
    rw [bind_of_ok announced]
    rfl

/-- A corpus with a missing root alone has no entries. -/
theorem Corpus.discover_missing {world : World} {root : Path}
    (unended : (Message.missing root).Unended)
    (asked : world.tree.isDirectory world.cwd root = .ok false) (extension : Text)
    (excluded : List Name) :
    discover [root] extension excluded world = .ok [] { world with
      stderr := world.stderr ++ (Message.missing root).line Markup.kept } := by
  have answered : Act.ask (fun tree cwd => tree.isDirectory cwd root) world = .ok false world :=
    Act.ask_ok.2 ⟨asked, rfl⟩
  have added : addRoot extension excluded [] root world = .ok [] { world with
      stderr := world.stderr ++ (Message.missing root).line Markup.kept } := by
    rw [addRoot, bind_of_ok answered, if_neg Bool.false_ne_true, log_missing,
      bind_of_ok (Message.says_send unended world)]
    rfl
  exact bind_ok.2 ⟨[], _, bind_ok.2 ⟨[], _, added, rfl⟩, rfl⟩

namespace Console

open CommandLine.Check (idleHost sampleSettings sampleWorld outset walk) in
/-- **Both limits are met.**  Two labels and a path that can be shown and do not end with a
backslash: a label that is a closing tag ends the run, of a label that holds an opening tag the tag
is missing in the opening line, and of the path a backslash is missing. -/
theorem texts_read_as_markup :
    (∀ text ∈ (["[/x]", ".[x]sol", "a\\[0]"] : List Text), text.getLast? ≠ some '\\' ∧
      ∀ c ∈ text, Terminal.canShow c = true) ∧
    (∃ after, (walk idleHost sampleSettings).run [] "[/x]"
        (outset sampleSettings (sampleWorld [] [])) =
      .error (.markup (.unmatched "/x" 13)) after) ∧
    (∃ statistics after, (walk idleHost sampleSettings).run [] ".[x]sol"
        (outset sampleSettings (sampleWorld [] [])) = .ok statistics after ∧
      after.stdout = "Looking at 0 .sol files...\n\n") ∧
    ∃ after, Corpus.discover [⟨.none, ["a\\[0]"]⟩] ".sol" [] (sampleWorld [] []) = .ok [] after ∧
      after.stderr = "WARNING  ⚠️  Corpus directory not found: a[0]\n" := by
  have receivable : (["[/x]", ".[x]sol", "a\\[0]"] : List Text).all (fun text =>
      text.getLast? ≠ some '\\' && text.all Terminal.canShow) = true := by
    decide +kernel
  have closing : styled (Walk.openingLine [] "[/x]") newline = .error (.unmatched "/x" 13) := by
    decide +kernel
  have opening : styled (Walk.openingLine [] ".[x]sol") newline =
      .ok "Looking at 0 .sol files...\n" := by
    decide +kernel
  have closed := (walk idleHost sampleSettings).run_nil "[/x]"
    (outset sampleSettings (sampleWorld [] []))
  have opened := (walk idleHost sampleSettings).run_nil ".[x]sol"
    (outset sampleSettings (sampleWorld [] []))
  have asked : (sampleWorld [] []).tree.isDirectory (sampleWorld [] []).cwd
      ⟨.none, ["a\\[0]"]⟩ = .ok false := by
    cbv
  have unended : (Message.missing ⟨.none, ["a\\[0]"]⟩).Unended := by
    rintro _ (_ | ⟨_, ⟨⟩⟩)
    decide
  have missed := Corpus.discover_missing unended asked ".sol" []
  have noticed : (Message.missing ⟨.none, ["a\\[0]"]⟩).line Markup.kept =
      "WARNING  ⚠️  Corpus directory not found: a[0]\n" := by
    decide +kernel
  rw [closing] at closed
  rw [opening] at opened
  refine ⟨fun text ht => ?_, ⟨_, closed⟩, ⟨_, _, opened, rfl⟩, ⟨_, missed, noticed⟩⟩
  simpa using List.all_eq_true.1 receivable text ht

end Console
end Reimport
