import Reimport.CommandLine.Arguments
import Reimport.Oracle
import Reimport.Report
import Reimport.Settings.Load
import Reimport.Split.Script

/-!
# Checking a corpus from the command line

The command loads its settings, asks the compiler for its version and walks the
corpus.  A finding about the tools ends the walk and is reported; the command
still writes the report it was asked for and only then ends, with the summary if
the counters are worth showing.  The exit status is zero for a run that succeeded
and one for any other.  A mishap in the work itself is passed on.
-/
namespace Reimport.CommandLine

/-- What the command works on. -/
structure Host where
  /-- The programs that can be launched. -/
  machine : Machine
  /-- The program that runs splitter scripts. -/
  interpreter : Text
  /-- The directory in which scratch directories are made. -/
  scratchParent : Path
  /-- The variables of the environment. -/
  environment : Settings.Environment

/-- What the command passes on. -/
inductive Mishap where
  /-- The settings cannot be had. -/
  | settings (error : Settings.Error)
  /-- The work cannot go on. -/
  | work (failure : Failure)
  deriving DecidableEq, Repr

/-- What the arguments have to say about settings.  The switch that halts a run can
only turn that on. -/
def Arguments.overrides (arguments : Arguments) : Settings.Overrides where
  repoRoot := arguments.repoRoot
  buildDir := arguments.buildDir
  splitterScript := arguments.splitterScript
  artifactsDir := arguments.artifactsDir
  exitOnError := if arguments.exitOnError then some true else none

namespace Check

/-- The compiler that settings name. -/
def solc (settings : Settings) : Solc := ⟨settings.compiler, settings.jsonIndent⟩

/-- The splitter that settings ask for. -/
def splitter (host : Host) (settings : Settings) : Splitter :=
  match settings.splitting with
  | .byScript script => SplitScript.splitter ⟨script, host.interpreter⟩ host.machine
  | .byMarkers => MarkerSplit.splitter

/-- The last line of what a compiler tells about its version. -/
def banner (version : Text) : Text :=
  ((Text.brokenLines version).getLast?.map Text.withoutBreak).getD ['?']

/-- The walk that settings ask for. -/
def walk (host : Host) (settings : Settings) : Walk where
  splitter := splitter host settings
  compiler := (solc settings).compiler host.machine
  artifacts := settings.artifactsDir
  scratchParent := host.scratchParent

/-- Asks the compiler for its version and walks the corpus. -/
def work (host : Host) (settings : Settings) : Step Unit := do
  let version ← Session.act ((solc settings).version host.machine)
  Session.act (Act.log .info (.join ["Using compiler [path]",
    Markup.escape settings.compiler.text, "[/path] (", Markup.escape (banner version), ")"]))
  let corpus ← Session.act
    (Corpus.discover settings.resolvedCorpusDirs settings.extension settings.excludedNames)
  let _ ← (walk host settings).run corpus settings.extension

/-- Reports a finding about the tools. -/
def explain (cause : Abort) : Act Unit :=
  match cause with
  | .splitter fault => do
    Act.complain []
    Act.log .error (Markup.escape fault.message)
    if fault.output ≠ [] then
      Act.complainVerbatim (.join ["\n\n", fault.output, "\n\n"]) Console.newline
  | _ => Act.log .error (Markup.escape cause.message)

/-- Does the work; a finding about the tools gives the run up and is reported. -/
def guarded (body : Step Unit) : Step Unit := fun session =>
  match body session with
  | .error (.abort cause) session =>
    (do Session.giveUp; Session.act (explain cause)) session
  | .error failure session => .error failure session
  | .ok _ session => .ok () session

/-- Writes a report. -/
def writeReport (path : Path) (report : Report) : Act Unit := do
  Act.change fun cwd => FileTree.makePath cwd path.parent
  Act.change fun cwd => FileTree.write cwd .replace path (Utf8.encode report.text)
  Act.log .success (.join ["Round-trip report saved to [path]", Markup.escape path.text, "[/path]"])

/-- Ends the command: with the summary, unless the run was given up before any
mismatch. -/
def conclude (tally : Tally) : Step Int :=
  if !tally.succeeded && tally.statistics.failed = 0 then pure 1
  else do
    Session.printVerbatim tally.statistics.summary Console.newline
    return if tally.succeeded then 0 else 1

/-- Checks a corpus with given settings. -/
def withSettings (host : Host) (settings : Settings) (report : Option Path) : Step Int := do
  Session.count fun _ => .ofStatistics (.fresh settings.exitOnError)
  guarded (work host settings)
  let tally := (← get).tally
  match report with
  | some path =>
    Session.act (writeReport path (.ofRun tally.statistics tally.succeeded))
  | none => pure ()
  conclude tally

/-- The session in which a world is to be worked on. -/
def sessionIn (world : World) : Session := ⟨world, [], .ofStatistics (.fresh false)⟩

end Check

/-- The command that checks a corpus: its exit status, or the mishap that ended it,
with the session it has left. -/
def check (host : Host) (arguments : Arguments) (world : World) :
    EStateM.Result Mishap Session Int :=
  match Settings.load world.tree world.cwd arguments.overrides host.environment none with
  | .error error => .error (.settings error) (Check.sessionIn world)
  | .ok settings =>
    match Check.withSettings host settings arguments.jsonReport (Check.sessionIn world) with
    | .ok status session => .ok status session
    | .error failure session => .error (.work failure) session

end Reimport.CommandLine
