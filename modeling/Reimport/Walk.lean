import Reimport.Corpus
import Reimport.RoundTrip
import Reimport.Session
import Reimport.Split.Marker

/-!
# Walking a corpus

The entries of a corpus are taken one after the other: each is split, tried and
sent on its round trip inside a scratch directory of its own, and its outcome is
recorded.  The scratch directory goes away whatever happens; what it held at the
time is kept elsewhere, if a place is given, for an entry that mismatched or
gave cause to end the run.  An entry that cannot be read as text is compiled as
it is.
-/
namespace Reimport

/-- What a walk works with. -/
structure Walk where
  /-- How entries are split. -/
  splitter : Splitter
  /-- The compiler under test. -/
  compiler : Compiler
  /-- Where the scratch directories of failing entries are kept. -/
  artifacts : Option Path
  /-- The directory in which scratch directories are made. -/
  scratchParent : Path

namespace Walk

/-- The mark for an entry that is begun. -/
def progressMark : Text := "·"

/-- What the names of scratch directories start with. -/
def scratchStem : Text := "ast-roundtrip-"

/-- The path of the scratch directory with a given number. -/
def scratchPath (parent : Path) (number : Nat) : Path :=
  parent.child (scratchStem ++ Text.decimalNat number)

/-- The lowest number of a scratch directory that is not there yet.  Of more
numbers than the tree has entries, one is free. -/
def freshNumber (tree : FileTree) (cwd : Place) (parent : Path) : Nat :=
  ((List.range (tree.entries.length + 1)).find? fun number =>
    match tree.status cwd (scratchPath parent number) with
    | .error _ => true
    | .ok _ => false).getD 0

/-- Makes a new scratch directory. -/
def makeScratch (parent : Path) : Act Path := fun world =>
  let path := scratchPath parent (freshNumber world.tree world.cwd parent)
  match FileTree.makeDirectory world.cwd path world.tree with
  | .ok _ tree => .ok path { world with tree := tree }
  | .error error tree => .error (.file error) { world with tree := tree }

/-- Removes a scratch directory and all that is in it. -/
def removeScratch (path : Path) (world : World) : World :=
  match world.tree.placeOf world.cwd false path with
  | .ok place => { world with tree := world.tree.removeBelow place }
  | .error _ => world

/-- Does something inside a new scratch directory, which is removed however that
ends. -/
def withScratch {α : Type} (parent : Path) (body : Path → Step α) : Step α := fun session =>
  match Session.act (makeScratch parent) session with
  | .error failure session => .error failure session
  | .ok path session =>
    match body path session with
    | .ok value session => .ok value { session with world := removeScratch path session.world }
    | .error failure session =>
      .error failure { session with world := removeScratch path session.world }

/-- The files that the compiler is given for an entry. -/
def files (entry : Entry) : SplitResult → Act (List Path)
  | .multiple paths => return paths
  | .single path => return [path]
  | .undecodable diagnostic => do
    Act.complainVerbatim (.join ["\n\n", diagnostic, "\n\n"]) Console.newline
    return [entry.path]
  | .unknown => throw .unknownSplit

/-- Splits an entry and sends it on its round trip. -/
def process (walk : Walk) (entry : Entry) (workdir : Path) : Act Outcome := do
  let result ← walk.splitter.split entry workdir
  let sources ← files entry result
  RoundTrip.check walk.compiler entry sources workdir

/-- Where the scratch directory of an entry is kept. -/
def artifactPath (artifacts : Path) (index : Nat) (entry : Entry) : Path :=
  artifacts.child (.join [Text.decimalPadded 5 index, "_", entry.path.stem])

/-- What is said when the scratch directory of an entry could not be kept. -/
def notKept (entry : Entry) (reason : Text) : Act Unit :=
  Act.log .warning (.join ["Could not preserve artifacts for ", Markup.escape entry.name, ": ",
    Markup.escape reason])

/-- Keeps what the scratch directory of an entry holds. -/
def keepArtifacts (walk : Walk) (index : Nat) (entry : Entry) (workdir : Path) : Act Unit :=
  match walk.artifacts with
  | none => pure ()
  | some artifacts => fun world =>
    let target := artifactPath artifacts index entry
    match FileTree.copyTree world.cwd FileTree.pathLimit workdir target world.tree with
    | .error (.system cause path) tree =>
      notKept entry (FileError.system cause path).message { world with tree := tree }
    | .error error tree => .error (.file error) { world with tree := tree }
    | .ok [] tree =>
      Act.log .info (.join ["Artifacts for ", Markup.escape entry.name, " preserved in [path]",
        Markup.escape target.text, "[/path]"]) { world with tree := tree }
    | .ok faults tree => notKept entry (FileTree.CopyFault.report faults) { world with tree := tree }

/-- Takes one entry through its scratch directory, and says whether the run has
to stop. -/
def step (walk : Walk) (index : Nat) (entry : Entry) (workdir : Path) : Step Bool :=
  fun session =>
    let attempt : Step (Outcome × Bool) := do
      let outcome ← Session.act (walk.process entry workdir)
      let stop ← Session.record (.outcome outcome)
      return (outcome, stop)
    match attempt session with
    | .ok (outcome, stop) session =>
      if outcome.isMismatch then
        (do Session.act (walk.keepArtifacts index entry workdir); return stop) session
      else .ok stop session
    | .error failure session =>
      if failure.isAbort then
        (do
          Session.giveUp
          Session.act (walk.keepArtifacts index entry workdir)
          throw failure) session
      else .error failure session

/-- Takes entries one after the other, counted from `index` on, until one of them
stops the run. -/
def entries (walk : Walk) (index : Nat) : List Entry → Step Unit
  | [] => pure ()
  | entry :: rest => do
    Session.print progressMark []
    let stop ← withScratch walk.scratchParent (walk.step index entry)
    if stop then pure () else entries walk (index + 1) rest

/-- Walks a corpus and gives the final counters.  `label` says what kind of
files it holds. -/
def run (walk : Walk) (corpus : List Entry) (label : Text) : Step Statistics := do
  Session.count fun tally =>
    { tally with statistics := { tally.statistics with totalSources := corpus.length } }
  Session.print (.join ["Looking at ", Text.decimalNat corpus.length, " ", label, " files..."])
    Console.newline
  walk.entries 0 corpus
  Session.print [] Console.newline
  return (← get).tally.statistics

end Walk
end Reimport
