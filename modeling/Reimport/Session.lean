import Reimport.Text.Shell
import Reimport.World
import Reimport.Tally

/-!
# Sessions

A session is a run in progress: the world with its files and diagnostics, what
was printed on the standard output, and the tally.  Recording an outcome counts
it, shows a mark for an entry that passed, and explains a mismatch or a failed
compiler call on the standard error together with the commands that repeat it.
A failed compiler call ends the run.
-/
namespace Reimport

/-- A run in progress. -/
structure Session where
  /-- The files, the launches and the diagnostics. -/
  world : World
  /-- What was printed on the standard output. -/
  stdout : Text
  /-- The tally. -/
  tally : Tally
  deriving DecidableEq, Repr

/-- A step of a session. -/
abbrev Step := EStateM Failure Session

/-- What is handed in to be recorded. -/
inductive Finding where
  /-- An outcome. -/
  | outcome (outcome : Outcome)
  /-- A value of another kind. -/
  | other (kind : Text)
  deriving DecidableEq, Repr

namespace Session

/-- A step that touches the world alone. -/
def act {α : Type} (action : Act α) : Step α := fun session =>
  match action session.world with
  | .ok value world => .ok value { session with world := world }
  | .error failure world => .error failure { session with world := world }

/-- Changes the tally. -/
def count (change : Tally → Tally) : Step Unit := fun session =>
  .ok () { session with tally := change session.tally }

/-- Prints a styled text on the standard output. -/
def print (message ending : Text) : Step Unit := fun session =>
  match Console.styled message ending with
  | .ok text => .ok () { session with stdout := session.stdout ++ text }
  | .error fault => .error (.markup fault) session

/-- Prints a text as it is on the standard output. -/
def printVerbatim (text ending : Text) : Step Unit := fun session =>
  .ok () { session with stdout := session.stdout ++ Console.verbatim text ending }

/-- The mark for an entry that passed. -/
def passMark : Text := "✅"

/-- Ends a text with a line feed if it does not end with one. -/
def lineEnd (text : Text) : Text := if text.getLast? = some '\n' then [] else Console.newline

/-- Shows where and how a round trip can be repeated. -/
def explainCommands (reproduction : Reproduction) : Act Unit := do
  Act.complain (.join ["[error]Working directory used for this test: ",
    Markup.escape reproduction.workdir.text, "[/error]"])
  Act.complain "[error]Used commands for test:[/error]"
  Act.complain "[error]# export[/error]"
  Act.complainVerbatim ("$ " ++ Shell.render reproduction.exportCommand) Console.newline
  Act.complain "[error]# import[/error]"
  Act.complainVerbatim ("$ " ++ Shell.render reproduction.importCommand) Console.newline

/-- Shows what a failed compiler call has printed. -/
def explainStreams (message stderr stdout : Text) : Act Unit := do
  Act.complain (.join ["[error]", Markup.escape message, "[/error]"])
  Act.complain []
  Act.complain "[error]stderr:[/error]"
  Act.complainVerbatim stderr (lineEnd stderr)
  Act.complain []
  Act.complain "[error]stdout:[/error]"
  Act.complainVerbatim stdout (lineEnd stdout)

/-- Explains a failed compiler call. -/
def explainBreakdown (phase : Text) (breakdown : Breakdown) : Act Unit := do
  explainStreams
    (.join ["ERROR: AST ", phase, " failed for input file ", breakdown.entry.text, "."])
    breakdown.stderr breakdown.stdout
  explainCommands breakdown.reproduction

/-- Explains a mismatch. -/
def explainMismatch (entry : Entry) (reproduction : Reproduction) (diff : Text) : Act Unit := do
  Act.complain []
  Act.log .error (.join ["AST reimport failed for ", Markup.escape entry.text])
  Act.complainVerbatim diff Console.newline
  explainCommands reproduction

/-- Counts and explains a finding, and says whether the run has to stop. -/
def record : Finding → Step Bool
  | .other kind => throw (.unknownOutcome kind)
  | .outcome outcome => do
    count (·.after outcome)
    match outcome with
    | .passed _ => print passMark []
    | .uncompilable _ => pure ()
    | .mismatched entry reproduction diff => act (explainMismatch entry reproduction diff)
    | .exportFailed breakdown =>
      act (explainBreakdown "export" breakdown)
      throw (.abort (.exportFailed breakdown))
    | .importFailed breakdown =>
      act (explainBreakdown "import" breakdown)
      throw (.abort (.importFailed breakdown))
    return (← get).tally.halted

/-- Gives the run up. -/
def giveUp : Step Unit := count Tally.abort

end Session
end Reimport
