import Reimport.FileTree.Error
import Reimport.Outcome
import Reimport.Text.Markup

/-!
# Failures

What ends a run before its corpus is exhausted.  An `Abort` is a finding about
the tools, the splitter or the compiler, after which no result can be trusted;
every other failure is a mishap in the work itself, a file that cannot be
written or a message that cannot be shown.
-/
namespace Reimport

/-- What can be wrong with the splitting of an entry. -/
inductive SplitFault where
  /-- The splitter's exit status has no meaning. -/
  | unexpectedStatus (entry : Entry) (status : Int) (output : Text)
  /-- The splitter reports several sources and names none. -/
  | nothingListed (entry : Entry) (status : Int) (output : Text)
  /-- A source's name leads to no place inside the working directory. -/
  | invalidName (entry : Entry) (name : Text)
  /-- The splitter could not be started. -/
  | notStarted (script : Path) (reason : Text)
  /-- A splitter gave up for a reason of its own. -/
  | reported (message : Text) (status : Option Int) (output : Text)
  deriving DecidableEq, Repr

namespace SplitFault

/-- The wording of a fault. -/
def message : SplitFault → Text
  | .unexpectedStatus entry status _ =>
    .join ["Got unexpected return code ", Text.decimal status, " from splitter for ", entry.text,
      ". Aborting."]
  | .nothingListed entry _ _ =>
    .join ["Splitter reported multiple sources for ", entry.text, " but listed none."]
  | .invalidName entry name => .join ["Invalid source name '", name, "' in ", entry.text, "."]
  | .notStarted script reason => .join ["Could not run splitter ", script.text, ": ", reason]
  | .reported message _ _ => message

/-- The exit status of the splitter, where there is one. -/
def status? : SplitFault → Option Int
  | .unexpectedStatus _ status _ => some status
  | .nothingListed _ status _ => some status
  | .reported _ status _ => status
  | .invalidName _ _ | .notStarted _ _ => none

/-- What the splitter printed. -/
def output : SplitFault → Text
  | .unexpectedStatus _ _ output => output
  | .nothingListed _ _ output => output
  | .reported _ _ output => output
  | .invalidName _ _ | .notStarted _ _ => []

end SplitFault

/-- A finding about the tools that no run may go on after. -/
inductive Abort where
  /-- An entry could not be split. -/
  | splitter (fault : SplitFault)
  /-- The compiler cannot be used at all. -/
  | compilerUnavailable (binary : Path) (stderr : Text)
  /-- An export failed. -/
  | exportFailed (breakdown : Breakdown)
  /-- An import failed. -/
  | importFailed (breakdown : Breakdown)
  deriving DecidableEq, Repr

/-- The wording of an abort. -/
def Abort.message : Abort → Text
  | .splitter fault => fault.message
  | .compilerUnavailable binary stderr =>
    .join ["Command ", binary.text, " --version not available or failed:\n", stderr]
  | .exportFailed breakdown =>
    .join ["AST export failed for input file ", breakdown.entry.text, "."]
  | .importFailed breakdown =>
    .join ["AST import failed for input file ", breakdown.entry.text, "."]

/-- What ends a piece of work. -/
inductive Failure where
  /-- A finding about the tools. -/
  | abort (cause : Abort)
  /-- A file cannot be used as it has to be. -/
  | file (error : FileError)
  /-- A message cannot be shown. -/
  | markup (fault : Markup.Fault)
  /-- A path pattern has a double star inside a component. -/
  | pattern
  /-- What a splitter answered cannot be told. -/
  | unknownSplit
  /-- What was to be recorded is no outcome but a value of this kind. -/
  | unknownOutcome (kind : Text)
  /-- No compiler was named. -/
  | noCompiler
  deriving DecidableEq, Repr

namespace Failure

/-- The wording of a failure. -/
def message : Failure → Text
  | .abort cause => cause.message
  | .file error => error.message
  | .markup fault => fault.message
  | .pattern => "Invalid pattern: '**' can only be an entire path component"
  | .unknownSplit => "Unknown split result: SplitResult"
  | .unknownOutcome kind => .join ["Unknown outcome type: ", kind]
  | .noCompiler => "Either a compiler path or a CompilerInvoker is required"

/-- Whether a failure is a finding about the tools. -/
def isAbort : Failure → Bool
  | .abort _ => true
  | _ => false

end Failure
end Reimport
