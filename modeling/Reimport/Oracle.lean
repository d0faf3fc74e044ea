import Reimport.Settings
import Reimport.Walk

/-!
# The oracle

A whole run from corpus directories to final counters: the entries are
discovered, and each is walked through with the compiler under test.  The
compiler is one that is given or the program at a given path; the splitter is
the one that goes by markers unless another is given.
-/
namespace Reimport

/-- What is asked of a run. -/
structure Request where
  /-- The corpus directories. -/
  roots : List Path
  /-- The compiler's program, used if no compiler is given. -/
  binary : Option Path
  /-- The compiler, if one is given. -/
  compiler : Option Compiler
  /-- The splitter, if one is given. -/
  splitter : Option Splitter
  /-- What the names of corpus files end in. -/
  extension : Text
  /-- The names of files that are left out wherever they appear. -/
  excluded : List Name
  /-- Whether the first mismatch halts the run. -/
  exitOnFirstFailure : Bool

namespace Oracle

/-- The compiler of a request. -/
def compilerOf (machine : Machine) (request : Request) : Except Failure Compiler :=
  match request.compiler, request.binary with
  | some compiler, _ => .ok compiler
  | none, some binary => .ok (Solc.compiler ⟨binary, Settings.defaultJsonIndent⟩ machine)
  | none, none => .error .noCompiler

/-- Makes a run. -/
def run (machine : Machine) (scratchParent : Path) (request : Request) : Step Statistics :=
  match compilerOf machine request with
  | .error failure => throw failure
  | .ok compiler => do
    Session.count fun _ => .ofStatistics (.fresh request.exitOnFirstFailure)
    let corpus ← Session.act (Corpus.discover request.roots request.extension request.excluded)
    let walk : Walk :=
      ⟨request.splitter.getD MarkerSplit.splitter, compiler, none, scratchParent⟩
    walk.run corpus request.extension

end Oracle
end Reimport
