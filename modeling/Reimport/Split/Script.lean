import Reimport.Split.Splitter

/-!
# Splitting by a script

A script splits an entry in the entry's working directory.  What it writes to
its standard error is passed on as a warning, whether or not the split succeeds.
-/
namespace Reimport

/-- A script that splits entries. -/
structure SplitScript where
  /-- The script. -/
  script : Path
  /-- The program that runs it. -/
  interpreter : Text
  deriving DecidableEq, Repr

namespace SplitScript

/-- The command that splits an entry. -/
def command (splitter : SplitScript) (entry : Entry) : Command :=
  [splitter.interpreter, splitter.script.text, entry.text]

/-- Runs the script on an entry. -/
def split (splitter : SplitScript) (machine : Machine) (entry : Entry) (workdir : Path) :
    Act SplitResult := do
  match ← Act.launch machine (splitter.command entry) (some workdir) with
  | .refused reason => throw (.abort (.splitter (.notStarted splitter.script reason)))
  | .finished status stdout stderr =>
    if stderr ≠ [] then
      Act.emit (Console.loggedVerbatim .warning (Text.stripRight stderr))
    match SplitResult.ofStatus entry status stdout with
    | .ok result => return result
    | .error fault => throw (.abort (.splitter fault))

/-- The splitter that runs the script. -/
def splitter (script : SplitScript) (machine : Machine) : Splitter := ⟨script.split machine⟩

end SplitScript
end Reimport
