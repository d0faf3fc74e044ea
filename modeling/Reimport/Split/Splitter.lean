import Reimport.Text.Blank
import Reimport.World

/-!
# Splitters

A splitter says which sources an entry stands for, and writes them to the
entry's working directory if there are several.  A splitter that is a program of
its own reports through its exit status: 0 for several sources, named in its
output, 1 for a single one, 2 for an entry that is no text.  Any other status is
a fault.
-/
namespace Reimport

/-- How entries are split. -/
structure Splitter where
  /-- The sources of an entry, written to the given directory. -/
  split : Entry → Path → Act SplitResult

/-- What the exit status of a splitting program means. -/
inductive SplitStatus where
  /-- The entry holds several sources. -/
  | multiple
  /-- The entry is one source. -/
  | single
  /-- The entry could not be read as text. -/
  | undecodable
  deriving DecidableEq, Repr

namespace SplitStatus

/-- The meaning of an exit status. -/
def ofStatus? (status : Int) : Option SplitStatus :=
  if status = 0 then some .multiple
  else if status = 1 then some .single
  else if status = 2 then some .undecodable
  else none

end SplitStatus

/-- What a splitting program's exit status and output say about an entry. -/
def SplitResult.ofStatus (entry : Entry) (status : Int) (output : Text) :
    Except SplitFault SplitResult :=
  match SplitStatus.ofStatus? status with
  | some .multiple =>
    match Text.words output with
    | [] => .error (.nothingListed entry status output)
    | names => .ok (.multiple (names.map Path.parse))
  | some .single => .ok (.single entry.path)
  | some .undecodable => .ok (.undecodable (Text.strip output))
  | none => .error (.unexpectedStatus entry status output)

end Reimport
