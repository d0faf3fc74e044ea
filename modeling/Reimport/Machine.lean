import Reimport.FileTree.Basic

/-!
# Launching programs

The compiler and a splitter script are programs of the machine the run takes
place on.  All that the library knows of them is what a launch does: from the
launches before it, the command with its working directory, and the file tree,
the machine gives the program's response and the tree it leaves behind.  Nothing
else of a program can be seen, and a machine whose programs depend only on their
arguments and files is one whose response ignores the history.
-/
namespace Reimport

/-- An argument vector: a program and what it is called with. -/
abbrev Command := List Text

/-- One attempt to start a program. -/
structure Launch where
  /-- What is started. -/
  command : Command
  /-- The directory it is started in; nothing if it is the caller's own. -/
  directory : Option Path
  deriving DecidableEq, Repr

/-- What comes of starting a program. -/
inductive Response where
  /-- The system could not start it. -/
  | refused (reason : Text)
  /-- It ran to its end. -/
  | finished (status : Int) (stdout stderr : Text)
  deriving DecidableEq, Repr

/-- The programs of a machine. -/
structure Machine where
  /-- The response to a launch after the launches before it, and the tree the
  program leaves behind. -/
  respond : List Launch → Launch → FileTree → Response × FileTree

/-- What a program that was started has left: its exit status and its streams. -/
structure Invocation where
  /-- What was started. -/
  command : Command
  /-- The exit status. -/
  status : Int
  /-- The text of the standard output. -/
  stdout : Text
  /-- The text of the standard error. -/
  stderr : Text
  deriving DecidableEq, Repr

namespace Invocation

/-- Whether the program reported success. -/
def success (invocation : Invocation) : Bool := invocation.status = 0

/-- The status that stands for a program that could not be started. -/
def refusedStatus : Int := 127

/-- A launch as an invocation: a program that could not be started has the status
of one that was not found, and the reason on its standard error. -/
def ofResponse (command : Command) : Response → Invocation
  | .refused reason => ⟨command, refusedStatus, [], reason⟩
  | .finished status stdout stderr => ⟨command, status, stdout, stderr⟩

end Invocation
end Reimport
