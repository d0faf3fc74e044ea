import Reimport.Console
import Reimport.Failure
import Reimport.FileTree.Files

/-!
# The world of a run

What one step of a run can see and change: the file tree, the log of launched
programs, and the diagnostics on the standard error.  An action keeps the world
it has reached also when it fails, so a launch that was logged stays logged and
a file that was written stays written.
-/
namespace Reimport

/-- What a step of a run can see and change. -/
structure World where
  /-- The files. -/
  tree : FileTree
  /-- The working directory of the run itself. -/
  cwd : Place
  /-- The programs launched so far, in order. -/
  launches : List Launch
  /-- What was printed on the standard error. -/
  stderr : Text
  deriving DecidableEq, Repr

/-- A step of a run: it changes the world and gives a value or fails. -/
abbrev Act := EStateM Failure World

namespace Act

/-- The answer to a question about the files. -/
def ask {α : Type} (question : FileTree → Place → Except FileError α) : Act α := fun world =>
  match question world.tree world.cwd with
  | .ok answer => .ok answer world
  | .error error => .error (.file error) world

/-- A change of the files. -/
def change {α : Type} (change : Place → FileTree.Change α) : Act α := fun world =>
  match change world.cwd world.tree with
  | .ok value tree => .ok value { world with tree := tree }
  | .error error tree => .error (.file error) { world with tree := tree }

/-- Launches a program and logs the launch. -/
def launch (machine : Machine) (command : Command) (directory : Option Path) : Act Response :=
  fun world =>
    let attempt : Launch := ⟨command, directory⟩
    let (response, tree) := machine.respond world.launches attempt world.tree
    .ok response { world with tree := tree, launches := world.launches ++ [attempt] }

/-- Adds to the standard error. -/
def emit (text : Text) : Act Unit := fun world =>
  .ok () { world with stderr := world.stderr ++ text }

/-- Prints a styled line on the standard error. -/
def complain (message : Text) : Act Unit :=
  match Console.styled message Console.newline with
  | .ok text => emit text
  | .error fault => throw (.markup fault)

/-- Prints a text as it is on the standard error. -/
def complainVerbatim (text ending : Text) : Act Unit := emit (Console.verbatim text ending)

/-- Logs a styled message. -/
def log (level : Console.Level) (message : Text) : Act Unit :=
  match Console.logged level message with
  | .ok text => emit text
  | .error fault => throw (.markup fault)

end Act
end Reimport
