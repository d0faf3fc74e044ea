import Reimport.World

/-!
# Compilers

A compiler can be asked whether it accepts some files, to export their syntax
tree as JSON, and to import exported JSON and export it again.  `Solc` is the
compiler as a program of the machine: every call launches it in the working
directory of the entry under test, and a program that cannot be started counts
as one that failed.
-/
namespace Reimport

/-- A compiler whose export can be put to the test. -/
structure Compiler where
  /-- The command that exports files. -/
  exportCommand : List Path → Command
  /-- The command that imports an export, without the file that holds it. -/
  importCommand : Command
  /-- Whether the compiler accepts files, called in a directory. -/
  accepts : List Path → Path → Act Bool
  /-- Exports files, called in a directory. -/
  exportFiles : List Path → Path → Act Invocation
  /-- Imports an export and exports it again, called in a directory. -/
  reexport : Text → Path → Act Invocation

/-- The name under which the first export is kept in the working directory. -/
def exportedName : Name := "expected.json"

/-- A compiler that is a program of the machine. -/
structure Solc where
  /-- The program. -/
  binary : Path
  /-- The indentation of exported JSON. -/
  indent : Int
  deriving DecidableEq, Repr

namespace Solc

/-- The arguments that fix the form of the exported JSON. -/
def jsonFlags (solc : Solc) : List Text :=
  ["--combined-json", "ast", "--pretty-json", "--json-indent", Text.decimal solc.indent]

/-- The command that exports files. -/
def exportCommand (solc : Solc) (files : List Path) : Command :=
  solc.binary.text :: (solc.jsonFlags ++ files.map Path.text)

/-- The command that imports an export, without the file that holds it. -/
def importCommand (solc : Solc) : Command :=
  solc.binary.text :: "--import-ast" :: solc.jsonFlags

/-- The command that tries the compiler on files. -/
def probeCommand (solc : Solc) (files : List Path) : Command :=
  solc.binary.text :: "--bin" :: files.map Path.text

/-- The command that asks for the version. -/
def versionCommand (solc : Solc) : Command := [solc.binary.text, "--version"]

/-- Launches the compiler and waits for it. -/
def run (machine : Machine) (command : Command) (directory : Option Path) : Act Invocation := do
  return .ofResponse command (← Act.launch machine command directory)

/-- The version the compiler reports; a compiler that reports none cannot be
used. -/
def version (solc : Solc) (machine : Machine) : Act Text := do
  let answer ← run machine solc.versionCommand none
  if answer.success then return Text.strip answer.stdout
  else throw (.abort (.compilerUnavailable solc.binary answer.stderr))

/-- Whether the compiler accepts files. -/
def accepts (solc : Solc) (machine : Machine) (files : List Path) (directory : Path) :
    Act Bool := do
  return (← run machine (solc.probeCommand files) (some directory)).success

/-- Exports files. -/
def exportFiles (solc : Solc) (machine : Machine) (files : List Path) (directory : Path) :
    Act Invocation :=
  run machine (solc.exportCommand files) (some directory)

/-- Imports an export and exports it again.  The export is put into the
directory first, so that the command can be repeated there. -/
def reexport (solc : Solc) (machine : Machine) (exported : Text) (directory : Path) :
    Act Invocation := do
  Act.change fun cwd =>
    FileTree.write cwd .replace (directory.child exportedName) (Utf8.encode exported)
  run machine (solc.importCommand ++ [exportedName]) (some directory)

/-- The compiler as it is used in a run. -/
def compiler (solc : Solc) (machine : Machine) : Compiler where
  exportCommand := solc.exportCommand
  importCommand := solc.importCommand
  accepts := solc.accepts machine
  exportFiles := solc.exportFiles machine
  reexport := solc.reexport machine

end Solc
end Reimport
