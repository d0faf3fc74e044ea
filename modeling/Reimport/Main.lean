import Reimport.CommandLine.Check

/-!
# The program

Reads the command line, does what it asks for and prints the result.  The program
stands on a bare host: it knows no files but an empty root directory, and every
launch is refused, so that a check ends with the report that the compiler is not
available.
-/
namespace Reimport.CommandLine

/-- A machine on which no program can be launched. -/
def bareMachine : Machine := ⟨fun _ _ tree => (.refused "no program can be launched", tree)⟩

/-- A host without programs, with the variables of the environment. -/
def bareHost (environment : Settings.Environment) : Host :=
  ⟨bareMachine, [], Path.ofPlace [], environment⟩

/-- A world with an empty root directory. -/
def bareWorld : World := ⟨FileTree.empty, [], [], []⟩

/-- What a program leaves: its exit status and its streams. -/
structure Ending where
  /-- The exit status. -/
  status : Int
  /-- The text of the standard output. -/
  stdout : Text
  /-- The text of the standard error. -/
  stderr : Text
  deriving DecidableEq, Repr

/-- The wording of a mishap. -/
def Mishap.message : Mishap → Text
  | .settings error => error.message
  | .work failure => failure.message

/-- The ending of a check. -/
def Ending.ofCheck : EStateM.Result Mishap Session Int → Ending
  | .ok status session => ⟨status, session.stdout, session.world.stderr⟩
  | .error mishap session =>
    ⟨1, session.stdout, session.world.stderr ++ mishap.message ++ ['\n']⟩

/-- The ending of a command line in a given world. -/
def Ending.ofTexts (host : Host) (world : World) (words : List Text) : Ending :=
  match Reading.ofTexts words with
  | .check arguments => .ofCheck (check host arguments world)
  | .help level => ⟨0, level.explanation, []⟩
  | .version => ⟨0, versionLine, []⟩
  | .misuse level cause =>
    ⟨Reading.misuseStatus, [], level.explanation ++ Reading.misuseLine level cause ++ ['\n']⟩

end Reimport.CommandLine

open Reimport in
/-- The program. -/
def main (words : List String) : IO UInt32 := do
  let buildDir ← IO.getEnv (String.ofList Settings.buildDirVariable)
  let environment : Settings.Environment :=
    (buildDir.map fun value => (Settings.buildDirVariable, value.toList)).toList
  let ending := CommandLine.Ending.ofTexts (CommandLine.bareHost environment)
    CommandLine.bareWorld (words.map String.toList)
  IO.print (String.ofList ending.stdout)
  IO.eprint (String.ofList ending.stderr)
  return UInt32.ofNat ending.status.toNat
