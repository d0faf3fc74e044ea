import Reimport.CommandLine.Word
import Reimport.Path

/-!
# Arguments

A command line names a command, and the words after the command are the
command's own.  The only command checks a corpus.  Words that mean nothing are
collected, those before the command first, and are a misuse once nothing else is
one.  Of several values for one switch the last is taken.
-/
namespace Reimport.CommandLine

/-- The name of the program. -/
def programName : Text := "ast-roundtrip"

/-- The version of the program. -/
def version : Text := "0.1.0"

/-- The line that tells the version. -/
def versionLine : Text := .join [programName, " ", version, "\n"]

/-- What reads a part of a command line: the program, or its command. -/
inductive Level where
  /-- The program. -/
  | program
  /-- The command that checks a corpus. -/
  | check
  deriving DecidableEq, Repr

/-- The name under which a level reports a misuse. -/
def Level.name : Level → Text
  | .program => programName
  | .check => .join [programName, " ", checkCommand]

/-- The switches of the program. -/
inductive ProgramSwitch where
  /-- Explains the command line. -/
  | help
  /-- Tells the version. -/
  | version
  deriving DecidableEq, Repr

/-- The spellings of the program's switches. -/
def ProgramSwitch.spellings : List (Text × ProgramSwitch) :=
  [("-h", .help), ("--help", .help), ("--version", .version)]

/-- The paths that the command can be given. -/
inductive PathSwitch where
  /-- The build directory. -/
  | buildDir
  /-- The root of the source tree. -/
  | repoRoot
  /-- The splitter script. -/
  | splitterScript
  /-- The place of kept scratch directories. -/
  | artifactsDir
  /-- The report. -/
  | jsonReport
  deriving DecidableEq, Repr

/-- The spelling of a switch that takes a path. -/
def PathSwitch.spelling : PathSwitch → Text
  | .buildDir => "--build-dir"
  | .repoRoot => "--repo-root"
  | .splitterScript => "--splitter-script"
  | .artifactsDir => "--artifacts-dir"
  | .jsonReport => "--json-report"

/-- The switches of the command. -/
inductive CheckSwitch where
  /-- Explains the command. -/
  | help
  /-- Halts the run at the first mismatch. -/
  | exitOnError
  /-- Takes a path. -/
  | path (switch : PathSwitch)
  deriving DecidableEq, Repr

/-- The spelling of the switch that halts the run at the first mismatch. -/
def exitOnErrorSpelling : Text := "--exit-on-error"

/-- The spellings of the command's switches. -/
def CheckSwitch.spellings : List (Text × CheckSwitch) :=
  ("-h", .help) :: ("--help", .help) :: (exitOnErrorSpelling, .exitOnError) ::
    [PathSwitch.buildDir, .repoRoot, .splitterScript, .artifactsDir, .jsonReport].map
      fun switch => (switch.spelling, .path switch)

/-- What is said about a level when it is to be explained. -/
def Level.explanation : Level → Text
  | .program =>
    .join ["usage: ", programName, " [-h] [--version] ", checkCommand, " ...\n"]
  | .check =>
    .join ["usage: ", Level.check.name, " [-h] [", exitOnErrorSpelling, "]",
      .join ([PathSwitch.buildDir, .repoRoot, .splitterScript, .artifactsDir, .jsonReport].map
        fun switch => .join [" [", switch.spelling, " PATH]"]), "\n"]

/-- What the command is asked for. -/
structure Arguments where
  /-- Whether the first mismatch is to halt the run. -/
  exitOnError : Bool
  /-- The build directory. -/
  buildDir : Option Path
  /-- The root of the source tree. -/
  repoRoot : Option Path
  /-- The splitter script. -/
  splitterScript : Option Path
  /-- The place of kept scratch directories. -/
  artifactsDir : Option Path
  /-- Where the report is written. -/
  jsonReport : Option Path
  deriving DecidableEq, Repr

namespace Arguments

/-- The command without any switch. -/
def plain : Arguments := ⟨false, none, none, none, none, none⟩

/-- The arguments with one path set, or taken back. -/
def withPath (arguments : Arguments) (switch : PathSwitch) (path : Option Path) : Arguments :=
  match switch with
  | .buildDir => { arguments with buildDir := path }
  | .repoRoot => { arguments with repoRoot := path }
  | .splitterScript => { arguments with splitterScript := path }
  | .artifactsDir => { arguments with artifactsDir := path }
  | .jsonReport => { arguments with jsonReport := path }

end Arguments

/-- What a command line asks for. -/
inductive Reading where
  /-- The check of a corpus. -/
  | check (arguments : Arguments)
  /-- An explanation. -/
  | help (level : Level)
  /-- The version. -/
  | version
  /-- Nothing that can be done. -/
  | misuse (level : Level) (cause : Misuse)
  deriving DecidableEq, Repr

namespace Reading

/-- How the switch that explains is spelled in messages. -/
def helpSpelling : Text := "-h/--help"

/-- What is attached to a word, as a value. -/
def attachedValue? : Attached → Option Text
  | .nothing => none
  | .value value => some value
  | .letters letters => some letters

/-- What is attached to the switch that explains must be its own letter, as often as
one likes. -/
def helpMisuse? (attached : Attached) : Option Misuse :=
  match attachedValue? attached with
  | none => none
  | some [] => some (.valueIgnored helpSpelling [])
  | some letters =>
    match letters.dropWhile (· = 'h') with
    | [] => none
    | rest => some (.valueIgnored helpSpelling rest)

/-- The reading of a switch that explains. -/
def ofHelp (level : Level) (attached : Attached) : Reading :=
  match helpMisuse? attached with
  | some cause => .misuse level cause
  | none => .help level

/-- The path that is attached to a switch.  Two hyphens are no value even there, and
the switch is as good as not given. -/
def attachedPath? (value : Text) : Option Path :=
  if value = Word.hyphens then none else some (Path.parse value)

/-- The reading of the words after the command.  `strays` are the words without a
meaning so far. -/
def ofCheckWords (arguments : Arguments) (strays : List Text) :
    List (Text × Word CheckSwitch) → Reading
  | [] =>
    if strays = [] then .check arguments else .misuse .program (.unrecognized strays)
  | (text, word) :: rest =>
    match word with
    | .operand | .terminator | .unknown => ofCheckWords arguments (strays ++ [text]) rest
    | .switch .help attached => ofHelp .check attached
    | .switch .exitOnError attached =>
      match attachedValue? attached with
      | some value => .misuse .check (.valueIgnored exitOnErrorSpelling value)
      | none => ofCheckWords { arguments with exitOnError := true } strays rest
    | .switch (.path switch) attached =>
      match attachedValue? attached with
      | some value => ofCheckWords (arguments.withPath switch (attachedPath? value)) strays rest
      | none =>
        match rest with
        | (value, .operand) :: more =>
          ofCheckWords (arguments.withPath switch (some (Path.parse value))) strays more
        | _ => .misuse .check (.valueMissing switch.spelling)

/-- The reading of the command's own words. -/
def ofCheck (strays words : List Text) : Reading :=
  match Word.ofTexts CheckSwitch.spellings words with
  | .ok words => ofCheckWords .plain strays words
  | .error cause => .misuse .check cause

/-- The reading of the words up to the command and of all after it. -/
def ofProgramWords (strays : List Text) : List (Text × Word ProgramSwitch) → Reading
  | [] => .misuse .program .commandMissing
  | (text, word) :: rest =>
    match word with
    | .unknown => ofProgramWords (strays ++ [text]) rest
    | .switch .help attached => ofHelp .program attached
    | .switch .version attached =>
      match attachedValue? attached with
      | some value => .misuse .program (.valueIgnored "--version" value)
      | none => .version
    | .terminator =>
      if rest.isEmpty then .misuse .program .commandMissing
      else .misuse .program (.commandUnknown text)
    | .operand =>
      if text = checkCommand then ofCheck strays (rest.map Prod.fst)
      else .misuse .program (.commandUnknown text)

/-- The reading of a command line. -/
def ofTexts (words : List Text) : Reading :=
  match Word.ofTexts ProgramSwitch.spellings words with
  | .ok words => ofProgramWords [] words
  | .error cause => .misuse .program cause

/-- The line that reports a misuse. -/
def misuseLine (level : Level) (cause : Misuse) : Text :=
  .join [level.name, ": error: ", cause.message]

/-- The exit status of a misuse. -/
def misuseStatus : Int := 2

end Reading
end Reimport.CommandLine
