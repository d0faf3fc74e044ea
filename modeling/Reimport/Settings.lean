import Reimport.Path

/-!
# Settings

Where the compiler, the splitter and the corpus of a run are, and how the run
goes about them.  A corpus directory that is not absolute belongs to the root of
the source tree, and a compiler that is not named is the one below the build
directory.
-/
namespace Reimport

/-- The settings of a run. -/
structure Settings where
  /-- The root of the source tree. -/
  repoRoot : Path
  /-- The directory in which the compiler was built. -/
  buildDir : Path
  /-- The compiler, if one is named. -/
  compilerPath : Option Path
  /-- The corpus directories. -/
  corpusDirs : List Path
  /-- What the names of corpus files end in. -/
  extension : Text
  /-- The names of files that are left out wherever they appear. -/
  excludedNames : List Name
  /-- The indentation of exported JSON. -/
  jsonIndent : Int
  /-- The script that splits entries, if there is one. -/
  splitterScript : Option Path
  /-- Where the scratch directories of failing entries are kept. -/
  artifactsDir : Option Path
  /-- Whether the first mismatch halts the run. -/
  exitOnError : Bool
  deriving DecidableEq, Repr

namespace Settings

/-- The place of the compiler below a build directory. -/
def compilerBelow (buildDir : Path) : Path := (buildDir.child "solc").child "solc"

/-- The compiler. -/
def compiler (settings : Settings) : Path :=
  settings.compilerPath.getD (compilerBelow settings.buildDir)

/-- The corpus directories, seen from the root of the source tree. -/
def resolvedCorpusDirs (settings : Settings) : List Path :=
  settings.corpusDirs.map settings.repoRoot.under

/-- How entries are split. -/
inductive Splitting where
  /-- By the markers in them. -/
  | byMarkers
  /-- By a script. -/
  | byScript (script : Path)
  deriving DecidableEq, Repr

/-- How entries are split. -/
def splitting (settings : Settings) : Splitting :=
  match settings.splitterScript with
  | some script => .byScript script
  | none => .byMarkers

/-- The settings by the names that they are given under. -/
inductive Field where
  /-- The root of the source tree. -/
  | repoRoot
  /-- The build directory. -/
  | buildDir
  /-- The compiler. -/
  | compilerPath
  /-- The corpus directories. -/
  | corpusDirs
  /-- The extension of corpus files. -/
  | extension
  /-- The excluded names. -/
  | excludedNames
  /-- The indentation of JSON. -/
  | jsonIndent
  /-- The splitter script. -/
  | splitterScript
  /-- The place of kept scratch directories. -/
  | artifactsDir
  /-- Whether the first mismatch halts the run. -/
  | exitOnError
  deriving DecidableEq, Repr

/-- The name that a setting is given under. -/
def Field.name : Field → Text
  | .repoRoot => "repo_root"
  | .buildDir => "build_dir"
  | .compilerPath => "compiler_path"
  | .corpusDirs => "corpus_dirs"
  | .extension => "extension"
  | .excludedNames => "excluded_names"
  | .jsonIndent => "json_indent"
  | .splitterScript => "splitter_script"
  | .artifactsDir => "artifacts_dir"
  | .exitOnError => "exit_on_error"

/-- The name of the directory in which a compiler is built. -/
def buildName : Name := "build"

/-- The corpus directories unless others are given. -/
def defaultCorpusDirs : List Path :=
  [Path.parse "test/libsolidity/syntaxTests", Path.parse "test/libsolidity/ASTJSON"]

/-- What the names of corpus files end in unless something else is given. -/
def defaultExtension : Text := ".sol"

/-- The names of files that are left out unless others are given: the path of this
one is malformed on purpose and cannot make the round trip. -/
def defaultExcludedNames : List Name := ["boost_filesystem_bug.sol"]

/-- The indentation of exported JSON unless another is given. -/
def defaultJsonIndent : Int := 4

end Settings
end Reimport
