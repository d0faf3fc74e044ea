import Reimport.Settings.Search

/-!
# Loading settings

A setting comes from the first of its sources that has it: the command line, then
the environment, then the settings table of the project, then the default.  A
lower source is not even looked at for a setting that a higher one has.  The root
of the source tree comes first, because a relative path in the table is anchored
there; the root itself, if the table gives it, is anchored at the directory of
the project file.
-/
namespace Reimport.Settings

/-- What the command line has to say about settings. -/
structure Overrides where
  /-- The root of the source tree. -/
  repoRoot : Option Path
  /-- The build directory. -/
  buildDir : Option Path
  /-- The splitter script. -/
  splitterScript : Option Path
  /-- The place of kept scratch directories. -/
  artifactsDir : Option Path
  /-- Whether the first mismatch halts the run. -/
  exitOnError : Option Bool
  deriving DecidableEq, Repr

/-- Variables with their values. -/
abbrev Environment := List (Text × Text)

/-- The variable that names the build directory. -/
def buildDirVariable : Text := "SOLIDITY_BUILD_DIR"

/-- The build directory that the environment names; an empty value names none. -/
def Environment.buildDir? (environment : Environment) : Option Path :=
  match environment.lookup buildDirVariable with
  | none | some [] => none
  | some value => some (Path.parse value)

/-! ## Asking the settings table -/

/-- What the table gives a setting. -/
def valueIn (table : Toml.Value) (field : Field) : Except Error (Option Toml.Value) :=
  match table with
  | .table entries => .ok (Toml.Table.get? entries field.name)
  | _ => .error .settingsNotTable

/-- What the table gives a setting if it mentions the setting at all.  A text or an
array in place of the table can mention a name and has nothing under it. -/
def mentionIn (table : Toml.Value) (field : Field) : Except Error (Option Toml.Value) :=
  match table with
  | .table entries => .ok (Toml.Table.get? entries field.name)
  | .text words =>
    if Text.occursIn field.name words then .error .settingsNotSearchable else .ok none
  | .array items =>
    if mentions field.name items then .error .settingsNotSearchable else .ok none
  | _ => .error .settingsNotSearchable

/-- The absolute path without links that a path leads to. -/
def resolve (tree : FileTree) (cwd : Place) (path : Path) : Except Error Path :=
  match tree.canonical cwd path with
  | .ok path => .ok path
  | .error error => .error (.file error)

/-- The path that the table gives a setting.  An absolute one is kept as it is, and
any other is resolved from `anchor` on. -/
def pathIn (tree : FileTree) (cwd : Place) (table : Toml.Value) (field : Field) (anchor : Path) :
    Except Error (Option Path) := do
  match ← valueIn table field with
  | none => return none
  | some (.text words) =>
    let path := Path.parse words
    if path.isAbsolute then return some path
    else return some (← resolve tree cwd (anchor.under path))
  | some _ => throw (.pathNotText field)

/-- Whether a value counts as yes: an empty text, array or table, a zero and `false`
do not. -/
def countsAsYes : Toml.Value → Bool
  | .text words => words ≠ []
  | .integer value => value ≠ 0
  | .real value => !value.isZero
  | .boolean value => value
  | .moment _ => true
  | .array items => !items.isEmpty
  | .table entries => !entries.isEmpty

/-! ## Loading -/

/-- The first of two sources that has a setting; the second is asked only if the
first has none. -/
def orElse {α : Type} (first : Option α) (second : Except Error α) : Except Error α :=
  match first with
  | some value => .ok value
  | none => second

/-- The first of two sources that has a setting, if either has it. -/
def orAsk {α : Type} (first : Option α) (second : Except Error (Option α)) :
    Except Error (Option α) :=
  match first with
  | some value => .ok (some value)
  | none => second

/-- The table and the directory that relative settings start from. -/
structure Base where
  /-- The settings table, empty if there is none. -/
  table : Toml.Value
  /-- The directory of its project file, or else the one where the search began. -/
  directory : Path
  deriving Repr

/-- The base of the settings for a search that begins at a directory. -/
def base (tree : FileTree) (cwd : Place) (searchFrom : Option Path) : Except Error Base := do
  let start ← resolve tree cwd (searchFrom.getD (Path.ofPlace cwd))
  match ← search tree cwd start with
  | some found => return ⟨found.table, found.directory⟩
  | none => return ⟨.table [], start⟩

/-- The root of the source tree. -/
def loadRoot (tree : FileTree) (cwd : Place) (overrides : Overrides) (base : Base) :
    Except Error Path := do
  let stated ← orElse overrides.repoRoot do
    return (← pathIn tree cwd base.table .repoRoot base.directory).getD base.directory
  resolve tree cwd stated

/-- The build directory. -/
def loadBuildDir (tree : FileTree) (cwd : Place) (overrides : Overrides)
    (environment : Environment) (base : Base) (root : Path) : Except Error Path :=
  orElse (overrides.buildDir <|> environment.buildDir?) do
    return (← pathIn tree cwd base.table .buildDir root).getD (root.child buildName)

/-- What the sources give the settings.  The paths among them are final, and the
other values are as they are stated. -/
def proposal (tree : FileTree) (cwd : Place) (overrides : Overrides) (environment : Environment)
    (base : Base) : Except Error Proposal := do
  let root ← loadRoot tree cwd overrides base
  let buildDir ← loadBuildDir tree cwd overrides environment base root
  let splitterScript ←
    orAsk overrides.splitterScript (pathIn tree cwd base.table .splitterScript root)
  let artifactsDir ←
    orAsk overrides.artifactsDir (pathIn tree cwd base.table .artifactsDir root)
  let exitOnError ← orElse overrides.exitOnError do
    return (← valueIn base.table .exitOnError).any countsAsYes
  let corpusDirs ← mentionIn base.table .corpusDirs
  let extension ← mentionIn base.table .extension
  let excludedNames ← mentionIn base.table .excludedNames
  let jsonIndent ← mentionIn base.table .jsonIndent
  let compilerPath ← pathIn tree cwd base.table .compilerPath root
  let optionalPath (path : Option Path) : Given := path.elim .nothing .path
  return {
    repoRoot := some (.path root)
    buildDir := some (.path buildDir)
    compilerPath := some (optionalPath compilerPath)
    corpusDirs := corpusDirs.map Given.ofValue
    extension := extension.map Given.ofValue
    excludedNames := excludedNames.map Given.ofValue
    jsonIndent := jsonIndent.map Given.ofValue
    splitterScript := some (optionalPath splitterScript)
    artifactsDir := some (optionalPath artifactsDir)
    exitOnError := some (.boolean exitOnError) }

/-- The settings of a proposal. -/
def accept (proposal : Proposal) (cwd : Path) : Except Error Settings :=
  match proposal.check cwd with
  | .ok settings => .ok settings
  | .error faults => .error (.invalid faults)

/-- Loads settings. -/
def load (tree : FileTree) (cwd : Place) (overrides : Overrides) (environment : Environment)
    (searchFrom : Option Path) : Except Error Settings := do
  let base ← base tree cwd searchFrom
  let proposal ← proposal tree cwd overrides environment base
  accept proposal (Path.ofPlace cwd)

end Reimport.Settings
