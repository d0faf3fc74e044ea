import Mathlib
import Reimport.CommandLine.Check
import Reimport.Proofs.Path
import Reimport.Proofs.Results

/-!
# Which programs settings pin down

The compiler is asked for its version from the directory of the caller and does its
work in scratch directories, and a splitter script only ever runs in these.  A path
that is absolute leads to one file from everywhere, so what matters is which of the
two paths are absolute.  A path from the settings table always is, and so is the
default; a build directory that the command line or the environment names, and a
script that the command line names, are kept as they were given.
-/
namespace Reimport

/-- The file that words name in a directory. -/
def fileNamed (tree : FileTree) (here : Place) (words : Text) : Except FileError Place :=
  tree.placeOf here true (Path.parse words)

/-- The file that is started by a command in a directory. -/
def programOf (tree : FileTree) (here : Place) (command : Command) : Except FileError Place :=
  fileNamed tree here (command.headD [])

/-- An absolute path leads to one file, wherever it is read. -/
theorem fileNamed_of_isAbsolute {path : Path} (h : path.isAbsolute = true) (tree : FileTree)
    (here there : Place) : fileNamed tree here path.text = fileNamed tree there path.text := by
  rw [fileNamed, fileNamed, FileTree.placeOf, FileTree.placeOf,
    if_pos (Path.isAbsolute_parse_text h), if_pos (Path.isAbsolute_parse_text h)]

namespace Settings
variable {tree : FileTree} {cwd : Place} {overrides : Overrides} {environment : Environment}
  {searchFrom : Option Path} {settings : Settings}

/-- The build directory that the command line or the environment names. -/
def namedBuildDir? (overrides : Overrides) (environment : Environment) : Option Path :=
  overrides.buildDir <|> environment.buildDir?

/-- The settings table names a compiler. -/
def NamesCompiler (tree : FileTree) (cwd : Place) (searchFrom : Option Path) : Prop :=
  ∃ found value, base tree cwd searchFrom = .ok found ∧
    valueIn found.table .compilerPath = .ok (some value)

theorem resolve_isAbsolute {path resolved : Path} (h : resolve tree cwd path = .ok resolved) :
    resolved.isAbsolute = true := by
  rw [resolve, FileTree.canonical] at h
  cases hp : tree.canonicalPlace cwd path with
  | error e =>
    rw [hp] at h
    cases h
  | ok place =>
    rw [hp] at h
    cases h
    rfl

/-- A path from the table is absolute, and it is there iff the table has a value for it. -/
theorem pathIn_cases {table : Toml.Value} {field : Field} {anchor : Path} {stated : Option Path}
    (h : pathIn tree cwd table field anchor = .ok stated) :
    valueIn table field = .ok none ∧ stated = none ∨
      ∃ value path, valueIn table field = .ok (some value) ∧ stated = some path ∧
        path.isAbsolute = true := by
  obtain ⟨value, hv, h⟩ := except_bind_ok.1 h
  cases value with
  | none =>
    cases h
    exact .inl ⟨hv, rfl⟩
  | some value =>
    refine .inr ⟨value, ?_⟩
    cases value with
    | text words =>
      dsimp only at h
      split at h
      · rename_i habs
        cases h
        exact ⟨_, hv, rfl, habs⟩
      · obtain ⟨path, hr, h⟩ := except_bind_ok.1 h
        cases h
        exact ⟨_, hv, rfl, resolve_isAbsolute hr⟩
    | _ => exact nomatch h

theorem loadRoot_isAbsolute {found : Base} {root : Path}
    (h : loadRoot tree cwd overrides found = .ok root) : root.isAbsolute = true := by
  obtain ⟨stated, -, h⟩ := except_bind_ok.1 h
  exact resolve_isAbsolute h

theorem loadBuildDir_isAbsolute {found : Base} {root dir : Path} (habs : root.isAbsolute = true)
    (h : loadBuildDir tree cwd overrides environment found root = .ok dir) :
    dir.isAbsolute = true ↔
      ∀ named, namedBuildDir? overrides environment = some named → named.isAbsolute = true := by
  rw [loadBuildDir] at h
  change orElse (namedBuildDir? overrides environment) _ = _ at h
  cases hn : namedBuildDir? overrides environment with
  | some named =>
    rw [hn] at h
    cases h
    simp
  | none =>
    rw [hn] at h
    obtain ⟨stated, hp, h⟩ := except_bind_ok.1 h
    cases h
    rcases pathIn_cases hp with ⟨-, rfl⟩ | ⟨_, path, -, rfl, hpath⟩
    -- The default lies below the root, which is absolute.
    · simp only [reduceCtorEq, false_implies, implies_true, iff_true]
      exact habs
    · simpa using hpath

/-! ## What settings are made of -/

/-- A proposal is made of the answers to the questions that are asked for it, and `root` is the
answer to the first. -/
structure Gathers (tree : FileTree) (cwd : Place) (overrides : Overrides)
    (environment : Environment) (found : Base) (proposed : Proposal) (root : Path) : Prop where
  repoRoot : loadRoot tree cwd overrides found = .ok root ∧ proposed.repoRoot = some (.path root)
  buildDir : ∃ dir, loadBuildDir tree cwd overrides environment found root = .ok dir ∧
    proposed.buildDir = some (.path dir)
  compilerPath : ∃ compiler, pathIn tree cwd found.table .compilerPath root = .ok compiler ∧
    proposed.compilerPath = some (compiler.elim .nothing .path)
  splitterScript : ∃ script,
    orAsk overrides.splitterScript (pathIn tree cwd found.table .splitterScript root) =
      .ok script ∧ proposed.splitterScript = some (script.elim .nothing .path)
  artifactsDir : ∃ artifacts,
    orAsk overrides.artifactsDir (pathIn tree cwd found.table .artifactsDir root) =
      .ok artifacts ∧ proposed.artifactsDir = some (artifacts.elim .nothing .path)
  exitOnError : ∃ halting,
    orElse overrides.exitOnError
      (do return (← valueIn found.table .exitOnError).any countsAsYes) = .ok halting ∧
    proposed.exitOnError = some (.boolean halting)
  corpusDirs : ∃ given, mentionIn found.table .corpusDirs = .ok given ∧
    proposed.corpusDirs = given.map Given.ofValue
  extension : ∃ given, mentionIn found.table .extension = .ok given ∧
    proposed.extension = given.map Given.ofValue
  excludedNames : ∃ given, mentionIn found.table .excludedNames = .ok given ∧
    proposed.excludedNames = given.map Given.ofValue
  jsonIndent : ∃ given, mentionIn found.table .jsonIndent = .ok given ∧
    proposed.jsonIndent = given.map Given.ofValue

theorem gathers_of_proposal {found : Base} {proposed : Proposal}
    (h : proposal tree cwd overrides environment found = .ok proposed) :
    ∃ root, Gathers tree cwd overrides environment found proposed root := by
  rw [proposal] at h
  obtain ⟨root, hroot, h⟩ := except_bind_ok.1 h
  obtain ⟨dir, hdir, h⟩ := except_bind_ok.1 h
  obtain ⟨script, hscript, h⟩ := except_bind_ok.1 h
  obtain ⟨artifacts, hartifacts, h⟩ := except_bind_ok.1 h
  obtain ⟨halting, hhalting, h⟩ := except_bind_ok.1 h
  obtain ⟨corpusDirs, hcorpus, h⟩ := except_bind_ok.1 h
  obtain ⟨extension, hextension, h⟩ := except_bind_ok.1 h
  obtain ⟨excludedNames, hexcluded, h⟩ := except_bind_ok.1 h
  obtain ⟨jsonIndent, hindent, h⟩ := except_bind_ok.1 h
  obtain ⟨compiler, hcompiler, h⟩ := except_bind_ok.1 h
  cases h
  exact ⟨root, {
    repoRoot := ⟨hroot, rfl⟩
    buildDir := ⟨dir, hdir, rfl⟩
    compilerPath := ⟨compiler, hcompiler, rfl⟩
    splitterScript := ⟨script, hscript, rfl⟩
    artifactsDir := ⟨artifacts, hartifacts, rfl⟩
    exitOnError := ⟨halting, hhalting, rfl⟩
    corpusDirs := ⟨corpusDirs, hcorpus, rfl⟩
    extension := ⟨extension, hextension, rfl⟩
    excludedNames := ⟨excludedNames, hexcluded, rfl⟩
    jsonIndent := ⟨jsonIndent, hindent, rfl⟩ }⟩

/-- Settings that are accepted are what they were proposed to be. -/
structure Accepts (proposal : Proposal) (default : Path) (settings : Settings) : Prop where
  repoRoot : check .repoRoot Given.toPath default proposal.repoRoot = .ok settings.repoRoot
  buildDir : check .buildDir Given.toPath ⟨.none, [buildName]⟩ proposal.buildDir =
    .ok settings.buildDir
  compilerPath : check .compilerPath Given.toOptionalPath none proposal.compilerPath =
    .ok settings.compilerPath
  splitterScript : check .splitterScript Given.toOptionalPath none proposal.splitterScript =
    .ok settings.splitterScript
  artifactsDir : check .artifactsDir Given.toOptionalPath none proposal.artifactsDir =
    .ok settings.artifactsDir
  exitOnError : check .exitOnError Given.toFlag false proposal.exitOnError =
    .ok settings.exitOnError
  corpusDirs : checkList .corpusDirs Given.toPath defaultCorpusDirs proposal.corpusDirs =
    .ok settings.corpusDirs
  extension : check .extension Given.toExtension defaultExtension proposal.extension =
    .ok settings.extension
  excludedNames : checkList .excludedNames Given.toText defaultExcludedNames
    proposal.excludedNames = .ok settings.excludedNames
  jsonIndent : check .jsonIndent Given.toIndent defaultJsonIndent proposal.jsonIndent =
    .ok settings.jsonIndent

theorem accepts_of_check {proposal : Proposal} {default : Path}
    (h : proposal.check default = .ok settings) : Accepts proposal default settings := by
  rw [Proposal.check] at h
  split at h
  · cases h
    constructor <;> assumption
  · cases h

theorem check_optionalPath {field : Field} {path stated : Option Path}
    (h : check field Given.toOptionalPath none (some (path.elim .nothing .path)) = .ok stated) :
    stated = path := by
  cases path with
  | none => exact (Except.ok.inj h).symm
  | some path => exact (Except.ok.inj h).symm

/-- Loaded settings are the answers to the questions that are asked for them. -/
structure Loaded (tree : FileTree) (cwd : Place) (overrides : Overrides)
    (environment : Environment) (found : Base) (settings : Settings) : Prop where
  repoRoot : loadRoot tree cwd overrides found = .ok settings.repoRoot
  buildDir : loadBuildDir tree cwd overrides environment found settings.repoRoot =
    .ok settings.buildDir
  compilerPath : pathIn tree cwd found.table .compilerPath settings.repoRoot =
    .ok settings.compilerPath
  splitterScript : orAsk overrides.splitterScript
    (pathIn tree cwd found.table .splitterScript settings.repoRoot) = .ok settings.splitterScript
  artifactsDir : orAsk overrides.artifactsDir
    (pathIn tree cwd found.table .artifactsDir settings.repoRoot) = .ok settings.artifactsDir
  exitOnError : orElse overrides.exitOnError
    (do return (← valueIn found.table .exitOnError).any countsAsYes) = .ok settings.exitOnError
  corpusDirs : ∃ given, mentionIn found.table .corpusDirs = .ok given ∧
    checkList .corpusDirs Given.toPath defaultCorpusDirs (given.map Given.ofValue) =
      .ok settings.corpusDirs
  extension : ∃ given, mentionIn found.table .extension = .ok given ∧
    check .extension Given.toExtension defaultExtension (given.map Given.ofValue) =
      .ok settings.extension
  excludedNames : ∃ given, mentionIn found.table .excludedNames = .ok given ∧
    checkList .excludedNames Given.toText defaultExcludedNames (given.map Given.ofValue) =
      .ok settings.excludedNames
  jsonIndent : ∃ given, mentionIn found.table .jsonIndent = .ok given ∧
    check .jsonIndent Given.toIndent defaultJsonIndent (given.map Given.ofValue) =
      .ok settings.jsonIndent

/-- **What was gathered and accepted is what was asked for.** -/
theorem Gathers.loaded {found : Base} {proposed : Proposal} {root default : Path}
    (gathers : Gathers tree cwd overrides environment found proposed root)
    (accepts : Accepts proposed default settings) :
    Loaded tree cwd overrides environment found settings := by
  obtain ⟨hroot, eroot⟩ := gathers.repoRoot
  obtain rfl : root = settings.repoRoot := Except.ok.inj (eroot ▸ accepts.repoRoot)
  constructor
  case repoRoot => exact hroot
  case buildDir =>
    obtain ⟨dir, hdir, proposed_dir⟩ := gathers.buildDir
    obtain rfl : dir = settings.buildDir := Except.ok.inj (proposed_dir ▸ accepts.buildDir)
    exact hdir
  case compilerPath =>
    obtain ⟨compiler, hcompiler, given⟩ := gathers.compilerPath
    have accepted := accepts.compilerPath
    rw [given] at accepted
    rwa [check_optionalPath accepted]
  case splitterScript =>
    obtain ⟨script, hscript, given⟩ := gathers.splitterScript
    have accepted := accepts.splitterScript
    rw [given] at accepted
    rwa [check_optionalPath accepted]
  case artifactsDir =>
    obtain ⟨artifacts, hartifacts, given⟩ := gathers.artifactsDir
    have accepted := accepts.artifactsDir
    rw [given] at accepted
    rwa [check_optionalPath accepted]
  case exitOnError =>
    obtain ⟨halting, hhalting, given⟩ := gathers.exitOnError
    obtain rfl : halting = settings.exitOnError := Except.ok.inj (given ▸ accepts.exitOnError)
    exact hhalting
  case corpusDirs =>
    obtain ⟨given, mentioned, proposed_dirs⟩ := gathers.corpusDirs
    exact ⟨given, mentioned, proposed_dirs ▸ accepts.corpusDirs⟩
  case extension =>
    obtain ⟨given, mentioned, proposed_extension⟩ := gathers.extension
    exact ⟨given, mentioned, proposed_extension ▸ accepts.extension⟩
  case excludedNames =>
    obtain ⟨given, mentioned, proposed_names⟩ := gathers.excludedNames
    exact ⟨given, mentioned, proposed_names ▸ accepts.excludedNames⟩
  case jsonIndent =>
    obtain ⟨given, mentioned, proposed_indent⟩ := gathers.jsonIndent
    exact ⟨given, mentioned, proposed_indent ▸ accepts.jsonIndent⟩

theorem loaded_of_load (h : load tree cwd overrides environment searchFrom = .ok settings) :
    ∃ found, base tree cwd searchFrom = .ok found ∧
      Loaded tree cwd overrides environment found settings := by
  obtain ⟨found, hb, h⟩ := except_bind_ok.1 h
  obtain ⟨proposed, hp, h⟩ := except_bind_ok.1 h
  obtain ⟨root, gathers⟩ := gathers_of_proposal hp
  rw [accept] at h
  split at h
  · rename_i hc
    cases h
    exact ⟨found, hb, gathers.loaded (accepts_of_check hc)⟩
  · cases h

/-! ## Which of the programs are absolute -/

theorem compilerBelow_isAbsolute (dir : Path) :
    (compilerBelow dir).isAbsolute = dir.isAbsolute := rfl

/-- The compiler is absolute iff the settings table names one, or no relative build
directory is named. -/
theorem compiler_isAbsolute_iff
    (h : load tree cwd overrides environment searchFrom = .ok settings) :
    settings.compiler.isAbsolute = true ↔
      NamesCompiler tree cwd searchFrom ∨
        ∀ named, namedBuildDir? overrides environment = some named → named.isAbsolute = true := by
  obtain ⟨found, hb, loaded⟩ := loaded_of_load h
  rcases pathIn_cases loaded.compilerPath with ⟨hv, hnone⟩ | ⟨value, path, hv, hsome, habs⟩
  -- The compiler is looked for below the build directory.
  · have silent : ¬ NamesCompiler tree cwd searchFrom := by
      rintro ⟨found', value, hb', hv'⟩
      rw [hb] at hb'
      cases hb'
      rw [hv] at hv'
      cases hv'
    rw [compiler, hnone, Option.getD_none, compilerBelow_isAbsolute,
      loadBuildDir_isAbsolute (loadRoot_isAbsolute loaded.repoRoot) loaded.buildDir]
    exact ⟨.inr, fun hor => hor.resolve_left silent⟩
  · rw [compiler, hsome, Option.getD_some]
    exact ⟨fun _ => .inl ⟨found, value, hb, hv⟩, fun _ => habs⟩

/-- The splitter script is absolute iff the command line does not name a relative one. -/
theorem splitterScript_isAbsolute_iff
    (h : load tree cwd overrides environment searchFrom = .ok settings) :
    (∀ script, settings.splitterScript = some script → script.isAbsolute = true) ↔
      ∀ named, overrides.splitterScript = some named → named.isAbsolute = true := by
  obtain ⟨found, -, loaded⟩ := loaded_of_load h
  have hscript := loaded.splitterScript
  cases hn : overrides.splitterScript with
  | some named =>
    rw [hn] at hscript
    rw [← (Except.ok.inj hscript : some named = _)]
  | none =>
    rw [hn] at hscript
    have stated : pathIn tree cwd found.table .splitterScript settings.repoRoot =
      .ok settings.splitterScript := hscript
    refine ⟨fun _ _ h => (nomatch h), fun _ script hs => ?_⟩
    rcases pathIn_cases stated with ⟨-, hnone⟩ | ⟨_, path, -, hsome, habs⟩
    · rw [hnone] at hs
      cases hs
    · rw [hsome] at hs
      cases hs
      exact habs

/-- The commands with which a compiler does its work on some files. -/
def workCommands (solc : Solc) (files : List Path) : List Command :=
  [solc.probeCommand files, solc.exportCommand files, solc.importCommand ++ [exportedName]]

/-- Every command of a compiler starts the same words. -/
theorem headD_of_mem_workCommands {solc : Solc} {files : List Path} {command : Command}
    (h : command ∈ workCommands solc files) : command.headD [] = solc.binary.text := by
  simp only [workCommands, List.mem_cons, List.not_mem_nil, or_false] at h
  rcases h with rfl | rfl | rfl <;> rfl

/-- **When settings pin the programs down.**  The compiler is absolute iff the settings
table names it or no relative build directory is named outside the table, and the
splitter script iff the command line names no relative one.  An absolute compiler is
one file for the version check and for all work, and an absolute script is one file in
every directory. -/
theorem load_pins_programs
    (h : load tree cwd overrides environment searchFrom = .ok settings) :
    (settings.compiler.isAbsolute = true ↔
      NamesCompiler tree cwd searchFrom ∨
        ∀ named, namedBuildDir? overrides environment = some named → named.isAbsolute = true) ∧
    ((∀ script, settings.splitterScript = some script → script.isAbsolute = true) ↔
      ∀ named, overrides.splitterScript = some named → named.isAbsolute = true) ∧
    (settings.compiler.isAbsolute = true → ∀ now here there files,
      ∀ command ∈ workCommands (CommandLine.Check.solc settings) files,
        programOf now there command =
          programOf now here (CommandLine.Check.solc settings).versionCommand) ∧
    (∀ script, settings.splitterScript = some script → script.isAbsolute = true →
      ∀ now here there, fileNamed now there script.text = fileNamed now here script.text) := by
  refine ⟨compiler_isAbsolute_iff h, splitterScript_isAbsolute_iff h, ?_, ?_⟩
  · intro habs now here there files command hm
    rw [programOf, headD_of_mem_workCommands hm]
    exact fileNamed_of_isAbsolute habs now there here
  · intro script _ habs now here there
    exact fileNamed_of_isAbsolute habs now there here

/-- A file system in which the compiler was built below the directory `/`. -/
def builtTree : FileTree :=
  ⟨[([buildName], .directory), ([buildName, "solc"], .directory),
    ([buildName, "solc", "solc"], .file []), ([['t']], .directory)]⟩

/-- The command line has nothing to say. -/
def noOverrides : Overrides := ⟨none, none, none, none, none⟩

/-- The variable names the build directory `build`. -/
def relativeBuild : Environment := [(buildDirVariable, buildName)]

theorem base_builtTree : base builtTree [] none = .ok ⟨.table [], Path.ofPlace []⟩ := by
  have resolved : resolve builtTree [] (Path.ofPlace []) = .ok (Path.ofPlace []) := by cbv
  have unstated : search builtTree [] (Path.ofPlace []) = .ok none := by cbv
  exact except_bind_ok.2 ⟨_, resolved, except_bind_ok.2 ⟨_, unstated, rfl⟩⟩

theorem loadRoot_builtTree :
    loadRoot builtTree [] noOverrides ⟨.table [], Path.ofPlace []⟩ = .ok (Path.ofPlace []) := by
  have resolved : resolve builtTree [] (Path.ofPlace []) = .ok (Path.ofPlace []) := by cbv
  exact except_bind_ok.2 ⟨_, rfl, resolved⟩

theorem load_builtTree :
    ∃ settings, load builtTree [] noOverrides [] none = .ok settings ∧
      settings.compiler = Path.ofPlace [buildName, "solc", "solc"] :=
  ⟨_, except_bind_ok.2 ⟨_, base_builtTree, except_bind_ok.2
    ⟨_, except_bind_ok.2 ⟨_, loadRoot_builtTree, rfl⟩, rfl⟩⟩, rfl⟩

theorem load_relativeBuild :
    ∃ settings, load builtTree [] noOverrides relativeBuild none = .ok settings ∧
      settings.compiler = ⟨.none, [buildName, "solc", "solc"]⟩ :=
  ⟨_, except_bind_ok.2 ⟨_, base_builtTree, except_bind_ok.2
    ⟨_, except_bind_ok.2 ⟨_, loadRoot_builtTree, rfl⟩, rfl⟩⟩, rfl⟩

theorem load_pins_programs_default :
    ∃ settings, load builtTree [] noOverrides [] none = .ok settings ∧
      settings.compiler = Path.ofPlace [buildName, "solc", "solc"] ∧
      (settings.compiler.isAbsolute = true ↔
        NamesCompiler builtTree [] none ∨
          ∀ named, namedBuildDir? noOverrides [] = some named → named.isAbsolute = true) ∧
      ∀ now here there files,
        ∀ command ∈ workCommands (CommandLine.Check.solc settings) files,
          programOf now there command =
            programOf now here (CommandLine.Check.solc settings).versionCommand := by
  obtain ⟨settings, loaded, named⟩ := load_builtTree
  have pinned := load_pins_programs loaded
  have absolute : settings.compiler.isAbsolute = true := by rw [named, Path.isAbsolute_ofPlace]
  exact ⟨settings, loaded, named, pinned.1, pinned.2.2.1 absolute⟩

/-- A relative build directory parts the compiler that is asked for its version from the
one that does the work: the first is found from the caller's directory, and in a scratch
directory there is none. -/
theorem relative_build_dir_parts_programs :
    ∃ settings, load builtTree [] noOverrides relativeBuild none = .ok settings ∧
      settings.compiler.isAbsolute = false ∧
      programOf builtTree [] (CommandLine.Check.solc settings).versionCommand =
        .ok [buildName, "solc", "solc"] ∧
      programOf builtTree [['t']] ((CommandLine.Check.solc settings).probeCommand []) =
        .error (.system .noEntry "build/solc/solc") := by
  obtain ⟨settings, loaded, named⟩ := load_relativeBuild
  refine ⟨settings, loaded, by rw [named]; rfl, ?_, ?_⟩
  · show fileNamed builtTree [] settings.compiler.text = _
    rw [named]
    cbv
  · show fileNamed builtTree [['t']] settings.compiler.text = _
    rw [named]
    cbv

end Settings
end Reimport
