import Reimport.Proofs.FileTree.Agreement
import Reimport.Proofs.Settings.Anchored
import Reimport.Proofs.Split.Confined

/-!
# Which source a setting comes from

Every path setting is looked for in the same way: first outside the settings table, on the
command line and for the build directory in the environment, where a path is kept as it is
given, then in the table, where a relative path is resolved from an anchor on, and at last there
may be a default (`FirstSource`).  The root of the source tree is anchored at the directory of
the table and is the anchor of all others.

The root is resolved once more after it was found.  That changes nothing about a path that was
resolved before, unless a circle of links was met on it (`canonical_of_settled`).

A lower source is not even asked, so it can be replaced by another one that says something
else (`load_masked`).
-/
namespace Reimport

namespace FileTree
variable {tree : FileTree} {cwd : Place} {path final above : Path}

/-- No circle of links is met when a path is resolved. -/
def MeetsNoCircle (tree : FileTree) (cwd : Place) (path : Path) : Prop :=
  (tree.resolveFrom tree.entries.length [] (start cwd path) path.parts).complete = true

/-- What was resolved leads down past no link. -/
theorem isStraight_of_canonical (fit : Fit cwd tree) (plain : Path.dot ∉ path.parts)
    (circleless : tree.MeetsNoCircle cwd path) (h : tree.canonical cwd path = .ok final) :
    ∃ place, final = Path.ofPlace place ∧ tree.IsStraight place ∧
      ∀ name ∈ place, '\x00' ∉ name := by
  obtain ⟨place, hp, rfl⟩ := canonical_eq_ok h
  obtain ⟨nul, settled⟩ := canonicalPlace_eq_ok.1 hp
  have begun : tree.IsStraight (start cwd path) ∧ ∀ name ∈ start cwd path, '\x00' ∉ name := by
    rw [start]
    split
    · exact ⟨(stands_nil tree).isStraight, fun _ hm => absurd hm List.not_mem_nil⟩
    · exact ⟨fit.home.isStraight, fit.home.nulFree fit.free⟩
  refine ⟨place, rfl, ?_⟩
  rw [settle_eq_ok settled]
  exact ⟨isStraight_resolveFrom begun.1 plain circleless,
    nulFree_resolveFrom fit.free begun.2 (Path.contains_nul_eq_false.1 nul)⟩

/-- **What was resolved is resolved already**, and so is every directory above it. -/
theorem canonical_of_settled (fit : Fit cwd tree) (plain : Path.dot ∉ path.parts)
    (circleless : tree.MeetsNoCircle cwd path) (h : tree.canonical cwd path = .ok final)
    (high : above ∈ final.withParents) : tree.canonical cwd above = .ok above := by
  obtain ⟨place, rfl, straight, free⟩ := isStraight_of_canonical fit plain circleless h
  obtain ⟨depth, -, rfl⟩ := List.mem_map.1 high
  have prefixed : place.take depth <+: place := List.take_prefix depth place
  have resolved := canonicalPlace_of_isStraight (straight.of_prefix prefixed)
    (fun name hm => free name (prefixed.subset hm)) cwd
  show (tree.canonicalPlace cwd (Path.ofPlace (place.take depth))).map Path.ofPlace = _
  rw [resolved]
  rfl

end FileTree

namespace Settings
variable {tree : FileTree} {cwd : Place} {overrides : Overrides} {environment : Environment}
  {searchFrom : Option Path} {settings : Settings}

/-! ## The settings table -/

/-- The table at which the search from a directory ends: the nearest project file that
states it, where all that are nearer are passed over. -/
structure Nearest (tree : FileTree) (cwd : Place) (directories : List Path) (found : Found) :
    Prop where
  stated : contribution tree cwd found.directory = .ok (.stated found.table)
  nearest : ∃ nearer farther, directories = nearer ++ found.directory :: farther ∧
    ∀ directory ∈ nearer, contribution tree cwd directory = .ok .absent ∨
      contribution tree cwd directory = .ok .silent

theorem nearest_of_firstFound {directories : List Path} {found : Found}
    (h : firstFound tree cwd directories = .ok (some found)) :
    Nearest tree cwd directories found := by
  induction directories with
  | nil => cases h
  | cons directory above ih =>
    have passed : (contribution tree cwd directory = .ok .absent ∨
        contribution tree cwd directory = .ok .silent) →
        firstFound tree cwd above = .ok (some found) →
          Nearest tree cwd (directory :: above) found := by
      intro passed later
      obtain ⟨stated, nearer, farther, hd, others⟩ := ih later
      refine ⟨stated, directory :: nearer, farther, by rw [hd]; rfl, ?_⟩
      exact List.forall_mem_cons.2 ⟨passed, others⟩
    rw [firstFound] at h
    split at h
    · cases h
    · exact passed (.inl ‹_›) h
    · exact passed (.inr ‹_›) h
    · cases h
    · rename_i table stated
      cases h
      exact ⟨stated, [], above, rfl, fun _ hm => absurd hm List.not_mem_nil⟩

/-- What settings start from: the nearest table and its directory, or an empty table and the
directory where the search begins, once its links are resolved. -/
structure IsBase (tree : FileTree) (cwd : Place) (searchFrom : Option Path) (found : Base) :
    Prop where
  start : ∃ start, tree.canonical cwd (searchFrom.getD (Path.ofPlace cwd)) = .ok start ∧
    (Nearest tree cwd start.withParents ⟨found.table, found.directory⟩ ∨
      search tree cwd start = .ok none ∧ found = ⟨.table [], start⟩)

theorem resolve_eq_ok {path final : Path} (h : resolve tree cwd path = .ok final) :
    tree.canonical cwd path = .ok final := by
  rw [resolve] at h
  split at h
  · rwa [← Except.ok.inj h]
  · cases h

theorem isBase_of_base {found : Base} (h : base tree cwd searchFrom = .ok found) :
    IsBase tree cwd searchFrom found := by
  obtain ⟨start, hs, h⟩ := except_bind_ok.1 h
  obtain ⟨outcome, ho, h⟩ := except_bind_ok.1 h
  refine ⟨start, resolve_eq_ok hs, ?_⟩
  cases outcome with
  | none =>
    cases h
    exact .inr ⟨ho, rfl⟩
  | some nearest =>
    cases h
    exact .inl (nearest_of_firstFound ho)

/-! ## Paths -/

/-- The value that a table has for a setting. -/
def value? (table : Toml.Value) (field : Field) : Option Toml.Value :=
  match table with
  | .table entries => Toml.Table.get? entries field.name
  | _ => none

/-- The path that a table states for a setting, as it stands there. -/
def stated? (table : Toml.Value) (field : Field) : Option Path :=
  match value? table field with
  | some (.text words) => some (Path.parse words)
  | _ => none

/-- A stated path is kept if it is absolute, and else resolved from an anchor on. -/
inductive Anchored (tree : FileTree) (cwd : Place) (anchor : Path) : Path → Path → Prop where
  /-- An absolute path is kept. -/
  | kept {path : Path} : path.isAbsolute = true → Anchored tree cwd anchor path path
  /-- A relative one is resolved. -/
  | resolved {path final : Path} : path.isAbsolute = false →
    tree.canonical cwd (anchor.under path) = .ok final → Anchored tree cwd anchor path final

/-- A path comes from the first of its sources that has it: what is given for it outside the
table, what the table states, and the default. -/
inductive FirstSource (tree : FileTree) (cwd : Place) (anchor : Path) (default : Option Path) :
    Option Path → Option Path → Option Path → Prop where
  /-- A given path is kept, whatever the table states. -/
  | given (path : Path) (stated : Option Path) :
    FirstSource tree cwd anchor default (some path) stated (some path)
  /-- A stated path is anchored if none is given. -/
  | stated {path final : Path} : Anchored tree cwd anchor path final →
    FirstSource tree cwd anchor default none (some path) (some final)
  /-- The default is left. -/
  | default : FirstSource tree cwd anchor default none none default

section Asking
variable {table : Toml.Value} {field : Field} {anchor final default : Path}
  {given stated result : Option Path}

/-- What is asked for a value without a fault is a table. -/
theorem valueIn_eq_ok {value : Option Toml.Value} (h : valueIn table field = .ok value) :
    (∃ entries, table = .table entries) ∧ value = value? table field := by
  cases table with
  | table entries => exact ⟨⟨entries, rfl⟩, (Except.ok.inj h).symm⟩
  | _ => cases h

/-- What the table gives is the path that it states, anchored. -/
theorem firstSource_of_pathIn (h : pathIn tree cwd table field anchor = .ok stated)
    (last : Option Path) :
    FirstSource tree cwd anchor last none (stated? table field) (stated <|> last) := by
  obtain ⟨value, hv, h⟩ := except_bind_ok.1 h
  obtain ⟨-, rfl⟩ := valueIn_eq_ok hv
  rw [stated?]
  split at h
  · rename_i hg
    cases h
    rw [hg]
    exact .default
  · rename_i words hg
    rw [hg]
    dsimp only at h
    split at h
    · rename_i absolute
      cases h
      exact .stated (.kept absolute)
    · rename_i relative
      obtain ⟨path, hr, h⟩ := except_bind_ok.1 h
      cases h
      exact .stated (.resolved (by simpa using relative) (resolve_eq_ok hr))
  · cases h

theorem firstSource_of_orAsk (h : orAsk given (pathIn tree cwd table field anchor) = .ok result) :
    FirstSource tree cwd anchor none given (stated? table field) result := by
  cases given with
  | some path =>
    cases h
    exact .given path _
  | none =>
    have := firstSource_of_pathIn h none
    rwa [Option.orElse_eq_orElse, Option.orElse_eq_or, Option.or_none] at this

theorem firstSource_of_orElse
    (h : orElse given (do return (← pathIn tree cwd table field anchor).getD default) =
      .ok final) :
    FirstSource tree cwd anchor (some default) given (stated? table field) (some final) := by
  cases given with
  | some path =>
    cases h
    exact .given _ _
  | none =>
    obtain ⟨stated, hp, h⟩ := except_bind_ok.1 h
    cases h
    have := firstSource_of_pathIn hp (some default)
    cases stated <;> exact this

end Asking

/-! ## All settings -/

/-- Each setting comes from the first of its sources.  The root is resolved, and what it comes
to is the anchor of the other paths. -/
structure BySource (tree : FileTree) (cwd : Place) (overrides : Overrides)
    (environment : Environment) (found : Base) (settings : Settings) : Prop where
  repoRoot : ∃ root,
    FirstSource tree cwd found.directory (some found.directory) overrides.repoRoot
      (stated? found.table .repoRoot) (some root) ∧
    tree.canonical cwd root = .ok settings.repoRoot
  buildDir : FirstSource tree cwd settings.repoRoot (some (settings.repoRoot.child buildName))
    (namedBuildDir? overrides environment) (stated? found.table .buildDir) (some settings.buildDir)
  compilerPath : FirstSource tree cwd settings.repoRoot none none
    (stated? found.table .compilerPath) settings.compilerPath
  splitterScript : FirstSource tree cwd settings.repoRoot none overrides.splitterScript
    (stated? found.table .splitterScript) settings.splitterScript
  artifactsDir : FirstSource tree cwd settings.repoRoot none overrides.artifactsDir
    (stated? found.table .artifactsDir) settings.artifactsDir
  exitOnError : settings.exitOnError =
    overrides.exitOnError.getD ((value? found.table .exitOnError).any countsAsYes)
  corpusDirs : checkList .corpusDirs Given.toPath defaultCorpusDirs
    ((value? found.table .corpusDirs).map Given.ofValue) = .ok settings.corpusDirs
  extension : check .extension Given.toExtension defaultExtension
    ((value? found.table .extension).map Given.ofValue) = .ok settings.extension
  excludedNames : checkList .excludedNames Given.toText defaultExcludedNames
    ((value? found.table .excludedNames).map Given.ofValue) = .ok settings.excludedNames
  jsonIndent : check .jsonIndent Given.toIndent defaultJsonIndent
    ((value? found.table .jsonIndent).map Given.ofValue) = .ok settings.jsonIndent

/-- What a mention of a setting gives is the value that the table has for it. -/
theorem mentionIn_table {entries : Toml.Table} {field : Field} {value : Option Toml.Value}
    (h : mentionIn (.table entries) field = .ok value) :
    value = value? (.table entries) field :=
  (Except.ok.inj h).symm

theorem exitOnError_of_orElse {table : Toml.Value} {given : Option Bool} {halting : Bool}
    (h : orElse given (do return (← valueIn table .exitOnError).any countsAsYes) = .ok halting) :
    halting = given.getD ((value? table .exitOnError).any countsAsYes) := by
  cases given with
  | some value => exact (Except.ok.inj h).symm
  | none =>
    obtain ⟨value, hv, h⟩ := except_bind_ok.1 h
    obtain ⟨-, rfl⟩ := valueIn_eq_ok hv
    exact (Except.ok.inj h).symm

theorem Loaded.bySource {found : Base} {entries : Toml.Table} (table : found.table = .table entries)
    (loaded : Loaded tree cwd overrides environment found settings) :
    BySource tree cwd overrides environment found settings := by
  have mentioned : ∀ {field value}, mentionIn found.table field = .ok value →
      value = value? found.table field := by
    intro field value h
    rw [table] at h ⊢
    exact mentionIn_table h
  constructor
  case repoRoot =>
    obtain ⟨stated, hstated, resolved⟩ := except_bind_ok.1 loaded.repoRoot
    exact ⟨stated, firstSource_of_orElse hstated, resolve_eq_ok resolved⟩
  case buildDir => exact firstSource_of_orElse loaded.buildDir
  case compilerPath =>
    exact firstSource_of_orAsk (show orAsk none _ = _ from loaded.compilerPath)
  case splitterScript => exact firstSource_of_orAsk loaded.splitterScript
  case artifactsDir => exact firstSource_of_orAsk loaded.artifactsDir
  case exitOnError => exact exitOnError_of_orElse loaded.exitOnError
  case corpusDirs =>
    obtain ⟨_, hm, accepted⟩ := loaded.corpusDirs
    rwa [mentioned hm] at accepted
  case extension =>
    obtain ⟨_, hm, accepted⟩ := loaded.extension
    rwa [mentioned hm] at accepted
  case excludedNames =>
    obtain ⟨_, hm, accepted⟩ := loaded.excludedNames
    rwa [mentioned hm] at accepted
  case jsonIndent =>
    obtain ⟨_, hm, accepted⟩ := loaded.jsonIndent
    rwa [mentioned hm] at accepted

theorem bySource_of_load {found : Base} (hb : base tree cwd searchFrom = .ok found)
    (h : load tree cwd overrides environment searchFrom = .ok settings) :
    BySource tree cwd overrides environment found settings ∧
      ∃ entries, found.table = .table entries := by
  obtain ⟨_, hb', loaded⟩ := loaded_of_load h
  cases hb.symm.trans hb'
  -- the compiler is looked for in the table alone, so that has to be one
  obtain ⟨value, hv, -⟩ := except_bind_ok.1 loaded.compilerPath
  obtain ⟨⟨entries, table⟩, -⟩ := valueIn_eq_ok hv
  exact ⟨loaded.bySource table, entries, table⟩

/-! ## Masked values -/

/-- The settings for which the table is not asked, because something before it has them. -/
def masks (overrides : Overrides) (environment : Environment) : Field → Bool
  | .repoRoot => overrides.repoRoot.isSome
  | .buildDir => (namedBuildDir? overrides environment).isSome
  | .splitterScript => overrides.splitterScript.isSome
  | .artifactsDir => overrides.artifactsDir.isSome
  | .exitOnError => overrides.exitOnError.isSome
  | .compilerPath | .corpusDirs | .extension | .excludedNames | .jsonIndent => false

/-- Two environments and two tables differ in masked values at most: the environments name
one build directory, unless the command line names it, and the tables say the same about
every setting for which they are asked. -/
structure DifferMasked (overrides : Overrides) (environment other : Environment)
    (found found' : Base) : Prop where
  buildDir : namedBuildDir? overrides environment = namedBuildDir? overrides other
  directory : overrides.repoRoot = none → found.directory = found'.directory
  tables : ∃ entries entries', found.table = .table entries ∧ found'.table = .table entries'
  values : ∀ field, masks overrides environment field = false →
    value? found.table field = value? found'.table field

section Masked
variable {other : FileTree} {environment' : Environment} {found found' : Base} {field : Field}
  (same : tree.SameShape other)

include same in
theorem resolve_of_sameShape (path : Path) : resolve tree cwd path = resolve other cwd path := by
  rw [resolve, resolve, same.canonical]

variable (masked : DifferMasked overrides environment environment' found found')
include masked

/-- Where the table is asked, both tables give the same answer. -/
theorem valueIn_masked (asked : masks overrides environment field = false) :
    valueIn found.table field = valueIn found'.table field := by
  obtain ⟨entries, entries', table, table'⟩ := masked.tables
  have value := masked.values field asked
  rw [table, table'] at value ⊢
  exact congrArg Except.ok value

theorem mentionIn_masked (asked : masks overrides environment field = false) :
    mentionIn found.table field = mentionIn found'.table field := by
  obtain ⟨entries, entries', table, table'⟩ := masked.tables
  have value := masked.values field asked
  rw [table, table'] at value ⊢
  exact congrArg Except.ok value

include same

theorem pathIn_masked (asked : masks overrides environment field = false) (anchor : Path) :
    pathIn tree cwd found.table field anchor = pathIn other cwd found'.table field anchor := by
  simp only [pathIn, valueIn_masked masked asked, resolve_of_sameShape same]

/-- The table is asked about a setting that is not masked, and has no say in a masked one. -/
theorem orAsk_masked {given : Option Path}
    (asked : given = none → masks overrides environment field = false) (anchor : Path) :
    orAsk given (pathIn tree cwd found.table field anchor) =
      orAsk given (pathIn other cwd found'.table field anchor) := by
  cases given with
  | some path => rfl
  | none => exact pathIn_masked same masked (asked rfl) anchor

theorem loadRoot_masked :
    loadRoot tree cwd overrides found = loadRoot other cwd overrides found' := by
  rw [loadRoot, loadRoot]
  cases named : overrides.repoRoot with
  | some path => simp only [orElse, resolve_of_sameShape same]
  | none =>
    have asked : masks overrides environment .repoRoot = false := by rw [masks, named]; rfl
    simp only [orElse, pathIn_masked same masked asked, masked.directory named,
      resolve_of_sameShape same]

theorem loadBuildDir_masked (root : Path) :
    loadBuildDir tree cwd overrides environment found root =
      loadBuildDir other cwd overrides environment' found' root := by
  have given := masked.buildDir
  simp only [namedBuildDir?] at given
  rw [loadBuildDir, loadBuildDir, ← given]
  cases named : overrides.buildDir <|> environment.buildDir? with
  | some path => rfl
  | none =>
    have asked : masks overrides environment .buildDir = false := by
      rw [masks, namedBuildDir?, named]
      rfl
    simp only [orElse, pathIn_masked same masked asked]

omit same in
theorem exitOnError_masked :
    (orElse overrides.exitOnError do
      return (← valueIn found.table .exitOnError).any countsAsYes : Except Error Bool) =
    orElse overrides.exitOnError do
      return (← valueIn found'.table .exitOnError).any countsAsYes := by
  cases named : overrides.exitOnError with
  | some value => rfl
  | none =>
    have asked : masks overrides environment .exitOnError = false := by rw [masks, named]; rfl
    simp only [orElse, valueIn_masked masked asked]

/-- **Masked values have no say** in what the sources give the settings. -/
theorem proposal_masked :
    proposal tree cwd overrides environment found =
      proposal other cwd overrides environment' found' := by
  have script : ∀ root, orAsk overrides.splitterScript
      (pathIn tree cwd found.table .splitterScript root) =
        orAsk overrides.splitterScript
          (pathIn other cwd found'.table .splitterScript root) :=
    orAsk_masked same masked fun named => by rw [masks, named]; rfl
  have artifacts : ∀ root, orAsk overrides.artifactsDir
      (pathIn tree cwd found.table .artifactsDir root) =
        orAsk overrides.artifactsDir
          (pathIn other cwd found'.table .artifactsDir root) :=
    orAsk_masked same masked fun named => by rw [masks, named]; rfl
  simp only [proposal, loadRoot_masked same masked, loadBuildDir_masked same masked, script, artifacts,
    exitOnError_masked masked,
    mentionIn_masked masked (show masks overrides environment .corpusDirs = false from rfl),
    mentionIn_masked masked (show masks overrides environment .extension = false from rfl),
    mentionIn_masked masked (show masks overrides environment .excludedNames = false from rfl),
    mentionIn_masked masked (show masks overrides environment .jsonIndent = false from rfl),
    pathIn_masked same masked (show masks overrides environment .compilerPath = false from rfl)]

/-- **Two loads that differ in masked values come to the same settings.** -/
theorem load_masked {searchFrom' : Option Path} (hb : base tree cwd searchFrom = .ok found)
    (hb' : base other cwd searchFrom' = .ok found') :
    load tree cwd overrides environment searchFrom =
      load other cwd overrides environment' searchFrom' := by
  simp only [load, hb, hb', bind, Except.bind, proposal_masked same masked]

end Masked

/-- **Settings come from the first of their sources.**  Loaded settings start from the nearest
table; each of them is what the first of its sources has, where the table's relative paths are
resolved from the root on, and the root itself from the directory of the table.  The root is
resolved once more, which changes no path that was resolved without a circle of links.  Loads
that differ in masked values come to the same settings. -/
theorem load_from_sources
    (h : load tree cwd overrides environment searchFrom = .ok settings) :
    ∃ found, base tree cwd searchFrom = .ok found ∧ IsBase tree cwd searchFrom found ∧
      BySource tree cwd overrides environment found settings ∧
      (FileTree.Fit cwd tree → ∀ path final above, Path.dot ∉ path.parts →
        tree.MeetsNoCircle cwd path → tree.canonical cwd path = .ok final →
          above ∈ final.withParents → tree.canonical cwd above = .ok above) ∧
      ∀ other environment' searchFrom' found', tree.SameShape other →
        base other cwd searchFrom' = .ok found' →
          DifferMasked overrides environment environment' found found' →
            load other cwd overrides environment' searchFrom' = .ok settings := by
  obtain ⟨found, hb, -⟩ := except_bind_ok.1 h
  refine ⟨found, hb, isBase_of_base hb, (bySource_of_load hb h).1, ?_, ?_⟩
  · exact fun fit path final above plain circleless resolved high =>
      FileTree.canonical_of_settled fit plain circleless resolved high
  · intro other environment' searchFrom' found' same hb' masked
    rw [← load_masked same masked hb hb', h]

/-- A root directory with a project file. -/
def projectTree (content : Text) : FileTree := ⟨[([projectFileName], .file (Utf8.encode content))]⟩

/-- A project file that states a build directory. -/
def statingText : Text := "[tool.ast_roundtrip]\nbuild_dir = 'out'\n"

/-- A project file that states a number in place of the build directory. -/
def misstatingText : Text := "[tool.ast_roundtrip]\nbuild_dir = 5\n"

/-- The command line names the build directory. -/
def namingOverrides : Overrides := { noOverrides with buildDir := some (Path.parse "/b") }

theorem sameShape_projectTree (content content' : Text) :
    (projectTree content).SameShape (projectTree content') := by
  intro place
  by_cases root : place = []
  · exact .inl (by rw [root, FileTree.node?_nil, FileTree.node?_nil])
  by_cases file : place = [projectFileName]
  · subst file
    exact .inr ⟨_, _, rfl, rfl⟩
  · have other : ∀ text, (projectTree text).node? place = none := by
      intro text
      rw [FileTree.node?, if_neg root, projectTree, List.lookup_cons, beq_false_of_ne file]
      rfl
    exact .inl (by rw [other, other])

theorem resolve_projectTree (content : Text) :
    resolve (projectTree content) [] (Path.ofPlace []) = .ok (Path.ofPlace []) := by
  have resolved : resolve (projectTree []) [] (Path.ofPlace []) = .ok (Path.ofPlace []) := by cbv
  rw [resolve_of_sameShape (sameShape_projectTree content [])]
  exact resolved

theorem base_statingText : base (projectTree statingText) [] none =
    .ok ⟨.table [("build_dir", .text "out")], Path.ofPlace []⟩ := by
  have stated : search (projectTree statingText) [] (Path.ofPlace []) =
    .ok (some ⟨.table [("build_dir", .text "out")], Path.ofPlace []⟩) := by cbv
  exact except_bind_ok.2 ⟨_, resolve_projectTree _, except_bind_ok.2 ⟨_, stated, rfl⟩⟩

theorem base_misstatingText : base (projectTree misstatingText) [] none =
    .ok ⟨.table [("build_dir", .integer 5)], Path.ofPlace []⟩ := by
  have stated : search (projectTree misstatingText) [] (Path.ofPlace []) =
    .ok (some ⟨.table [("build_dir", .integer 5)], Path.ofPlace []⟩) := by cbv
  exact except_bind_ok.2 ⟨_, resolve_projectTree _, except_bind_ok.2 ⟨_, stated, rfl⟩⟩

theorem load_statingText : ∃ settings,
    load (projectTree statingText) [] namingOverrides [] none = .ok settings ∧
      settings.buildDir = Path.parse "/b" := by
  have root : loadRoot (projectTree statingText) [] namingOverrides
      ⟨.table [("build_dir", .text "out")], Path.ofPlace []⟩ = .ok (Path.ofPlace []) :=
    except_bind_ok.2 ⟨_, rfl, resolve_projectTree _⟩
  exact ⟨_, except_bind_ok.2 ⟨_, base_statingText, except_bind_ok.2
    ⟨_, except_bind_ok.2 ⟨_, root, rfl⟩, rfl⟩⟩, rfl⟩

/-- The command line names the build directory, so what the table and the environment say about
it is masked: a number in its place is not even found to be none. -/
theorem load_from_sources_outranked : ∃ settings,
    load (projectTree statingText) [] namingOverrides [] none = .ok settings ∧
      settings.buildDir = Path.parse "/b" ∧
      load (projectTree misstatingText) [] namingOverrides relativeBuild none = .ok settings := by
  obtain ⟨settings, loaded, named⟩ := load_statingText
  obtain ⟨found, hb, -, -, -, alike⟩ := load_from_sources loaded
  rw [base_statingText] at hb
  cases hb
  refine ⟨settings, loaded, named, alike _ _ _ _ (sameShape_projectTree _ _) base_misstatingText ?_⟩
  refine ⟨rfl, fun _ => rfl, ⟨_, _, rfl, rfl⟩, fun field asked => ?_⟩
  cases field with
  | buildDir => cases asked
  | _ => rfl

/-- Two links, of which one leads back to itself. -/
def circledTree : FileTree :=
  ⟨[(["real"], .directory), (["loop"], .link "loop"), (["out"], .link "real")]⟩

/-- A path that meets the circle. -/
def circledPath : Path := Path.parse "loop/../out"

/-- Behind a circle a link is left when the directory is resolved where the search begins, and it
is followed when that is resolved again for the root. -/
theorem root_beyond_circle : ∃ settings,
    circledTree.canonical [] circledPath = .ok (Path.ofPlace ["out"]) ∧
      load circledTree [] noOverrides [] (some circledPath) = .ok settings ∧
      settings.repoRoot = Path.ofPlace ["real"] := by
  have resolved : circledTree.canonical [] circledPath = .ok (Path.ofPlace ["out"]) := by cbv
  have start : resolve circledTree [] circledPath = .ok (Path.ofPlace ["out"]) := by
    rw [resolve, resolved]
  have unstated : search circledTree [] (Path.ofPlace ["out"]) = .ok none := by cbv
  have again : resolve circledTree [] (Path.ofPlace ["out"]) = .ok (Path.ofPlace ["real"]) := by cbv
  have root : loadRoot circledTree [] noOverrides ⟨.table [], Path.ofPlace ["out"]⟩ =
      .ok (Path.ofPlace ["real"]) :=
    except_bind_ok.2 ⟨_, rfl, again⟩
  have based : base circledTree [] (some circledPath) = .ok ⟨.table [], Path.ofPlace ["out"]⟩ :=
    except_bind_ok.2 ⟨_, start, except_bind_ok.2 ⟨_, unstated, rfl⟩⟩
  exact ⟨_, resolved, except_bind_ok.2 ⟨_, based, except_bind_ok.2
    ⟨_, except_bind_ok.2 ⟨_, root, rfl⟩, rfl⟩⟩, rfl⟩

end Settings
end Reimport
