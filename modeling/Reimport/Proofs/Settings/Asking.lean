import Reimport.Proofs.FileTree.Descent
import Reimport.Proofs.Settings.Search

/-!
# What loading asks the file tree

Loading asks where some paths lead (`Asked`) and what is at the project files that the search
comes to, and nothing else: in a tree that gives the same answers it comes to the same
(`load_congr`).  So it makes no difference what the project files are that the search does not
come to (`DifferFarther`), unless a path that is asked for leads past one of them: as a link
that is followed, or as a directory.
-/
namespace Reimport

namespace FileTree
variable {tree other : FileTree} {cwd : Place} {path : Path}

/-- **Where a path leads is told by the links**, if no circle of them is met. -/
theorem canonical_of_sameLinks (links : ∀ place, tree.linkTarget? place = other.linkTarget? place)
    (circleless : tree.MeetsNoCircle cwd path) :
    tree.canonical cwd path = other.canonical cwd path := by
  have same : tree.resolveFrom tree.entries.length [] (start cwd path) path.parts =
      other.resolveFrom other.entries.length [] (start cwd path) path.parts :=
    resolveFrom_congr links (room_nil tree) (room_nil other) _ _
  have complete : (other.resolveFrom other.entries.length [] (start cwd path)
      path.parts).complete = true := by
    rw [← same]
    exact circleless
  rw [canonical, canonical, canonicalPlace_eq, canonicalPlace_eq, settle, settle, same,
    if_pos complete, if_pos complete]

/-- What is at the end of a way past no link is told by the places on it. -/
theorem status_ofPlace {way : Place} (same : SameWay tree other [] way)
    (ending : tree.node? way = other.node? way) :
    tree.status cwd (Path.ofPlace way) = other.status cwd (Path.ofPlace way) := by
  obtain ⟨alike, reaches⟩ : tree.placeOf cwd true (Path.ofPlace way) =
      other.placeOf cwd true (Path.ofPlace way) ∧ _ := placeOf_ofPlace same true true
  rw [status, status, ← alike]
  cases hp : tree.placeOf cwd true (Path.ofPlace way) with
  | error e => rfl
  | ok place =>
    obtain rfl := reaches place hp
    simp only [Bind.bind, Except.bind, ending]

end FileTree

namespace Settings
variable {tree other : FileTree} {cwd : Place} {overrides : Overrides} {environment : Environment}
  {searchFrom : Option Path} {directory start : Path}

/-! ## Questions -/

/-- The directory at which the search begins, as it is given. -/
def beginning (cwd : Place) (searchFrom : Option Path) : Path := searchFrom.getD (Path.ofPlace cwd)

/-- The settings other than the root that are paths. -/
def pathFields : List Field := [.buildDir, .splitterScript, .artifactsDir, .compilerPath]

/-- Loading asks where a path leads. -/
inductive Asked (tree : FileTree) (cwd : Place) (overrides : Overrides)
    (environment : Environment) (searchFrom : Option Path) : Path → Prop where
  /-- The directory at which the search begins. -/
  | beginning : Asked tree cwd overrides environment searchFrom (beginning cwd searchFrom)
  /-- The root that the command line names. -/
  | given {root : Path} : overrides.repoRoot = some root →
    Asked tree cwd overrides environment searchFrom root
  /-- The directory of the table, which is the root by default. -/
  | default {found : Base} : overrides.repoRoot = none → base tree cwd searchFrom = .ok found →
    stated? found.table .repoRoot = none →
    Asked tree cwd overrides environment searchFrom found.directory
  /-- A relative root that the table states. -/
  | relative {found : Base} {path : Path} : overrides.repoRoot = none →
    base tree cwd searchFrom = .ok found → stated? found.table .repoRoot = some path →
    path.isAbsolute = false →
    Asked tree cwd overrides environment searchFrom (found.directory.under path)
  /-- What the stated root comes to. -/
  | anchored {found : Base} {path root : Path} : overrides.repoRoot = none →
    base tree cwd searchFrom = .ok found → stated? found.table .repoRoot = some path →
    Anchored tree cwd found.directory path root →
    Asked tree cwd overrides environment searchFrom root
  /-- Another relative path that the table states. -/
  | below {found : Base} {root path : Path} {field : Field} :
    base tree cwd searchFrom = .ok found → loadRoot tree cwd overrides found = .ok root →
    field ∈ pathFields → masks overrides environment field = false →
    stated? found.table field = some path → path.isAbsolute = false →
    Asked tree cwd overrides environment searchFrom (root.under path)

/-- Two trees give the same answers to what loading asks. -/
structure SameAnswers (tree other : FileTree) (cwd : Place) (overrides : Overrides)
    (environment : Environment) (searchFrom : Option Path) : Prop where
  paths : ∀ path, Asked tree cwd overrides environment searchFrom path →
    tree.canonical cwd path = other.canonical cwd path
  files : ∀ start directory, tree.canonical cwd (beginning cwd searchFrom) = .ok start →
    Reaches tree cwd start.withParents directory →
    tree.status cwd (directory.child projectFileName) =
      other.status cwd (directory.child projectFileName)

theorem contribution_of_sameStatus
    (same : tree.status cwd (directory.child projectFileName) =
      other.status cwd (directory.child projectFileName)) :
    contribution tree cwd directory = contribution other cwd directory := by
  rw [contribution, contribution, FileTree.isFile, FileTree.isFile, FileTree.ask, FileTree.ask,
    FileTree.read, FileTree.read, same]

theorem resolve_congr {path : Path} (same : tree.canonical cwd path = other.canonical cwd path) :
    resolve tree cwd path = resolve other cwd path := by
  rw [resolve, resolve, same]

/-- A path that a table gives is the one that it states, anchored. -/
theorem pathIn_eq_ok {table : Toml.Value} {field : Field} {anchor : Path} {given : Option Path}
    (h : pathIn tree cwd table field anchor = .ok given) :
    value? table field = none ∧ given = none ∨
      ∃ path final, stated? table field = some path ∧ Anchored tree cwd anchor path final ∧
        given = some final := by
  obtain ⟨value, hv, h⟩ := except_bind_ok.1 h
  obtain ⟨-, rfl⟩ := valueIn_eq_ok hv
  rw [stated?]
  split at h
  · rename_i hg
    exact .inl ⟨hg, (Except.ok.inj h).symm⟩
  · rename_i words hg
    rw [hg]
    refine .inr ⟨Path.parse words, ?_⟩
    dsimp only at h
    split at h
    · rename_i absolute
      exact ⟨_, rfl, .kept absolute, (Except.ok.inj h).symm⟩
    · rename_i relative
      obtain ⟨path, hr, h⟩ := except_bind_ok.1 h
      exact ⟨_, rfl, .resolved (Bool.eq_false_iff.2 relative) (resolve_eq_ok hr),
        (Except.ok.inj h).symm⟩
  · cases h

/-- A path of the table is resolved if it is relative, and that is all that is asked for it. -/
theorem pathIn_congr {table : Toml.Value} {field : Field} {anchor : Path}
    (same : ∀ path, stated? table field = some path → path.isAbsolute = false →
      tree.canonical cwd (anchor.under path) = other.canonical cwd (anchor.under path)) :
    pathIn tree cwd table field anchor = pathIn other cwd table field anchor := by
  rw [pathIn, pathIn]
  cases hv : valueIn table field with
  | error e => rfl
  | ok value =>
    obtain ⟨-, rfl⟩ := valueIn_eq_ok hv
    simp only [Bind.bind, Except.bind]
    rcases hg : value? table field with _ | (words | _ | _ | _ | _ | _ | _)
    case some.text =>
      by_cases absolute : (Path.parse words).isAbsolute = true
      · simp only [if_pos absolute]
      · have stated : stated? table field = some (Path.parse words) := by rw [stated?, hg]
        simp only [if_neg absolute,
          resolve_congr (same _ stated (Bool.eq_false_iff.2 absolute))]
    all_goals rfl

namespace SameAnswers
variable (same : SameAnswers tree other cwd overrides environment searchFrom) {found : Base}
  {root : Path}
include same

theorem base_eq : base tree cwd searchFrom = base other cwd searchFrom := by
  rw [base, base, ← beginning, resolve_congr (same.paths _ .beginning)]
  cases hs : resolve other cwd (beginning cwd searchFrom) with
  | error e => simp only [Bind.bind, Except.bind]
  | ok start =>
    have begun : tree.canonical cwd (beginning cwd searchFrom) = .ok start := by
      rw [same.paths _ .beginning]
      exact resolve_eq_ok hs
    have searched : search tree cwd start = search other cwd start :=
      firstFound_congr fun directory reaches =>
        contribution_of_sameStatus (same.files start directory begun reaches)
    simp only [Bind.bind, Except.bind, searched]

variable (hb : base tree cwd searchFrom = .ok found)
include hb

theorem loadRoot_eq : loadRoot tree cwd overrides found = loadRoot other cwd overrides found := by
  rw [loadRoot, loadRoot]
  cases named : overrides.repoRoot with
  | some path =>
    simp only [orElse, Bind.bind, Except.bind, resolve_congr (same.paths _ (.given named))]
  | none =>
    have asked : pathIn tree cwd found.table .repoRoot found.directory =
        pathIn other cwd found.table .repoRoot found.directory :=
      pathIn_congr fun path stated relative =>
        same.paths _ (.relative named hb stated relative)
    rw [← asked]
    cases hp : pathIn tree cwd found.table .repoRoot found.directory with
    | error e => rfl
    | ok stated =>
      have again : tree.canonical cwd (stated.getD found.directory) =
          other.canonical cwd (stated.getD found.directory) := by
        obtain ⟨unstated, rfl⟩ | ⟨path, root, hs, anchored, rfl⟩ := pathIn_eq_ok hp
        · exact same.paths _ (.default named hb (by rw [stated?, unstated]))
        · exact same.paths _ (.anchored named hb hs anchored)
      simp only [orElse, Bind.bind, Except.bind, pure, Except.pure, resolve_congr again]

variable (hr : loadRoot tree cwd overrides found = .ok root)
include hr

theorem pathIn_eq {field : Field} (listed : field ∈ pathFields)
    (asked : masks overrides environment field = false) :
    pathIn tree cwd found.table field root = pathIn other cwd found.table field root :=
  pathIn_congr fun _ stated relative => same.paths _ (.below hb hr listed asked stated relative)

theorem orAsk_eq {field : Field} {given : Option Path} (listed : field ∈ pathFields)
    (asked : given = none → masks overrides environment field = false) :
    orAsk given (pathIn tree cwd found.table field root) =
      orAsk given (pathIn other cwd found.table field root) := by
  cases given with
  | some path => rfl
  | none => exact same.pathIn_eq hb hr listed (asked rfl)

theorem loadBuildDir_eq : loadBuildDir tree cwd overrides environment found root =
    loadBuildDir other cwd overrides environment found root := by
  rw [loadBuildDir, loadBuildDir]
  cases named : overrides.buildDir <|> environment.buildDir? with
  | some path => rfl
  | none =>
    have asked : masks overrides environment .buildDir = false := by
      rw [masks, namedBuildDir?, named]
      rfl
    simp only [orElse, same.pathIn_eq hb hr (by decide) asked]

omit hr in
theorem proposal_eq : proposal tree cwd overrides environment found =
    proposal other cwd overrides environment found := by
  rw [proposal, proposal, ← same.loadRoot_eq hb]
  cases hr : loadRoot tree cwd overrides found with
  | error e => simp only [Bind.bind, Except.bind]
  | ok root =>
    have script : orAsk overrides.splitterScript
        (pathIn tree cwd found.table .splitterScript root) = _ :=
      same.orAsk_eq hb hr (by decide) fun named => by rw [masks, named]; rfl
    have artifacts : orAsk overrides.artifactsDir
        (pathIn tree cwd found.table .artifactsDir root) = _ :=
      same.orAsk_eq hb hr (by decide) fun named => by rw [masks, named]; rfl
    have compiler : pathIn tree cwd found.table .compilerPath root = _ :=
      same.pathIn_eq hb hr (by decide) rfl
    simp only [Bind.bind, Except.bind, same.loadBuildDir_eq hb hr, script, artifacts, compiler]

end SameAnswers

/-- **In a tree that gives the same answers loading comes to the same.** -/
theorem load_congr (same : SameAnswers tree other cwd overrides environment searchFrom) :
    load tree cwd overrides environment searchFrom =
      load other cwd overrides environment searchFrom := by
  rw [load, load, ← same.base_eq]
  cases hb : base tree cwd searchFrom with
  | error e => simp only [Bind.bind, Except.bind]
  | ok found => simp only [Bind.bind, Except.bind, same.proposal_eq hb]

end Settings
end Reimport
