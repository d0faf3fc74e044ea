import Reimport.Proofs.Settings.Farther

/-!
# What loading fails for

Loading is to end with settings or with the faults of given values.  It keeps to that unless
something is to blame before the values are checked at all (`Blames`): the place where the
search begins cannot be resolved, a project file on the way is in trouble, what stands in the
place of the table is none, a path is given by something other than a text, or it cannot be
resolved.  Nothing else can go wrong (`blames_of_load`), and each of these does
(`load_promised_iff`).
-/
namespace Reimport

/-- A sequence of questions fails iff one of them does. -/
theorem except_bind_error {ε α β : Type} {first : Except ε α} {next : α → Except ε β} {error : ε} :
    (first >>= next) = .error error ↔
      first = .error error ∨ ∃ a, first = .ok a ∧ next a = .error error := by
  cases first with
  | error e =>
    constructor
    · rintro ⟨⟩
      exact .inl rfl
    · rintro (⟨⟨⟩⟩ | ⟨_, h, _⟩)
      · rfl
      · cases h
  | ok a =>
    constructor
    · exact fun h => .inr ⟨a, rfl, h⟩
    · rintro (h | ⟨_, ⟨⟩, h⟩)
      · cases h
      · exact h

namespace Settings
variable {tree : FileTree} {cwd : Place} {overrides : Overrides} {environment : Environment}
  {searchFrom : Option Path} {found : Base} {trouble : Error}

/-- Loading has ended with settings or with the faults of given values. -/
def Promised (result : Except Error Settings) : Prop :=
  (∃ settings, result = .ok settings) ∨ ∃ faults, result = .error (.invalid faults)

/-- The settings that are paths. -/
def allPathFields : List Field := .repoRoot :: pathFields

/-- Something other than the faults of given values is to blame for a failure. -/
inductive Blames (tree : FileTree) (cwd : Place) (overrides : Overrides)
    (environment : Environment) (searchFrom : Option Path) : Error → Prop where
  /-- A project file to which the search comes is in trouble. -/
  | troubled {start directory : Path} {trouble : Error} :
    tree.canonical cwd (beginning cwd searchFrom) = .ok start →
    Reaches tree cwd start.withParents directory → Troubles tree cwd directory trouble →
    Blames tree cwd overrides environment searchFrom trouble
  /-- What stands in the place of the table is no table, so it has no names or cannot be searched
  for one. -/
  | untabled {found : Base} {trouble : Error} : base tree cwd searchFrom = .ok found →
    (∀ entries, found.table ≠ .table entries) →
    trouble = .settingsNotTable ∨ trouble = .settingsNotSearchable →
    Blames tree cwd overrides environment searchFrom trouble
  /-- A path is given by something other than a text, and it is not masked. -/
  | notText {found : Base} {field : Field} {value : Toml.Value} :
    base tree cwd searchFrom = .ok found → field ∈ allPathFields →
    masks overrides environment field = false → value? found.table field = some value →
    (∀ words, value ≠ .text words) →
    Blames tree cwd overrides environment searchFrom (.pathNotText field)
  /-- A path that is asked for cannot be resolved. -/
  | unresolved {path : Path} {error : FileError} :
    Asked tree cwd overrides environment searchFrom path →
    tree.canonical cwd path = .error error →
    Blames tree cwd overrides environment searchFrom (.file error)

/-! ## What a question fails for -/

theorem resolve_eq_error {path : Path} (h : resolve tree cwd path = .error trouble) :
    ∃ error, tree.canonical cwd path = .error error ∧ trouble = .file error := by
  rw [resolve] at h
  split at h
  · cases h
  · exact ⟨_, ‹_›, (Except.error.inj h).symm⟩

theorem valueIn_eq_error {table : Toml.Value} {field : Field}
    (h : valueIn table field = .error trouble) :
    (∀ entries, table ≠ .table entries) ∧ trouble = .settingsNotTable := by
  cases table with
  | table entries => cases h
  | _ => exact ⟨nofun, (Except.error.inj h).symm⟩

theorem mentionIn_eq_error {table : Toml.Value} {field : Field}
    (h : mentionIn table field = .error trouble) :
    (∀ entries, table ≠ .table entries) ∧ trouble = .settingsNotSearchable := by
  cases table with
  | table entries => cases h
  | text words =>
    rw [mentionIn] at h
    split at h
    · exact ⟨nofun, (Except.error.inj h).symm⟩
    · cases h
  | array items =>
    rw [mentionIn] at h
    split at h
    · exact ⟨nofun, (Except.error.inj h).symm⟩
    · cases h
  | _ => exact ⟨nofun, (Except.error.inj h).symm⟩

/-- The table is none, the value is no text, or the path cannot be resolved. -/
theorem pathIn_eq_error {table : Toml.Value} {field : Field} {anchor : Path}
    (h : pathIn tree cwd table field anchor = .error trouble) :
    ((∀ entries, table ≠ .table entries) ∧ trouble = .settingsNotTable) ∨
      (∃ value, value? table field = some value ∧ (∀ words, value ≠ .text words) ∧
        trouble = .pathNotText field) ∨
      ∃ path error, stated? table field = some path ∧ path.isAbsolute = false ∧
        tree.canonical cwd (anchor.under path) = .error error ∧ trouble = .file error := by
  obtain h | ⟨value, hv, h⟩ := except_bind_error.1 h
  · exact .inl (valueIn_eq_error h)
  obtain ⟨-, rfl⟩ := valueIn_eq_ok hv
  right
  split at h
  · cases h
  · rename_i words hg
    dsimp only at h
    split at h
    · cases h
    · rename_i relative
      obtain h | ⟨_, -, h⟩ := except_bind_error.1 h
      · obtain ⟨error, unresolved, rfl⟩ := resolve_eq_error h
        exact .inr ⟨_, error, by rw [stated?, hg], Bool.eq_false_iff.2 relative, unresolved, rfl⟩
      · cases h
  · rename_i value notText hg
    exact .inl ⟨value, hg, notText, (Except.error.inj h).symm⟩

theorem orElse_eq_error {α : Type} {first : Option α} {second : Except Error α}
    (h : orElse first second = .error trouble) : first = none ∧ second = .error trouble := by
  cases first with
  | some value => cases h
  | none => exact ⟨rfl, h⟩

theorem orAsk_eq_error {α : Type} {first : Option α} {second : Except Error (Option α)}
    (h : orAsk first second = .error trouble) : first = none ∧ second = .error trouble := by
  cases first with
  | some value => cases h
  | none => exact ⟨rfl, h⟩

/-! ## Only what is to blame makes loading fail -/

theorem blames_of_base (h : base tree cwd searchFrom = .error trouble) :
    Blames tree cwd overrides environment searchFrom trouble := by
  obtain h | ⟨start, hs, h⟩ := except_bind_error.1 h
  · obtain ⟨error, unresolved, rfl⟩ := resolve_eq_error h
    exact .unresolved .beginning unresolved
  · obtain h | ⟨outcome, -, h⟩ := except_bind_error.1 h
    · obtain ⟨directory, reaches, troubles⟩ := firstFound_eq_error_iff.1 h
      exact .troubled (resolve_eq_ok hs) reaches troubles
    · cases outcome <;> cases h

section Found
variable (hb : base tree cwd searchFrom = .ok found)
include hb

theorem blames_of_valueIn {field : Field} (h : valueIn found.table field = .error trouble) :
    Blames tree cwd overrides environment searchFrom trouble :=
  .untabled hb (valueIn_eq_error h).1 (.inl (valueIn_eq_error h).2)

theorem blames_of_mentionIn {field : Field} (h : mentionIn found.table field = .error trouble) :
    Blames tree cwd overrides environment searchFrom trouble :=
  .untabled hb (mentionIn_eq_error h).1 (.inr (mentionIn_eq_error h).2)

/-- A stated path is to blame if it is asked for. -/
theorem blames_of_pathIn {field : Field} {anchor : Path} (listed : field ∈ allPathFields)
    (unmasked : masks overrides environment field = false)
    (asked : ∀ path, stated? found.table field = some path → path.isAbsolute = false →
      Asked tree cwd overrides environment searchFrom (anchor.under path))
    (h : pathIn tree cwd found.table field anchor = .error trouble) :
    Blames tree cwd overrides environment searchFrom trouble := by
  obtain ⟨untabled, rfl⟩ | ⟨value, given, notText, rfl⟩ | ⟨path, error, stated, relative, unresolved,
      rfl⟩ := pathIn_eq_error h
  · exact .untabled hb untabled (.inl rfl)
  · exact .notText hb listed unmasked given notText
  · exact .unresolved (asked path stated relative) unresolved

theorem blames_of_loadRoot (h : loadRoot tree cwd overrides found = .error trouble) :
    Blames tree cwd overrides environment searchFrom trouble := by
  obtain h | ⟨path, hp, h⟩ := except_bind_error.1 h
  · obtain ⟨named, h⟩ := orElse_eq_error h
    obtain h | ⟨_, -, h⟩ := except_bind_error.1 h
    · exact blames_of_pathIn hb (by decide) (by rw [masks, named]; rfl)
        (fun _ stated relative => .relative named hb stated relative) h
    · cases h
  obtain ⟨error, unresolved, rfl⟩ := resolve_eq_error h
  refine .unresolved ?_ unresolved
  cases named : overrides.repoRoot with
  | some root =>
    rw [named] at hp
    cases hp
    exact .given named
  | none =>
    rw [named] at hp
    obtain ⟨stated, given, he⟩ := except_bind_ok.1 hp
    cases he
    obtain ⟨unstated, rfl⟩ | ⟨path, root, hs, anchored, rfl⟩ := pathIn_eq_ok given
    · exact .default named hb (by rw [stated?, unstated])
    · exact .anchored named hb hs anchored

theorem blames_of_proposal
    (h : proposal tree cwd overrides environment found = .error trouble) :
    Blames tree cwd overrides environment searchFrom trouble := by
  rw [proposal] at h
  obtain h | ⟨root, hr, h⟩ := except_bind_error.1 h
  · exact blames_of_loadRoot hb h
  -- Every path below the root is asked for if it is stated.
  have below : ∀ field ∈ pathFields, masks overrides environment field = false → ∀ e,
      pathIn tree cwd found.table field root = .error e →
        Blames tree cwd overrides environment searchFrom e :=
    fun field listed unmasked e h => blames_of_pathIn hb (List.mem_cons_of_mem _ listed) unmasked
      (fun _ stated relative => .below hb hr listed unmasked stated relative) h
  obtain h | ⟨dir, -, h⟩ := except_bind_error.1 h
  · obtain ⟨named, h⟩ := orElse_eq_error h
    obtain h | ⟨_, -, h⟩ := except_bind_error.1 h
    · exact below _ (by decide) (by rw [masks, namedBuildDir?, named]; rfl) _ h
    · cases h
  obtain h | ⟨script, -, h⟩ := except_bind_error.1 h
  · obtain ⟨named, h⟩ := orAsk_eq_error h
    exact below _ (by decide) (by rw [masks, named]; rfl) _ h
  obtain h | ⟨artifacts, -, h⟩ := except_bind_error.1 h
  · obtain ⟨named, h⟩ := orAsk_eq_error h
    exact below _ (by decide) (by rw [masks, named]; rfl) _ h
  obtain h | ⟨halting, -, h⟩ := except_bind_error.1 h
  · obtain ⟨-, h⟩ := orElse_eq_error h
    obtain h | ⟨_, -, h⟩ := except_bind_error.1 h
    · exact blames_of_valueIn hb h
    · cases h
  obtain h | ⟨corpusDirs, -, h⟩ := except_bind_error.1 h
  · exact blames_of_mentionIn hb h
  obtain h | ⟨extension, -, h⟩ := except_bind_error.1 h
  · exact blames_of_mentionIn hb h
  obtain h | ⟨excludedNames, -, h⟩ := except_bind_error.1 h
  · exact blames_of_mentionIn hb h
  obtain h | ⟨jsonIndent, -, h⟩ := except_bind_error.1 h
  · exact blames_of_mentionIn hb h
  obtain h | ⟨compiler, -, h⟩ := except_bind_error.1 h
  · exact below _ (by decide) rfl _ h
  · cases h

end Found

/-- **Loading fails for nothing else**: the error is that of something to blame, or it tells the
faults of given values. -/
theorem blames_of_load (h : load tree cwd overrides environment searchFrom = .error trouble) :
    (∃ faults, trouble = .invalid faults) ∨
      Blames tree cwd overrides environment searchFrom trouble := by
  obtain h | ⟨found, hb, h⟩ := except_bind_error.1 h
  · exact .inr (blames_of_base h)
  obtain h | ⟨proposed, -, h⟩ := except_bind_error.1 h
  · exact .inr (blames_of_proposal hb h)
  · rw [accept] at h
    split at h
    · cases h
    · exact .inl ⟨_, (Except.error.inj h).symm⟩

/-! ## Where loading keeps its promise, nothing is to blame -/

/-- The faults of given values are found last, and nothing else is called so. -/
theorem Blames.ne_invalid (h : Blames tree cwd overrides environment searchFrom trouble)
    (faults : List Fault) : trouble ≠ .invalid faults := by
  rintro rfl
  cases h with
  | troubled _ _ troubles => cases troubles
  | untabled _ _ kind => rcases kind with h | h <;> cases h

theorem proposal_of_promised (h : Promised (load tree cwd overrides environment searchFrom)) :
    ∃ found proposed, base tree cwd searchFrom = .ok found ∧
      proposal tree cwd overrides environment found = .ok proposed := by
  have kept : ∀ e, Blames tree cwd overrides environment searchFrom e →
      load tree cwd overrides environment searchFrom ≠ .error e := by
    rintro e blames failed
    obtain ⟨settings, h⟩ | ⟨faults, h⟩ := h
    · rw [failed] at h
      cases h
    · rw [failed] at h
      exact blames.ne_invalid faults (Except.error.inj h)
  cases hb : base tree cwd searchFrom with
  | error e => exact absurd (except_bind_error.2 (.inl hb)) (kept e (blames_of_base hb))
  | ok found =>
    cases hp : proposal tree cwd overrides environment found with
    | error e =>
      exact absurd (except_bind_error.2 (.inr ⟨found, hb, except_bind_error.2 (.inl hp)⟩))
        (kept e (blames_of_proposal hb hp))
    | ok proposed => exact ⟨found, proposed, rfl, hp⟩

/-- All questions about paths are answered. -/
structure Answered (tree : FileTree) (cwd : Place) (overrides : Overrides)
    (environment : Environment) (found : Base) (root : Path) : Prop where
  given : ∀ named, overrides.repoRoot = some named → tree.canonical cwd named = .ok root
  stated : overrides.repoRoot = none → ∃ given,
    pathIn tree cwd found.table .repoRoot found.directory = .ok given ∧
      tree.canonical cwd (given.getD found.directory) = .ok root
  below : ∀ field ∈ pathFields, masks overrides environment field = false →
    ∃ given, pathIn tree cwd found.table field root = .ok given

theorem pathIn_of_orAsk {field : Field} {root : Path} {given result : Option Path}
    (unmasked : given = none)
    (h : orAsk given (pathIn tree cwd found.table field root) = .ok result) :
    pathIn tree cwd found.table field root = .ok result := by
  rwa [unmasked] at h

theorem answered_of_proposal {proposed : Proposal}
    (h : proposal tree cwd overrides environment found = .ok proposed) :
    ∃ root, loadRoot tree cwd overrides found = .ok root ∧
      Answered tree cwd overrides environment found root := by
  obtain ⟨root, gathers⟩ := gathers_of_proposal h
  obtain ⟨hr, -⟩ := gathers.repoRoot
  obtain ⟨stated, hs, hroot⟩ := except_bind_ok.1 hr
  refine ⟨root, hr, ⟨fun named hn => ?_, fun hn => ?_, fun field listed unmasked => ?_⟩⟩
  · rw [hn] at hs
    cases hs
    exact resolve_eq_ok hroot
  · rw [hn] at hs
    obtain ⟨given, hp, hg⟩ := except_bind_ok.1 hs
    cases hg
    exact ⟨given, hp, resolve_eq_ok hroot⟩
  · simp only [pathFields, List.mem_cons, List.not_mem_nil, or_false] at listed
    rcases listed with rfl | rfl | rfl | rfl
    · obtain ⟨dir, hdir, -⟩ := gathers.buildDir
      rw [masks, namedBuildDir?, Option.isSome_eq_false_iff, Option.isNone_iff_eq_none] at unmasked
      rw [loadBuildDir, unmasked] at hdir
      obtain ⟨given, hp, -⟩ := except_bind_ok.1 hdir
      exact ⟨given, hp⟩
    · obtain ⟨script, hscript, -⟩ := gathers.splitterScript
      rw [masks, Option.isSome_eq_false_iff, Option.isNone_iff_eq_none] at unmasked
      exact ⟨script, pathIn_of_orAsk unmasked hscript⟩
    · obtain ⟨artifacts, hartifacts, -⟩ := gathers.artifactsDir
      rw [masks, Option.isSome_eq_false_iff, Option.isNone_iff_eq_none] at unmasked
      exact ⟨artifacts, pathIn_of_orAsk unmasked hartifacts⟩
    · exact gathers.compilerPath.imp fun _ hc => hc.1

theorem Anchored.unique {anchor path final other : Path} (h : Anchored tree cwd anchor path final)
    (h' : Anchored tree cwd anchor path other) : final = other := by
  cases h with
  | kept absolute =>
    cases h' with
    | kept _ => rfl
    | resolved relative _ => rw [absolute] at relative; cases relative
  | resolved relative resolved =>
    cases h' with
    | kept absolute => rw [absolute] at relative; cases relative
    | resolved _ resolved' => exact Except.ok.inj (resolved.symm.trans resolved')

/-- A relative path that is given can be resolved. -/
theorem canonical_of_pathIn {field : Field} {anchor path : Path} {given : Option Path}
    (h : pathIn tree cwd found.table field anchor = .ok given)
    (stated : stated? found.table field = some path) (relative : path.isAbsolute = false) :
    ∃ final, tree.canonical cwd (anchor.under path) = .ok final := by
  obtain ⟨unstated, -⟩ | ⟨path', final, stated', anchored, -⟩ := pathIn_eq_ok h
  · rw [stated?, unstated] at stated
    cases stated
  · rw [stated] at stated'
    cases stated'
    cases anchored with
    | kept absolute => rw [absolute] at relative; cases relative
    | resolved _ resolved => exact ⟨final, resolved⟩

namespace Answered
variable {root : Path} (answered : Answered tree cwd overrides environment found root)
include answered

/-- Every path that is asked for in the table is given by a text. -/
theorem texts {field : Field} {value : Toml.Value} (listed : field ∈ allPathFields)
    (unmasked : masks overrides environment field = false)
    (h : value? found.table field = some value) : ∃ words, value = .text words := by
  have asked : ∃ anchor given, pathIn tree cwd found.table field anchor = .ok given := by
    rcases List.mem_cons.1 listed with rfl | listed
    · rw [masks, Option.isSome_eq_false_iff, Option.isNone_iff_eq_none] at unmasked
      obtain ⟨given, hp, -⟩ := answered.stated unmasked
      exact ⟨_, given, hp⟩
    · exact ⟨root, answered.below field listed unmasked⟩
  obtain ⟨anchor, given, hp⟩ := asked
  obtain ⟨unstated, -⟩ | ⟨path, final, stated, -⟩ := pathIn_eq_ok hp
  · rw [h] at unstated
    cases unstated
  · rw [stated?, h] at stated
    cases value with
    | text words => exact ⟨words, rfl⟩
    | _ => cases stated

variable (hb : base tree cwd searchFrom = .ok found)
include hb

/-- Every path that is asked for is resolved. -/
theorem resolves (hr : loadRoot tree cwd overrides found = .ok root) {path : Path}
    (asked : Asked tree cwd overrides environment searchFrom path) :
    ∃ final, tree.canonical cwd path = .ok final := by
  cases asked with
  | beginning =>
    obtain ⟨start, hs, -⟩ := except_bind_ok.1 hb
    exact ⟨start, resolve_eq_ok hs⟩
  | given named => exact ⟨root, answered.given _ named⟩
  | default named hb' unstated =>
    rw [hb] at hb'
    cases hb'
    obtain ⟨given, hp, hroot⟩ := answered.stated named
    obtain ⟨-, rfl⟩ | ⟨path, final, stated, -, -⟩ := pathIn_eq_ok hp
    · exact ⟨root, hroot⟩
    · rw [unstated] at stated
      cases stated
  | relative named hb' stated relative =>
    rw [hb] at hb'
    cases hb'
    obtain ⟨given, hp, -⟩ := answered.stated named
    exact canonical_of_pathIn hp stated relative
  | anchored named hb' stated anchored =>
    rw [hb] at hb'
    cases hb'
    obtain ⟨given, hp, hroot⟩ := answered.stated named
    obtain ⟨unstated, -⟩ | ⟨path', final, stated', anchored', rfl⟩ := pathIn_eq_ok hp
    · rw [stated?, unstated] at stated
      cases stated
    · rw [stated] at stated'
      cases stated'
      rw [anchored.unique anchored']
      exact ⟨root, hroot⟩
  | below hb' hr' listed unmasked stated relative =>
    rw [hb] at hb'
    cases hb'
    rw [hr] at hr'
    cases hr'
    obtain ⟨given, hp⟩ := answered.below _ listed unmasked
    exact canonical_of_pathIn hp stated relative

end Answered

theorem not_blames_of_promised (h : Promised (load tree cwd overrides environment searchFrom)) :
    ¬ Blames tree cwd overrides environment searchFrom trouble := by
  obtain ⟨found, proposed, hb, hp⟩ := proposal_of_promised h
  obtain ⟨root, hr, answered⟩ := answered_of_proposal hp
  intro blames
  cases blames with
  | troubled begun reaches troubles =>
    obtain ⟨start, hs, searched⟩ := except_bind_ok.1 hb
    obtain ⟨outcome, searched, -⟩ := except_bind_ok.1 searched
    cases begun.symm.trans (resolve_eq_ok hs)
    cases searched.symm.trans (firstFound_of_troubles reaches troubles)
  | untabled hb' untabled _ =>
    cases hb.symm.trans hb'
    obtain ⟨given, asked⟩ := answered.below .compilerPath (by decide) rfl
    obtain ⟨value, hv, -⟩ := except_bind_ok.1 asked
    obtain ⟨⟨entries, table⟩, -⟩ := valueIn_eq_ok hv
    exact untabled entries table
  | notText hb' listed unmasked given notText =>
    cases hb.symm.trans hb'
    obtain ⟨words, he⟩ := answered.texts listed unmasked given
    exact notText words he
  | unresolved asked h =>
    obtain ⟨final, resolved⟩ := answered.resolves hb hr asked
    cases resolved.symm.trans h

/-- **What loading fails for.**  It ends with settings or with the faults of given values iff
nothing else is to blame, and otherwise it fails for something that is. -/
theorem load_promised_iff (tree : FileTree) (cwd : Place) (overrides : Overrides)
    (environment : Environment) (searchFrom : Option Path) :
    (Promised (load tree cwd overrides environment searchFrom) ↔
      ∀ trouble, ¬ Blames tree cwd overrides environment searchFrom trouble) ∧
    (¬ Promised (load tree cwd overrides environment searchFrom) →
      ∃ trouble, load tree cwd overrides environment searchFrom = .error trouble ∧
        Blames tree cwd overrides environment searchFrom trouble) := by
  have fails : ¬ Promised (load tree cwd overrides environment searchFrom) →
      ∃ trouble, load tree cwd overrides environment searchFrom = .error trouble ∧
        Blames tree cwd overrides environment searchFrom trouble := by
    intro broken
    cases h : load tree cwd overrides environment searchFrom with
    | ok settings => exact absurd (.inl ⟨settings, h⟩) broken
    | error trouble =>
      obtain ⟨faults, rfl⟩ | blames := blames_of_load h
      · exact absurd (.inr ⟨faults, h⟩) broken
      · exact ⟨trouble, rfl, blames⟩
  refine ⟨⟨fun promised _ => not_blames_of_promised promised, fun blameless => ?_⟩, fails⟩
  by_contra broken
  obtain ⟨trouble, -, blames⟩ := fails broken
  exact blameless trouble blames

/-- Settings are loaded, so nothing is to blame. -/
theorem load_promised_nested : ¬ ∃ trouble,
    Blames (nestedTree []) ["p"] noOverrides [] none trouble := by
  rintro ⟨trouble, blames⟩
  obtain ⟨settings, loaded, -⟩ := load_nestedTree
  exact (load_promised_iff (nestedTree []) ["p"] noOverrides [] none).1.1
    (.inl ⟨settings, loaded⟩) trouble blames

/-- The root directory with a project file that need not be a text. -/
def rawProjectTree (content : Bytes) : FileTree := ⟨[([projectFileName], .file content)]⟩

/-- **Loading fails in four other ways** over what a project file says: it is no UTF-8, the tools
are a number, a number stands in the place of the table, or one in the place of a path. -/
theorem load_unpromised :
    load (rawProjectTree [255]) [] noOverrides [] none =
        .error (.undecodable ⟨0, 1, 255, .invalidStart⟩) ∧
      load (projectTree "tool = 5\n") [] noOverrides [] none = .error .toolsNotTable ∧
      load (projectTree "[tool]\nast_roundtrip = 5\n") [] noOverrides [] none =
        .error .settingsNotTable ∧
      load (projectTree misstatingText) [] noOverrides [] none =
        .error (.pathNotText .buildDir) := by
  -- The last two get as far as the root and the build directory.
  have unnamed : loadRoot (projectTree "[tool]\nast_roundtrip = 5\n") [] noOverrides
      ⟨.integer 5, Path.ofPlace []⟩ = .error .settingsNotTable := rfl
  have based : base (projectTree "[tool]\nast_roundtrip = 5\n") [] none =
      .ok ⟨.integer 5, Path.ofPlace []⟩ := by
    have stated : search (projectTree "[tool]\nast_roundtrip = 5\n") [] (Path.ofPlace []) =
      .ok (some ⟨.integer 5, Path.ofPlace []⟩) := by cbv
    exact except_bind_ok.2 ⟨_, resolve_projectTree _, except_bind_ok.2 ⟨_, stated, rfl⟩⟩
  have root : loadRoot (projectTree misstatingText) [] noOverrides
      ⟨.table [("build_dir", .integer 5)], Path.ofPlace []⟩ = .ok (Path.ofPlace []) :=
    except_bind_ok.2 ⟨_, rfl, resolve_projectTree _⟩
  have numbered : proposal (projectTree misstatingText) [] noOverrides []
      ⟨.table [("build_dir", .integer 5)], Path.ofPlace []⟩ = .error (.pathNotText .buildDir) :=
    except_bind_error.2 (.inr ⟨_, root, except_bind_error.2 (.inl rfl)⟩)
  refine ⟨by cbv, by cbv, ?_, ?_⟩
  · exact except_bind_error.2 (.inr ⟨_, based, except_bind_error.2
      (.inl (except_bind_error.2 (.inl unnamed)))⟩)
  · exact except_bind_error.2 (.inr ⟨_, base_misstatingText, except_bind_error.2 (.inl numbered)⟩)

end Settings
end Reimport
