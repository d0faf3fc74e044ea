import Reimport.Proofs.Corpus.Discovery

/-!
# What passes the filter of a corpus

The filter looks at the name under which a file is found, and the entry has the name to which the
links lead.  The two are one unless the file is found under the name of a link
(`Found.name_eq`): directories that are links are not searched, and a link on the way to the root
leaves the names from there on as they are.

So what the filter keeps out is entered after all iff some link that it lets through leads there
(`discover_filtered`), as with a link to an excluded file or to one with another extension
(`discover_renamed`).
-/
namespace Reimport.Corpus

/-- A name that is wanted in a corpus: it ends with the extension and is not excluded. -/
structure Wanted (extension : Text) (excluded : List Name) (name : Name) : Prop where
  suffix : extension <:+ name
  kept : name ∉ excluded

/-- What the names lead to from the root on is a link. -/
def EndsInLink (tree : FileTree) (cwd : Place) (root : Path) (names : List Name) : Prop :=
  ∃ place text, tree.placeOf cwd true root = .ok place ∧
    tree.linkTarget? (place ++ names) = some text

section Found
variable {tree : FileTree} {cwd : Place} {extension : Text} {excluded : List Name}
  {root target : Path} {names : List Name}

theorem Found.wanted (found : Found tree cwd extension excluded root names target) :
    Wanted extension excluded (root.down names).name :=
  ⟨found.suffix, found.kept⟩

/-- What stands below a place that a root leads to, and is no link, is reached straight on. -/
theorem Found.target_eq (found : Found tree cwd extension excluded root names target)
    (wellFormed : tree.WellFormed) (plain : Path.dot ∉ root.parts)
    (own : ¬ EndsInLink tree cwd root names) :
    ∃ place, tree.placeOf cwd true root = .ok place ∧ target = Path.ofPlace (place ++ names) := by
  obtain ⟨place, node, leads, there⟩ := found.below
  have reached := wellFormed.reached there
  have straight : tree.IsStraight (place ++ names) := by
    constructor
    · exact reached.proper
    · intro above hp
      by_cases last : above = place ++ names
      · subst last
        cases hl : tree.linkTarget? (place ++ names) with
        | none => rfl
        | some text => exact absurd ⟨place, text, leads, hl⟩ own
      · unfold FileTree.linkTarget?
        rw [reached.directory above hp last]
  -- where the root leads to is the place from which the names go on
  have resolved : tree.resolveFrom tree.entries.length [] (FileTree.start cwd (root.down names))
      (root.parts ++ names) = ⟨place ++ names, true⟩ := by
    have begun := FileTree.resolveFrom_of_placeOf plain leads
    show tree.resolveFrom _ _ (FileTree.start cwd root) (root.parts ++ names) = _
    rw [FileTree.resolveFrom_append, begun, FileTree.Resolved.andThen, if_pos rfl]
    exact FileTree.resolveFrom_of_isStraight straight _ _
  obtain ⟨other, canonical, rfl⟩ := FileTree.canonical_eq_ok found.leads
  have settled := (FileTree.canonicalPlace_eq_ok.1 canonical).2
  rw [resolved] at settled
  exact ⟨place, leads, congrArg Path.ofPlace (FileTree.settle_eq_ok settled)⟩

/-- **A file that is not found under the name of a link keeps its name.** -/
theorem Found.name_eq (found : Found tree cwd extension excluded root names target)
    (wellFormed : tree.WellFormed) (plain : Path.dot ∉ root.parts)
    (own : ¬ EndsInLink tree cwd root names) : target.name = (root.down names).name := by
  obtain ⟨place, -, rfl⟩ := found.target_eq wellFormed plain own
  obtain ⟨above, name, rfl⟩ := List.eq_nil_or_concat' names |>.resolve_left found.nonempty
  rw [Path.name_down]
  exact Path.name_down (Path.ofPlace place) above name

end Found

/-- **What the filter makes of the entries.** -/
structure Filtered (world : World) (roots : List Path) (extension : Text) (excluded : List Name)
    (entries : List Entry) : Prop where
  /-- Every entry is found under a name that is wanted. -/
  sifted : ∀ entry ∈ entries, ∃ root ∈ roots, ∃ names,
    Found world.tree world.cwd extension excluded root names entry.path ∧
      Wanted extension excluded (root.down names).name
  /-- A file with another name is entered iff a link leads there. -/
  leaked : ∀ path, ¬ Wanted extension excluded path.name →
    (Entry.mk path ∈ entries ↔ ∃ root ∈ roots, ∃ names,
      Found world.tree world.cwd extension excluded root names path ∧
        EndsInLink world.tree world.cwd root names)
  /-- It is not found but by links. -/
  linked : ∀ entry ∈ entries, ¬ Wanted extension excluded entry.name → ∀ root ∈ roots, ∀ names,
    Found world.tree world.cwd extension excluded root names entry.path →
      EndsInLink world.tree world.cwd root names
  /-- All names are wanted iff the links that are found lead to such names. -/
  promised : (∀ entry ∈ entries, Wanted extension excluded entry.name) ↔
    ∀ root ∈ roots, ∀ names path,
      Found world.tree world.cwd extension excluded root names path →
        EndsInLink world.tree world.cwd root names → Wanted extension excluded path.name

/-- **The filter is passed by what is found under a wanted name**, and only links lead on from
there to other names. -/
theorem discover_filtered {world : World} {roots : List Path} {extension : Text}
    {excluded : List Name} {entries : List Entry} (fit : FileTree.Fit world.cwd world.tree)
    (distinct : world.tree.Distinct) (literal : Glob.IsLiteral extension)
    (plain : ∀ root ∈ roots, Path.dot ∉ root.parts)
    (yielded : Yields world roots extension excluded entries) :
    Filtered world roots extension excluded entries := by
  have among := mem_of_yields fit distinct literal plain yielded
  -- what is found under its own name has a wanted one
  have linked : ∀ root ∈ roots, ∀ names path,
      Found world.tree world.cwd extension excluded root names path →
        ¬ Wanted extension excluded path.name → EndsInLink world.tree world.cwd root names := by
    intro root hr names path found other
    by_contra own
    rw [found.name_eq fit.wellFormed (plain root hr) own] at other
    exact other found.wanted
  constructor
  case sifted =>
    intro entry hm
    obtain ⟨root, hr, names, found⟩ := (among entry.path).1 hm
    exact ⟨root, hr, names, found, found.wanted⟩
  case leaked =>
    intro path other
    rw [among]
    constructor
    · rintro ⟨root, hr, names, found⟩
      exact ⟨root, hr, names, found, linked root hr names path found other⟩
    · rintro ⟨root, hr, names, found, -⟩
      exact ⟨root, hr, names, found⟩
  case linked =>
    intro entry _ other root hr names found
    exact linked root hr names entry.path found other
  case promised =>
    constructor
    · intro wanted root hr names path found _
      exact wanted ⟨path⟩ ((among path).2 ⟨root, hr, names, found⟩)
    · intro wanted entry hm
      by_contra other
      obtain ⟨root, hr, names, found⟩ := (among entry.path).1 hm
      exact other (wanted root hr names _ found (linked root hr names _ found other))

/-- A corpus in which links have other names than the files. -/
def renamedCorpus : World where
  tree := ⟨[([['c']], .directory), ([['c'], "a.sol"], .link "bug.sol"),
    ([['c'], "bug.sol"], .file []), ([['c'], "b.sol"], .link "b.txt"),
    ([['c'], "b.txt"], .file [])]⟩
  cwd := []
  launches := []
  stderr := []

theorem yields_renamedCorpus : Yields renamedCorpus [Path.parse "/c"] ".sol" ["bug.sol"]
    [⟨Path.parse "/c/bug.sol"⟩, ⟨Path.parse "/c/b.txt"⟩] :=
  ⟨renamedCorpus, by cbv⟩

/-- The excluded file is among the entries, so a link leads there. -/
theorem discover_filtered_renamed :
    ∃ root ∈ [Path.parse "/c"], ∃ names,
      Found renamedCorpus.tree renamedCorpus.cwd ".sol" ["bug.sol"] root names
        (Path.parse "/c/bug.sol") ∧
      EndsInLink renamedCorpus.tree renamedCorpus.cwd root names := by
  have fit : FileTree.Fit renamedCorpus.cwd renamedCorpus.tree :=
    ⟨FileTree.wellFormed_of_entries (by simp only [Path.IsProper]; decide), FileTree.stands_nil _,
      FileTree.nulFree_of_entries (by simp [renamedCorpus])⟩
  have filtered : Filtered renamedCorpus [Path.parse "/c"] ".sol" ["bug.sol"]
      [⟨Path.parse "/c/bug.sol"⟩, ⟨Path.parse "/c/b.txt"⟩] :=
    discover_filtered fit (by rw [FileTree.Distinct]; decide) (by decide) (by decide)
      yields_renamedCorpus
  have unwanted : ¬ Wanted ".sol" ["bug.sol"] (Path.parse "/c/bug.sol").name := by
    intro wanted
    exact wanted.kept (by decide)
  apply (filtered.leaked _ unwanted).1
  exact List.mem_cons_self

/-- **An excluded file is entered, and one with another extension.** -/
theorem discover_renamed :
    ∃ entries, Yields renamedCorpus [Path.parse "/c"] ".sol" ["bug.sol"] entries ∧
      (∃ entry ∈ entries, entry.name ∈ (["bug.sol"] : List Name)) ∧
      ∃ entry ∈ entries, ¬ (".sol" : Text) <:+ entry.name := by
  refine ⟨_, yields_renamedCorpus, ?_, ?_⟩
  · exact ⟨⟨Path.parse "/c/bug.sol"⟩, List.mem_cons_self, by decide⟩
  · exact ⟨⟨Path.parse "/c/b.txt"⟩, List.mem_cons_of_mem _ List.mem_cons_self, by decide⟩

end Reimport.Corpus
