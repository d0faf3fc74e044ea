import Reimport.Proofs.Corpus.Targets

/-!
# What a corpus holds

Which files are entered and in which order is told by where they are found: by the number of a
root and the names from there on (`positions`).  A file is entered iff it is found somewhere, it
is entered once, and the entries are in the order of the least positions (`discover_spec`).

Since the row of all targets says it all, whatever leaves the first of each in place changes
nothing: another order in which directories are listed, a root that is missing, a root below
which nothing is found but what an earlier one has brought, as one that repeats an earlier one or
is a directory below it.

Nothing is entered at all where the system is asked about a path that is too long for it, which
a link with a long target is enough for (`discover_tooLong`).
-/
namespace Reimport

namespace FileTree.Agrees
variable {tree other : FileTree} {cwd : Place} (agrees : tree.Agrees other)
include agrees

theorem symm : other.Agrees tree := fun place => (agrees place).symm

theorem ask (path : Path) (answer : Node → Bool) :
    tree.ask cwd path answer = other.ask cwd path answer := by
  rw [FileTree.ask, FileTree.ask, agrees.status]

theorem nulFree (h : tree.NulFree) : other.NulFree := by
  constructor
  · intro place node hn
    rw [← agrees] at hn
    exact h.name place node hn
  · intro place target hl
    rw [← agrees.linkTarget?] at hl
    exact h.target place target hl

theorem fit (h : Fit cwd tree) : Fit cwd other :=
  ⟨agrees.wellFormed h.wellFormed, agrees.stands h.home, agrees.nulFree h.free⟩

end FileTree.Agrees

/-- A path can be listed iff it leads to a directory. -/
theorem FileTree.list_ok_iff {tree : FileTree} {cwd : Place} {path : Path} :
    (∃ found, tree.list cwd path = .ok found) ↔ tree.isDirectory cwd path = .ok true := by
  rw [isDirectory_eq_true]
  unfold list
  cases tree.placeOf cwd true path with
  | error error => simp [bind, Except.bind]
  | ok place =>
    simp only [bind, Except.bind, Except.ok.injEq, exists_eq_left']
    cases tree.node? place with
    | none => simp
    | some node => cases node <;> simp

namespace Corpus

/-- Where a file is found: the number of a root and the names from there on, the numbers compared
before the names and those one by one. -/
abbrev Position := ℕ ×ₗ List Name

/-- The positions at which a file is found. -/
def positions (tree : FileTree) (cwd : Place) (extension : Text) (excluded : List Name)
    (roots : List Path) (target : Path) : Set Position :=
  {position | ∃ root, roots[(ofLex position).1]? = some root ∧
    Found tree cwd extension excluded root (ofLex position).2 target}

/-- The targets of all roots, each with its position. -/
def located (tree : FileTree) (cwd : Place) (extension : Text) (excluded : List Name)
    (roots : List Path) : List (Position × Path) :=
  roots.zipIdx.flatMap fun (root, number) =>
    (rows tree cwd extension root).filterMap fun names =>
      (target? tree cwd excluded (root.down names)).map (toLex (number, names), ·)

section Positions
variable {tree other : FileTree} {cwd : Place} {extension : Text} {excluded : List Name}
  {roots : List Path} {root target : Path} {names : List Name}

theorem map_located : (located tree cwd extension excluded roots).map Prod.snd =
    roots.flatMap (targets tree cwd extension excluded) := by
  have one : ∀ root number, ((rows tree cwd extension root).filterMap fun names =>
      (target? tree cwd excluded (root.down names)).map
        ((toLex (number, names) : Position), ·)).map Prod.snd =
      targets tree cwd extension excluded root := by
    intro root number
    rw [List.map_filterMap, targets]
    refine List.filterMap_congr fun names _ => ?_
    cases target? tree cwd excluded (root.down names) <;> rfl
  unfold located
  rw [List.map_flatMap]
  simp only [one]
  rw [← List.flatMap_map, List.zipIdx_map_fst]

theorem mem_located (distinct : tree.Distinct) (wellFormed : tree.WellFormed)
    (literal : Glob.IsLiteral extension) {position : Position} :
    (position, target) ∈ located tree cwd extension excluded roots ↔
      position ∈ positions tree cwd extension excluded roots target := by
  simp only [located, List.mem_flatMap, List.mem_filterMap, Option.map_eq_some_iff, Prod.mk.injEq]
  constructor
  · rintro ⟨⟨root, number⟩, hr, names, hn, _, ht, rfl, rfl⟩
    exact ⟨root, List.mk_mem_zipIdx_iff_getElem?.1 hr,
      (found_iff distinct wellFormed literal).2 ⟨hn, ht⟩⟩
  · rintro ⟨root, hr, found⟩
    obtain ⟨hn, ht⟩ := (found_iff distinct wellFormed literal).1 found
    exact ⟨(root, _), List.mk_mem_zipIdx_iff_getElem?.2 hr, _, hn, target, ht, rfl, rfl⟩

theorem keysOf_located (distinct : tree.Distinct) (wellFormed : tree.WellFormed)
    (literal : Glob.IsLiteral extension) (target : Path) :
    keysOf (located tree cwd extension excluded roots) target =
      positions tree cwd extension excluded roots target :=
  Set.ext fun _ => mem_located distinct wellFormed literal

theorem pairwise_rows (tree : FileTree) (cwd : Place) (extension : Text) (root : Path) :
    (rows tree cwd extension root).Pairwise (· ≤ ·) := by
  unfold rows
  split
  · exact List.Pairwise.nil
  · split
    · exact pairwise_sorted _
    · exact List.Pairwise.nil

/-- The row of all targets goes by ascending positions. -/
theorem pairwise_located :
    (located tree cwd extension excluded roots).Pairwise (·.1 ≤ ·.1) := by
  unfold located
  rw [List.pairwise_flatMap]
  constructor
  -- below one root the names decide
  · rintro ⟨root, number⟩ -
    rw [List.pairwise_filterMap]
    apply (pairwise_rows tree cwd extension root).imp
    intro names others before row hr row' hr'
    obtain ⟨_, -, rfl⟩ := Option.map_eq_some_iff.1 hr
    obtain ⟨_, -, rfl⟩ := Option.map_eq_some_iff.1 hr'
    exact Prod.Lex.toLex_le_toLex.2 (.inr ⟨rfl, before⟩)
  -- below two roots their numbers do
  · have numbered : roots.zipIdx.Pairwise (·.2 < ·.2) := by
      rw [← List.pairwise_map, List.zipIdx_map_snd]
      exact List.pairwise_lt_range'
    apply numbered.imp
    intro first second before row hr row' hr'
    obtain ⟨_, -, he⟩ := List.mem_filterMap.1 hr
    obtain ⟨_, -, he'⟩ := List.mem_filterMap.1 hr'
    obtain ⟨_, -, rfl⟩ := Option.map_eq_some_iff.1 he
    obtain ⟨_, -, rfl⟩ := Option.map_eq_some_iff.1 he'
    exact Prod.Lex.toLex_le_toLex.2 (.inl before)

/-- At one position one file is found. -/
theorem single_located (distinct : tree.Distinct) (wellFormed : tree.WellFormed)
    (literal : Glob.IsLiteral extension) :
    ∀ row ∈ located tree cwd extension excluded roots,
      ∀ row' ∈ located tree cwd extension excluded roots, row.1 = row'.1 → row.2 = row'.2 := by
  rintro ⟨position, target⟩ hr ⟨_, target'⟩ hr' rfl
  obtain ⟨root, hroot, found⟩ := (mem_located distinct wellFormed literal).1 hr
  obtain ⟨root', hroot', found'⟩ := (mem_located distinct wellFormed literal).1 hr'
  obtain rfl : root = root' := Option.some.inj (hroot.symm.trans hroot')
  exact Except.ok.inj (found.leads.symm.trans found'.leads)

end Positions

/-! ## What does not matter -/

section Same
variable {tree other : FileTree} {cwd : Place} {extension : Text} {excluded : List Name}
  {root : Path}

/-- The order in which directories are listed does not matter to what is found. -/
theorem targets_of_perm (distinct : tree.Distinct) (h : other.entries.Perm tree.entries) :
    targets other cwd extension excluded root = targets tree cwd extension excluded root := by
  have agrees := FileTree.agrees_of_perm distinct h
  have same : rows other cwd extension root = rows tree cwd extension root := by
    unfold rows
    rw [agrees.placeOf]
    cases tree.placeOf cwd true root with
    | error error => rfl
    | ok place => simp only [agrees place, sorted_eq_of_perm (FileTree.perm_below h place _)]
  have entered : target? other cwd excluded = target? tree cwd excluded := by
    funext path
    unfold target? FileTree.isFile
    rw [agrees.ask, agrees.canonical]
  unfold targets
  rw [same, entered]

theorem Answered.of_agrees (h : Answered tree cwd extension root) (agrees : tree.Agrees other) :
    Answered other cwd extension root := by
  constructor
  case asked =>
    unfold FileTree.isDirectory
    rw [← agrees.ask]
    exact h.asked
  case listed =>
    intro place names hp standing
    rw [← agrees.placeOf] at hp
    rw [← agrees] at standing
    have listed := FileTree.list_ok_iff.1 (h.listed place names hp standing)
    unfold FileTree.isDirectory at listed
    rw [agrees.ask] at listed
    exact FileTree.list_ok_iff.2 listed
  case looked =>
    intro place names node hp there ne suffix
    rw [← agrees.placeOf] at hp
    rw [← agrees] at there
    unfold FileTree.isFile
    rw [← agrees.ask]
    exact h.looked place names node hp there ne suffix

/-- `root` is the directory `base`, or one below it that is reached along no link. -/
def IsWithin (tree : FileTree) (cwd : Place) (base root : Path) : Prop :=
  ∃ place names, root = base.down names ∧ tree.placeOf cwd true base = .ok place ∧
    tree.node? (place ++ names) = some .directory

section Within
variable {base : Path} (wellFormed : tree.WellFormed) (free : tree.NulFree)
  (within : IsWithin tree cwd base root)
include wellFormed free within

theorem placeOf_of_isWithin {place : Place} (h : tree.placeOf cwd true root = .ok place) :
    ∃ above names, root = base.down names ∧ tree.placeOf cwd true base = .ok above ∧
      place = above ++ names := by
  obtain ⟨above, names, rfl, leads, standing⟩ := within
  refine ⟨above, names, rfl, leads, ?_⟩
  rcases FileTree.placeOf_down wellFormed free leads standing with hp | hp
  · rw [h] at hp
    exact Except.ok.inj hp
  · rw [h] at hp
    cases hp

/-- What is found below the inner root is found below the outer one. -/
theorem Found.of_isWithin {names : List Name} {target : Path}
    (found : Found tree cwd extension excluded root names target) :
    ∃ names, Found tree cwd extension excluded base names target := by
  obtain ⟨place, node, hp, there⟩ := found.below
  obtain ⟨above, between, rfl, leads, rfl⟩ := placeOf_of_isWithin wellFormed free within hp
  rw [List.append_assoc] at there
  have ne : between ++ names ≠ [] := List.append_ne_nil_of_right_ne_nil _ found.nonempty
  refine ⟨between ++ names, ?_, ⟨above, node, leads, there⟩, ne, ?_, ?_, ?_, ?_⟩
  · refine FileTree.isDirectory_eq_true.2 ⟨above, leads, ?_⟩
    exact (wellFormed.reached there).directory above (List.prefix_append _ _) (by simpa using ne)
  all_goals rw [Path.down_append]
  · exact found.suffix
  · exact found.kept
  · exact found.file
  · exact found.leads

theorem Answered.of_isWithin (h : Answered tree cwd extension base) :
    Answered tree cwd extension root := by
  constructor
  case asked =>
    obtain ⟨above, names, rfl, leads, standing⟩ := within
    exact ⟨true, FileTree.list_ok_iff.1 (h.listed above names leads standing)⟩
  case listed =>
    intro place names hp standing
    obtain ⟨above, between, rfl, leads, rfl⟩ := placeOf_of_isWithin wellFormed free within hp
    rw [List.append_assoc] at standing
    rw [← Path.down_append]
    exact h.listed above _ leads standing
  case looked =>
    intro place names node hp there ne suffix
    obtain ⟨above, between, rfl, leads, rfl⟩ := placeOf_of_isWithin wellFormed free within hp
    rw [List.append_assoc] at there
    rw [← Path.down_append] at suffix ⊢
    apply h.looked above _ node leads there _ suffix
    exact List.append_ne_nil_of_right_ne_nil _ ne

end Within

end Same

/-- What is among the first of a row can be left out behind them. -/
theorem eraseDups_absorb {front middle back : List Path} (h : ∀ path ∈ middle, path ∈ front) :
    (front ++ (middle ++ back)).eraseDups = (front ++ back).eraseDups := by
  have gone : middle.removeAll front = [] := by
    unfold List.removeAll
    rw [List.filter_eq_nil_iff]
    intro path hm
    simpa using h path hm
  have apart : (middle ++ back).removeAll front = middle.removeAll front ++ back.removeAll front :=
    List.filter_append _ _
  rw [List.eraseDups_append, List.eraseDups_append, apart, gone, List.nil_append]

/-! ## The entries of a corpus -/

/-- Some roots are discovered, and these are the entries. -/
def Yields (world : World) (roots : List Path) (extension : Text) (excluded : List Name)
    (entries : List Entry) : Prop :=
  ∃ after, discover roots extension excluded world = .ok entries after

/-- **What discovering some roots yields.** -/
structure Discovered (world : World) (roots : List Path) (extension : Text)
    (excluded : List Name) : Prop where
  /-- It yields entries iff the system answers all that is asked. -/
  yields : (∃ entries, Yields world roots extension excluded entries) ↔
    ∀ root ∈ roots, Answered world.tree world.cwd extension root
  /-- Otherwise a path is too long for the system. -/
  fails : (¬ ∃ entries, Yields world roots extension excluded entries) →
    ∃ text after, discover roots extension excluded world =
      .error (.file (.system .nameTooLong text)) after
  /-- No entry is there twice. -/
  distinct : ∀ entries, Yields world roots extension excluded entries → entries.Nodup
  /-- The entries are the files that are found below some root. -/
  found : ∀ entries, Yields world roots extension excluded entries → ∀ path,
    Entry.mk path ∈ entries ↔ ∃ root ∈ roots, ∃ names,
      Found world.tree world.cwd extension excluded root names path
  /-- There is a first position at which an entry is found. -/
  first : ∀ entries, Yields world roots extension excluded entries → ∀ entry ∈ entries,
    ∃ position,
      IsLeast (positions world.tree world.cwd extension excluded roots entry.path) position
  /-- The entries are in the order of these. -/
  ordered : ∀ entries, Yields world roots extension excluded entries →
    entries.Pairwise fun entry entry' => ∀ position position',
      IsLeast (positions world.tree world.cwd extension excluded roots entry.path) position →
      IsLeast (positions world.tree world.cwd extension excluded roots entry'.path) position' →
        position < position'
  /-- How directories are listed does not matter. -/
  listing : ∀ other : FileTree, other.entries.Perm world.tree.entries → ∀ entries,
    (Yields { world with tree := other } roots extension excluded entries ↔
      Yields world roots extension excluded entries)
  /-- A root that is missing contributes nothing. -/
  missing : ∀ before root later, roots = before ++ root :: later →
    world.tree.isDirectory world.cwd root = .ok false → ∀ entries,
      (Yields world roots extension excluded entries ↔
        Yields world (before ++ later) extension excluded entries)
  /-- A root below which only that is found which earlier ones have brought changes nothing. -/
  covered : ∀ before root later, roots = before ++ root :: later →
    Answered world.tree world.cwd extension root →
    (∀ names path, Found world.tree world.cwd extension excluded root names path →
      ∃ base ∈ before, ∃ names, Found world.tree world.cwd extension excluded base names path) →
    ∀ entries, (Yields world roots extension excluded entries ↔
      Yields world (before ++ later) extension excluded entries)
  /-- A root that repeats an earlier one or is a directory below it, reached along no link,
  changes nothing. -/
  repeated : ∀ before root later, roots = before ++ root :: later →
    (∃ base ∈ before, root = base ∨ IsWithin world.tree world.cwd base root) → ∀ entries,
      (Yields world roots extension excluded entries ↔
        Yields world (before ++ later) extension excluded entries)

section Discovering
variable {world : World} {roots : List Path} {extension : Text} {excluded : List Name}
  {entries : List Entry} (fit : FileTree.Fit world.cwd world.tree)
  (distinct : world.tree.Distinct) (literal : Glob.IsLiteral extension)
include fit distinct literal

/-- **The entries are the first of each in the row of all targets.** -/
theorem yields_iff (plain : ∀ root ∈ roots, Path.dot ∉ root.parts) :
    Yields world roots extension excluded entries ↔
      (∀ root ∈ roots, Answered world.tree world.cwd extension root) ∧
        entries = (roots.flatMap (targets world.tree world.cwd extension
          excluded)).eraseDups.map Entry.mk := by
  rcases discover_cases fit distinct literal excluded plain with
    ⟨answered, after, done⟩ | ⟨unanswered, text, after, failed⟩
  · constructor
    · rintro ⟨after', h⟩
      rw [done] at h
      cases h
      exact ⟨answered, rfl⟩
    · rintro ⟨-, rfl⟩
      exact ⟨after, done⟩
  · refine iff_of_false ?_ fun h => unanswered h.1
    rintro ⟨after', h⟩
    rw [failed] at h
    cases h

/-- **The entries are the files that are found.** -/
theorem mem_of_yields (plain : ∀ root ∈ roots, Path.dot ∉ root.parts)
    (yielded : Yields world roots extension excluded entries) (path : Path) :
    Entry.mk path ∈ entries ↔ ∃ root ∈ roots, ∃ names,
      Found world.tree world.cwd extension excluded root names path := by
  obtain ⟨-, rfl⟩ := (yields_iff fit distinct literal plain).1 yielded
  simp only [List.mem_map, Entry.mk.injEq, exists_eq_right, List.mem_eraseDups, List.mem_flatMap,
    mem_targets distinct fit.wellFormed literal]

/-- Leaving out what was found before changes nothing. -/
theorem yields_of_covered {before later : List Path} {root : Path}
    (plain : ∀ other ∈ before ++ root :: later, Path.dot ∉ other.parts)
    (answered : (∀ base ∈ before, Answered world.tree world.cwd extension base) →
      Answered world.tree world.cwd extension root)
    (covered : ∀ path ∈ targets world.tree world.cwd extension excluded root,
      path ∈ before.flatMap (targets world.tree world.cwd extension excluded)) :
    Yields world (before ++ root :: later) extension excluded entries ↔
      Yields world (before ++ later) extension excluded entries := by
  have plain' : ∀ other ∈ before ++ later, Path.dot ∉ other.parts := by
    intro other ho
    apply plain other
    rcases List.mem_append.1 ho with ho | ho
    · exact List.mem_append_left _ ho
    · exact List.mem_append_right _ (List.mem_cons_of_mem _ ho)
  have same : (before.flatMap (targets world.tree world.cwd extension excluded) ++
      (targets world.tree world.cwd extension excluded root ++
        later.flatMap (targets world.tree world.cwd extension excluded))).eraseDups =
      (before.flatMap (targets world.tree world.cwd extension excluded) ++
        later.flatMap (targets world.tree world.cwd extension excluded)).eraseDups :=
    eraseDups_absorb covered
  rw [yields_iff fit distinct literal plain, yields_iff fit distinct literal plain',
    List.flatMap_append, List.flatMap_append, List.flatMap_cons, same]
  simp only [List.forall_mem_append, List.forall_mem_cons]
  constructor
  · rintro ⟨⟨hb, -, hl⟩, he⟩
    exact ⟨⟨hb, hl⟩, he⟩
  · rintro ⟨⟨hb, hl⟩, he⟩
    exact ⟨⟨hb, answered hb, hl⟩, he⟩

/-- However directories are listed, the entries are the same. -/
theorem yields_of_perm {other : FileTree} (plain : ∀ root ∈ roots, Path.dot ∉ root.parts)
    (h : other.entries.Perm world.tree.entries) :
    Yields { world with tree := other } roots extension excluded entries ↔
      Yields world roots extension excluded entries := by
  have agrees := FileTree.agrees_of_perm distinct h
  have fit' : FileTree.Fit world.cwd other := agrees.symm.fit fit
  have distinct' : other.Distinct := (h.map Prod.fst).nodup_iff.2 distinct
  have same : targets other world.cwd extension excluded =
      targets world.tree world.cwd extension excluded :=
    funext fun _ => targets_of_perm distinct h
  have other_iff := @yields_iff { world with tree := other } roots extension excluded entries fit'
    distinct' literal plain
  rw [yields_iff fit distinct literal plain, other_iff]
  dsimp only
  rw [same]
  refine and_congr_left' (forall₂_congr fun root _ => ?_)
  exact ⟨fun answered => answered.of_agrees agrees, fun answered => answered.of_agrees agrees.symm⟩

omit fit in
/-- What is found somewhere is found somewhere first. -/
theorem exists_first (wellFormed : world.tree.WellFormed) {path : Path}
    (hm : path ∈ roots.flatMap (targets world.tree world.cwd extension excluded)) :
    ∃ position,
      IsLeast (positions world.tree world.cwd extension excluded roots path) position := by
  rw [← keysOf_located distinct wellFormed literal]
  rw [← map_located] at hm
  exact exists_isLeast pairwise_located hm

omit fit in
/-- **What is kept is ordered by where it is found first.** -/
theorem pairwise_targets (wellFormed : world.tree.WellFormed) :
    (roots.flatMap (targets world.tree world.cwd extension excluded)).eraseDups.Pairwise
      fun path path' => ∀ position position',
        IsLeast (positions world.tree world.cwd extension excluded roots path) position →
        IsLeast (positions world.tree world.cwd extension excluded roots path') position' →
          position < position' := by
  have ordered := pairwise_eraseDups pairwise_located
    (@single_located world.tree world.cwd extension excluded roots distinct wellFormed literal)
  rw [map_located] at ordered
  simpa only [keysOf_located distinct wellFormed literal] using ordered

/-- **What is discovered** is what is found below the roots, each file where it comes first. -/
theorem discover_spec (plain : ∀ root ∈ roots, Path.dot ∉ root.parts) :
    Discovered world roots extension excluded := by
  have wellFormed := fit.wellFormed
  have row := @yields_iff world roots extension excluded
  have ordered := @pairwise_targets world roots extension excluded distinct literal wellFormed
  constructor
  case yields =>
    constructor
    · rintro ⟨entries, h⟩
      exact ((row fit distinct literal plain).1 h).1
    · intro answered
      exact ⟨_, (row fit distinct literal plain).2 ⟨answered, rfl⟩⟩
  case fails =>
    intro nothing
    rcases discover_cases fit distinct literal excluded plain with ⟨-, after, done⟩ | ⟨-, failed⟩
    · exact absurd ⟨_, after, done⟩ nothing
    · exact failed
  case distinct =>
    intro entries h
    obtain ⟨-, rfl⟩ := (row fit distinct literal plain).1 h
    apply List.pairwise_map.2
    apply ordered.imp_of_mem
    -- an entry that was there twice would come before itself
    rintro path _ hm - before ⟨⟩
    obtain ⟨position, first⟩ := exists_first distinct literal wellFormed (List.mem_eraseDups.1 hm)
    exact lt_irrefl _ (before position position first first)
  case found =>
    intro entries h
    exact mem_of_yields fit distinct literal plain h
  case first =>
    intro entries h entry hm
    obtain ⟨-, rfl⟩ := (row fit distinct literal plain).1 h
    obtain ⟨path, hp, rfl⟩ := List.mem_map.1 hm
    exact exists_first distinct literal wellFormed (List.mem_eraseDups.1 hp)
  case ordered =>
    intro entries h
    obtain ⟨-, rfl⟩ := (row fit distinct literal plain).1 h
    exact List.pairwise_map.2 ordered
  case listing =>
    intro other permuted entries
    exact yields_of_perm fit distinct literal plain permuted
  case missing =>
    rintro before root later rfl asked entries
    obtain ⟨answered, none⟩ := @answered_of_missing extension root world fit excluded asked
    apply yields_of_covered fit distinct literal plain (fun _ => answered)
    intro path hm
    rw [none] at hm
    cases hm
  case covered =>
    rintro before root later rfl answered brought entries
    apply yields_of_covered fit distinct literal plain (fun _ => answered)
    intro path hm
    obtain ⟨names, found⟩ := (mem_targets distinct wellFormed literal).1 hm
    obtain ⟨base, hb, found⟩ := brought names path found
    exact List.mem_flatMap.2 ⟨base, hb, (mem_targets distinct wellFormed literal).2 found⟩
  case repeated =>
    rintro before root later rfl ⟨base, hb, again⟩ entries
    rcases again with rfl | within
    · apply yields_of_covered fit distinct literal plain
      · intro answered
        exact answered root hb
      · intro path hm
        exact List.mem_flatMap.2 ⟨root, hb, hm⟩
    · apply yields_of_covered fit distinct literal plain
      · intro answered
        exact (answered base hb).of_isWithin wellFormed fit.free within
      · intro path hm
        obtain ⟨names, found⟩ := (mem_targets distinct wellFormed literal).1 hm
        have outer := found.of_isWithin wellFormed fit.free within
        exact List.mem_flatMap.2 ⟨base, hb, (mem_targets distinct wellFormed literal).2 outer⟩

end Discovering

/-- A corpus with two names for one file. -/
def linkedCorpus : World where
  tree := ⟨[([['c']], .directory), ([['c'], "b.sol"], .file []), ([['c'], "a.sol"], .link "b.sol"),
    ([['c'], ['d']], .directory), ([['c'], ['d'], "x.sol"], .file [])]⟩
  cwd := []
  launches := []
  stderr := []

/-- The file with two names is found first under the name of the link, and the directory below
changes nothing. -/
theorem discover_spec_linked :
    Yields linkedCorpus [Path.parse "/c", Path.parse "/c/d"] ".sol" []
      [⟨Path.parse "/c/b.sol"⟩, ⟨Path.parse "/c/d/x.sol"⟩] := by
  have fit : FileTree.Fit linkedCorpus.cwd linkedCorpus.tree :=
    ⟨FileTree.wellFormed_of_entries (by simp only [Path.IsProper]; decide), FileTree.stands_nil _,
      FileTree.nulFree_of_entries (by simp [linkedCorpus])⟩
  have discovered : Discovered linkedCorpus [Path.parse "/c", Path.parse "/c/d"] ".sol" [] :=
    discover_spec fit (by rw [FileTree.Distinct]; decide) (by decide) (by decide)
  refine (discovered.repeated [Path.parse "/c"] _ [] rfl ⟨_, List.mem_singleton_self _, .inr ?_⟩
    _).2 ⟨linkedCorpus, by cbv⟩
  exact ⟨[['c']], [['d']], by decide, by cbv, by cbv⟩

/-- A corpus with a link whose target is longer than a name can be. -/
def overlongCorpus : World where
  tree := ⟨[([['c']], .directory), ([['c'], "a.sol"], .file []),
    ([['c'], "l.sol"], .link (List.replicate 256 'x'))]⟩
  cwd := []
  launches := []
  stderr := []

set_option maxRecDepth 4000 in
/-- A file is found, but the system refuses to say where the link next to it leads. -/
theorem discover_tooLong :
    FileTree.Fit overlongCorpus.cwd overlongCorpus.tree ∧ overlongCorpus.tree.Distinct ∧
      Found overlongCorpus.tree overlongCorpus.cwd ".sol" [] (Path.parse "/c") ["a.sol"]
        (Path.parse "/c/a.sol") ∧
      discover [Path.parse "/c"] ".sol" [] overlongCorpus =
        .error (.file (.system .nameTooLong "/c/l.sol")) overlongCorpus ∧
      ¬ ∃ entries, Yields overlongCorpus [Path.parse "/c"] ".sol" [] entries := by
  have refused : discover [Path.parse "/c"] ".sol" [] overlongCorpus =
      .error (.file (.system .nameTooLong "/c/l.sol")) overlongCorpus := by
    cbv
  refine ⟨⟨FileTree.wellFormed_of_entries (by simp only [Path.IsProper]; decide),
    FileTree.stands_nil _, FileTree.nulFree_of_entries ?_⟩, by rw [FileTree.Distinct]; decide,
    ⟨by cbv, ⟨[['c']], .file [], by cbv, by cbv⟩, by decide, by decide, by decide, by cbv, by cbv⟩,
    refused, ?_⟩
  · simp [overlongCorpus, List.mem_replicate, -List.reduceReplicate]
  · rintro ⟨entries, after, h⟩
    rw [refused] at h
    cases h

end Corpus
end Reimport
