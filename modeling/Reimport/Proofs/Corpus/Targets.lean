import Reimport.Proofs.Corpus.Order
import Reimport.Proofs.FileTree.Searching
import Reimport.Proofs.Path.Glob
import Reimport.Proofs.Recording

/-!
# The row of files that a corpus is

The files of a corpus are found root by root, and below a root in the order of their paths.  A
file is entered under its path without links, and only where it is found first.  Sorting, which
looks at the paths as they were found, comes before the links are resolved, and leaving out what
is there already comes after it.

So the whole is one row: for every root its targets in order (`targets`), all of them one after
the other, and of each the first (`discover_cases`).  What a target is, is told by what stands
below the root and where it leads (`Found`).  The one thing that can go wrong is that the system
has to be asked about a path that is too long for it (`Answered`).
-/
namespace Reimport

namespace Corpus

variable {tree : FileTree} {cwd place : Place} {extension : Text} {excluded : List Name}
  {root path target : Path} {names : List Name}

/-! ## One root -/

/-- A file that is found below a root along some names, and the path that it is entered under. -/
structure Found (tree : FileTree) (cwd : Place) (extension : Text) (excluded : List Name)
    (root : Path) (names : List Name) (target : Path) : Prop where
  /-- The root is a directory. -/
  directory : tree.isDirectory cwd root = .ok true
  /-- The names lead to something below it, along directories that are no links. -/
  below : ∃ place node, tree.placeOf cwd true root = .ok place ∧
    tree.node? (place ++ names) = some node
  nonempty : names ≠ []
  /-- The name of the file ends with the extension. -/
  suffix : extension <:+ (root.down names).name
  /-- The name of the file is not excluded. -/
  kept : (root.down names).name ∉ excluded
  /-- It is a regular file, links followed. -/
  file : tree.isFile cwd (root.down names) = .ok true
  /-- Without links its path is the target. -/
  leads : tree.canonical cwd (root.down names) = .ok target

/-- The system answers all that is asked about a root: whether it is a directory, what is in the
directories below it, and whether what has a fitting name is a file. -/
structure Answered (tree : FileTree) (cwd : Place) (extension : Text) (root : Path) : Prop where
  asked : ∃ answer, tree.isDirectory cwd root = .ok answer
  listed : ∀ place names, tree.placeOf cwd true root = .ok place →
    tree.node? (place ++ names) = some .directory →
      ∃ found, tree.list cwd (root.down names) = .ok found
  looked : ∀ place names node, tree.placeOf cwd true root = .ok place →
    tree.node? (place ++ names) = some node → names ≠ [] →
      extension <:+ (root.down names).name →
        ∃ answer, tree.isFile cwd (root.down names) = .ok answer

/-- What is below a root with a fitting name, in order. -/
def rows (tree : FileTree) (cwd : Place) (extension : Text) (root : Path) : List (List Name) :=
  match tree.placeOf cwd true root with
  | .error _ => []
  | .ok place =>
    if tree.node? place = some .directory then
      sorted (tree.below place (Glob.matchesName ('*' :: extension)))
    else []

/-- The path that a file is entered under, unless it is none or excluded. -/
def target? (tree : FileTree) (cwd : Place) (excluded : List Name) (path : Path) : Option Path :=
  match tree.isFile cwd path with
  | .ok true => if excluded.contains path.name then none else (tree.canonical cwd path).toOption
  | _ => none

/-- The paths that the files below a root are entered under, in the order in which they are
found. -/
def targets (tree : FileTree) (cwd : Place) (extension : Text) (excluded : List Name)
    (root : Path) : List Path :=
  (rows tree cwd extension root).filterMap fun names => target? tree cwd excluded (root.down names)

theorem target?_eq_some :
    target? tree cwd excluded path = some target ↔
      tree.isFile cwd path = .ok true ∧ path.name ∉ excluded ∧
        tree.canonical cwd path = .ok target := by
  unfold target?
  split
  · rename_i file
    by_cases hm : path.name ∈ excluded
    · rw [if_pos (List.contains_iff_mem.2 hm)]
      exact iff_of_false (by simp) fun h => h.2.1 hm
    · rw [if_neg (mt List.contains_iff_mem.1 hm)]
      cases tree.canonical cwd path <;> simp [Except.toOption, file, hm]
  · rename_i none
    exact iff_of_false (by simp) fun h => none h.1

section Rows
variable (distinct : tree.Distinct) (wellFormed : tree.WellFormed)
  (literal : Glob.IsLiteral extension)
include distinct wellFormed literal

theorem mem_rows : names ∈ rows tree cwd extension root ↔
    (∃ place node, tree.placeOf cwd true root = .ok place ∧
      tree.node? (place ++ names) = some node) ∧ names ≠ [] ∧
        extension <:+ (root.down names).name := by
  unfold rows
  cases leads : tree.placeOf cwd true root with
  | error error => simp
  | ok place =>
    simp only [Except.ok.injEq, exists_and_left, exists_eq_left']
    by_cases directory : tree.node? place = some .directory
    · rw [if_pos directory, mem_sorted, FileTree.mem_below distinct wellFormed directory]
      constructor
      · rintro ⟨above, name, rfl, keeps, there⟩
        rw [Path.name_down]
        exact ⟨there, by simp, (Glob.matchesName_star literal).1 keeps⟩
      · rintro ⟨there, ne, suffix⟩
        obtain ⟨above, name, rfl⟩ := List.eq_nil_or_concat' names |>.resolve_left ne
        rw [Path.name_down] at suffix
        exact ⟨above, name, rfl, (Glob.matchesName_star literal).2 suffix, there⟩
    · rw [if_neg directory]
      refine iff_of_false List.not_mem_nil ?_
      -- whatever is below stands in a directory
      rintro ⟨⟨node, there⟩, ne, -⟩
      have above := (wellFormed.reached there).directory place (List.prefix_append _ _)
      exact directory (above (by simpa using ne))

theorem found_iff : Found tree cwd extension excluded root names target ↔
    names ∈ rows tree cwd extension root ∧
      target? tree cwd excluded (root.down names) = some target := by
  rw [mem_rows distinct wellFormed literal, target?_eq_some]
  constructor
  · rintro ⟨-, below, ne, suffix, kept, file, leads⟩
    exact ⟨⟨below, ne, suffix⟩, file, kept, leads⟩
  · rintro ⟨⟨below, ne, suffix⟩, file, kept, leads⟩
    have directory : tree.isDirectory cwd root = .ok true := by
      obtain ⟨place, node, hp, there⟩ := below
      have above := (wellFormed.reached there).directory place (List.prefix_append _ _)
      exact FileTree.isDirectory_eq_true.2 ⟨place, hp, above (by simpa using ne)⟩
    exact ⟨directory, below, ne, suffix, kept, file, leads⟩

/-- What is found has no other names than the root and the tree. -/
theorem plain_of_mem_rows (plain : Path.dot ∉ root.parts)
    (hm : names ∈ rows tree cwd extension root) : Path.dot ∉ (root.down names).parts := by
  obtain ⟨⟨place, node, -, there⟩, -, -⟩ := (mem_rows distinct wellFormed literal).1 hm
  intro hd
  rcases List.mem_append.1 hd with hd | hd
  · exact plain hd
  · exact (wellFormed.proper _ _ there _ (List.mem_append_right _ hd)).1 rfl

/-- A directory is answered for if all below it can be listed, and what is found be looked at. -/
theorem answered_iff (leads : tree.placeOf cwd true root = .ok place)
    (directory : tree.node? place = some .directory) :
    Answered tree cwd extension root ↔
      (∀ names, tree.node? (place ++ names) = some .directory →
        ∃ found, tree.list cwd (root.down names) = .ok found) ∧
      ∀ names ∈ rows tree cwd extension root,
        ∃ answer, tree.isFile cwd (root.down names) = .ok answer := by
  constructor
  · intro answered
    refine ⟨fun names standing => answered.listed place names leads standing, ?_⟩
    intro names hm
    obtain ⟨⟨other, node, hp, there⟩, ne, suffix⟩ := (mem_rows distinct wellFormed literal).1 hm
    exact answered.looked other names node hp there ne suffix
  · rintro ⟨listed, looked⟩
    constructor
    case asked => exact ⟨true, FileTree.isDirectory_eq_true.2 ⟨place, leads, directory⟩⟩
    case listed =>
      intro other names hp standing
      obtain rfl : place = other := Except.ok.inj (leads.symm.trans hp)
      exact listed names standing
    case looked =>
      intro other names node hp there ne suffix
      apply looked
      exact (mem_rows distinct wellFormed literal).2 ⟨⟨other, node, hp, there⟩, ne, suffix⟩

theorem mem_targets : target ∈ targets tree cwd extension excluded root ↔
    ∃ names, Found tree cwd extension excluded root names target := by
  unfold targets
  rw [List.mem_filterMap]
  simp only [found_iff distinct wellFormed literal]

end Rows

/-- Paths from one root are in the order of their names from there on. -/
theorem inOrder_down (found : List (List Name)) :
    inOrder (found.map root.down) = (sorted found).map root.down := by
  symm
  apply List.map_mergeSort
  intro names _ others _
  exact (namesBefore_append root.parts names others).symm

/-! ## Entering what is found -/

/-- What is entered next is left out if it is there already. -/
theorem eraseDups_concat (front : List Path) (path : Path) :
    (front ++ [path]).eraseDups =
      if front.eraseDups.contains path then front.eraseDups else front.eraseDups ++ [path] := by
  rw [List.eraseDups_append]
  by_cases hm : path ∈ front
  · rw [if_pos (List.contains_iff_mem.2 (List.mem_eraseDups.2 hm))]
    simp [List.removeAll, hm]
  · rw [if_neg (mt (fun h => List.mem_eraseDups.1 (List.contains_iff_mem.1 h)) hm)]
    simp [List.removeAll, hm, List.eraseDups_cons]

section Runs
variable {world : World}

/-- A file leads somewhere once its links are resolved. -/
theorem canonical_of_isFile (plain : Path.dot ∉ path.parts)
    (file : tree.isFile cwd path = .ok true) : ∃ target, tree.canonical cwd path = .ok target := by
  unfold FileTree.isFile FileTree.ask FileTree.status at file
  cases hp : tree.placeOf cwd true path with
  | error error =>
    rw [hp] at file
    simp only [bind, Except.bind] at file
    split at file <;> cases file
  | ok place =>
    refine ⟨Path.ofPlace place, ?_⟩
    unfold FileTree.canonical
    rw [FileTree.canonicalPlace_of_placeOf plain hp]
    rfl

/-- What the next path adds, once it is known whether it is a file. -/
theorem gather_cons {rest : List Path} {answer : Bool} (plain : Path.dot ∉ path.parts)
    (asked : world.tree.isFile world.cwd path = .ok answer) (front : List Path) :
    gather excluded front.eraseDups (path :: rest) world =
      gather excluded
        (front ++ (target? world.tree world.cwd excluded path).toList).eraseDups rest world := by
  have answered : Act.ask (fun tree cwd => tree.isFile cwd path) world = .ok answer world :=
    Act.ask_ok.2 ⟨asked, rfl⟩
  rw [gather, bind_of_ok answered]
  by_cases skipped : (!answer || excluded.contains path.name) = true
  · have none : target? world.tree world.cwd excluded path = none := by
      unfold target?
      rw [asked]
      cases answer with
      | false => rfl
      | true => exact if_pos skipped
    rw [if_pos skipped, none, Option.toList_none, List.append_nil]
  -- a file that is not left out has a target
  · rw [if_neg skipped]
    rw [Bool.or_eq_true, not_or, Bool.not_eq_true', Bool.not_eq_false] at skipped
    obtain ⟨rfl, kept⟩ := skipped
    obtain ⟨target, leads⟩ := canonical_of_isFile plain asked
    have entered : target? world.tree world.cwd excluded path = some target :=
      target?_eq_some.2 ⟨asked, mt List.contains_iff_mem.2 kept, leads⟩
    have resolved : Act.ask (fun tree cwd => tree.canonical cwd path) world =
        .ok target world := Act.ask_ok.2 ⟨leads, rfl⟩
    rw [bind_of_ok resolved, entered, Option.toList_some, eraseDups_concat]

/-- **What is found is entered where it comes first**, unless a path is too long: by induction
on the paths, what was found before is in `front`. -/
theorem gather_cases {paths : List Path} (plain : ∀ path ∈ paths, Path.dot ∉ path.parts)
    (front : List Path) :
    (∀ path ∈ paths, ∃ answer, world.tree.isFile world.cwd path = .ok answer) ∧
        gather excluded front.eraseDups paths world =
          .ok (front ++ paths.filterMap (target? world.tree world.cwd excluded)).eraseDups world ∨
      (∃ path ∈ paths, ∃ error, world.tree.isFile world.cwd path = .error error) ∧
        ∃ text, gather excluded front.eraseDups paths world =
          .error (.file (.system .nameTooLong text)) world := by
  induction paths generalizing front with
  | nil =>
    refine .inl ⟨fun _ hm => (nomatch hm), ?_⟩
    rw [List.filterMap_nil, List.append_nil]
    rfl
  | cons path rest ih =>
    cases asked : world.tree.isFile world.cwd path with
    | error error =>
      obtain rfl := FileTree.ask_error asked
      refine .inr ⟨⟨path, List.mem_cons_self, _, asked⟩, path.text, ?_⟩
      apply bind_of_error
      rw [Act.ask, asked]
    | ok answer =>
      -- what the path adds joins what was found before
      have joined : (front ++ (target? world.tree world.cwd excluded path).toList) ++
          rest.filterMap (target? world.tree world.cwd excluded) =
            front ++ (path :: rest).filterMap (target? world.tree world.cwd excluded) := by
        rw [List.append_assoc, List.filterMap_cons]
        cases target? world.tree world.cwd excluded path <;> rfl
      rw [gather_cons (plain path List.mem_cons_self) asked, ← joined]
      rcases ih (fun other ho => plain other (List.mem_cons_of_mem _ ho))
        (front ++ (target? world.tree world.cwd excluded path).toList) with
        ⟨all, he⟩ | ⟨⟨other, ho, failed⟩, he⟩
      · exact .inl ⟨List.forall_mem_cons.2 ⟨⟨answer, asked⟩, all⟩, he⟩
      · exact .inr ⟨⟨other, List.mem_cons_of_mem _ ho, failed⟩, he⟩

/-- That a root is missing can always be said. -/
theorem sure_missing (root : Path) :
    (Act.log .warning (.join ["Corpus directory not found: [path]", Markup.escape root.text,
      "[/path]"])).Sure := by
  apply Act.Sure.log
  have shown := Markup.render_tagged Markup.isNamed_path
    (Console.Level.warning.symbol ++ ("Corpus directory not found: " : Text))
    (Session.plain_of_all (by decide)) root.text
  simpa [Text.join] using shown

section Roots
variable (fit : FileTree.Fit world.cwd world.tree) (distinct : world.tree.Distinct)
  (literal : Glob.IsLiteral extension)
include fit

/-- Below what is no directory there is nothing. -/
theorem answered_of_missing (excluded : List Name)
    (asked : world.tree.isDirectory world.cwd root = .ok false) :
    Answered world.tree world.cwd extension root ∧
      targets world.tree world.cwd extension excluded root = [] := by
  have nothing : ∀ place, world.tree.placeOf world.cwd true root = .ok place →
      world.tree.node? place ≠ some .directory := by
    intro place hp directory
    rw [FileTree.isDirectory_eq_true.2 ⟨place, hp, directory⟩] at asked
    cases asked
  have answered : Answered world.tree world.cwd extension root := by
    constructor
    case asked => exact ⟨false, asked⟩
    case listed =>
      intro place names hp standing
      have stands := fit.wellFormed.stands standing
      exact absurd (stands.directory place (List.prefix_append _ _)) (nothing place hp)
    case looked =>
      intro place names node hp there ne _
      have above := (fit.wellFormed.reached there).directory place (List.prefix_append _ _)
      exact absurd (above (by simpa using ne)) (nothing place hp)
  refine ⟨answered, ?_⟩
  unfold targets rows
  cases hp : world.tree.placeOf world.cwd true root with
  | error error => rfl
  | ok place =>
    dsimp only
    rw [if_neg (nothing place hp)]
    rfl

include distinct literal

/-- A root that is a directory is searched, and what is found is entered. -/
theorem addRoot_of_directory (excluded : List Name) (plain : Path.dot ∉ root.parts)
    (asked : world.tree.isDirectory world.cwd root = .ok true) (front : List Path) :
    Answered world.tree world.cwd extension root ∧
        addRoot extension excluded front.eraseDups root world =
          .ok (front ++ targets world.tree world.cwd extension excluded root).eraseDups world ∨
      ¬ Answered world.tree world.cwd extension root ∧
        ∃ text, addRoot extension excluded front.eraseDups root world =
          .error (.file (.system .nameTooLong text)) world := by
  obtain ⟨wellFormed, -, free⟩ := fit
  obtain ⟨place, hp, directory⟩ := FileTree.isDirectory_eq_true.1 asked
  have answered : Act.ask (fun tree cwd => tree.isDirectory cwd root) world = .ok true world :=
    Act.ask_ok.2 ⟨asked, rfl⟩
  have searched : rows world.tree world.cwd extension root =
      sorted (world.tree.below place (Glob.matchesName ('*' :: extension))) := by
    rw [rows, hp]
    exact if_pos directory
  rw [addRoot, bind_of_ok answered, if_pos rfl, Glob.components?_star literal,
    answered_iff distinct wellFormed literal hp directory]
  dsimp only
  rcases FileTree.matching_cases ('*' :: extension) distinct wellFormed free hp directory with
    ⟨listed, hm⟩ | ⟨⟨names, standing, error, hl⟩, text, hm⟩
  swap
  -- the directory cannot be searched: one below it cannot be listed
  · refine .inr ⟨?_, text, bind_of_error (by rw [Act.ask, hm])⟩
    rintro ⟨listed, -⟩
    obtain ⟨found, hf⟩ := listed names standing
    rw [hl] at hf
    cases hf
  have found : Act.ask (fun tree cwd => tree.matching cwd root [.wild ('*' :: extension)]) world =
      .ok _ world := Act.ask_ok.2 ⟨hm, rfl⟩
  rw [bind_of_ok found, inOrder_down, ← searched]
  have plain' : ∀ path ∈ (rows world.tree world.cwd extension root).map root.down,
      Path.dot ∉ path.parts := by
    rw [List.forall_mem_map]
    exact fun names hm => plain_of_mem_rows distinct wellFormed literal plain hm
  -- or one of the paths that are found cannot be asked for
  rcases gather_cases plain' front with ⟨looked, hg⟩ | ⟨⟨path, hm, error, failed⟩, text, hg⟩
  · rw [List.forall_mem_map] at looked
    refine .inl ⟨⟨listed, looked⟩, ?_⟩
    rw [hg, List.filterMap_map]
    rfl
  · refine .inr ⟨?_, text, hg⟩
    rintro ⟨-, looked⟩
    obtain ⟨names, hr, rfl⟩ := List.mem_map.1 hm
    obtain ⟨answer, ha⟩ := looked names hr
    rw [failed] at ha
    cases ha

/-- **One more root** adds its targets, unless a path is too long; the files stay as they are. -/
theorem addRoot_cases (excluded : List Name) (plain : Path.dot ∉ root.parts) (front : List Path) :
    Answered world.tree world.cwd extension root ∧
        (∃ after, addRoot extension excluded front.eraseDups root world =
            .ok (front ++ targets world.tree world.cwd extension excluded root).eraseDups after ∧
          after.tree = world.tree ∧ after.cwd = world.cwd) ∨
      ¬ Answered world.tree world.cwd extension root ∧
        ∃ text after, addRoot extension excluded front.eraseDups root world =
          .error (.file (.system .nameTooLong text)) after := by
  cases asked : world.tree.isDirectory world.cwd root with
  | error error =>
    obtain rfl := FileTree.ask_error asked
    have unasked : ¬ Answered world.tree world.cwd extension root := by
      intro answered
      obtain ⟨answer, ha⟩ := answered.asked
      rw [asked] at ha
      cases ha
    exact .inr ⟨unasked, root.text, world, bind_of_error (by rw [Act.ask, asked])⟩
  | ok answer =>
    cases answer with
    | true =>
      rcases addRoot_of_directory fit distinct literal excluded plain asked front with
        ⟨all, hr⟩ | ⟨some, text, hr⟩
      · exact .inl ⟨all, world, hr, rfl, rfl⟩
      · exact .inr ⟨some, text, world, hr⟩
    | false =>
      have answered : Act.ask (fun tree cwd => tree.isDirectory cwd root) world =
          .ok false world := Act.ask_ok.2 ⟨asked, rfl⟩
      obtain ⟨all, none⟩ := answered_of_missing fit excluded asked
      obtain ⟨done, after, said⟩ := sure_missing root world
      refine .inl ⟨all, after, ?_, Act.log_ok said⟩
      rw [addRoot, bind_of_ok answered, if_neg Bool.false_ne_true, bind_of_ok said, none,
        List.append_nil]
      rfl

/-- **The roots are gone through one after the other**: by induction on those still to come. -/
theorem addRoots_cases (excluded : List Name) {roots : List Path}
    (plain : ∀ root ∈ roots, Path.dot ∉ root.parts) (front : List Path) :
    (∀ root ∈ roots, Answered world.tree world.cwd extension root) ∧
        (∃ after, roots.foldlM (addRoot extension excluded) front.eraseDups world =
          .ok (front ++ roots.flatMap (targets world.tree world.cwd extension excluded)).eraseDups
            after) ∨
      (¬ ∀ root ∈ roots, Answered world.tree world.cwd extension root) ∧
        ∃ text after, roots.foldlM (addRoot extension excluded) front.eraseDups world =
          .error (.file (.system .nameTooLong text)) after := by
  induction roots generalizing world front with
  | nil =>
    refine .inl ⟨fun _ hm => (nomatch hm), world, ?_⟩
    rw [List.flatMap_nil, List.append_nil]
    rfl
  | cons root rest ih =>
    have plain' : ∀ root ∈ rest, Path.dot ∉ root.parts :=
      fun other ho => plain other (List.mem_cons_of_mem _ ho)
    rw [List.foldlM_cons, List.forall_mem_cons, List.flatMap_cons, ← List.append_assoc]
    rcases addRoot_cases fit distinct literal excluded (plain root List.mem_cons_self) front with
      ⟨answered, middle, hr, htree, hcwd⟩ | ⟨unanswered, text, after, hr⟩
    · rw [bind_of_ok hr]
      -- what a root leaves differs in what was launched and said at most
      obtain ⟨tree, cwd, launches, stderr⟩ := middle
      obtain rfl : tree = world.tree := htree
      obtain rfl : cwd = world.cwd := hcwd
      have later := @ih ⟨world.tree, world.cwd, launches, stderr⟩ fit distinct plain' (front ++
        targets world.tree world.cwd extension excluded root)
      rcases later with ⟨all, done⟩ | ⟨some, failed⟩
      · exact .inl ⟨⟨answered, all⟩, done⟩
      · exact .inr ⟨fun all => some all.2, failed⟩
    · exact .inr ⟨fun all => unanswered all.1, text, after, bind_of_error hr⟩

/-- **A corpus is what is found first in the row of all targets**, unless a path is too long. -/
theorem discover_cases (excluded : List Name) {roots : List Path}
    (plain : ∀ root ∈ roots, Path.dot ∉ root.parts) :
    (∀ root ∈ roots, Answered world.tree world.cwd extension root) ∧
        (∃ after, discover roots extension excluded world =
          .ok ((roots.flatMap (targets world.tree world.cwd extension
            excluded)).eraseDups.map Entry.mk) after) ∨
      (¬ ∀ root ∈ roots, Answered world.tree world.cwd extension root) ∧
        ∃ text after, discover roots extension excluded world =
          .error (.file (.system .nameTooLong text)) after := by
  rw [discover]
  rcases addRoots_cases fit distinct literal excluded plain [] with
    ⟨answered, after, done⟩ | ⟨unanswered, text, after, failed⟩
  · exact .inl ⟨answered, after, bind_of_ok done⟩
  · exact .inr ⟨unanswered, text, after, bind_of_error failed⟩

end Roots

end Runs

end Corpus
end Reimport
