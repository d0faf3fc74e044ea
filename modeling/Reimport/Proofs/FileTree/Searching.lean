import Mathlib
import Reimport.FileTree.Search
import Reimport.Proofs.FileTree.Agreement
import Reimport.Proofs.FileTree.Descent
import Reimport.Proofs.FileTree.NulFree
import Reimport.Proofs.Results

/-!
# What a search finds

A search for a name lists the directories at and below a place that are reached along no link,
and of each the names that fit.  So it finds what stands at a place below and has such a name
(`mem_below`), each directory under the path of its place (`placeOf_down`).  How the tree happens
to list its entries makes no difference but to the order (`perm_below`).

The one error that a search can end with is that a path is too long for the system
(`list_down`, `ask_error`), and it ends so iff a directory cannot be listed (`matching_cases`).
-/
namespace Reimport

/-- The path on from `base` along some names. -/
abbrev Path.down (base : Path) (names : List Name) : Path := ⟨base.root, base.parts ++ names⟩

theorem Path.down_append (base : Path) (first second : List Name) :
    base.down (first ++ second) = (base.down first).down second := by
  rw [down, down, List.append_assoc]

theorem Path.name_down (base : Path) (names : List Name) (name : Name) :
    (base.down (names ++ [name])).name = name := by
  rw [Path.name, down, ← List.append_assoc, List.getLast?_concat, Option.getD_some]

namespace FileTree

/-! ## What is listed -/

/-- No place is listed twice. -/
def Distinct (tree : FileTree) : Prop := (tree.entries.map Prod.fst).Nodup

section Listing
variable {tree other : FileTree} {place : Place} {name : Name} {names : List Name} {node : Node}

theorem node?_of_mem_entries (distinct : tree.Distinct) (hm : (place, node) ∈ tree.entries)
    (ne : place ≠ []) : tree.node? place = some node := by
  rw [node?, if_neg ne]
  obtain ⟨entries⟩ := tree
  induction entries with
  | nil => cases hm
  | cons entry rest ih =>
    obtain ⟨alone, distinct⟩ := List.nodup_cons.1 distinct
    rw [lookup_cons_eq]
    rcases List.mem_cons.1 hm with rfl | hm
    · rw [if_pos rfl]
    · have ne' : place ≠ entry.1 := by
        intro he
        apply alone
        exact List.mem_map.2 ⟨_, hm, he⟩
      rw [if_neg ne', ih distinct hm]

theorem mem_entries_iff (distinct : tree.Distinct) (ne : place ≠ []) :
    (place, node) ∈ tree.entries ↔ tree.node? place = some node :=
  ⟨fun hm => node?_of_mem_entries distinct hm ne, fun hn => mem_entries_of_node? hn ne⟩

/-- Trees that list the same in another order hold the same. -/
theorem agrees_of_perm (distinct : tree.Distinct) (h : other.entries.Perm tree.entries) :
    other.Agrees tree := by
  have distinct' : other.Distinct := (h.map Prod.fst).nodup_iff.2 distinct
  intro place
  by_cases ne : place = []
  · rw [ne, node?_nil, node?_nil]
  · apply Option.ext
    intro node
    rw [← mem_entries_iff distinct ne, ← mem_entries_iff distinct' ne, h.mem_iff]

theorem mem_childNames :
    name ∈ tree.childNames place ↔ ∃ node, tree.node? (place ++ [name]) = some node := by
  constructor
  · exact node?_of_mem_childNames
  · rintro ⟨node, hn⟩
    apply List.mem_filterMap.2
    exact ⟨_, mem_entries_of_node? hn (by simp), by simp⟩

/-- **The directories below a directory** are those whose places are below. -/
theorem mem_directoriesBelow (distinct : tree.Distinct)
    (directory : tree.node? place = some .directory) :
    names ∈ tree.directoriesBelow place ↔ tree.node? (place ++ names) = some .directory := by
  unfold directoriesBelow
  rw [List.mem_cons, List.mem_filterMap]
  constructor
  · rintro (rfl | ⟨⟨below, node⟩, hm, he⟩)
    · rwa [List.append_nil]
    · cases node with
      | file _ => cases he
      | link _ => cases he
      | directory =>
        simp only [Option.ite_none_right_eq_some, Bool.and_eq_true, List.isPrefixOf_iff_prefix,
          decide_eq_true_eq, Option.some.injEq] at he
        obtain ⟨⟨⟨rest, rfl⟩, longer⟩, rfl⟩ := he
        rw [List.drop_left]
        apply node?_of_mem_entries distinct hm
        intro he
        rw [he] at longer
        exact absurd longer (Nat.not_lt_zero _)
  · intro hd
    by_cases ne : names = []
    · exact .inl ne
    · refine .inr ⟨_, mem_entries_of_node? hd (by simp [ne]), ?_⟩
      have longer : place.length < (place ++ names).length := by
        have := List.length_pos_iff.2 ne
        rw [List.length_append]
        omega
      have inside : place.isPrefixOf (place ++ names) = true :=
        List.isPrefixOf_iff_prefix.2 (List.prefix_append _ _)
      simp only [inside, longer, decide_true, Bool.and_true, if_true, List.drop_left]

/-- What is below a place under a name that is to be kept, as names from there on. -/
def below (tree : FileTree) (place : Place) (keep : Name → Bool) : List (List Name) :=
  (tree.directoriesBelow place).flatMap fun names =>
    ((tree.childNames (place ++ names)).filter keep).map (names ++ [·])

theorem perm_below (h : other.entries.Perm tree.entries) (place : Place) (keep : Name → Bool) :
    (other.below place keep).Perm (tree.below place keep) := by
  have directories : (other.directoriesBelow place).Perm (tree.directoriesBelow place) :=
    (h.filterMap _).cons _
  apply List.Perm.flatMap directories
  intro names _
  exact ((h.filterMap _).filter keep).map _

/-- **What a search finds below a directory**: whatever stands there with a name to be kept. -/
theorem mem_below (distinct : tree.Distinct) (wellFormed : tree.WellFormed)
    (directory : tree.node? place = some .directory) {keep : Name → Bool} :
    names ∈ tree.below place keep ↔
      ∃ above name, names = above ++ [name] ∧ keep name = true ∧
        ∃ node, tree.node? (place ++ names) = some node := by
  simp only [below, List.mem_flatMap, List.mem_map, List.mem_filter, mem_childNames,
    mem_directoriesBelow distinct directory]
  constructor
  · rintro ⟨above, -, name, ⟨⟨node, hn⟩, keeps⟩, rfl⟩
    rw [List.append_assoc] at hn
    exact ⟨above, name, rfl, keeps, node, hn⟩
  · rintro ⟨above, name, rfl, keeps, node, hn⟩
    rw [← List.append_assoc] at hn
    exact ⟨above, wellFormed.nested _ name node hn, name, ⟨⟨node, hn⟩, keeps⟩, rfl⟩

end Listing

/-! ## Why a question is not answered -/

section Errors
variable {tree : FileTree} {cwd place : Place} {path root : Path} {names : List Name}

/-- Why a path cannot be followed. -/
theorem locate_error {followLast : Bool} {links : Nat} {here : Place} {cause : SystemError}
    (h : tree.locate followLast links here names = .error cause) :
    cause ≠ .alreadyExists ∧ cause ≠ .isDirectory := by
  fun_induction locate tree followLast links here names with
  | case1 => cases h
  | case2 _ _ _ _ ih => exact ih h
  | case3 _ _ _ _ _ ih => exact ih h
  | case4 => cases h; simp
  | case5 => cases h
  | case6 => cases h; simp
  | case7 => cases h
  | case8 => cases h; simp
  | case9 _ _ _ _ _ _ _ _ _ _ _ _ ih => exact ih h
  | case10 _ _ _ _ _ _ _ _ _ _ _ _ ih => exact ih h
  | case11 => cases h; simp
  | case12 => cases h; simp

/-- A path that leads nowhere leads to nothing unless it is too long for the system. -/
theorem absent_of_placeOf {followLast : Bool} {error : FileError}
    (h : tree.placeOf cwd followLast path = .error error) :
    error.meansAbsent = true ∨ error = .system .nameTooLong path.text := by
  obtain ⟨-, rfl⟩ | ⟨-, cause, rfl, rfl | unfollowed⟩ := placeOf_error h
  · exact .inl rfl
  · exact .inr rfl
  · obtain ⟨hexists, hdirectory⟩ := locate_error unfollowed
    cases cause with
    | nameTooLong => exact .inr rfl
    | alreadyExists => exact absurd rfl hexists
    | isDirectory => exact absurd rfl hdirectory
    | _ => exact .inl rfl

theorem absent_of_status {error : FileError} (h : tree.status cwd path = .error error) :
    error.meansAbsent = true ∨ error = .system .nameTooLong path.text := by
  rw [status] at h
  cases hp : tree.placeOf cwd true path with
  | error cause =>
    rw [hp] at h
    cases h
    exact absent_of_placeOf hp
  | ok place =>
    rw [hp] at h
    simp only [bind, Except.bind] at h
    split at h <;> cases h
    exact .inl rfl

/-- **A question is answered unless the path is too long** for the system. -/
theorem ask_error {answer : Node → Bool} {error : FileError}
    (h : tree.ask cwd path answer = .error error) :
    error = .system .nameTooLong path.text := by
  rw [ask] at h
  split at h
  · cases h
  · rename_i other unanswered
    split at h
    · cases h
    · rename_i present
      cases h
      exact (absent_of_status unanswered).resolve_left present

theorem isDirectory_eq_true :
    tree.isDirectory cwd path = .ok true ↔
      ∃ place, tree.placeOf cwd true path = .ok place ∧ tree.node? place = some .directory := by
  unfold isDirectory ask status
  cases hp : tree.placeOf cwd true path with
  | error error =>
    simp only [bind, Except.bind]
    split <;> simp
  | ok place =>
    simp only [bind, Except.bind, Except.ok.injEq, exists_eq_left']
    cases hn : tree.node? place with
    | none => simp [FileError.meansAbsent]
    | some node => simp

/-- Names that lead down through directories can be followed unless one is too long. -/
theorem locate_down {here : Place} (proper : ∀ name ∈ names, Path.IsProper name)
    (standing : ∀ first, first <+: names → tree.node? (here ++ first) = some .directory)
    (followLast : Bool) (links : Nat) :
    tree.locate followLast links here names = .ok (here ++ names) ∨
      tree.locate followLast links here names = .error .nameTooLong := by
  induction names generalizing here with
  | nil =>
    rw [locate_nil, List.append_nil]
    exact .inl rfl
  | cons name rest ih =>
    have onHere : tree.node? here = some .directory := by
      simpa using standing [] List.nil_prefix
    have onNext : tree.node? (here ++ [name]) = some .directory :=
      standing [name] (List.cons_prefix_cons.2 ⟨rfl, List.nil_prefix⟩)
    have leadsDown := proper name List.mem_cons_self
    by_cases long : Utf8.size name > nameLimit
    · exact .inr (locate_long onHere leadsDown long)
    have enters : tree.Enters here name := ⟨onHere, leadsDown, Nat.not_lt.1 long⟩
    rw [enters.locate_down onNext (by rw [linkTarget?, onNext]), List.append_cons here name rest]
    apply ih (fun other ho => proper other (List.mem_cons_of_mem _ ho))
    intro first hp
    have further := standing (name :: first) (List.cons_prefix_cons.2 ⟨rfl, hp⟩)
    rwa [List.append_assoc, List.singleton_append]

section Descending
variable (wellFormed : tree.WellFormed) (free : tree.NulFree)
  (leads : tree.placeOf cwd true root = .ok place)
  (standing : tree.node? (place ++ names) = some .directory)
include wellFormed free leads standing

/-- **A directory below is reached under its own path** unless that is too long. -/
theorem placeOf_down :
    tree.placeOf cwd true (root.down names) = .ok (place ++ names) ∨
      tree.placeOf cwd true (root.down names) =
        .error (.system .nameTooLong (root.down names).text) := by
  by_cases ne : names = []
  · subst ne
    rw [Path.down, List.append_nil, List.append_nil]
    exact .inl leads
  have stands := wellFormed.stands standing
  have nul : ¬ (root.down names).text.contains '\x00' = true := by
    rw [Bool.not_eq_true, Path.contains_nul_eq_false]
    intro part hm
    rcases List.mem_append.1 hm with hm | hm
    · exact nulFree_of_placeOf leads part hm
    · exact free.name _ _ standing part (List.mem_append_right _ hm)
  have directory := stands.directory place (List.prefix_append _ _)
  obtain ⟨left, hl⟩ := locate_append (placeOf_eq_ok leads).2 directory ne true
  have further := locate_down (fun name hm => stands.proper name (List.mem_append_right _ hm))
    (fun first hp => stands.directory _ ((List.prefix_append_right_inj place).2 hp)) true left
  unfold placeOf
  rw [if_neg nul]
  split
  · exact .inr rfl
  · rw [← start, show start cwd (root.down names) = start cwd root from rfl, hl]
    rcases further with hf | hf
    · rw [hf]
      exact .inl rfl
    · rw [hf]
      exact .inr rfl

/-- A directory below can be listed unless its path is too long. -/
theorem list_down :
    tree.list cwd (root.down names) = .ok (tree.childNames (place ++ names)) ∨
      tree.list cwd (root.down names) =
        .error (.system .nameTooLong (root.down names).text) := by
  rcases placeOf_down wellFormed free leads standing with hp | hp
  · rw [list, hp]
    simp only [bind, Except.bind, standing]
    exact .inl trivial
  · rw [list, hp]
    exact .inr rfl

end Descending

end Errors

/-! ## Searching for a name -/

section Rows
variable {ε α β : Type} {question : α → Except ε β} {items : List α}

/-- Questions that are all answered are answered in a row. -/
theorem mapM_of_ok {answer : α → β} (h : ∀ item ∈ items, question item = .ok (answer item)) :
    items.mapM question = .ok (items.map answer) := by
  induction items with
  | nil => rfl
  | cons item rest ih =>
    rw [List.mapM_cons, h item List.mem_cons_self,
      ih fun other ho => h other (List.mem_cons_of_mem _ ho)]
    rfl

/-- A row of questions fails by one of them. -/
theorem mapM_of_error (h : ∃ item ∈ items, ∃ error, question item = .error error) :
    ∃ item ∈ items, ∃ error, question item = .error error ∧
      items.mapM question = .error error := by
  induction items with
  | nil =>
    obtain ⟨_, hm, -⟩ := h
    cases hm
  | cons item rest ih =>
    rw [List.mapM_cons]
    cases hq : question item with
    | error error => exact ⟨item, List.mem_cons_self, error, hq, rfl⟩
    | ok answer =>
      have later : ∃ item ∈ rest, ∃ error, question item = .error error := by
        obtain ⟨other, hm, error, he⟩ := h
        rcases List.mem_cons.1 hm with rfl | hm
        · rw [hq] at he
          cases he
        · exact ⟨other, hm, error, he⟩
      obtain ⟨other, hm, error, he, hr⟩ := ih later
      refine ⟨other, List.mem_cons_of_mem _ hm, error, he, ?_⟩
      rw [hr]
      rfl

end Rows

section Searching
variable {tree : FileTree} {cwd place : Place} {path root : Path}

/-- In one directory a search finds the names that match. -/
theorem selected_wild (pattern : Text) :
    tree.selected cwd path [.wild pattern] =
      (tree.list cwd path).map fun names =>
        (names.filter (Glob.matchesName pattern)).map fun name => path.down [name] := by
  rw [selected]
  cases tree.list cwd path with
  | error error => rfl
  | ok names =>
    have each : ∀ name ∈ names.filter (Glob.matchesName pattern),
        (do
          let usable ← if ([] : List Glob.Component) = [] then .ok true
            else tree.isDirectory cwd (path.child name)
          if usable then tree.selected cwd (path.child name) [] else .ok []) =
            (.ok [path.down [name]] : Except FileError (List Path)) := by
      intro name _
      rw [if_pos rfl, selected]
      rfl
    simp only [bind, Except.bind] at each ⊢
    rw [mapM_of_ok each]
    show Except.ok (List.flatten _) = Except.ok _
    rw [← List.flatMap_def, ← List.map_eq_flatMap]

/-- A search at any depth is one in each of the directories below. -/
theorem matching_wild (pattern : Text) (leads : tree.placeOf cwd true root = .ok place) :
    tree.matching cwd root [.wild pattern] =
      ((tree.directoriesBelow place).mapM fun names =>
        tree.selected cwd (root.down names) [.wild pattern]).map List.flatten := by
  have flattened : ∀ found : Except FileError (List (List Path)),
      (found >>= fun found => .ok found.flatten) = found.map List.flatten := by
    rintro (error | found) <;> rfl
  unfold matching selected
  rw [leads]
  exact flattened _

section Each
variable (wellFormed : tree.WellFormed) (free : tree.NulFree)
  (leads : tree.placeOf cwd true root = .ok place) {names : List Name} (pattern : Text)
include wellFormed free leads

/-- In a directory that can be listed the names that match are found. -/
theorem selected_of_listed (standing : tree.node? (place ++ names) = some .directory)
    (listed : ∃ found, tree.list cwd (root.down names) = .ok found) :
    tree.selected cwd (root.down names) [.wild pattern] =
      .ok (((tree.childNames (place ++ names)).filter (Glob.matchesName pattern)).map
        fun name => root.down (names ++ [name])) := by
  rw [selected_wild]
  rcases list_down wellFormed free leads standing with hl | hl
  · rw [hl]
    simp only [Except.map, Path.down_append]
  · obtain ⟨found, hf⟩ := listed
    rw [hl] at hf
    cases hf

/-- The one error in a directory is that its path is too long. -/
theorem selected_error {error : FileError}
    (standing : tree.node? (place ++ names) = some .directory)
    (h : tree.selected cwd (root.down names) [.wild pattern] = .error error) :
    ∃ text, error = .system .nameTooLong text := by
  rw [selected_wild] at h
  rcases list_down wellFormed free leads standing with hl | hl
  · rw [hl] at h
    cases h
  · rw [hl] at h
    cases h
    exact ⟨_, rfl⟩

end Each

/-- **A search ends with the paths of what is found**, or with an error where a directory
cannot be listed. -/
theorem matching_cases (pattern : Text) (distinct : tree.Distinct) (wellFormed : tree.WellFormed)
    (free : tree.NulFree) (leads : tree.placeOf cwd true root = .ok place)
    (directory : tree.node? place = some .directory) :
    (∀ names, tree.node? (place ++ names) = some .directory →
        ∃ found, tree.list cwd (root.down names) = .ok found) ∧
      tree.matching cwd root [.wild pattern] =
        .ok ((tree.below place (Glob.matchesName pattern)).map root.down) ∨
    (∃ names, tree.node? (place ++ names) = some .directory ∧
        ∃ error, tree.list cwd (root.down names) = .error error) ∧
      ∃ text, tree.matching cwd root [.wild pattern] = .error (.system .nameTooLong text) := by
  have reach : ∀ names, names ∈ tree.directoriesBelow place ↔
      tree.node? (place ++ names) = some .directory :=
    fun names => mem_directoriesBelow distinct directory
  rw [matching_wild pattern leads]
  by_cases all : ∀ names, tree.node? (place ++ names) = some .directory →
      ∃ found, tree.list cwd (root.down names) = .ok found
  -- every directory below is listed, and of each the names that match are found
  · have each : ∀ names ∈ tree.directoriesBelow place,
        tree.selected cwd (root.down names) [.wild pattern] =
          .ok (((tree.childNames (place ++ names)).filter (Glob.matchesName pattern)).map
            fun name => root.down (names ++ [name])) := by
      intro names hm
      have standing := (reach names).1 hm
      exact selected_of_listed wellFormed free leads pattern standing (all names standing)
    refine .inl ⟨all, ?_⟩
    rw [mapM_of_ok each, below, List.map_flatMap]
    simp only [Except.map, List.map_map, List.flatMap_def]
    rfl
  · push Not at all
    obtain ⟨names, standing, unlisted⟩ := all
    -- the first directory that cannot be listed ends the search
    have failed : ∃ error, tree.list cwd (root.down names) = .error error := by
      cases hl : tree.list cwd (root.down names) with
      | ok found => exact absurd hl (unlisted found)
      | error error => exact ⟨error, rfl⟩
    obtain ⟨error, hl⟩ := failed
    have refused : tree.selected cwd (root.down names) [.wild pattern] = .error error := by
      rw [selected_wild, hl]
      rfl
    have failing : ∃ names ∈ tree.directoriesBelow place, ∃ error,
        (fun names => tree.selected cwd (root.down names) [.wild pattern]) names = .error error :=
      ⟨names, (reach names).2 standing, error, refused⟩
    obtain ⟨other, hm, fault, hf, hr⟩ := mapM_of_error failing
    obtain ⟨text, rfl⟩ := selected_error wellFormed free leads pattern ((reach other).1 hm) hf
    refine .inr ⟨⟨names, standing, error, hl⟩, text, ?_⟩
    rw [hr]
    rfl

end Searching

end FileTree
end Reimport
