import Reimport.Proofs.FileTree.Searching

/-!
# What a copied directory holds

Copying a directory merges it into what stands at the target: each entry is copied over the one
of its name, and nothing is removed.  So the copy holds just what the source holds iff what stood
at the target before fits (`mirrors_iff_fits`): wherever something stood, the source has something
of the same kind.  Nothing is left over then, and no file comes into a directory of its name.

The induction is on the depth of the copy, and for each depth on the names in the directory.  It
is carried by `Merge`, which holds again after each entry that was copied without a fault
(`Merge.copyEntry_child`).
-/
namespace Reimport.FileTree

section Definitions
variable (tree : FileTree) (cwd : Place)

/-- Whatever stands at or below `target` also stands at or below `source`, where it is a directory
iff it is one there. -/
def Fits (target source : Place) : Prop :=
  ∀ names node, tree.node? (target ++ names) = some node →
    ∃ other, tree.node? (source ++ names) = some other ∧ (node = .directory ↔ other = .directory)

/-- What stands at and below `target` is what another tree has at and below `source`. -/
def Mirrors (target : Place) (before : FileTree) (source : Place) : Prop :=
  ∀ names, tree.node? (target ++ names) = before.node? (source ++ names)

/-- What was at and below `origin` has come to be at and below `goal`, and nothing else was
touched. -/
def Copied (after : FileTree) (origin goal : Place) : Prop :=
  after.Mirrors goal tree origin ∧ ∀ place, ¬ goal <+: place → after.node? place = tree.node? place

/-- A path leads to a place, and the directories that are missing on its way are above that. -/
structure Direct (path : Path) (place : Place) : Prop where
  reaches : tree.Reaches cwd path place
  missing : ∀ above other, OnWay path above → tree.Reaches cwd above other →
    tree.node? other = none → other <+: place

/-- The directory `source` can be copied to the path `target`, which leads to `goal`. -/
structure Copyable (source target : Path) (origin goal : Place) : Prop where
  wellFormed : tree.WellFormed
  home : tree.Stands cwd
  leads : tree.placeOf cwd true source = .ok origin
  direct : tree.Direct cwd target goal
  /-- No link is in the source or the target. -/
  unlinked : ∀ names, tree.linkTarget? (origin ++ names) = none
  unlinked' : ∀ names, tree.linkTarget? (goal ++ names) = none
  /-- Neither is in the other. -/
  aside : ¬ origin <+: goal
  aside' : ¬ goal <+: origin

/-- The directory `source` can be copied into the directory `target`, at the places `origin` and
`goal`. -/
structure Merge (source target : Path) (origin goal : Place) : Prop where
  wellFormed : tree.WellFormed
  home : tree.Stands cwd
  /-- The paths of the two lead to directories. -/
  leads : tree.placeOf cwd true source = .ok origin
  leads' : tree.placeOf cwd true target = .ok goal
  directory : tree.node? origin = some .directory
  directory' : tree.node? goal = some .directory
  /-- No link is in them. -/
  unlinked : ∀ names, tree.linkTarget? (origin ++ names) = none
  unlinked' : ∀ names, tree.linkTarget? (goal ++ names) = none
  /-- Neither is in the other. -/
  aside : ¬ origin <+: goal
  aside' : ¬ goal <+: origin
  fits : tree.Fits goal origin

end Definitions

/-- A path whose last name leads down leads to a place of that name, if a link there is not
followed. -/
theorem locate_last_name {tree : FileTree} {links : Nat} {here place : Place} {all : List Name}
    {name : Name} (proper : Path.IsProper name)
    (h : tree.locate false links here all = .ok place) :
    ∀ names, all = names ++ [name] → ∃ above, place = above ++ [name] := by
  rw [locate_eq_ok] at h
  induction h with
  | done => simp
  | stay _ _ ih =>
    rintro (_ | ⟨_, more⟩) he
    · exact absurd (List.cons.inj he).1.symm proper.1
    · exact ih more (List.cons.inj he).2
  | up _ _ ih =>
    rintro (_ | ⟨_, more⟩) he
    · exact absurd (List.cons.inj he).1.symm proper.2
    · exact ih more (List.cons.inj he).2
  | @vacant _ here _ | @atLink _ here _ _ =>
    rintro (_ | ⟨_, more⟩) he
    · exact ⟨here, by rw [(List.cons.inj he).1]⟩
    · simp at he
  | @through _ _ _ _ _ target _ _ followed _ ih =>
    rintro (_ | ⟨_, more⟩) he
    · cases followed (List.cons.inj he).2
    · exact ih (targetNames target ++ more) (by rw [(List.cons.inj he).2]; simp)
  | @down _ here place last rest _ _ _ _ further ih =>
    rintro (_ | ⟨_, more⟩) he
    · obtain ⟨rfl, rfl⟩ := List.cons.inj he
      cases further
      exact ⟨here, rfl⟩
    · exact ih more (List.cons.inj he).2

theorem placeOf_child_name {tree : FileTree} {cwd place : Place} {path : Path} {name : Name}
    (proper : Path.IsProper name) (h : tree.placeOf cwd false (path.child name) = .ok place) :
    ∃ above, place = above ++ [name] :=
  locate_last_name proper (placeOf_eq_ok h).2 path.parts rfl

section Places
variable {tree after : FileTree} {cwd middle place : Place} {path : Path} {name : Name}

/-- A directory is made where nothing is, or stands there. -/
theorem ensureDirectory_cases (h : ensureDirectory cwd path tree = .ok () after) :
    (∃ place, tree.placeOf cwd false path = .ok place ∧ tree.node? place = none ∧
        after = tree.put place .directory) ∨
      after = tree ∧ tree.isDirectory cwd path = .ok true := by
  rw [ensureDirectory] at h
  cases hm : makeDirectory cwd path tree with
  | ok _ made =>
    rw [hm] at h
    cases h
    exact .inl (makeDirectory_cases hm)
  | error e made =>
    rw [hm] at h
    obtain rfl := makeDirectory_error hm
    simp only at h
    split at h
    · rename_i hd
      cases h
      exact .inr ⟨rfl, hd⟩
    · cases h

theorem ensureDirectory_stands (h : ensureDirectory cwd path tree = .ok () after) :
    ∃ place, after.placeOf cwd true path = .ok place ∧ after.node? place = some .directory := by
  rcases ensureDirectory_cases h with ⟨place, hp, hn, rfl⟩ | ⟨rfl, hd⟩
  · have vacant := vacant_of_none hn
    have keeps : tree.Keeps (tree.put place .directory) := vacant.keeps_put (by simp)
    have stands : (tree.put place .directory).node? place = some .directory := by
      rw [node?_put _ vacant.ne_nil, if_pos rfl]
    refine ⟨place, placeOf_of_unlinked (keeps.placeOf hp) ?_, stands⟩
    rw [linkTarget?, stands]
  · exact isDirectory_eq_true.1 hd

/-- A directory for which the way was made stands. -/
theorem makeWay_stands (h : makeWay cwd path tree = .ok () after) :
    ∃ place, after.placeOf cwd true path = .ok place ∧ after.node? place = some .directory := by
  rw [makeWay] at h
  split at h
  · split at h
    · exact ensureDirectory_stands h
    · split at h
      · exact ensureDirectory_stands h
      · cases h
      · exact ensureDirectory_stands h
  · exact ensureDirectory_stands h

/-- In a directory that stands, no way has to be made. -/
theorem makeWay_child (leads : tree.placeOf cwd true path = .ok place)
    (directory : tree.node? place = some .directory) :
    makeWay cwd (path.child name) tree = ensureDirectory cwd (path.child name) tree := by
  have parent : (path.child name).parent = path := by simp [Path.child, Path.parent]
  have stands : tree.pathExists cwd path = .ok true := by
    rw [pathExists, ask, show tree.status cwd path = .ok .directory from
      except_bind_ok.2 ⟨place, leads, by rw [directory]⟩]
  rw [makeWay, parent, stands]
  split <;> rfl

theorem list_cases {names : List Name} (h : tree.list cwd path = .ok names) :
    ∃ place, tree.placeOf cwd true path = .ok place ∧ tree.node? place = some .directory ∧
      names = tree.childNames place := by
  obtain ⟨place, hp, h⟩ := except_bind_ok.1 h
  split at h
  · cases h
    exact ⟨place, hp, ‹_›, rfl⟩
  · cases h
  · cases h

/-- What a path leads to when it is asked. -/
theorem status_cases {node : Node} (h : tree.status cwd path = .ok node) :
    ∃ place, tree.placeOf cwd true path = .ok place ∧ tree.node? place = some node := by
  obtain ⟨place, hp, h⟩ := except_bind_ok.1 h
  split at h
  · cases h
    exact ⟨place, hp, ‹_›⟩
  · cases h

theorem copyFile_cases {source target : Path} (h : copyFile cwd source target tree = .ok () after) :
    ∃ content, tree.status cwd source = .ok (.file content) ∧
      (tree.isDirectory cwd target = .ok true ∨
        write cwd .replace target content tree = .ok () after) := by
  rw [copyFile] at h
  cases hr : tree.read cwd source with
  | error e => simp [hr] at h
  | ok content =>
    simp only [hr] at h
    obtain ⟨node, hs, hn⟩ := except_bind_ok.1 hr
    cases node with
    | directory => cases hn
    | link _ => cases hn
    | file _ =>
      cases hn
      refine ⟨content, hs, ?_⟩
      split at h
      · exact .inl ‹_›
      · exact .inr h

end Places

/-! ## Merging -/

/-- The copy of the entries with some names. -/
def copyNames (cwd : Place) (depth : Nat) (source target : Path) (names : List Name) :
    List CopyFault → Change (List CopyFault) :=
  names.foldlM fun faults name => do
    let more ← reporting (source.child name) (target.child name)
      (copyEntry cwd (copyTree cwd depth) (source.child name) (target.child name))
    return faults ++ more

theorem copyTree_succ (cwd : Place) (depth : Nat) (source target : Path) :
    copyTree cwd (depth + 1) source target = (do
      let names ← inspect (·.list cwd source)
      makeWay cwd target
      copyNames cwd depth source target names []) := rfl

section Copies
variable {tree after : FileTree} {cwd : Place} {depth : Nat} {source target : Path} {name : Name}
  {names : List Name} {faults : List CopyFault}

theorem copyTree_cases {depth : Nat} (h : copyTree cwd depth source target tree = .ok faults after) :
    ∃ less names made, depth = less + 1 ∧ tree.list cwd source = .ok names ∧
      makeWay cwd target tree = .ok () made ∧
      copyNames cwd less source target names [] made = .ok faults after := by
  cases depth with
  | zero => cases h
  | succ depth =>
    rw [copyTree_succ] at h
    obtain ⟨names, middle, listed, rest⟩ := bind_ok.1 h
    obtain ⟨_, made, way, copied⟩ := bind_ok.1 rest
    rw [inspect] at listed
    split at listed
    · rename_i hl
      cases listed
      exact ⟨depth, names, made, rfl, hl, way, copied⟩
    · cases listed

/-- No fault is reported of a copy only if that ends without one. -/
theorem reporting_nil {copy : Change (List CopyFault)}
    (h : reporting source target copy tree = .ok [] after) : copy tree = .ok [] after := by
  rw [reporting] at h
  split at h
  · rename_i hc
    cases h
    exact hc
  · cases h
  · cases h

theorem copyNames_cons {next : List CopyFault} {rest : List Name}
    (h : copyNames cwd depth source target (name :: rest) faults tree = .ok next after) :
    ∃ more middle, reporting (source.child name) (target.child name)
        (copyEntry cwd (copyTree cwd depth) (source.child name) (target.child name)) tree =
          .ok more middle ∧
      copyNames cwd depth source target rest (faults ++ more) middle = .ok next after := by
  rw [copyNames, List.foldlM_cons] at h
  obtain ⟨_, middle, hs, hr⟩ := bind_ok.1 h
  obtain ⟨more, _, hm, hp⟩ := bind_ok.1 hs
  cases hp
  exact ⟨more, _, hm, hr⟩

/-- Faults that were reported are not forgotten. -/
theorem copyNames_faults (h : copyNames cwd depth source target names faults tree = .ok [] after) :
    faults = [] := by
  induction names generalizing faults tree with
  | nil =>
    cases h
    rfl
  | cons name rest ih =>
    obtain ⟨more, middle, -, hr⟩ := copyNames_cons h
    exact (List.append_eq_nil_iff.1 (ih hr)).1

/-- The copy of an entry only makes directories and writes files. -/
theorem builds_copyEntry (cwd : Place) (depth : Nat) (source target : Path) :
    Builds cwd (fun _ => True) (fun _ => True)
      (copyEntry cwd (copyTree cwd depth) source target) :=
  .copyEntry ((builds_copyTree cwd depth source target).mono (fun _ _ => trivial)
    fun _ _ => trivial) trivial trivial

end Copies

namespace Merge
variable {tree after : FileTree} {cwd origin goal : Place} {source target : Path} {name : Name}
  {depth : Nat}
section
variable (merge : Merge tree cwd source target origin goal)
include merge

/-- Nothing of the source is in the target. -/
theorem off (names : List Name) : ¬ goal <+: origin ++ names := fun hp =>
  (List.prefix_or_prefix_of_prefix hp (List.prefix_append origin names)).elim merge.aside'
    merge.aside

theorem of_built {directories files : Path → Prop}
    (built : Built cwd directories files tree after) (fits : after.Fits goal origin) :
    Merge after cwd source target origin goal :=
  ⟨built.wellFormed merge.wellFormed merge.home, built.keeps.stands merge.home,
    built.keeps.placeOf merge.leads, built.keeps.placeOf merge.leads',
    built.keeps.directory _ merge.directory, built.keeps.directory _ merge.directory',
    fun names => (built.keeps.link _).trans (merge.unlinked names),
    fun names => (built.keeps.link _).trans (merge.unlinked' names), merge.aside, merge.aside',
    fits⟩

theorem place_source {place : Place} (proper : Path.IsProper name)
    (h : tree.placeOf cwd true (source.child name) = .ok place) : place = origin ++ [name] :=
  (reaches_of_leads merge.leads).child proper (merge.unlinked _) (reaches_of_leads h)

theorem place_target {place : Place} (proper : Path.IsProper name)
    (h : tree.Reaches cwd (target.child name) place) : place = goal ++ [name] :=
  (reaches_of_leads merge.leads').child proper (merge.unlinked' _) h

/-- Where the source has nothing, the target has nothing. -/
theorem nothing {names : List Name} (h : tree.node? (origin ++ names) = none) :
    tree.node? (goal ++ names) = none := by
  refine Option.eq_none_iff_forall_ne_some.2 fun node hn => ?_
  obtain ⟨other, ho, -⟩ := merge.fits names node hn
  rw [h] at ho
  cases ho

/-- A file is copied over a file, or where nothing is. -/
theorem copyFile_child {node : Node} (proper : Path.IsProper name)
    (there : tree.node? (origin ++ [name]) = some node)
    (h : copyFile cwd (source.child name) (target.child name) tree = .ok () after) :
    tree.node? (origin ++ [name]) ≠ some .directory ∧ goal ++ [name] ≠ [] ∧
      after = tree.put (goal ++ [name]) node := by
  obtain ⟨content, hs, hw⟩ := copyFile_cases h
  obtain ⟨place, hp, hn⟩ := status_cases hs
  obtain rfl := merge.place_source proper hp
  obtain rfl : .file content = node := Option.some.inj (hn.symm.trans there)
  refine ⟨by simp [hn], by simp, ?_⟩
  rcases hw with hd | hw
  · obtain ⟨place, hp, directory⟩ := isDirectory_eq_true.1 hd
    obtain rfl := merge.place_target proper (reaches_of_leads hp)
    obtain ⟨other, ho, same⟩ := merge.fits [name] _ directory
    rw [same.1 rfl, hn] at ho
    cases ho
  · obtain ⟨place, hp, hw⟩ := write_cases hw
    obtain rfl := merge.place_target proper (reaches_of_leads hp)
    rcases hw with ⟨_, -, rfl⟩ | ⟨-, rfl⟩ <;> rfl

/-- A file that is copied fills its place. -/
theorem copied_of_copyFile {node : Node} (proper : Path.IsProper name)
    (there : tree.node? (origin ++ [name]) = some node)
    (h : copyFile cwd (source.child name) (target.child name) tree = .ok () after) :
    tree.Copied after (origin ++ [name]) (goal ++ [name]) := by
  obtain ⟨notDirectory, ne, rfl⟩ := merge.copyFile_child proper there h
  constructor
  · intro names
    rw [node?_put _ ne]
    by_cases empty : names = []
    · simp [empty, there]
    -- nothing is below a file, neither in the source nor where it is copied to
    · have source := merge.wellFormed.nothing_below notDirectory empty
      have target : tree.node? (goal ++ [name] ++ names) = none := by
        rw [List.append_assoc] at source ⊢
        exact merge.nothing source
      rw [if_neg (by simpa using empty), source, target]
  · intro place hp
    rw [node?_put _ ne, if_neg]
    rintro rfl
    exact hp (List.prefix_refl _)

/-- Making a directory for a copy changes its own place at most. -/
theorem node?_of_ensureDirectory {made : FileTree} (proper : Path.IsProper name)
    (h : ensureDirectory cwd (target.child name) tree = .ok () made) {place : Place}
    (ne : place ≠ goal ++ [name]) : made.node? place = tree.node? place := by
  rcases ensureDirectory_cases h with ⟨other, hp, hn, rfl⟩ | ⟨rfl, -⟩
  · have vacant := vacant_of_none hn
    obtain rfl := merge.place_target proper (reaches_of_placeOf hp vacant.link)
    rw [node?_put _ vacant.ne_nil, if_neg ne]
  · rfl

theorem source_of_ensureDirectory {made : FileTree} (proper : Path.IsProper name)
    (h : ensureDirectory cwd (target.child name) tree = .ok () made) (names : List Name) :
    made.node? (origin ++ names) = tree.node? (origin ++ names) :=
  merge.node?_of_ensureDirectory proper h fun he => merge.off names (he ▸ List.prefix_append _ _)

/-- A directory is made for the copy of one, or stands there. -/
theorem ensureDirectory_child {made : FileTree} (proper : Path.IsProper name)
    (directory : tree.node? (origin ++ [name]) = some .directory)
    (leads : tree.placeOf cwd true (source.child name) = .ok (origin ++ [name]))
    (h : ensureDirectory cwd (target.child name) tree = .ok () made) :
    Merge made cwd (source.child name) (target.child name) (origin ++ [name]) (goal ++ [name]) := by
  have built : Built cwd (fun _ => True) (fun _ => False) tree made := by
    have built : Built cwd (fun _ => True) (fun _ => False) tree
        (reached (ensureDirectory cwd (target.child name) tree)) :=
      Builds.ensureDirectory trivial tree merge.wellFormed merge.home
    rwa [h] at built
  obtain ⟨place, leads', directory'⟩ := ensureDirectory_stands h
  obtain rfl := merge.place_target proper
    ((reaches_of_leads leads').congr fun place => (built.keeps.link place).symm)
  constructor
  case wellFormed => exact built.wellFormed merge.wellFormed merge.home
  case home => exact built.keeps.stands merge.home
  case leads => exact built.keeps.placeOf leads
  case leads' => exact leads'
  case directory => exact built.keeps.directory _ directory
  case directory' => exact directory'
  case unlinked =>
    intro names
    rw [built.keeps.link, List.append_assoc]
    exact merge.unlinked _
  case unlinked' =>
    intro names
    rw [built.keeps.link, List.append_assoc]
    exact merge.unlinked' _
  case aside =>
    intro hp
    rcases List.prefix_concat_iff.1 hp with he | hp
    · exact merge.aside ((List.append_inj' he rfl).1 ▸ List.prefix_refl _)
    · exact merge.aside ((List.prefix_append _ _).trans hp)
  case aside' =>
    intro hp
    exact merge.off [name] ((List.prefix_append _ _).trans hp)
  case fits =>
    intro names node hn
    rw [List.append_assoc, merge.source_of_ensureDirectory proper h]
    by_cases ne : names = []
    · subst ne
      rw [List.append_nil, directory'] at hn
      cases hn
      exact ⟨.directory, directory, by simp⟩
    · rw [merge.node?_of_ensureDirectory proper h (by simpa using ne), List.append_assoc] at hn
      exact merge.fits _ node hn

end

/-- Copying all that is in a directory, with some depth, fills the target if nothing goes
wrong. -/
def Copies (cwd : Place) (depth : Nat) : Prop :=
  ∀ ⦃tree after : FileTree⦄ ⦃source target : Path⦄ ⦃origin goal : Place⦄ ⦃names : List Name⦄,
    Merge tree cwd source target origin goal →
    (∀ name, name ∈ names ↔ ∃ node, tree.node? (origin ++ [name]) = some node) →
    copyNames cwd depth source target names [] tree = .ok [] after → tree.Copied after origin goal

section
variable (merge : Merge tree cwd source target origin goal)
include merge

/-- A directory that is copied fills its place. -/
theorem copied_of_copyTree (proper : Path.IsProper name)
    (directory : tree.node? (origin ++ [name]) = some .directory)
    (leads : tree.placeOf cwd true (source.child name) = .ok (origin ++ [name]))
    (deeper : ∀ less < depth, Copies cwd less)
    (h : copyTree cwd depth (source.child name) (target.child name) tree = .ok [] after) :
    tree.Copied after (origin ++ [name]) (goal ++ [name]) := by
  obtain ⟨less, names, made, rfl, hl, hm, hc⟩ := copyTree_cases h
  obtain ⟨place, hp, -, rfl⟩ := list_cases hl
  obtain rfl := merge.place_source proper hp
  rw [makeWay_child merge.leads' merge.directory'] at hm
  have merge' := merge.ensureDirectory_child proper directory leads hm
  have source := merge.source_of_ensureDirectory proper hm
  obtain ⟨mirrors, outside⟩ := deeper less (Nat.lt_succ_self less) merge' (fun other => by
    rw [mem_childNames, List.append_assoc, source]) hc
  constructor
  · intro names
    rw [mirrors, List.append_assoc, source]
  · intro place hp
    rw [outside place hp, merge.node?_of_ensureDirectory proper hm]
    rintro rfl
    exact hp (List.prefix_refl _)

/-- **Copying one entry fills its place in the target.** -/
theorem copyEntry_child {node : Node} (proper : Path.IsProper name)
    (there : tree.node? (origin ++ [name]) = some node) (deeper : ∀ less < depth, Copies cwd less)
    (h : copyEntry cwd (copyTree cwd depth) (source.child name) (target.child name) tree =
      .ok [] after) :
    tree.Copied after (origin ++ [name]) (goal ++ [name]) := by
  rw [copyEntry] at h
  split at h
  · rename_i hs
    obtain ⟨place, hp, directory⟩ := status_cases hs
    obtain rfl := merge.place_source proper hp
    exact merge.copied_of_copyTree proper directory hp deeper h
  · split at h
    · cases h
      exact merge.copied_of_copyFile proper there ‹_›
    · cases h
  · split at h
    · cases h
      exact merge.copied_of_copyFile proper there ‹_›
    · cases h
  · cases h

/-- The target goes on fitting when one more name in it is filled. -/
theorem fits_of_copied (copied : tree.Copied after (origin ++ [name]) (goal ++ [name])) :
    after.Fits goal origin := by
  obtain ⟨mirrors, outside⟩ := copied
  have source : ∀ names, after.node? (origin ++ names) = tree.node? (origin ++ names) :=
    fun names => outside _ fun hp => merge.off names ((List.prefix_append _ _).trans hp)
  intro names node hn
  rw [source]
  by_cases hp : goal ++ [name] <+: goal ++ names
  · obtain ⟨rest, rfl⟩ := (List.prefix_append_right_inj _).1 hp
    rw [← List.append_assoc, mirrors rest, List.append_assoc] at hn
    exact ⟨node, hn, Iff.rfl⟩
  · rw [outside _ hp] at hn
    exact merge.fits names node hn

end

/-- **Copying the entries with some names fills their places**, by induction on the names. -/
theorem copyNames_copied (deeper : ∀ less < depth, Copies cwd less) {names : List Name}
    (merge : Merge tree cwd source target origin goal)
    (there : ∀ name ∈ names, ∃ node, tree.node? (origin ++ [name]) = some node)
    {faults : List CopyFault}
    (h : copyNames cwd depth source target names faults tree = .ok [] after) :
    (∀ name ∈ names, ∀ rest,
        after.node? (goal ++ name :: rest) = tree.node? (origin ++ name :: rest)) ∧
      ∀ place, (∀ name ∈ names, ¬ goal ++ [name] <+: place) →
        after.node? place = tree.node? place := by
  induction names generalizing tree faults with
  | nil =>
    cases h
    exact ⟨fun _ hm => (nomatch hm), fun _ _ => rfl⟩
  | cons name rest ih =>
    obtain ⟨more, middle, hr, hc⟩ := copyNames_cons h
    obtain ⟨-, rfl⟩ := List.append_eq_nil_iff.1 (copyNames_faults hc)
    have copied := reporting_nil hr
    obtain ⟨node, hn⟩ := there name List.mem_cons_self
    have proper := merge.wellFormed.proper _ node hn name (by simp)
    have filled := merge.copyEntry_child proper hn deeper copied
    have built : Built cwd (fun _ => True) (fun _ => True) tree middle := by
      have built := builds_copyEntry cwd depth (source.child name) (target.child name) tree
        merge.wellFormed merge.home
      rwa [copied] at built
    have source : ∀ names, middle.node? (origin ++ names) = tree.node? (origin ++ names) :=
      fun names => filled.2 _ fun hp => merge.off names ((List.prefix_append _ _).trans hp)
    obtain ⟨mirrors, outside⟩ := ih (merge.of_built built (merge.fits_of_copied filled))
      (fun other ho => by
        rw [source]
        exact there other (List.mem_cons_of_mem _ ho)) hc
    refine ⟨fun other ho more => ?_, fun place hp => ?_⟩
    -- what is copied later lies beside the copy of this entry
    · by_cases later : other ∈ rest
      · rw [mirrors other later, source]
      · obtain rfl : other = name := (List.mem_cons.1 ho).resolve_right later
        have copied := filled.1 more
        rw [List.append_assoc, List.append_assoc] at copied
        refine (outside _ fun next hm hp => later ?_).trans copied
        obtain ⟨_, he⟩ := (List.prefix_append_right_inj _).1 hp
        cases he
        exact hm
    · rw [outside place fun other ho => hp other (List.mem_cons_of_mem _ ho),
        filled.2 place (hp name List.mem_cons_self)]

/-- **Copying fills the target**, however deep it goes. -/
theorem copies (cwd : Place) (depth : Nat) : Copies cwd depth := by
  induction depth using Nat.strongRecOn with
  | ind depth deeper =>
    intro tree after source target origin goal names merge all h
    obtain ⟨mirrors, outside⟩ := copyNames_copied deeper merge (fun name hm => (all name).1 hm) h
    refine ⟨fun rest => ?_, fun place hp => outside place fun name _ hp' =>
      hp ((List.prefix_append _ _).trans hp')⟩
    cases rest with
    | nil =>
      rw [List.append_nil, List.append_nil, merge.directory, outside, merge.directory']
      intro name _ hp
      have := hp.length_le
      simp at this
    | cons name rest =>
      by_cases hm : name ∈ names
      · exact mirrors name hm rest
      · -- A name that the source does not have is not in the target either.
        have absent : tree.node? (origin ++ [name]) = none :=
          Option.eq_none_iff_forall_ne_some.2 fun node hn => hm ((all name).2 ⟨node, hn⟩)
        have source : tree.node? (origin ++ name :: rest) = none := by
          by_cases empty : rest = []
          · rw [empty, absent]
          · rw [List.append_cons]
            exact merge.wellFormed.nothing_below (by simp [absent]) empty
        rw [source, outside, merge.nothing source]
        intro other ho hp
        obtain ⟨_, he⟩ := (List.prefix_append_right_inj _).1 hp
        cases he
        exact hm ho

end Merge

/-! ## Copying a directory -/

theorem Leads.trans {tree : FileTree} {here middle place : Place} {first second : List Name}
    {count more : Nat} (h : Leads tree here first middle count)
    (h' : Leads tree middle second place more) :
    ∃ total, Leads tree here (first ++ second) place total := by
  induction h with
  | done here => exact ⟨more, h'⟩
  | stay _ ih => exact (ih h').imp fun _ hl => .stay hl
  | up _ ih => exact (ih h').imp fun _ hl => .up hl
  | down hp hl _ ih => exact (ih h').imp fun _ hd => .down hp hl hd
  | through hp hl ht _ _ ih =>
    obtain ⟨total, hd⟩ := ih h'
    exact ⟨_, .through hp hl ht hd⟩

section Copying
variable {tree after : FileTree} {cwd origin goal place : Place} {source target path : Path}
  {name : Name} {depth : Nat}

/-- A name at which no link is goes on directly. -/
theorem Direct.child (direct : tree.Direct cwd path place) (proper : Path.IsProper name)
    (unlinked : tree.linkTarget? (place ++ [name]) = none) :
    tree.Direct cwd (path.child name) (place ++ [name]) := by
  refine ⟨?_, fun above other ho reaches hn => ?_⟩
  · obtain ⟨_, hl⟩ := direct.reaches
    exact hl.trans (.down proper unlinked (.done _))
  · obtain ⟨hroot, hp⟩ := ho
    rcases List.prefix_concat_iff.1 hp with he | hp
    · obtain rfl : above = path.child name := by
        cases above
        cases hroot
        cases he
        rfl
      rw [direct.reaches.child proper unlinked reaches]
    · exact (direct.missing above other ⟨hroot, hp⟩ reaches hn).trans (List.prefix_append _ _)

/-- A path that never turns back leads directly: below a directory that is missing there is
nothing, and no link that could lead away from there. -/
theorem Reaches.direct (reaches : tree.Reaches cwd path place) (wellFormed : tree.WellFormed)
    (proper : ∀ name ∈ path.parts, Path.IsProper name) : tree.Direct cwd path place := by
  refine ⟨reaches, fun above other ho reaches' hn => ?_⟩
  obtain ⟨root, names⟩ := above
  obtain ⟨_, parts⟩ := path
  obtain ⟨rfl, rest, rfl⟩ := ho
  have nothing : ∀ place, other <+: place → tree.linkTarget? place = none := by
    rintro _ ⟨more, rfl⟩
    by_cases empty : more = []
    · rw [empty, List.append_nil, linkTarget?, hn]
    · rw [linkTarget?, wellFormed.nothing_below (by simp [hn]) empty]
  obtain ⟨_, onward⟩ := reaches'.append reaches
  exact prefix_of_leads (fun name hm => proper name (List.mem_append_right _ hm)) nothing onward

/-- A path goes on leading directly where it led while links stay as they are and nothing goes
away. -/
theorem Direct.mono {other : FileTree} (direct : tree.Direct cwd path place)
    (same : ∀ place, other.linkTarget? place = tree.linkTarget? place)
    (fewer : ∀ place, other.node? place = none → tree.node? place = none) :
    other.Direct cwd path place :=
  ⟨direct.reaches.congr same, fun above next ho reaches hn =>
    direct.missing above next ho (reaches.congr fun place => (same place).symm) (fewer next hn)⟩

/-- **What a copy leaves elsewhere**, however it ends: all is as it was, but for directories that
were missing on the way to the target. -/
theorem copyTree_outside (wellFormed : tree.WellFormed) (home : tree.Stands cwd)
    (direct : tree.Direct cwd target goal)
    (unlinked : ∀ names, tree.linkTarget? (goal ++ names) = none)
    (hp : ¬ goal <+: place) :
    (reached (copyTree cwd depth source target tree)).node? place = tree.node? place ∨
      tree.node? place = none ∧
        (reached (copyTree cwd depth source target tree)).node? place = some .directory ∧
        place <+: goal := by
  have bare : ∀ other, goal <+: other → tree.linkTarget? other = none := by
    rintro _ ⟨names, rfl⟩
    exact unlinked names
  have below : ∀ {path}, AtOrBelow target path → ¬ tree.Reaches cwd path place :=
    fun ha reaches => hp (prefix_of_atOrBelow ha direct.reaches bare reaches)
  have built := builds_copyTree cwd depth source target tree wellFormed home
  rcases built.added place with he | ⟨⟨path, ho | ha, reaches⟩, hn, hd⟩ | ⟨⟨path, ha, reaches⟩, -⟩
  · exact .inl he
  · exact .inr ⟨hn, hd, direct.missing path place ho reaches hn⟩
  · exact absurd reaches (below ha)
  · exact absurd reaches (below ha)

namespace Copyable
variable (copyable : Copyable tree cwd source target origin goal)
include copyable

/-- Nothing of the source is on the way to the target. -/
theorem off (names : List Name) : ¬ origin ++ names <+: goal := fun hp =>
  copyable.aside ((List.prefix_append _ _).trans hp)

/-- Making the way to the target makes no more than the directories that lead to it. -/
theorem makeWay_cases {made : FileTree} (h : makeWay cwd target tree = .ok () made) :
    tree.Keeps made ∧ made.WellFormed ∧ made.placeOf cwd true target = .ok goal ∧
      made.node? goal = some .directory ∧
      ∀ place, made.node? place = tree.node? place ∨
        tree.node? place = none ∧ made.node? place = some .directory ∧ place <+: goal := by
  have built : Built cwd (OnWay target) (fun _ => False) tree made := by
    have built : Built cwd (OnWay target) (fun _ => False) tree
        (reached (FileTree.makeWay cwd target tree)) :=
      Builds.makeWay (fun _ ho => ho) tree copyable.wellFormed copyable.home
    rwa [h] at built
  obtain ⟨place, leads, directory⟩ := makeWay_stands h
  obtain rfl := copyable.direct.reaches.unique
    ((reaches_of_leads leads).congr fun place => (built.keeps.link place).symm)
  refine ⟨built.keeps, built.wellFormed copyable.wellFormed copyable.home, leads, directory,
    fun other => ?_⟩
  rcases built.added other with he | ⟨⟨above, ho, reaches⟩, hn, hd⟩ | ⟨⟨_, hf, _⟩, _⟩
  · exact .inl he
  · exact .inr ⟨hn, hd, copyable.direct.missing above other ho reaches hn⟩
  · exact hf.elim

/-- A target that mirrors the source held nothing that the source has not. -/
theorem fits_of_mirrors (h : copyTree cwd depth source target tree = .ok [] after)
    (mirrors : after.Mirrors goal tree origin) : tree.Fits goal origin := by
  intro names node hn
  have built := builds_copyTree cwd depth source target tree copyable.wellFormed copyable.home
  rw [h] at built
  -- what was there is there at the end, and is of the same kind
  rcases built.added (goal ++ names) with he | ⟨-, hn', -⟩ | ⟨-, hn', new, hw⟩
  · exact ⟨node, by rw [← mirrors names, ← hn]; exact he.symm ▸ rfl, Iff.rfl⟩
  · rw [hn'] at hn
    cases hn
  · refine ⟨.file new, by rw [← mirrors names]; exact hw, ?_⟩
    rcases hn' with hn' | ⟨old, hn'⟩ <;> rw [hn'] at hn <;> cases hn
    simp

/-- A target that holds nothing that the source has not mirrors the source. -/
theorem mirrors_of_fits (h : copyTree cwd depth source target tree = .ok [] after)
    (fits : tree.Fits goal origin) : after.Mirrors goal tree origin := by
  obtain ⟨less, names, made, rfl, hl, hm, hc⟩ := copyTree_cases h
  obtain ⟨place, hp, directory, rfl⟩ := list_cases hl
  obtain rfl := Except.ok.inj (copyable.leads.symm.trans hp)
  obtain ⟨keeps, wellFormed, leads', directory', added⟩ := copyable.makeWay_cases hm
  have kept : ∀ names, made.node? (origin ++ names) = tree.node? (origin ++ names) :=
    fun names => (added _).resolve_right fun h => copyable.off names h.2.2
  have fits' : made.Fits goal origin := by
    intro names node hn
    rw [kept]
    rcases added (goal ++ names) with he | ⟨-, hd, hp⟩
    · exact fits names node (he ▸ hn)
    -- the target itself was missing
    · obtain rfl : names = [] := by simpa using hp.length_le
      rw [hd] at hn
      cases hn
      exact ⟨.directory, by rwa [List.append_nil], Iff.rfl⟩
  have merge : Merge made cwd source target origin goal :=
    ⟨wellFormed, keeps.stands copyable.home, keeps.placeOf copyable.leads, leads',
      keeps.directory _ directory, directory',
      fun names => (keeps.link _).trans (copyable.unlinked names),
      fun names => (keeps.link _).trans (copyable.unlinked' names), copyable.aside,
      copyable.aside', fits'⟩
  obtain ⟨mirrors, -⟩ := Merge.copies cwd less merge (fun name => by rw [mem_childNames, kept]) hc
  exact fun names => (mirrors names).trans (kept names)

/-- **What a copy holds**: it is just what the source holds iff what stood at the target fits. -/
theorem mirrors_iff_fits (h : copyTree cwd depth source target tree = .ok [] after) :
    after.Mirrors goal tree origin ↔ tree.Fits goal origin :=
  ⟨copyable.fits_of_mirrors h, copyable.mirrors_of_fits h⟩

end Copyable
end Copying
end Reimport.FileTree
