import Reimport.Proofs.FileTree.Making

/-!
# What changes can build

Every change of files is a row of two steps: a directory is made where nothing was, or
a file is written where a file or nothing was (`Built`).  Neither step removes a directory
or touches a link, so all links lead where they led (`Keeps`), and a tree that is well
formed stays so.  What a row of steps can have changed is therefore known from the paths
along which they went, followed in the tree as it was at first (`Built.added`).

Each operation is shown once to be such a row (`Builds`), however it ends; copying a
directory goes along paths on the way to its target and below it (`builds_copyTree`).
-/
namespace Reimport.FileTree

/-- What stands somewhere has names that lead down and stands in a directory. -/
structure WellFormed (tree : FileTree) : Prop where
  proper : ∀ place node, tree.node? place = some node → ∀ name ∈ place, Path.IsProper name
  nested : ∀ place name node, tree.node? (place ++ [name]) = some node →
    tree.node? place = some .directory

/-- Directories and links are kept, and no link is added. -/
structure Keeps (before after : FileTree) : Prop where
  directory : ∀ place, before.node? place = some .directory → after.node? place = some .directory
  link : ∀ place, after.linkTarget? place = before.linkTarget? place

/-- A tree is well formed if its entries are in directories that it has. -/
theorem wellFormed_of_entries {tree : FileTree}
    (h : ∀ entry ∈ tree.entries, (∀ name ∈ entry.1, Path.IsProper name) ∧
      tree.node? entry.1.dropLast = some .directory) : tree.WellFormed := by
  refine ⟨fun place node hn => ?_, fun place name node hn => ?_⟩
  · by_cases ne : place = []
    · rw [ne]
      exact fun _ hm => nomatch hm
    · exact (h _ (mem_entries_of_node? hn ne)).1
  · have above := (h _ (mem_entries_of_node? hn (by simp))).2
    rwa [List.dropLast_concat] at above

/-- No link is in a tree none of whose entries is one. -/
theorem unlinked_of_entries {tree : FileTree}
    (h : ∀ entry ∈ tree.entries, ∀ target, entry.2 ≠ .link target) (place : Place) :
    tree.linkTarget? place = none := by
  cases hl : tree.linkTarget? place with
  | none => rfl
  | some target =>
    have hn := linkTarget?_eq_some.1 hl
    have ne : place ≠ [] := by
      rintro rfl
      cases hn
    exact absurd rfl (h _ (mem_entries_of_node? hn ne) target)

/-- A directory of a well formed tree stands in directories. -/
theorem WellFormed.stands {tree : FileTree} {place : Place} (h : tree.WellFormed)
    (directory : tree.node? place = some .directory) : tree.Stands place := by
  refine ⟨h.proper place _ directory, fun above hp => ?_⟩
  obtain ⟨names, rfl⟩ := hp
  induction names using List.reverseRecOn with
  | nil => rwa [List.append_nil] at directory
  | append_singleton names name ih =>
    rw [← List.append_assoc] at directory
    have nested := h.nested _ name _ directory
    exact ih nested

/-- Whatever stands in a well formed tree stands in directories. -/
theorem WellFormed.reached {tree : FileTree} {place : Place} {node : Node} (h : tree.WellFormed)
    (there : tree.node? place = some node) : tree.Reached place := by
  have proper := h.proper place node there
  rcases List.eq_nil_or_concat place with rfl | ⟨above, name, rfl⟩
  · exact (stands_nil tree).reached
  · rw [List.concat_eq_append] at *
    refine reached_of_dropLast proper ?_
    rw [List.dropLast_concat]
    exact h.stands (h.nested above name node there)

/-- Nothing is below what is no directory. -/
theorem WellFormed.nothing_below {tree : FileTree} {place : Place} {more : List Name}
    (wellFormed : tree.WellFormed) (h : tree.node? place ≠ some .directory) (ne : more ≠ []) :
    tree.node? (place ++ more) = none :=
  Option.eq_none_iff_forall_ne_some.2 fun _ hn => h <|
    (wellFormed.reached hn).directory place (List.prefix_append _ _) (by simpa using ne)

/-- What is removed with all that is below it leaves a well formed tree. -/
theorem WellFormed.removeBelow {tree : FileTree} (h : tree.WellFormed) (root : Place) :
    (tree.removeBelow root).WellFormed := by
  have left : ∀ place node, (tree.removeBelow root).node? place = some node → place ≠ [] →
      ¬ root <+: place ∧ tree.node? place = some node := by
    intro place node hn ne
    rw [node?_removeBelow _ _ ne] at hn
    split at hn
    · cases hn
    · rename_i hp
      exact ⟨mt List.isPrefixOf_iff_prefix.2 hp, hn⟩
  refine ⟨fun place node hn => ?_, fun place name node hn => ?_⟩
  · by_cases ne : place = []
    · rw [ne]
      exact fun _ hm => nomatch hm
    · exact h.proper place node (left place node hn ne).2
  · obtain ⟨hp, hn⟩ := left _ node hn (by simp)
    rw [node?_removeBelow_outside _ fun ha => hp (ha.trans (List.prefix_append _ _))]
    exact h.nested place name node hn

/-! ## Where paths lead -/

/-- A path leads to a place, if what is missing on its way is left out of account. -/
def Reaches (tree : FileTree) (cwd : Place) (path : Path) (place : Place) : Prop :=
  ∃ count, Leads tree (start cwd path) path.parts place count

section Leading
variable {tree other : FileTree} {here place cwd : Place} {names : List Name} {path : Path}

theorem Leads.congr {count : Nat} (same : ∀ place, other.linkTarget? place = tree.linkTarget? place)
    (h : Leads tree here names place count) : Leads other here names place count := by
  induction h with
  | done here => exact .done here
  | stay _ ih => exact .stay ih
  | up _ ih => exact .up ih
  | down hp hl _ ih => exact .down hp (by rw [same, hl]) ih
  | through hp hl _ _ ih ih' => exact .through hp (by rw [same, hl]) ih ih'

theorem Reaches.congr (same : ∀ place, other.linkTarget? place = tree.linkTarget? place)
    (h : tree.Reaches cwd path place) : other.Reaches cwd path place :=
  h.imp fun _ hl => hl.congr same

theorem reaches_of_placeOf {followLast : Bool} (h : tree.placeOf cwd followLast path = .ok place)
    (unlinked : tree.linkTarget? place = none) : tree.Reaches cwd path place := by
  have hl := (placeOf_eq_ok h).2
  cases followLast with
  | true => exact leads_of_locate hl
  | false => exact leads_of_locate (locate_of_unlinked hl unlinked)

/-- A path leads to one place. -/
theorem Reaches.unique {other : Place} (h : tree.Reaches cwd path place)
    (h' : tree.Reaches cwd path other) : place = other := by
  obtain ⟨_, hl⟩ := h
  obtain ⟨_, hl'⟩ := h'
  exact (hl.unique hl').1

/-- Names that lead down past no link lead where they say. -/
theorem leads_of_isStraight (straight : tree.IsStraight (here ++ names)) :
    Leads tree here names (here ++ names) 0 := by
  induction names generalizing here with
  | nil =>
    rw [List.append_nil]
    exact .done here
  | cons name rest ih =>
    have proper := straight.proper name (by simp)
    have apart : here ++ name :: rest = here ++ [name] ++ rest := by simp
    rw [apart] at straight ⊢
    exact .down proper (straight.unlinked _ (List.prefix_append _ _)) (ih straight)

/-- A straight way leads to its own place. -/
theorem IsStraight.reaches_eq {way : Place} (straight : tree.IsStraight way)
    (h : tree.Reaches cwd (Path.ofPlace way) place) : place = way := by
  have fromRoot : tree.IsStraight ([] ++ way) := straight
  exact h.unique ⟨0, leads_of_isStraight fromRoot⟩

/-- Names behind a path lead on from where it leads. -/
theorem Reaches.append {middle : Place} (h : tree.Reaches cwd path middle)
    (h' : tree.Reaches cwd ⟨path.root, path.parts ++ names⟩ place) :
    ∃ count, Leads tree middle names place count := by
  obtain ⟨_, hl'⟩ := h'
  obtain ⟨other, _, after, hb, ha⟩ := hl'.split
  have hstart : start cwd ⟨path.root, path.parts ++ names⟩ = start cwd path := rfl
  rw [hstart] at hb
  obtain rfl := h.unique ⟨_, hb⟩
  exact ⟨after, ha⟩

/-- A name at which no link is leads down from where the path before it leads. -/
theorem Reaches.child {middle : Place} {name : Name} (leads : tree.Reaches cwd path middle)
    (proper : Path.IsProper name) (unlinked : tree.linkTarget? (middle ++ [name]) = none)
    (h : tree.Reaches cwd (path.child name) place) : place = middle ++ [name] := by
  obtain ⟨_, hl⟩ := leads.append h
  exact (hl.unique (.down proper unlinked (.done _))).1

theorem reaches_of_leads (h : tree.placeOf cwd true path = .ok place) :
    tree.Reaches cwd path place :=
  leads_of_locate (placeOf_eq_ok h).2

theorem Keeps.placeOf (keeps : tree.Keeps other) {followLast : Bool}
    (h : tree.placeOf cwd followLast path = .ok place) :
    other.placeOf cwd followLast path = .ok place :=
  placeOf_of_kept keeps.directory (fun place _ hl => (keeps.link place).trans hl) h
    fun hn => (keeps.link place).trans hn

end Leading

/-! ## One step -/

section Steps
variable {tree before middle after : FileTree} {cwd place : Place} {node : Node}

theorem Keeps.refl (tree : FileTree) : tree.Keeps tree := ⟨fun _ h => h, fun _ => rfl⟩

theorem Keeps.trans (h : before.Keeps middle) (h' : middle.Keeps after) : before.Keeps after :=
  ⟨fun place hd => h'.directory place (h.directory place hd),
    fun place => (h'.link place).trans (h.link place)⟩

theorem Keeps.stands (h : before.Keeps after) (stands : before.Stands place) :
    after.Stands place :=
  ⟨stands.proper, fun above hp => h.directory above (stands.directory above hp)⟩

/-- A place where no directory and no link is can be set to a directory or a file. -/
structure Vacant (tree : FileTree) (place : Place) : Prop where
  directory : tree.node? place ≠ some .directory
  link : tree.linkTarget? place = none

theorem Vacant.ne_nil (h : tree.Vacant place) : place ≠ [] := by
  rintro rfl
  exact h.directory (node?_nil tree)

theorem vacant_of_none (h : tree.node? place = none) : tree.Vacant place :=
  ⟨by simp [h], by rw [linkTarget?, h]⟩

theorem vacant_of_file {content : Bytes} (h : tree.node? place = some (.file content)) :
    tree.Vacant place :=
  ⟨by simp [h], by rw [linkTarget?, h]⟩

theorem Vacant.keeps_put (vacant : tree.Vacant place) (unlinked : ∀ target, node ≠ .link target) :
    tree.Keeps (tree.put place node) := by
  refine ⟨fun other hd => ?_, fun other => ?_⟩
  · have ne : other ≠ place := fun he => vacant.directory (he ▸ hd)
    rw [node?_put tree vacant.ne_nil, if_neg ne, hd]
  · by_cases he : other = place
    · rw [he, vacant.link, linkTarget?, node?_put tree vacant.ne_nil, if_pos rfl]
      split
      · rename_i target ht
        exact absurd (Option.some.inj ht) (unlinked target)
      · rfl
    · exact linkTarget?_of_node? (by rw [node?_put tree vacant.ne_nil, if_neg he])

theorem Vacant.wellFormed_put (vacant : tree.Vacant place) (h : tree.WellFormed)
    (reached : tree.Reached place) : (tree.put place node).WellFormed := by
  refine ⟨fun other content hn => ?_, fun other name content hn => ?_⟩
  · rw [node?_put tree vacant.ne_nil] at hn
    split at hn
    · rename_i he
      exact he ▸ reached.proper
    · exact h.proper other content hn
  · have above : tree.node? other = some .directory := by
      rw [node?_put tree vacant.ne_nil] at hn
      split at hn
      · rename_i he
        exact reached.directory other (he ▸ List.prefix_append _ _) (by simp [← he])
      · exact h.nested other name content hn
    have ne : other ≠ place := fun he => vacant.directory (he ▸ above)
    rw [node?_put tree vacant.ne_nil, if_neg ne, above]

end Steps

/-! ## Rows of steps -/

/-- A tree comes from another by making directories along some paths, where nothing was,
and writing files along others, where a file or nothing was. -/
inductive Built (cwd : Place) (directories files : Path → Prop) (before : FileTree) :
    FileTree → Prop
  /-- Nothing was done. -/
  | refl : Built cwd directories files before before
  /-- A directory was made. -/
  | made {tree : FileTree} {path : Path} {place : Place} :
    Built cwd directories files before tree → directories path →
    tree.placeOf cwd false path = .ok place → tree.node? place = none →
    Built cwd directories files before (tree.put place .directory)
  /-- A file was written. -/
  | written {tree : FileTree} {path : Path} {place : Place} {content : Bytes} :
    Built cwd directories files before tree → files path →
    tree.placeOf cwd true path = .ok place →
    (tree.node? place = none ∨ ∃ old, tree.node? place = some (.file old)) →
    Built cwd directories files before (tree.put place (.file content))

/-- Directories have come to be at some places and files at others. -/
def Added (before after : FileTree) (directories files : Place → Prop) : Prop :=
  ∀ place, after.node? place = before.node? place ∨
    (directories place ∧ before.node? place = none ∧ after.node? place = some .directory) ∨
    (files place ∧ (before.node? place = none ∨ ∃ old, before.node? place = some (.file old)) ∧
      ∃ new, after.node? place = some (.file new))

section Rows
variable {cwd : Place} {directories files : Path → Prop} {before middle after : FileTree}

theorem vacant_of_written {tree : FileTree} {place : Place}
    (h : tree.node? place = none ∨ ∃ old, tree.node? place = some (.file old)) :
    tree.Vacant place := by
  rcases h with hn | ⟨old, hf⟩
  · exact vacant_of_none hn
  · exact vacant_of_file hf

theorem Built.keeps (h : Built cwd directories files before after) : before.Keeps after := by
  induction h with
  | refl => exact .refl before
  | made _ _ _ hn ih => exact ih.trans ((vacant_of_none hn).keeps_put (by simp))
  | written _ _ _ hf ih => exact ih.trans ((vacant_of_written hf).keeps_put (by simp))

/-- A place that is reached is in a standing directory. -/
theorem reached_of_placeOf {tree : FileTree} {place : Place} {followLast : Bool} {path : Path}
    (home : tree.Stands cwd) (h : tree.placeOf cwd followLast path = .ok place) :
    tree.Reached place :=
  locate_reached (home.start path).reached (placeOf_eq_ok h).2

theorem Built.wellFormed (h : Built cwd directories files before after)
    (wellFormed : before.WellFormed) (home : before.Stands cwd) : after.WellFormed := by
  induction h with
  | refl => exact wellFormed
  | made hb _ hp hn ih =>
    exact (vacant_of_none hn).wellFormed_put ih (reached_of_placeOf (hb.keeps.stands home) hp)
  | written hb _ hp hf ih =>
    exact (vacant_of_written hf).wellFormed_put ih (reached_of_placeOf (hb.keeps.stands home) hp)

theorem Built.trans (h : Built cwd directories files before middle)
    (h' : Built cwd directories files middle after) : Built cwd directories files before after := by
  induction h' with
  | refl => exact h
  | made _ hd hp hn ih => exact .made ih hd hp hn
  | written _ hf hp hn ih => exact .written ih hf hp hn

theorem Built.mono {directories' files' : Path → Prop}
    (h : Built cwd directories files before after) (hd : ∀ path, directories path → directories' path)
    (hf : ∀ path, files path → files' path) : Built cwd directories' files' before after := by
  induction h with
  | refl => exact .refl
  | made _ hm hp hn ih => exact .made ih (hd _ hm) hp hn
  | written _ hw hp hn ih => exact .written ih (hf _ hw) hp hn

theorem Added.refl (tree : FileTree) (directories files : Place → Prop) :
    tree.Added tree directories files := fun _ => .inl rfl

theorem Added.trans {directories files : Place → Prop} (h : before.Added middle directories files)
    (h' : middle.Added after directories files) : before.Added after directories files := by
  intro place
  rcases h' place with he | ⟨hd, hn, hm⟩ | ⟨hf, hn, hw⟩
  · rw [he]
    exact h place
  · rcases h place with he | ⟨_, _, hm'⟩ | ⟨_, _, new, hw'⟩
    · rw [he] at hn
      exact .inr (.inl ⟨hd, hn, hm⟩)
    · rw [hn] at hm'
      cases hm'
    · rw [hn] at hw'
      cases hw'
  · rcases h place with he | ⟨_, _, hm'⟩ | ⟨_, hn', _⟩
    · rw [he] at hn
      exact .inr (.inr ⟨hf, hn, hw⟩)
    · rw [hm'] at hn
      simp at hn
    · exact .inr (.inr ⟨hf, hn', hw⟩)

theorem Added.mono {directories files directories' files' : Place → Prop}
    (h : before.Added after directories files)
    (hd : ∀ place, directories place → directories' place)
    (hf : ∀ place, files place → files' place) : before.Added after directories' files' :=
  fun place => (h place).imp_right fun h =>
    h.imp (fun h => ⟨hd place h.1, h.2⟩) fun h => ⟨hf place h.1, h.2⟩

theorem Added.keeps {directories files : Place → Prop} (h : before.Added after directories files) :
    before.Keeps after := by
  refine ⟨fun place hd => ?_, fun place => ?_⟩
  · rcases h place with he | ⟨-, hn, -⟩ | ⟨-, hn, -⟩
    · rw [he, hd]
    · rw [hd] at hn
      cases hn
    · rw [hd] at hn
      simp at hn
  · rcases h place with he | ⟨-, hn, ha⟩ | ⟨-, hn, new, ha⟩
    · exact linkTarget?_of_node? he
    · rw [linkTarget?, linkTarget?, hn, ha]
    · rw [(vacant_of_written hn).link, linkTarget?, ha]

/-- **What a row of steps can have changed**, told by where its paths lead at first. -/
theorem Built.added (h : Built cwd directories files before after) :
    before.Added after (fun place => ∃ path, directories path ∧ before.Reaches cwd path place)
      (fun place => ∃ path, files path ∧ before.Reaches cwd path place) := by
  induction h with
  | refl => exact .refl _ _ _
  | @made tree path place hb hd hp hn ih =>
    refine ih.trans fun other => ?_
    have vacant := vacant_of_none hn
    rw [node?_put tree vacant.ne_nil]
    split
    · rename_i he
      subst he
      have reaches := reaches_of_placeOf hp vacant.link
      exact .inr (.inl ⟨⟨path, hd, reaches.congr fun p => (hb.keeps.link p).symm⟩, hn, rfl⟩)
    · exact .inl rfl
  | @written tree path place content hb hf hp hn ih =>
    refine ih.trans fun other => ?_
    have vacant := vacant_of_written hn
    rw [node?_put tree vacant.ne_nil]
    split
    · rename_i he
      subst he
      have reaches := reaches_of_placeOf hp vacant.link
      exact .inr (.inr ⟨⟨path, hf, reaches.congr fun p => (hb.keeps.link p).symm⟩, hn, content, rfl⟩)
    · exact .inl rfl

end Rows

/-! ## What the operations build -/

/-- However a change ends, it has only made directories along some paths and written files
along others. -/
def Builds {α : Type} (cwd : Place) (directories files : Path → Prop) (change : Change α) : Prop :=
  ∀ tree, tree.WellFormed → tree.Stands cwd →
    Built cwd directories files tree (reached (change tree))

/-- A path to a directory on the way of another path. -/
def OnWay (path above : Path) : Prop := above.root = path.root ∧ above.parts <+: path.parts

/-- A path from another path on, down along names. -/
def AtOrBelow (path lower : Path) : Prop :=
  lower.root = path.root ∧
    ∃ names, (∀ name ∈ names, Path.IsProper name) ∧ lower.parts = path.parts ++ names

theorem onWay_self (path : Path) : OnWay path path := ⟨rfl, List.prefix_refl _⟩

theorem onWay_of_parent {path above : Path} (h : OnWay path.parent above) : OnWay path above :=
  ⟨h.1, h.2.trans (List.dropLast_prefix _)⟩

namespace Builds
variable {α β : Type} {cwd : Place} {directories files : Path → Prop} {path target : Path}

theorem of_reached {change other : Change α} (h : Builds cwd directories files other)
    (same : ∀ tree, reached (change tree) = reached (other tree)) :
    Builds cwd directories files change := fun tree wellFormed home => by
  rw [same]
  exact h tree wellFormed home

theorem mono {directories' files' : Path → Prop} {change : Change α}
    (h : Builds cwd directories files change) (hd : ∀ path, directories path → directories' path)
    (hf : ∀ path, files path → files' path) : Builds cwd directories' files' change :=
  fun tree wellFormed home => (h tree wellFormed home).mono hd hf

/-- A change after a row of steps adds steps to it. -/
theorem after {change : Change α} {before tree : FileTree} (h : Builds cwd directories files change)
    (built : Built cwd directories files before tree) (wellFormed : before.WellFormed)
    (home : before.Stands cwd) : Built cwd directories files before (reached (change tree)) :=
  built.trans (h tree (built.wellFormed wellFormed home) (built.keeps.stands home))

theorem pure (value : α) : Builds cwd directories files (pure value) := fun _ _ _ => .refl

theorem throw (e : FileError) : Builds cwd directories files (throw e : Change α) :=
  fun _ _ _ => .refl

theorem bind {first : Change α} {next : α → Change β} (hf : Builds cwd directories files first)
    (hn : ∀ a, Builds cwd directories files (next a)) :
    Builds cwd directories files (first >>= next) := by
  intro tree wellFormed home
  have built := hf tree wellFormed home
  rw [bind_eq]
  cases h : first tree with
  | error e middle =>
    rw [h] at built
    exact built
  | ok a middle =>
    rw [h] at built
    exact (hn a).after built wellFormed home

theorem foldlM {step : β → α → Change β} {items : List α}
    (h : ∀ item ∈ items, ∀ value, Builds cwd directories files (step value item)) (value : β) :
    Builds cwd directories files (items.foldlM step value) := by
  induction items generalizing value with
  | nil => exact .pure value
  | cons item rest ih =>
    rw [List.foldlM_cons]
    exact .bind (h item List.mem_cons_self value)
      fun next => ih (fun other ho => h other (List.mem_cons_of_mem _ ho)) next

theorem makeDirectory (hd : directories path) :
    Builds cwd directories files (makeDirectory cwd path) := by
  intro tree _ _
  cases h : FileTree.makeDirectory cwd path tree with
  | error e after =>
    rw [makeDirectory_error h]
    exact .refl
  | ok _ after =>
    obtain ⟨place, hp, hn, rfl⟩ := makeDirectory_cases h
    exact .made .refl hd hp hn

theorem ensureDirectory (hd : directories path) :
    Builds cwd directories files (ensureDirectory cwd path) := by
  refine (makeDirectory hd).of_reached fun tree => ?_
  rw [FileTree.ensureDirectory]
  cases FileTree.makeDirectory cwd path tree with
  | ok _ after => rfl
  | error e after =>
    simp only
    split <;> rfl

theorem write {mode : WriteMode} {content : Bytes} (hf : files path) :
    Builds cwd directories files (write cwd mode path content) := by
  intro tree _ _
  rw [FileTree.write]
  cases hp : tree.placeOf cwd true path with
  | error e => exact .refl
  | ok place =>
    simp only
    cases hn : tree.node? place with
    | none => exact .written .refl hf hp (.inl hn)
    | some node =>
      cases node with
      | file old => exact .written .refl hf hp (.inr ⟨old, hn⟩)
      | directory => exact .refl
      | link _ => exact .refl

theorem makePath (hd : ∀ above, OnWay path above → directories above) :
    Builds cwd directories files (makePath cwd path) := by
  intro tree wellFormed home
  fun_induction FileTree.makePath cwd path tree with
  | case1 path tree _ after h =>
    have built : Built cwd directories files tree (reached (FileTree.makeDirectory cwd path tree)) :=
      makeDirectory (hd path (onWay_self path)) tree wellFormed home
    rwa [h] at built
  | case2 path tree text after h hp =>
    rw [makeDirectory_error h]
    exact .refl
  | case3 path tree text after h hp e left hm ih =>
    obtain rfl := makeDirectory_error h
    have built := ih (fun above ho => hd above (onWay_of_parent ho)) wellFormed home
    rwa [hm] at built
  | case4 path tree text after h hp _ made hm ih =>
    obtain rfl := makeDirectory_error h
    have built := ih (fun above ho => hd above (onWay_of_parent ho)) wellFormed home
    rw [hm] at built
    exact (ensureDirectory (hd path (onWay_self path))).after built wellFormed home
  | case5 path tree after cause text hd' _ h =>
    rw [makeDirectory_error h]
    exact .refl
  | case6 path tree e after _ h _ =>
    rw [makeDirectory_error h]
    exact .refl

theorem makeWay (hd : ∀ above, OnWay path above → directories above) :
    Builds cwd directories files (makeWay cwd path) := by
  intro tree wellFormed home
  fun_induction FileTree.makeWay cwd path tree with
  | case1 path _ _ => exact ensureDirectory (hd path (onWay_self path)) tree wellFormed home
  | case2 path _ text made hm _ ih =>
    have built := ih fun above ho => hd above (onWay_of_parent ho)
    rw [hm] at built
    exact (ensureDirectory (hd path (onWay_self path))).after built wellFormed home
  | case3 path _ e made _ hm _ ih =>
    have built := ih fun above ho => hd above (onWay_of_parent ho)
    rwa [hm] at built
  | case4 path _ _ made hm _ ih =>
    have built := ih fun above ho => hd above (onWay_of_parent ho)
    rw [hm] at built
    exact (ensureDirectory (hd path (onWay_self path))).after built wellFormed home
  | case5 path _ => exact ensureDirectory (hd path (onWay_self path)) tree wellFormed home

theorem copyFile {source : Path} (hf : files target) (hc : files (target.child source.name)) :
    Builds cwd directories files (copyFile cwd source target) := by
  intro tree wellFormed home
  rw [FileTree.copyFile]
  cases tree.read cwd source with
  | error e => exact .refl
  | ok content =>
    refine write ?_ tree wellFormed home
    split <;> assumption

theorem copyEntry {source : Path} {copyDirectory : Path → Path → Change (List CopyFault)}
    (hd : Builds cwd directories files (copyDirectory source target)) (hf : files target)
    (hc : files (target.child source.name)) :
    Builds cwd directories files (copyEntry cwd copyDirectory source target) := by
  intro tree wellFormed home
  have copied : Built cwd directories files tree (reached (FileTree.copyFile cwd source target tree)) :=
    copyFile hf hc tree wellFormed home
  rw [FileTree.copyEntry]
  split
  · exact hd tree wellFormed home
  · split <;> rename_i h <;> rwa [h] at copied
  · split <;> rename_i h <;> rwa [h] at copied
  · exact .refl

theorem reporting {source : Path} {copy : Change (List CopyFault)}
    (h : Builds cwd directories files copy) :
    Builds cwd directories files (reporting source target copy) := by
  refine h.of_reached fun tree => ?_
  rw [FileTree.reporting]
  cases copy tree with
  | ok _ _ => rfl
  | error e _ => cases e <;> rfl

end Builds

theorem node?_of_mem_childNames {tree : FileTree} {place : Place} {name : Name}
    (h : name ∈ tree.childNames place) : ∃ node, tree.node? (place ++ [name]) = some node := by
  obtain ⟨⟨other, old⟩, hm, hn⟩ := List.mem_filterMap.1 h
  have listed : other = place ++ [name] := by
    rcases List.eq_nil_or_concat other with rfl | ⟨above, last, rfl⟩
    · cases hn
    · simp only [List.concat_eq_append, List.getLast?_concat, List.dropLast_concat] at hn ⊢
      split at hn
      · rename_i he
        rw [he, Option.some.inj hn]
      · cases hn
  rw [node?, if_neg (by simp), ← Option.ne_none_iff_exists', ne_eq, List.lookup_eq_none_iff]
  intro absent
  simpa [listed] using absent (other, old) hm

theorem proper_of_list {tree : FileTree} {cwd : Place} {path : Path} {names : List Name}
    (wellFormed : tree.WellFormed) (h : tree.list cwd path = .ok names) :
    ∀ name ∈ names, Path.IsProper name := by
  obtain ⟨place, -, h⟩ := except_bind_ok.1 h
  split at h
  · cases h
    intro name hm
    obtain ⟨node, hn⟩ := node?_of_mem_childNames hm
    exact wellFormed.proper _ node hn name (by simp)
  · cases h
  · cases h

theorem atOrBelow_child {path lower : Path} {name : Name} (proper : Path.IsProper name)
    (h : AtOrBelow (path.child name) lower) : AtOrBelow path lower := by
  obtain ⟨hr, names, hn, hp⟩ := h
  refine ⟨hr, name :: names, ?_, by simpa [Path.child] using hp⟩
  intro other ho
  rcases List.mem_cons.1 ho with rfl | ho
  · exact proper
  · exact hn other ho

theorem onWay_child {path above : Path} {name : Name} (proper : Path.IsProper name)
    (h : OnWay (path.child name) above) : OnWay path above ∨ AtOrBelow path above := by
  obtain ⟨hr, hp⟩ := h
  rcases List.prefix_concat_iff.1 hp with he | hp
  · exact .inr ⟨hr, [name], by simpa using proper, he⟩
  · exact .inl ⟨hr, hp⟩

theorem atOrBelow_self (path : Path) : AtOrBelow path path :=
  ⟨rfl, [], fun _ hm => (nomatch hm), (List.append_nil _).symm⟩

/-- Names that lead down past no link lead below where they begin. -/
theorem prefix_of_leads {tree : FileTree} {root place : Place} {names : List Name} {count : Nat}
    (proper : ∀ name ∈ names, Path.IsProper name)
    (unlinked : ∀ place, root <+: place → tree.linkTarget? place = none)
    (h : Leads tree root names place count) : root <+: place := by
  induction h with
  | done here => exact List.prefix_refl _
  | stay _ _ => exact absurd rfl (proper _ List.mem_cons_self).1
  | up _ _ => exact absurd rfl (proper _ List.mem_cons_self).2
  | @down here place name rest count _ _ _ ih =>
    have down : here <+: here ++ [name] := List.prefix_append _ _
    exact down.trans (ih (fun other ho => proper other (List.mem_cons_of_mem _ ho))
      fun other ho => unlinked other (down.trans ho))
  | @through here middle place name target rest first second _ hl _ _ _ _ =>
    rw [unlinked _ (List.prefix_append _ _)] at hl
    cases hl

theorem prefix_of_atOrBelow {tree : FileTree} {cwd root place : Place} {target path : Path}
    (h : AtOrBelow target path) (leads : tree.Reaches cwd target root)
    (unlinked : ∀ place, root <+: place → tree.linkTarget? place = none)
    (reaches : tree.Reaches cwd path place) : root <+: place := by
  obtain ⟨_, names, proper, hp⟩ := h
  obtain ⟨_, parts⟩ := path
  subst hp
  cases ‹_ = target.root›
  obtain ⟨_, hl⟩ := leads.append reaches
  exact prefix_of_leads proper unlinked hl

/-- **Copying a directory goes along paths on the way to its target and below it.** -/
theorem builds_copyTree (cwd : Place) (depth : Nat) (source target : Path) :
    Builds cwd (fun path => OnWay target path ∨ AtOrBelow target path) (AtOrBelow target)
      (copyTree cwd depth source target) := by
  induction depth generalizing source target with
  | zero => exact .throw _
  | succ depth ih =>
    intro tree wellFormed home
    rw [copyTree, bind_eq, inspect]
    cases hl : tree.list cwd source with
    | error e => exact .refl
    | ok names =>
      refine Builds.bind (.makeWay fun above ho => .inl ho) (fun _ => ?_) tree wellFormed home
      refine .foldlM (fun name hm faults => ?_) []
      have proper := proper_of_list wellFormed hl name hm
      have below : ∀ lower, AtOrBelow (target.child name) lower → AtOrBelow target lower :=
        fun lower => atOrBelow_child proper
      have deeper := (ih (source.child name) (target.child name)).mono (fun above ha =>
        ha.elim (onWay_child proper) fun ha => .inr (below above ha)) below
      refine .bind (.reporting (.copyEntry deeper (below _ (atOrBelow_self _)) ?_))
        fun _ => .pure _
      refine below _ ⟨rfl, [name], by simpa using proper, ?_⟩
      rw [Path.name_child]
      rfl

end Reimport.FileTree
