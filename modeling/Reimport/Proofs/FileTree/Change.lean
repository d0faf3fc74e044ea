import Reimport.Proofs.FileTree.Straight
import Reimport.Proofs.Results

/-!
# What changes of files change

Making directories along a straight way adds directories on that way where nothing
was, and nothing else (`grown_of_makePath`).  Writing touches the one place that the
path leads to (`write_cases`), and the path goes on leading there, so that what is
written is read back (`read_of_write`).
-/
namespace Reimport.FileTree

/-- The tree has come to hold more directories on the way to a place, and is otherwise
the same. -/
def Grown (before after : FileTree) (way : Place) : Prop :=
  ∀ place, after.node? place = before.node? place ∨
    before.node? place = none ∧ after.node? place = some .directory ∧ place <+: way

section Growing
variable {before middle after : FileTree} {way longer : Place}

theorem Grown.refl (tree : FileTree) (way : Place) : tree.Grown tree way := fun _ => .inl rfl

theorem Grown.trans (h : before.Grown middle way) (h' : middle.Grown after way) :
    before.Grown after way := by
  intro place
  rcases h place with he | ⟨hb, hm, hp⟩
  · rcases h' place with he' | ⟨hm', ha, hp⟩
    · exact .inl (he'.trans he)
    · exact .inr ⟨he.symm.trans hm', ha, hp⟩
  · rcases h' place with he' | ⟨hm', -, -⟩
    · exact .inr ⟨hb, he'.trans hm, hp⟩
    · rw [hm] at hm'
      cases hm'

theorem Grown.mono (h : before.Grown after way) (hp : way <+: longer) :
    before.Grown after longer := by
  intro place
  rcases h place with he | ⟨hb, ha, hw⟩
  · exact .inl he
  · exact .inr ⟨hb, ha, hw.trans hp⟩

theorem Grown.linkTarget? (h : before.Grown after way) (place : Place) :
    after.linkTarget? place = before.linkTarget? place := by
  rcases h place with he | ⟨hb, ha, -⟩
  · exact linkTarget?_of_node? he
  · rw [FileTree.linkTarget?, FileTree.linkTarget?, hb, ha]

theorem Grown.isStraight (h : before.Grown after way) {place : Place}
    (straight : before.IsStraight place) : after.IsStraight place := by
  refine ⟨straight.proper, fun above hp => ?_⟩
  rw [h.linkTarget?]
  exact straight.unlinked above hp

theorem grown_put {tree : FileTree} (absent : tree.node? way = none) :
    tree.Grown (tree.put way .directory) way := by
  have nonempty : way ≠ [] := by
    rintro rfl
    rw [node?_nil] at absent
    cases absent
  intro place
  rw [node?_put tree nonempty]
  split
  · rename_i he
    subst he
    exact .inr ⟨absent, rfl, List.prefix_refl _⟩
  · exact .inl rfl

end Growing

/-- A straight way leads to its own place, if anywhere. -/
theorem placeOf_of_isStraight {tree : FileTree} {way place : Place} {cwd : Place}
    {followLast : Bool} (straight : tree.IsStraight way)
    (h : tree.placeOf cwd followLast (Path.ofPlace way) = .ok place) : place = way := by
  have hl := (placeOf_eq_ok h).2
  have fromRoot : tree.IsStraight ([] ++ way) := straight
  rw [start, Path.isAbsolute_ofPlace, if_pos rfl] at hl
  rcases locate_of_isStraight fromRoot followLast linkLimit with hw | ⟨e, he, -⟩
  · exact Except.ok.inj (hl.symm.trans hw)
  · cases hl.symm.trans he

theorem makeDirectory_cases {tree after : FileTree} {cwd : Place} {path : Path}
    (h : makeDirectory cwd path tree = .ok () after) :
    ∃ place, tree.placeOf cwd false path = .ok place ∧ tree.node? place = none ∧
      after = tree.put place .directory := by
  rw [makeDirectory] at h
  cases hp : tree.placeOf cwd false path with
  | error e =>
    rw [hp] at h
    cases h
  | ok place =>
    simp only [hp] at h
    cases hn : tree.node? place with
    | some node =>
      rw [hn] at h
      cases h
    | none =>
      rw [hn] at h
      cases h
      exact ⟨place, rfl, hn, rfl⟩

theorem makeDirectory_error {tree after : FileTree} {cwd : Place} {path : Path} {e : FileError}
    (h : makeDirectory cwd path tree = .error e after) : after = tree := by
  rw [makeDirectory] at h
  split at h
  · cases h
    rfl
  · split at h
    · cases h
      rfl
    · cases h

theorem grown_of_makeDirectory {tree after : FileTree} {cwd way : Place}
    (straight : tree.IsStraight way)
    (h : makeDirectory cwd (Path.ofPlace way) tree = .ok () after) : tree.Grown after way := by
  obtain ⟨place, hp, hn, rfl⟩ := makeDirectory_cases h
  rw [placeOf_of_isStraight straight hp] at hn ⊢
  exact grown_put hn

theorem grown_of_ensureDirectory {tree after : FileTree} {cwd way : Place}
    (straight : tree.IsStraight way)
    (h : ensureDirectory cwd (Path.ofPlace way) tree = .ok () after) : tree.Grown after way := by
  rw [ensureDirectory] at h
  cases hm : makeDirectory cwd (Path.ofPlace way) tree with
  | ok _ made =>
    simp only [hm] at h
    cases h
    exact grown_of_makeDirectory straight hm
  | error e left =>
    obtain rfl := makeDirectory_error hm
    simp only [hm] at h
    split at h
    · cases h
      exact Grown.refl _ _
    · cases h

/-- **Making a straight way adds directories on it and changes nothing else.** -/
theorem grown_of_makePath {cwd way : Place} {tree after : FileTree}
    (straight : tree.IsStraight way)
    (h : makePath cwd (Path.ofPlace way) tree = .ok () after) : tree.Grown after way := by
  generalize hp : Path.ofPlace way = path at h
  fun_induction makePath cwd path tree generalizing way after with
  | case1 path tree u made hm =>
    cases h
    rw [← hp] at hm
    exact grown_of_makeDirectory straight hm
  | case4 path tree text left hm hne u made hmade ih =>
    obtain rfl := makeDirectory_error hm
    subst hp
    have above : way.dropLast <+: way := List.dropLast_prefix way
    have first := ih (straight.of_prefix above) rfl hmade
    have second := grown_of_ensureDirectory (first.isStraight straight) h
    exact (first.mono above).trans second
  | case5 path tree left cause text hd _ hm =>
    obtain rfl := makeDirectory_error hm
    cases h
    exact Grown.refl _ _
  | _ => cases h

/-- **Writing touches one place**, which held a file or nothing. -/
theorem write_cases {tree after : FileTree} {cwd : Place} {mode : WriteMode} {path : Path}
    {content : Bytes} (h : write cwd mode path content tree = .ok () after) :
    ∃ place, tree.placeOf cwd true path = .ok place ∧
      ((∃ old, tree.node? place = some (.file old) ∧
          after = tree.put place (.file (mode.combine old content))) ∨
        tree.node? place = none ∧ after = tree.put place (.file content)) := by
  rw [write] at h
  cases hp : tree.placeOf cwd true path with
  | error e =>
    simp only [hp] at h
    cases h
  | ok place =>
    simp only [hp] at h
    refine ⟨place, rfl, ?_⟩
    cases hn : tree.node? place with
    | none =>
      simp only [hn] at h
      cases h
      exact .inr ⟨rfl, rfl⟩
    | some node =>
      cases node with
      | file old =>
        simp only [hn] at h
        cases h
        exact .inl ⟨old, rfl, rfl⟩
      | directory => simp only [hn] at h; cases h
      | link target => simp only [hn] at h; cases h

/-- **A file that is put where a path leads leaves the path leading there**, if no
directory and no link was there before. -/
theorem placeOf_put {tree : FileTree} {cwd place : Place} {followLast : Bool} {path : Path}
    (content : Bytes) (h : tree.placeOf cwd followLast path = .ok place)
    (notDirectory : tree.node? place ≠ some .directory) (unlinked : tree.linkTarget? place = none) :
    (tree.put place (.file content)).placeOf cwd followLast path = .ok place := by
  have nonempty : place ≠ [] := by
    rintro rfl
    exact notDirectory (node?_nil tree)
  -- the directories and links on the way are elsewhere
  refine placeOf_of_kept (fun other hd => ?_) (fun other target hl => ?_) h fun _ => ?_
  · rw [node?_put tree nonempty, if_neg, hd]
    rintro rfl
    exact notDirectory hd
  · rw [linkTarget?_eq_some] at hl ⊢
    rw [node?_put tree nonempty, if_neg, hl]
    rintro rfl
    rw [linkTarget?_eq_some.2 hl] at unlinked
    cases unlinked
  · rw [linkTarget?, node?_put tree nonempty, if_pos rfl]

/-- **What is written to a path is read from it.** -/
theorem read_of_write {tree after : FileTree} {cwd : Place} {path : Path} {content : Bytes}
    (h : write cwd .replace path content tree = .ok () after) :
    after.read cwd path = .ok content := by
  obtain ⟨place, hp, hw⟩ := write_cases h
  obtain ⟨rfl, notDirectory, unlinked⟩ : after = tree.put place (.file content) ∧
      tree.node? place ≠ some .directory ∧ tree.linkTarget? place = none := by
    rcases hw with ⟨old, hn, rfl⟩ | ⟨hn, rfl⟩
    · exact ⟨rfl, by simp [hn], by rw [linkTarget?, hn]⟩
    · exact ⟨rfl, by simp [hn], by rw [linkTarget?, hn]⟩
  have nonempty : place ≠ [] := by
    rintro rfl
    exact notDirectory (node?_nil tree)
  have leads := placeOf_put content hp notDirectory unlinked
  refine except_bind_ok.2 ⟨.file content, ?_, rfl⟩
  refine except_bind_ok.2 ⟨place, leads, ?_⟩
  rw [node?_put tree nonempty, if_pos rfl]

end Reimport.FileTree
