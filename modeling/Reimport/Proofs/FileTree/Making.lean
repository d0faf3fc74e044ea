import Mathlib.Data.List.Induction
import Reimport.Proofs.FileTree.Change
import Reimport.Proofs.FileTree.Resolve

/-!
# What can be made

A way is clear if its names lead down and nothing but directories stands on it.  If
the system can name the place at its end (`Nameable`), the directories that are
missing on it can be made (`makePath_ok`), and once they stand a file can be written
there (`write_ok`).
-/
namespace Reimport

namespace Text

/-- Pieces joined begin with any first part of them joined. -/
theorem intercalate_prefix (separator : Text) (first second : List Text) :
    intercalate separator first <+: intercalate separator (first ++ second) := by
  induction first with
  | nil => exact List.nil_prefix
  | cons piece rest ih =>
    cases rest with
    | nil =>
      cases second with
      | nil => exact List.prefix_refl _
      | cons next more => exact ⟨separator ++ intercalate separator (next :: more), by simp [intercalate]⟩
    | cons next more => exact (List.prefix_append_right_inj _).2 ih

end Text

namespace FileTree

/-- The system can name the place: no name on it and not the whole path is too long, and
it holds no NUL. -/
structure Nameable (place : Place) : Prop where
  names : ∀ name ∈ place, Utf8.size name ≤ nameLimit
  path : Utf8.size (Path.ofPlace place).text < pathLimit
  nul : ∀ name ∈ place, '\x00' ∉ name

theorem Nameable.of_prefix {place above : Place} (h : Nameable place) (hp : above <+: place) :
    Nameable above := by
  refine ⟨fun name hm => h.names name (hp.subset hm), ?_, fun name hm => h.nul name (hp.subset hm)⟩
  obtain ⟨rest, rfl⟩ := hp
  obtain ⟨more, hm⟩ := Text.intercalate_prefix ['/'] above rest
  have longer : (Path.ofPlace (above ++ rest)).text = (Path.ofPlace above).text ++ more := by
    show '/' :: List.intercalate ['/'] (above ++ rest) = '/' :: List.intercalate ['/'] above ++ more
    rw [Text.list_intercalate_eq, Text.list_intercalate_eq, ← hm, List.cons_append]
  have bound := h.path
  rw [longer, Utf8.size, Utf8.encode_append, List.length_append] at bound
  exact Nat.lt_of_le_of_lt (Nat.le_add_right _ _) bound

/-- The names of the way lead down and nothing but directories stands on it. -/
structure IsClear (tree : FileTree) (way : Place) : Prop where
  proper : ∀ name ∈ way, Path.IsProper name
  clear : ∀ above, above <+: way → tree.node? above = none ∨ tree.node? above = some .directory

theorem Grown.node?_of_not_prefix {before after : FileTree} {way place : Place}
    (h : before.Grown after way) (hp : ¬ place <+: way) :
    after.node? place = before.node? place := by
  rcases h place with he | ⟨-, -, hw⟩
  · exact he
  · exact absurd hw hp

section Clear
variable {tree after : FileTree} {here way above : Place} {names : List Name}

theorem IsClear.of_prefix (h : tree.IsClear way) (hp : above <+: way) : tree.IsClear above :=
  ⟨fun name hm => h.proper name (hp.subset hm), fun other ho => h.clear other (ho.trans hp)⟩

theorem IsClear.isStraight (h : tree.IsClear way) : tree.IsStraight way := by
  refine ⟨h.proper, fun above hp => ?_⟩
  rw [linkTarget?]
  rcases h.clear above hp with hn | hn <;> rw [hn]

theorem IsClear.grown {other : Place} (h : tree.IsClear way) (grown : tree.Grown after other) :
    after.IsClear way := by
  refine ⟨h.proper, fun above hp => ?_⟩
  rcases grown above with he | ⟨-, hd, -⟩
  · rw [he]
    exact h.clear above hp
  · exact .inr hd

/-- A clear way leads to its end, or a directory is missing on it. -/
theorem locate_of_isClear (clear : tree.IsClear (here ++ names))
    (short : ∀ name ∈ names, Utf8.size name ≤ nameLimit) (followLast : Bool) (links : Nat) :
    tree.locate followLast links here names = .ok (here ++ names) ∨
      tree.locate followLast links here names = .error .noEntry := by
  induction names generalizing here with
  | nil =>
    rw [locate_nil, List.append_nil]
    exact .inl rfl
  | cons name rest ih =>
    have proper := clear.proper name (by simp)
    have apart : here ++ name :: rest = here ++ [name] ++ rest := by simp
    have onHere := clear.clear here (List.prefix_append _ _)
    rw [apart] at clear ⊢
    have onNext := clear.clear (here ++ [name]) (List.prefix_append _ _)
    rcases onHere with hd | hd
    · exact .inr (by rw [locate_aground (by simp [hd]), if_pos hd])
    have enters : tree.Enters here name := ⟨hd, proper, short name List.mem_cons_self⟩
    rcases onNext with hn | hn
    · rw [enters.locate_vacant hn]
      by_cases hr : rest = []
      · simp [hr]
      · exact .inr (if_neg hr)
    · rw [enters.locate_down hn (by rw [linkTarget?, hn])]
      exact ih clear fun other ho => short other (List.mem_cons_of_mem _ ho)

/-- A way leads to its end if the directories above it stand and no link is there. -/
theorem locate_of_reached (reached : tree.Reached (here ++ names))
    (short : ∀ name ∈ names, Utf8.size name ≤ nameLimit)
    (unlinked : tree.linkTarget? (here ++ names) = none) (followLast : Bool) (links : Nat) :
    tree.locate followLast links here names = .ok (here ++ names) := by
  induction names generalizing here with
  | nil => rw [locate_nil, List.append_nil]
  | cons name rest ih =>
    have enters : tree.Enters here name :=
      ⟨reached.directory here (List.prefix_append _ _) (by simp), reached.proper name (by simp),
        short name List.mem_cons_self⟩
    have apart : here ++ name :: rest = here ++ [name] ++ rest := by simp
    rw [apart] at reached unlinked ⊢
    by_cases hr : rest = []
    · subst hr
      rw [List.append_nil] at unlinked ⊢
      exact enters.locate_last unlinked
    · have hn := reached.directory (here ++ [name]) (List.prefix_append _ _) (by simpa using hr)
      rw [enters.locate_down hn (by rw [linkTarget?, hn])]
      exact ih reached (fun other ho => short other (List.mem_cons_of_mem _ ho)) unlinked

/-- Resolving a straight way that holds no NUL changes nothing. -/
theorem canonicalPlace_of_isStraight (straight : tree.IsStraight way)
    (nul : ∀ name ∈ way, '\x00' ∉ name) (cwd : Place) :
    tree.canonicalPlace cwd (Path.ofPlace way) = .ok way := by
  have fromRoot : tree.IsStraight ([] ++ way) := straight
  refine canonicalPlace_eq_ok.2 ⟨Path.contains_nul_eq_false.2 nul, ?_⟩
  have resolved := resolveFrom_of_isStraight fromRoot tree.entries.length []
  rw [List.nil_append] at resolved
  rw [start, Path.isAbsolute_ofPlace, if_pos rfl]
  exact (congrArg tree.settle resolved).trans (if_pos rfl)

/-- Where following a nameable place ends. -/
theorem placeOf_of_nameable (nameable : Nameable way) (cwd : Place) (followLast : Bool) :
    tree.placeOf cwd followLast (Path.ofPlace way) =
      match tree.locate followLast linkLimit [] way with
      | .ok place => .ok place
      | .error cause => .error (.system cause (Path.ofPlace way).text) := by
  have hnul : ¬ (Path.ofPlace way).text.contains '\x00' = true := by
    rw [Bool.not_eq_true, Path.contains_nul_eq_false]
    exact nameable.nul
  rw [placeOf, if_neg hnul, if_neg (Nat.not_le.2 nameable.path), Path.isAbsolute_ofPlace, if_pos rfl]
  rfl

theorem placeOf_of_reached (nameable : Nameable way) (reached : tree.Reached way)
    (unlinked : tree.linkTarget? way = none) (cwd : Place) (followLast : Bool) :
    tree.placeOf cwd followLast (Path.ofPlace way) = .ok way := by
  have fromRoot : tree.Reached ([] ++ way) := reached
  rw [placeOf_of_nameable nameable, locate_of_reached fromRoot nameable.names unlinked]
  rfl

/-- The directories above a place stand if the one it is in does. -/
theorem reached_of_dropLast (proper : ∀ name ∈ way, Path.IsProper name)
    (stands : tree.Stands way.dropLast) : tree.Reached way := by
  refine ⟨proper, fun above hp hne => stands.directory above ?_⟩
  rcases List.eq_nil_or_concat way with rfl | ⟨rest, name, rfl⟩
  · exact absurd (List.prefix_nil.1 hp) hne
  · rw [List.concat_eq_append] at hp hne ⊢
    rw [List.dropLast_concat]
    exact (List.prefix_concat_iff.1 hp).resolve_left hne

end Clear

/-! ## Making directories -/

section Making
variable {tree : FileTree} (cwd : Place) {way : Place}

theorem Reached.put_directory (above : tree.Reached way) (absent : tree.node? way = none) :
    (tree.put way .directory).Stands way := by
  have nonempty : way ≠ [] := by
    rintro rfl
    rw [node?_nil] at absent
    cases absent
  refine ⟨above.proper, fun other hp => ?_⟩
  rw [node?_put tree nonempty]
  split
  · rfl
  · rename_i hne
    exact above.directory other hp hne

theorem isDirectory_of_stands (nameable : Nameable way) (stands : tree.Stands way) :
    tree.isDirectory cwd (Path.ofPlace way) = .ok true := by
  have hd := stands.directory way (List.prefix_refl _)
  have leads := placeOf_of_reached nameable stands.reached
    (stands.isStraight.unlinked way (List.prefix_refl _)) cwd true
  have hs : tree.status cwd (Path.ofPlace way) = .ok .directory := by
    refine except_bind_ok.2 ⟨way, leads, ?_⟩
    rw [hd]
  rw [isDirectory, ask, hs]
  rfl

/-- Making a directory where nothing is in a standing directory, or where a directory is
already. -/
theorem makeDirectory_of_reached (nameable : Nameable way) (clear : tree.IsClear way)
    (above : tree.Reached way) :
    (makeDirectory cwd (Path.ofPlace way) tree = .ok () (tree.put way .directory) ∧
        (tree.put way .directory).Stands way) ∨
      makeDirectory cwd (Path.ofPlace way) tree =
          .error (.system .alreadyExists (Path.ofPlace way).text) tree ∧ tree.Stands way := by
  have leads := placeOf_of_reached nameable above
    (clear.isStraight.unlinked way (List.prefix_refl _)) cwd false
  rcases clear.clear way (List.prefix_refl _) with hn | hd
  · refine .inl ⟨?_, above.put_directory hn⟩
    rw [makeDirectory, leads]
    simp only [hn]
  · refine .inr ⟨?_, above.stands hd⟩
    rw [makeDirectory, leads]
    simp only [hd]

theorem ensureDirectory_ok (nameable : Nameable way) (clear : tree.IsClear way)
    (above : tree.Reached way) :
    ∃ after, ensureDirectory cwd (Path.ofPlace way) tree = .ok () after ∧ after.Stands way := by
  rcases makeDirectory_of_reached cwd nameable clear above with ⟨hm, hs⟩ | ⟨hm, hs⟩
  · exact ⟨_, by rw [ensureDirectory, hm], hs⟩
  · refine ⟨tree, ?_, hs⟩
    rw [ensureDirectory, hm]
    simp only [isDirectory_of_stands cwd nameable hs]

/-- **The directories that are missing on a clear way can be made.** -/
theorem makePath_ok (nameable : Nameable way) (clear : tree.IsClear way) :
    ∃ after, makePath cwd (Path.ofPlace way) tree = .ok () after ∧ after.Stands way := by
  induction way using List.reverseRecOn with
  | nil =>
    rcases makeDirectory_of_reached cwd nameable clear (stands_nil tree).reached with
      ⟨hm, hs⟩ | ⟨hm, hs⟩
    · exact ⟨_, by rw [makePath, hm], hs⟩
    · refine ⟨tree, ?_, hs⟩
      rw [makePath, hm]
      simp only [isDirectory_of_stands cwd nameable hs]
  | append_singleton before name ih =>
    have fromRoot : tree.IsClear ([] ++ (before ++ [name])) := clear
    rcases locate_of_isClear fromRoot nameable.names false linkLimit with hl | hl
    · have reached := locate_reached (stands_nil tree).reached hl
      rcases makeDirectory_of_reached cwd nameable clear reached with ⟨hm, hs⟩ | ⟨hm, hs⟩
      · exact ⟨_, by rw [makePath, hm], hs⟩
      · refine ⟨tree, ?_, hs⟩
        rw [makePath, hm]
        simp only [isDirectory_of_stands cwd nameable hs]
    -- What is missing is made from above.
    · have hm : makeDirectory cwd (Path.ofPlace (before ++ [name])) tree =
          .error (.system .noEntry (Path.ofPlace (before ++ [name])).text) tree := by
        rw [makeDirectory, placeOf_of_nameable nameable, hl]
      have parent : (Path.ofPlace (before ++ [name])).parent = Path.ofPlace before := by
        rw [Path.parent, Path.ofPlace, List.dropLast_concat]
        rfl
      have short : before <+: before ++ [name] := List.prefix_append _ _
      obtain ⟨made, hmade, stands⟩ := ih (nameable.of_prefix short) (clear.of_prefix short)
      have grown := grown_of_makePath (clear.of_prefix short).isStraight hmade
      have above : made.Reached (before ++ [name]) :=
        reached_of_dropLast clear.proper (by rwa [List.dropLast_concat])
      obtain ⟨after, hafter, hs⟩ := ensureDirectory_ok cwd nameable (clear.grown grown) above
      refine ⟨after, ?_, hs⟩
      rw [makePath, hm]
      have deeper : (Path.ofPlace (before ++ [name])).parts ≠ [] := by simp [Path.ofPlace]
      simp only [if_neg deeper, parent, hmade, hafter]

/-- **A file can be made in a standing directory.** -/
theorem write_ok (mode : WriteMode) (content : Bytes) (nameable : Nameable way)
    (above : tree.Reached way) (absent : tree.node? way = none) :
    write cwd mode (Path.ofPlace way) content tree = .ok () (tree.put way (.file content)) := by
  have unlinked : tree.linkTarget? way = none := by rw [linkTarget?, absent]
  rw [write, placeOf_of_reached nameable above unlinked]
  simp only [absent]

/-- A file in a standing directory can be written. -/
theorem write_ok_of_file (mode : WriteMode) (content : Bytes) {old : Bytes}
    (nameable : Nameable way) (above : tree.Reached way)
    (there : tree.node? way = some (.file old)) :
    write cwd mode (Path.ofPlace way) content tree =
      .ok () (tree.put way (.file (mode.combine old content))) := by
  have unlinked : tree.linkTarget? way = none := by rw [linkTarget?, there]
  rw [write, placeOf_of_reached nameable above unlinked]
  simp only [there]

end Making

end FileTree
end Reimport
