import Reimport.Proofs.FileTree.Building

/-!
# Names that are followed past no link

Resolving appends the names of a path one after the other, and `..` takes the last one away, as
long as no link is met (`resolveFrom_of_unlinked`).  Following the path asks for more: whatever
is left again by `..` has to be a directory that is there.  Where the place at the end holds
something, that and the limits of the system are all that can be missing
(`locate_iff_of_unlinked`, `placeOf_iff_of_unlinked`), since the directories above that place
stand.  The path of a file that was just written leads to it (`placeOf_of_write`).
-/
namespace Reimport

/-- Pieces joined end with any last part of them joined. -/
theorem Text.intercalate_suffix (separator : Text) (first second : List Text) :
    intercalate separator second <:+ intercalate separator (first ++ second) := by
  induction first with
  | nil => exact List.suffix_refl _
  | cons piece rest ih =>
    cases h : rest ++ second with
    | nil =>
      rw [(List.append_eq_nil_iff.1 h).2]
      exact List.nil_suffix
    | cons next more =>
      rw [h] at ih
      rw [List.cons_append, h, intercalate]
      exact ih.trans (List.suffix_append _ _)

/-- A path below a directory is longer than what follows the directory. -/
theorem Path.size_text_le (root names : List Name) (ne : names ≠ []) :
    Utf8.size (Path.mk .none names).text ≤ Utf8.size (ofPlace (root ++ names)).text := by
  have whole : (ofPlace (root ++ names)).text = '/' :: Text.intercalate ['/'] (root ++ names) := by
    rw [← Text.list_intercalate_eq]
    rfl
  have last : (Path.mk .none names).text = Text.intercalate ['/'] names := by
    cases names with
    | nil => exact absurd rfl ne
    | cons name rest => rfl
  obtain ⟨front, hf⟩ := Text.intercalate_suffix ['/'] root names
  rw [whole, last, ← hf, ← List.cons_append, Utf8.size, Utf8.size, Utf8.encode_append,
    List.length_append]
  exact Nat.le_add_left _ _

namespace FileTree

/-- Where one name leads past no link. -/
def hop (here : Place) (name : Name) : Place :=
  if name = Path.dotDot then here.dropLast else here ++ [name]

/-- No link is at a place that the names lead to one after the other. -/
def Unlinked (tree : FileTree) (here : Place) (names : List Name) : Prop :=
  ∀ before rest, names = before ++ rest → tree.linkTarget? (climb here before) = none

/-- The directories that the names leave again by `..` are there. -/
def TurnsBack (tree : FileTree) (here : Place) (names : List Name) : Prop :=
  ∀ before rest, names = before ++ Path.dotDot :: rest →
    tree.node? (climb here before) = some .directory

section Climbing
variable {tree : FileTree} {here : Place} {name : Name} {names rest : List Name}

theorem hop_up (here : Place) : hop here Path.dotDot = here.dropLast := if_pos rfl

theorem hop_down (hup : name ≠ Path.dotDot) (here : Place) : hop here name = here ++ [name] :=
  if_neg hup

theorem climb_cons (here : Place) (name : Name) (rest : List Name) :
    climb here (name :: rest) = climb (hop here name) rest := rfl

theorem climb_of_proper (proper : ∀ name ∈ names, Path.IsProper name) :
    climb here names = here ++ names := by
  induction names generalizing here with
  | nil => exact (List.append_nil here).symm
  | cons name rest ih =>
    rw [climb_cons, hop_down (proper name List.mem_cons_self).2,
      ih fun other ho => proper other (List.mem_cons_of_mem _ ho), List.append_assoc,
      List.singleton_append]

theorem Unlinked.next (h : tree.Unlinked here (name :: rest)) :
    tree.linkTarget? (hop here name) = none := h [name] rest rfl

theorem Unlinked.tail (h : tree.Unlinked here (name :: rest)) :
    tree.Unlinked (hop here name) rest :=
  fun before more he => h (name :: before) more (by rw [he]; rfl)

theorem turnsBack_nil : tree.TurnsBack here [] := fun before rest he => by simp at he

theorem turnsBack_cons : tree.TurnsBack here (name :: rest) ↔
    (name = Path.dotDot → tree.node? here = some .directory) ∧
      tree.TurnsBack (hop here name) rest := by
  refine ⟨fun h => ⟨fun hup => h [] rest (by rw [hup]; rfl), fun before more he => ?_⟩, ?_⟩
  · exact h (name :: before) more (by rw [he]; rfl)
  · rintro ⟨first, later⟩ before more he
    cases before with
    | nil => exact first (List.cons.inj he).1
    | cons other before =>
      obtain ⟨rfl, hr⟩ := List.cons.inj he
      exact later before more hr

/-- Past no link, resolving appends the names. -/
theorem resolveFrom_of_unlinked (unlinked : tree.Unlinked here names) (depth : Nat)
    (following : List Place) :
    tree.resolveFrom depth following here names = ⟨climb here names, true⟩ := by
  induction names generalizing here with
  | nil =>
    rw [resolveFrom]
    rfl
  | cons name rest ih =>
    have next := unlinked.next
    have onward := ih unlinked.tail
    by_cases hup : name = Path.dotDot
    · subst hup
      rw [hop_up] at onward
      rw [climb_cons, hop_up, resolveFrom_up, onward]
    · rw [hop_down hup] at next onward
      rw [climb_cons, hop_down hup, resolveFrom_down hup next, onward]

/-- Where names lead to something that is there, they begin at a directory. -/
theorem TurnsBack.directory (wellFormed : tree.WellFormed) {node : Node}
    (h : tree.TurnsBack here (name :: rest))
    (there : tree.node? (climb here (name :: rest)) = some node) :
    tree.node? here = some .directory := by
  induction rest generalizing here name with
  | nil =>
    by_cases hup : name = Path.dotDot
    · exact (turnsBack_cons.1 h).1 hup
    · rw [climb_cons, hop_down hup] at there
      exact wellFormed.nested here name node there
  | cons next more ih =>
    by_cases hup : name = Path.dotDot
    · exact (turnsBack_cons.1 h).1 hup
    · have directory := ih (turnsBack_cons.1 h).2 there
      rw [hop_down hup] at directory
      exact wellFormed.nested here name _ directory

/-- **Names past no link that lead to something that is there can be followed** iff none of
them is too long and the directories that they leave again are there. -/
theorem locate_iff_of_unlinked (wellFormed : tree.WellFormed) (plain : Path.dot ∉ names)
    (unlinked : tree.Unlinked here names) {node : Node}
    (there : tree.node? (climb here names) = some node) (followLast : Bool) (links : Nat) :
    tree.locate followLast links here names = .ok (climb here names) ↔
      (∀ name ∈ names, Utf8.size name ≤ nameLimit) ∧ tree.TurnsBack here names := by
  induction names generalizing here with
  | nil =>
    rw [locate_nil]
    exact ⟨fun _ => ⟨by simp, turnsBack_nil⟩, fun _ => rfl⟩
  | cons name rest ih =>
    have hdot : name ≠ Path.dot := fun he => plain (he ▸ List.mem_cons_self)
    have next := unlinked.next
    have onward := ih (fun hm => plain (List.mem_cons_of_mem _ hm)) unlinked.tail there
    -- either side asks for a directory to begin with
    by_cases aground : tree.node? here ≠ some .directory
    · rw [locate_aground aground]
      exact iff_of_false (fun h => by cases h)
        fun h => aground (h.2.directory wellFormed there)
    have directory := Classical.not_not.1 aground
    rw [List.forall_mem_cons, turnsBack_cons, climb_cons]
    by_cases hup : name = Path.dotDot
    · subst hup
      have short : Utf8.size Path.dotDot ≤ nameLimit := by decide
      rw [hop_up] at onward ⊢
      simp only [locate_dotDot directory, onward, directory, short, true_and, imp_self]
    rw [climb_cons] at there
    rw [hop_down hup] at next onward there ⊢
    by_cases long : Utf8.size name > nameLimit
    · rw [locate_long directory ⟨hdot, hup⟩ long]
      exact iff_of_false (fun h => by cases h) fun h => Nat.not_le.2 long h.1.1
    have short := Nat.not_lt.1 long
    have enters : tree.Enters here name := ⟨directory, ⟨hdot, hup⟩, short⟩
    cases hn : tree.node? (here ++ [name]) with
    | none =>
      -- something is behind, so more names follow, and they would begin at a directory
      rw [enters.locate_vacant hn]
      cases rest with
      | nil =>
        rw [show climb (here ++ [name]) [] = here ++ [name] from rfl, hn] at there
        cases there
      | cons other more =>
        refine iff_of_false (by simp) fun h => ?_
        have := h.2.2.directory wellFormed there
        rw [hn] at this
        cases this
    | some node =>
      simp only [enters.locate_down hn next, onward, short, hup, true_and, false_imp_iff]

/-- Nothing keeps a path from being followed to something that is there: the path and its names
are short enough, and the directories that it leaves again are there. -/
structure Passable (tree : FileTree) (cwd : Place) (path : Path) : Prop where
  length : Utf8.size path.text < pathLimit
  names : ∀ name ∈ path.parts, Utf8.size name ≤ nameLimit
  turnsBack : tree.TurnsBack (start cwd path) path.parts

theorem placeOf_iff_of_unlinked {cwd place : Place} {path : Path} (wellFormed : tree.WellFormed)
    (nul : path.text.contains '\x00' = false) (plain : Path.dot ∉ path.parts)
    (unlinked : tree.Unlinked (start cwd path) path.parts)
    (hp : climb (start cwd path) path.parts = place) {node : Node}
    (there : tree.node? place = some node) (followLast : Bool) :
    tree.placeOf cwd followLast path = .ok place ↔ tree.Passable cwd path := by
  subst hp
  rw [placeOf_eq_ok_iff,
    locate_iff_of_unlinked wellFormed plain unlinked there followLast linkLimit]
  exact ⟨fun h => ⟨h.2.1, h.2.2.1, h.2.2.2⟩, fun h => ⟨nul, h.length, h.names, h.turnsBack⟩⟩

/-- A way without links is one past no link. -/
theorem IsStraight.unlinked_names {way : Place} (straight : tree.IsStraight way) :
    tree.Unlinked [] way := by
  intro before rest he
  have above : before <+: way := ⟨rest, he.symm⟩
  rw [climb_of_proper fun name hm => straight.proper name (above.subset hm), List.nil_append]
  exact straight.unlinked before above

theorem turnsBack_of_proper (proper : ∀ name ∈ names, Path.IsProper name) :
    tree.TurnsBack here names := by
  rintro before rest rfl
  exact absurd rfl (proper Path.dotDot (by simp)).2

end Climbing

/-- **What was written can be opened** by the path of its place. -/
theorem placeOf_of_write {made after : FileTree} {cwd place : Place} {mode : WriteMode}
    {content : Bytes} (straight : made.IsStraight place)
    (h : write cwd mode (Path.ofPlace place) content made = .ok () after) :
    after.placeOf cwd true (Path.ofPlace place) = .ok place := by
  obtain ⟨other, hp, hcases⟩ := write_cases h
  obtain rfl := placeOf_of_isStraight straight hp
  have vacant : made.Vacant other := by
    rcases hcases with ⟨old, hold, -⟩ | ⟨hn, -⟩
    · exact vacant_of_file hold
    · exact vacant_of_none hn
  have keeps : made.Keeps after := by
    rcases hcases with ⟨old, -, rfl⟩ | ⟨-, rfl⟩
    · exact vacant.keeps_put (by simp)
    · exact vacant.keeps_put (by simp)
  exact keeps.placeOf hp

end FileTree
end Reimport
