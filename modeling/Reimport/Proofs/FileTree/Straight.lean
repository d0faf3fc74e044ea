import Reimport.Proofs.FileTree.Following

/-!
# Straight ways

A way is straight if its names lead down and no link stands on it.  Following a
straight way leads where it says or fails, but never for too many links
(`locate_of_isStraight`), and resolving it changes nothing
(`resolveFrom_of_isStraight`).  Wherever following a path leads, the directories
above that place stand (`locate_reached`), so a place that was reached and holds a
directory has a straight way to it.
-/
namespace Reimport

namespace FileTree

/-- A directory is at the place and at every place above it. -/
structure Stands (tree : FileTree) (place : Place) : Prop where
  proper : ∀ name ∈ place, Path.IsProper name
  directory : ∀ above, above <+: place → tree.node? above = some .directory

/-- The directories above the place stand. -/
structure Reached (tree : FileTree) (place : Place) : Prop where
  proper : ∀ name ∈ place, Path.IsProper name
  directory : ∀ above, above <+: place → above ≠ place → tree.node? above = some .directory

/-- The names of the place lead down and there is no link on the way. -/
structure IsStraight (tree : FileTree) (place : Place) : Prop where
  proper : ∀ name ∈ place, Path.IsProper name
  unlinked : ∀ above, above <+: place → tree.linkTarget? above = none

theorem proper_child {here : Place} {name : Name} (h : ∀ name ∈ here, Path.IsProper name)
    (hn : Path.IsProper name) : ∀ other ∈ here ++ [name], Path.IsProper other := by
  intro other hm
  rcases List.mem_append.1 hm with hm | hm
  · exact h other hm
  · rwa [List.mem_singleton.1 hm]

section Standing
variable {tree : FileTree} {here : Place} {name : Name}

theorem stands_nil (tree : FileTree) : tree.Stands [] := by
  refine ⟨fun _ h => (nomatch h), fun above h => ?_⟩
  rw [List.prefix_nil.1 h, node?_nil]

theorem Stands.reached (h : tree.Stands here) : tree.Reached here :=
  ⟨h.proper, fun above hp _ => h.directory above hp⟩

theorem Reached.stands (h : tree.Reached here) (hd : tree.node? here = some .directory) :
    tree.Stands here := by
  refine ⟨h.proper, fun above hp => ?_⟩
  by_cases he : above = here
  · rw [he, hd]
  · exact h.directory above hp he

theorem Stands.dropLast (h : tree.Stands here) : tree.Stands here.dropLast :=
  ⟨fun name hm => h.proper name ((List.dropLast_prefix here).subset hm),
    fun above hp => h.directory above (hp.trans (List.dropLast_prefix here))⟩

theorem Stands.child (h : tree.Stands here) (hn : Path.IsProper name) :
    tree.Reached (here ++ [name]) := by
  refine ⟨proper_child h.proper hn, fun above hp hne => ?_⟩
  rcases List.prefix_concat_iff.1 hp with he | hp
  · exact absurd he hne
  · exact h.directory above hp

theorem Stands.isStraight (h : tree.Stands here) : tree.IsStraight here := by
  refine ⟨h.proper, fun above hp => ?_⟩
  rw [linkTarget?, h.directory above hp]

theorem Stands.targetBase (h : tree.Stands here) (target : Text) :
    tree.Stands (targetBase target here) := by
  rw [FileTree.targetBase]
  split
  · exact h
  · exact stands_nil tree

theorem IsStraight.of_prefix {above : Place} (h : tree.IsStraight here) (hp : above <+: here) :
    tree.IsStraight above :=
  ⟨fun name hm => h.proper name (hp.subset hm), fun other ho => h.unlinked other (ho.trans hp)⟩

end Standing

/-- **Following a path leads to a place in a standing directory.** -/
theorem locate_reached {tree : FileTree} {followLast : Bool} {links : Nat} {here place : Place}
    {names : List Name} (start : tree.Reached here)
    (h : locate tree followLast links here names = .ok place) : tree.Reached place := by
  rw [locate_eq_ok] at h
  induction h with
  | done => exact start
  | stay hd _ ih => exact ih start
  | up hd _ ih => exact ih (start.stands hd).dropLast.reached
  | vacant enters => exact (start.stands enters.directory).child enters.proper
  | atLink enters => exact (start.stands enters.directory).child enters.proper
  | @through _ _ _ _ _ target enters _ _ _ ih =>
    exact ih ((start.stands enters.directory).targetBase target).reached
  | down enters _ _ _ ih =>
    exact ih ((start.stands enters.directory).child enters.proper)

/-- Following a straight way leads along it or fails, and then for another reason than
its links. -/
theorem locate_of_isStraight {tree : FileTree} {here : Place} {names : List Name}
    (straight : tree.IsStraight (here ++ names)) (followLast : Bool) (links : Nat) :
    tree.locate followLast links here names = .ok (here ++ names) ∨
      ∃ e, tree.locate followLast links here names = .error e ∧ e ≠ .tooManyLinks := by
  induction names generalizing here with
  | nil =>
    rw [locate_nil, List.append_nil]
    exact .inl rfl
  | cons name rest ih =>
    have proper := straight.proper name (by simp)
    have apart : here ++ name :: rest = here ++ [name] ++ rest := by simp
    rw [apart] at straight ⊢
    have unlinked := straight.unlinked (here ++ [name]) (List.prefix_append _ _)
    by_cases aground : tree.node? here ≠ some .directory
    · refine .inr ⟨_, locate_aground aground, ?_⟩
      split <;> simp
    have directory := Classical.not_not.1 aground
    by_cases long : Utf8.size name > nameLimit
    · exact .inr ⟨_, locate_long directory proper long, by simp⟩
    have enters : tree.Enters here name := ⟨directory, proper, Nat.not_lt.1 long⟩
    cases hn : tree.node? (here ++ [name]) with
    | none =>
      rw [enters.locate_vacant hn]
      by_cases hr : rest = []
      · simp [hr]
      · exact .inr ⟨.noEntry, if_neg hr, by simp⟩
    | some node =>
      rw [enters.locate_down hn unlinked]
      exact ih straight

/-- Resolving a straight way changes nothing. -/
theorem resolveFrom_of_isStraight {tree : FileTree} {here : Place} {names : List Name}
    (straight : tree.IsStraight (here ++ names)) (depth : Nat) (following : List Place) :
    tree.resolveFrom depth following here names = ⟨here ++ names, true⟩ := by
  induction names generalizing here with
  | nil => rw [resolveFrom, List.append_nil]
  | cons name rest ih =>
    obtain ⟨-, hup⟩ := straight.proper name (by simp)
    have apart : here ++ name :: rest = here ++ [name] ++ rest := by simp
    rw [apart] at straight ⊢
    have unlinked := straight.unlinked (here ++ [name]) (List.prefix_append _ _)
    rw [resolveFrom, if_neg hup]
    simp only [unlinked]
    exact ih straight

end FileTree
end Reimport
