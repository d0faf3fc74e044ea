import Reimport.Proofs.FileTree.Making

/-!
# Names below a directory

A path that goes on from a directory is followed from the place of that directory
(`locate_append`).  If no link is on the names that are left, following them asks for nothing
but what stands at the places on their way (`locate_below`): where two trees hold the same
there, the path leads to the same place in both or fails alike (`placeOf_below`), whatever else
they hold.
-/
namespace Reimport.FileTree

/-- On the way along names from `here` two trees hold the same, and no link is there or at the
end. -/
structure SameWay (tree other : FileTree) (here : Place) (names : List Name) : Prop where
  proper : ∀ name ∈ names, Path.IsProper name
  same : ∀ first, first <+: names → first ≠ names →
    tree.node? (here ++ first) = other.node? (here ++ first)
  unlinked : ∀ first, first <+: names → tree.linkTarget? (here ++ first) = none
  ending : other.linkTarget? (here ++ names) = none

section Below
variable {tree other : FileTree} {here middle cwd : Place} {names more : List Name} {name : Name}
  {path : Path}

theorem SameWay.tail (h : SameWay tree other here (name :: names)) :
    SameWay tree other (here ++ [name]) names := by
  have apart : ∀ first : List Name, here ++ [name] ++ first = here ++ name :: first :=
    fun first => by simp
  refine ⟨fun other hm => h.proper other (List.mem_cons_of_mem _ hm), fun first hp hne => ?_,
    fun first hp => ?_, by rw [apart]; exact h.ending⟩
  · rw [apart]
    exact h.same _ (List.cons_prefix_cons.2 ⟨rfl, hp⟩) fun he => hne (List.cons_inj_right name |>.1 he)
  · rw [apart]
    exact h.unlinked _ (List.cons_prefix_cons.2 ⟨rfl, hp⟩)

/-- The path of the root directory leads there. -/
theorem placeOf_root (tree : FileTree) (cwd : Place) (followLast : Bool) :
    tree.placeOf cwd followLast (Path.ofPlace []) = .ok [] :=
  placeOf_of_reached ⟨by simp, by decide, by simp⟩ (stands_nil tree).reached
    (by rw [linkTarget?, node?_nil]) cwd followLast

/-- **Names that lead down past no link are followed alike** where the same stands on their
way, and lead where they say. -/
theorem locate_below (h : SameWay tree other here names) (followLast followLast' : Bool)
    (links links' : Nat) :
    tree.locate followLast links here names = other.locate followLast' links' here names ∧
      ∀ place, tree.locate followLast links here names = .ok place → place = here ++ names := by
  induction names generalizing here with
  | nil =>
    rw [locate_nil, locate_nil, List.append_nil]
    exact ⟨rfl, fun _ hp => (Except.ok.inj hp).symm⟩
  | cons name rest ih =>
    have proper := h.proper name List.mem_cons_self
    have onHere : tree.node? here = other.node? here := by
      simpa using h.same [] List.nil_prefix (by simp)
    have first : [name] <+: name :: rest := List.cons_prefix_cons.2 ⟨rfl, List.nil_prefix⟩
    have unlinked : tree.linkTarget? (here ++ [name]) = none := h.unlinked _ first
    by_cases aground : tree.node? here ≠ some .directory
    · rw [locate_aground aground, locate_aground (onHere ▸ aground), onHere]
      exact ⟨rfl, fun _ hp => by cases hp⟩
    have directory := Classical.not_not.1 aground
    have directory' : other.node? here = some .directory := onHere ▸ directory
    by_cases long : Utf8.size name > nameLimit
    · rw [locate_long directory proper long, locate_long directory' proper long]
      exact ⟨rfl, fun _ hp => by cases hp⟩
    have enters : tree.Enters here name := ⟨directory, proper, Nat.not_lt.1 long⟩
    have enters' : other.Enters here name := ⟨directory', proper, Nat.not_lt.1 long⟩
    by_cases hr : rest = []
    -- what stands at the end is not asked for
    · subst hr
      rw [enters.locate_last unlinked, enters'.locate_last h.ending]
      exact ⟨rfl, fun _ hp => (Except.ok.inj hp).symm⟩
    have onNext : tree.node? (here ++ [name]) = other.node? (here ++ [name]) :=
      h.same _ first fun he => hr (by simpa using he.symm)
    cases hn : tree.node? (here ++ [name]) with
    | none =>
      rw [enters.locate_vacant hn, enters'.locate_vacant (onNext ▸ hn), if_neg hr]
      exact ⟨rfl, fun _ hp => by cases hp⟩
    | some node =>
      rw [enters.locate_down hn unlinked, enters'.locate_down (onNext ▸ hn)
        (linkTarget?_of_node? onNext ▸ unlinked), List.append_cons here name rest]
      exact ih h.tail

/-- **A path that goes on from a directory is followed from there.** -/
theorem locate_append {links : Nat} (h : tree.locate true links here names = .ok middle)
    (directory : tree.node? middle = some .directory) (further : more ≠ []) (followLast : Bool) :
    ∃ left, tree.locate followLast links here (names ++ more) =
      tree.locate followLast left middle more := by
  rw [locate_eq_ok] at h
  induction h with
  | done links here => exact ⟨links, rfl⟩
  | stay hd _ ih =>
    obtain ⟨left, hl⟩ := ih directory
    exact ⟨left, by rw [List.cons_append, locate_dot hd, hl]⟩
  | up hd _ ih =>
    obtain ⟨left, hl⟩ := ih directory
    exact ⟨left, by rw [List.cons_append, locate_dotDot hd, hl]⟩
  | vacant _ hn =>
    rw [hn] at directory
    cases directory
  | atLink _ _ unfollowed => cases unfollowed
  | through enters hl _ _ ih =>
    obtain ⟨left, hf⟩ := ih directory
    refine ⟨left, ?_⟩
    rw [List.cons_append, enters.locate_through hl (by simp [further]), ← hf, List.append_assoc]
  | down enters hn hl _ ih =>
    obtain ⟨left, hf⟩ := ih directory
    exact ⟨left, by rw [List.cons_append, enters.locate_down hn hl, hf]⟩

/-- **Where a path below a directory leads** is told by the places on its way there. -/
theorem placeOf_below (leads : tree.placeOf cwd true path = .ok middle)
    (leads' : other.placeOf cwd true path = .ok middle)
    (directory : tree.node? middle = some .directory) (further : names ≠ [])
    (h : SameWay tree other middle names) (followLast followLast' : Bool) :
    tree.placeOf cwd followLast ⟨path.root, path.parts ++ names⟩ =
        other.placeOf cwd followLast' ⟨path.root, path.parts ++ names⟩ ∧
      ∀ place, tree.placeOf cwd followLast ⟨path.root, path.parts ++ names⟩ = .ok place →
        place = middle ++ names := by
  have directory' : other.node? middle = some .directory := by
    rw [← directory]
    simpa using (h.same [] List.nil_prefix further.symm).symm
  obtain ⟨left, hl⟩ := locate_append (placeOf_eq_ok leads).2 directory further followLast
  obtain ⟨left', hl'⟩ := locate_append (placeOf_eq_ok leads').2 directory' further followLast'
  obtain ⟨same, reaches⟩ := locate_below h followLast followLast' left left'
  have begins : start cwd ⟨path.root, path.parts ++ names⟩ = start cwd path := rfl
  refine ⟨placeOf_congr (by rw [begins, hl, hl', same]), fun place hp => reaches place ?_⟩
  have followed := (placeOf_eq_ok hp).2
  rwa [begins, hl] at followed

/-- Where the path of a place leads is told by the places on the way from the root directory. -/
theorem placeOf_ofPlace {way : Place} (h : SameWay tree other [] way)
    (followLast followLast' : Bool) :
    tree.placeOf cwd followLast (Path.ofPlace way) =
        other.placeOf cwd followLast' (Path.ofPlace way) ∧
      ∀ place, tree.placeOf cwd followLast (Path.ofPlace way) = .ok place → place = way := by
  by_cases ne : way = []
  · rw [ne, placeOf_root, placeOf_root]
    exact ⟨rfl, fun _ hl => (Except.ok.inj hl).symm⟩
  · exact placeOf_below (placeOf_root tree cwd true) (placeOf_root other cwd true) (node?_nil tree)
      ne h followLast followLast'

end Below
end Reimport.FileTree
