import Reimport.FileTree.Locate
import Reimport.Proofs.Path

/-!
# Following a path, name by name

What following does with a name depends on the place reached so far and on what stands
at the next one.  The ways that lead somewhere are written down once as a relation
(`Follows`), which holds iff following succeeds (`locate_eq_ok`).  What is so of every
place that a path leads to is proved by induction on it: whether a link at the end is
followed matters only where one is (`locate_of_unlinked`), and a path that was followed
goes on leading to the same place as long as directories and links are kept
(`locate_of_kept`).
-/
namespace Reimport.FileTree

theorem linkTarget?_eq_some {tree : FileTree} {place : Place} {target : Text} :
    tree.linkTarget? place = some target ↔ tree.node? place = some (.link target) := by
  rw [linkTarget?]
  split
  · rename_i h
    rw [h]
    simp
  · rename_i h
    exact ⟨fun h' => (nomatch h'), fun h' => absurd h' (h target)⟩

theorem linkTarget?_of_node? {tree other : FileTree} {place : Place}
    (h : tree.node? place = other.node? place) :
    tree.linkTarget? place = other.linkTarget? place := by
  rw [linkTarget?, linkTarget?, h]

/-- A name leads down from a place: a directory stands there, and the name is not too long. -/
structure Enters (tree : FileTree) (here : Place) (name : Name) : Prop where
  directory : tree.node? here = some .directory
  proper : Path.IsProper name
  short : Utf8.size name ≤ nameLimit

/-! ## What following does with one name -/

section Equations
variable {tree : FileTree} {followLast : Bool} {links : Nat} {here : Place} {name : Name}
  {rest : List Name}

theorem locate_nil : tree.locate followLast links here [] = .ok here := by rw [locate]

theorem locate_dot (directory : tree.node? here = some .directory) :
    tree.locate followLast links here (Path.dot :: rest) =
      tree.locate followLast links here rest := by
  rw [locate]
  simp only [directory, if_pos]

theorem locate_dotDot (directory : tree.node? here = some .directory) :
    tree.locate followLast links here (Path.dotDot :: rest) =
      tree.locate followLast links here.dropLast rest := by
  have hdot : Path.dotDot ≠ Path.dot := by decide
  rw [locate]
  simp only [directory, if_neg hdot, if_pos]

theorem locate_long (directory : tree.node? here = some .directory) (proper : Path.IsProper name)
    (long : Utf8.size name > nameLimit) :
    tree.locate followLast links here (name :: rest) = .error .nameTooLong := by
  rw [locate]
  simp only [directory, if_neg proper.1, if_neg proper.2, if_pos long]

/-- Nothing is followed from anything but a directory. -/
theorem locate_aground (h : tree.node? here ≠ some .directory) :
    tree.locate followLast links here (name :: rest) =
      .error (if tree.node? here = none then .noEntry else .notDirectory) := by
  rw [locate]
  cases hn : tree.node? here with
  | none => rfl
  | some node =>
    cases node with
    | directory => exact absurd hn h
    | file _ => rfl
    | link _ => rfl

namespace Enters
variable (enters : tree.Enters here name)
include enters

theorem locate_vacant (vacant : tree.node? (here ++ [name]) = none) :
    tree.locate followLast links here (name :: rest) =
      if rest = [] then .ok (here ++ [name]) else .error .noEntry := by
  rw [locate]
  simp only [enters.directory, if_neg enters.proper.1, if_neg enters.proper.2,
    if_neg (Nat.not_lt.2 enters.short), vacant]

theorem locate_down {node : Node} (there : tree.node? (here ++ [name]) = some node)
    (unlinked : tree.linkTarget? (here ++ [name]) = none) :
    tree.locate followLast links here (name :: rest) =
      tree.locate followLast links (here ++ [name]) rest := by
  rw [locate]
  simp only [enters.directory, if_neg enters.proper.1, if_neg enters.proper.2,
    if_neg (Nat.not_lt.2 enters.short), there]
  cases node with
  | link target =>
    rw [linkTarget?_eq_some.2 there] at unlinked
    cases unlinked
  | file _ => rfl
  | directory => rfl

theorem locate_atLink {target : Text} (linked : tree.linkTarget? (here ++ [name]) = some target) :
    tree.locate false links here [name] = .ok (here ++ [name]) := by
  rw [locate]
  simp only [enters.directory, if_neg enters.proper.1, if_neg enters.proper.2,
    if_neg (Nat.not_lt.2 enters.short), linkTarget?_eq_some.1 linked]
  rfl

theorem locate_through {target : Text} (linked : tree.linkTarget? (here ++ [name]) = some target)
    (followed : rest = [] → followLast = true) :
    tree.locate followLast (links + 1) here (name :: rest) =
      tree.locate followLast links (targetBase target here) (targetNames target ++ rest) := by
  have goes : (decide (rest = []) && !followLast) ≠ true := by simpa using followed
  rw [locate]
  simp only [enters.directory, if_neg enters.proper.1, if_neg enters.proper.2,
    if_neg (Nat.not_lt.2 enters.short), linkTarget?_eq_some.1 linked, if_neg goes]

end Enters

end Equations

/-! ## Where following leads -/

/-- Names can be followed from a place to another, with some links left to follow. -/
inductive Follows (tree : FileTree) (followLast : Bool) :
    Nat → Place → List Name → Place → Prop where
  /-- No names lead nowhere else. -/
  | done (links : Nat) (here : Place) : Follows tree followLast links here [] here
  /-- The name `.` is passed over in a directory. -/
  | stay {links : Nat} {here place : Place} {rest : List Name} :
    tree.node? here = some .directory → Follows tree followLast links here rest place →
    Follows tree followLast links here (Path.dot :: rest) place
  /-- The name `..` leads from a directory to the one above it. -/
  | up {links : Nat} {here place : Place} {rest : List Name} :
    tree.node? here = some .directory → Follows tree followLast links here.dropLast rest place →
    Follows tree followLast links here (Path.dotDot :: rest) place
  /-- Nothing need be at the last name. -/
  | vacant {links : Nat} {here : Place} {name : Name} :
    tree.Enters here name → tree.node? (here ++ [name]) = none →
    Follows tree followLast links here [name] (here ++ [name])
  /-- A link at the last name may be what the path leads to. -/
  | atLink {links : Nat} {here : Place} {name : Name} {target : Text} :
    tree.Enters here name → tree.linkTarget? (here ++ [name]) = some target →
    followLast = false → Follows tree followLast links here [name] (here ++ [name])
  /-- Any other link is replaced by its target, and is one of those that can be followed. -/
  | through {links : Nat} {here place : Place} {name : Name} {rest : List Name} {target : Text} :
    tree.Enters here name → tree.linkTarget? (here ++ [name]) = some target →
    (rest = [] → followLast = true) →
    Follows tree followLast links (targetBase target here) (targetNames target ++ rest) place →
    Follows tree followLast (links + 1) here (name :: rest) place
  /-- Another name leads one place down. -/
  | down {links : Nat} {here place : Place} {name : Name} {rest : List Name} {node : Node} :
    tree.Enters here name → tree.node? (here ++ [name]) = some node →
    tree.linkTarget? (here ++ [name]) = none →
    Follows tree followLast links (here ++ [name]) rest place →
    Follows tree followLast links here (name :: rest) place

section Following
variable {tree other : FileTree} {followLast : Bool} {links : Nat} {here place cwd : Place}
  {name : Name} {names : List Name} {path : Path}

theorem Follows.locate_eq (h : tree.Follows followLast links here names place) :
    tree.locate followLast links here names = .ok place := by
  induction h with
  | done => exact locate_nil
  | stay hd _ ih => rw [locate_dot hd, ih]
  | up hd _ ih => rw [locate_dotDot hd, ih]
  | vacant enters hn => rw [enters.locate_vacant hn, if_pos rfl]
  | atLink enters hl kept => rw [kept, enters.locate_atLink hl]
  | through enters hl followed _ ih => rw [enters.locate_through hl followed, ih]
  | down enters hn hl _ ih => rw [enters.locate_down hn hl, ih]

theorem follows_of_locate (h : tree.locate followLast links here names = .ok place) :
    tree.Follows followLast links here names place := by
  fun_induction locate tree followLast links here names with
  | case1 links here =>
    rw [← Except.ok.inj h]
    exact .done links here
  | case2 links here rest hd ih => exact .stay hd (ih h)
  | case3 links here rest hd _ ih => exact .up hd (ih h)
  | case5 links here name hd hdot hup hlimit next hn =>
    rw [← Except.ok.inj h]
    exact .vacant ⟨hd, ⟨hdot, hup⟩, Nat.not_lt.1 hlimit⟩ hn
  | case7 links here name rest hd hdot hup hlimit next target hn hlast =>
    rw [← Except.ok.inj h]
    obtain ⟨rfl, kept⟩ : rest = [] ∧ followLast = false := by simpa using hlast
    exact .atLink ⟨hd, ⟨hdot, hup⟩, Nat.not_lt.1 hlimit⟩ (linkTarget?_eq_some.2 hn) kept
  | case9 here name rest hd hdot hup hlimit next target hn hlast links ih =>
    exact .through ⟨hd, ⟨hdot, hup⟩, Nat.not_lt.1 hlimit⟩ (linkTarget?_eq_some.2 hn)
      (by simpa using hlast) (ih h)
  | case10 links here name rest hd hdot hup hlimit next node hnode hn ih =>
    refine .down ⟨hd, ⟨hdot, hup⟩, Nat.not_lt.1 hlimit⟩ hn ?_ (ih h)
    rw [linkTarget?, show tree.node? (here ++ [name]) = some node from hn]
    split
    · rename_i he
      exact absurd (Option.some.inj he) (hnode _)
    · rfl
  | _ => cases h

/-- **Following succeeds iff it can go on at every name.** -/
theorem locate_eq_ok : tree.locate followLast links here names = .ok place ↔
    tree.Follows followLast links here names place :=
  ⟨follows_of_locate, Follows.locate_eq⟩

/-- From anything but a directory no name can be followed. -/
theorem Follows.of_aground (h : tree.Follows followLast links here names place)
    (aground : tree.node? here ≠ some .directory) : names = [] ∧ place = here := by
  cases h with
  | done => exact ⟨rfl, rfl⟩
  | stay hd => exact absurd hd aground
  | up hd => exact absurd hd aground
  | vacant enters => exact absurd enters.directory aground
  | atLink enters => exact absurd enters.directory aground
  | through enters => exact absurd enters.directory aground
  | down enters => exact absurd enters.directory aground

/-- One name leads down if no link is there. -/
theorem Enters.follows_last (enters : tree.Enters here name)
    (unlinked : tree.linkTarget? (here ++ [name]) = none) :
    tree.Follows followLast links here [name] (here ++ [name]) := by
  cases hn : tree.node? (here ++ [name]) with
  | none => exact .vacant enters hn
  | some node => exact .down enters hn unlinked (.done _ _)

theorem Enters.locate_last (enters : tree.Enters here name)
    (unlinked : tree.linkTarget? (here ++ [name]) = none) :
    tree.locate followLast links here [name] = .ok (here ++ [name]) :=
  (enters.follows_last unlinked).locate_eq

/-- Whether a link at the end is followed makes no difference where none is. -/
theorem locate_of_unlinked (h : tree.locate false links here names = .ok place)
    (unlinked : tree.linkTarget? place = none) :
    tree.locate true links here names = .ok place := by
  rw [locate_eq_ok] at h ⊢
  induction h with
  | done => exact .done _ _
  | stay hd _ ih => exact .stay hd (ih unlinked)
  | up hd _ ih => exact .up hd (ih unlinked)
  | vacant enters hn => exact .vacant enters hn
  | atLink enters hl _ =>
    rw [hl] at unlinked
    cases unlinked
  | through enters hl _ _ ih => exact .through enters hl (fun _ => rfl) (ih unlinked)
  | down enters hn hl _ ih => exact .down enters hn hl (ih unlinked)

/-- **A path that was followed is followed to the same place** as long as directories and
links are kept and no link has come to be at that place. -/
theorem locate_of_kept
    (directory : ∀ place, tree.node? place = some .directory → other.node? place = some .directory)
    (link : ∀ place target, tree.linkTarget? place = some target →
      other.linkTarget? place = some target)
    (h : tree.locate followLast links here names = .ok place)
    (last : tree.linkTarget? place = none → other.linkTarget? place = none) :
    other.locate followLast links here names = .ok place := by
  have kept : ∀ {here name}, tree.Enters here name → other.Enters here name :=
    fun enters => ⟨directory _ enters.directory, enters.proper, enters.short⟩
  rw [locate_eq_ok] at h ⊢
  induction h with
  | done => exact .done _ _
  | stay hd _ ih => exact .stay (directory _ hd) (ih last)
  | up hd _ ih => exact .up (directory _ hd) (ih last)
  | vacant enters hn => exact (kept enters).follows_last (last (by rw [linkTarget?, hn]))
  | atLink enters hl unfollowed => exact .atLink (kept enters) (link _ _ hl) unfollowed
  | through enters hl followed _ ih =>
    exact .through (kept enters) (link _ _ hl) followed (ih last)
  | @down _ here place name rest node enters hn hl further ih =>
    cases node with
    | link target =>
      rw [linkTarget?_eq_some.2 hn] at hl
      cases hl
    | directory =>
      have hn' := directory _ hn
      exact .down (kept enters) hn' (by rw [linkTarget?, hn']) (ih last)
    | file _ =>
      -- behind a file no name can be left
      obtain ⟨rfl, rfl⟩ := further.of_aground (by rw [hn]; simp)
      exact (kept enters).follows_last (last hl)

/-! ## Paths -/

/-- The place from which a path is followed. -/
def start (cwd : Place) (path : Path) : Place := if path.isAbsolute then [] else cwd

theorem placeOf_congr {followLast' : Bool}
    (h : tree.locate followLast linkLimit (start cwd path) path.parts =
      other.locate followLast' linkLimit (start cwd path) path.parts) :
    tree.placeOf cwd followLast path = other.placeOf cwd followLast' path := by
  rw [placeOf, placeOf, ← start, h]

/-- **A path leads somewhere** iff it is short enough and its names can be followed. -/
theorem placeOf_eq_ok_iff :
    tree.placeOf cwd followLast path = .ok place ↔
      path.text.contains '\x00' = false ∧ Utf8.size path.text < pathLimit ∧
        tree.locate followLast linkLimit (start cwd path) path.parts = .ok place := by
  rw [placeOf, ← start]
  split
  · rename_i nul
    exact iff_of_false (by simp) fun h => absurd nul (by rw [h.1]; exact Bool.false_ne_true)
  split
  · rename_i long
    exact iff_of_false (by simp) fun h => absurd h.2.1 (Nat.not_lt.2 long)
  · rename_i nul long
    refine Iff.trans ?_ (and_iff_right (by simpa using nul)).symm
    refine Iff.trans ?_ (and_iff_right (Nat.not_le.1 long)).symm
    cases tree.locate followLast linkLimit (start cwd path) path.parts <;> simp

theorem placeOf_eq_ok (h : tree.placeOf cwd followLast path = .ok place) :
    path.text.contains '\x00' = false ∧
      tree.locate followLast linkLimit (start cwd path) path.parts = .ok place :=
  (placeOf_eq_ok_iff.1 h).imp_right And.right

/-- Why a path leads nowhere: it holds a NUL, it is too long, or its names cannot be followed. -/
theorem placeOf_error {error : FileError}
    (h : tree.placeOf cwd followLast path = .error error) :
    path.text.contains '\x00' = true ∧ error = .embeddedNul ∨
      path.text.contains '\x00' = false ∧ ∃ cause, error = .system cause path.text ∧
        (cause = .nameTooLong ∨
          tree.locate followLast linkLimit (start cwd path) path.parts = .error cause) := by
  rw [placeOf, ← start] at h
  split at h
  · rename_i nul
    cases h
    exact .inl ⟨nul, rfl⟩
  rename_i free
  refine .inr ⟨by simpa using free, ?_⟩
  split at h
  · cases h
    exact ⟨_, rfl, .inl rfl⟩
  cases followed : tree.locate followLast linkLimit (start cwd path) path.parts with
  | ok place =>
    rw [followed] at h
    cases h
  | error cause =>
    rw [followed] at h
    cases h
    exact ⟨cause, rfl, .inr rfl⟩

theorem placeOf_of_unlinked (h : tree.placeOf cwd false path = .ok place)
    (unlinked : tree.linkTarget? place = none) : tree.placeOf cwd true path = .ok place := by
  rw [placeOf_eq_ok_iff] at h ⊢
  exact ⟨h.1, h.2.1, locate_of_unlinked h.2.2 unlinked⟩

theorem placeOf_of_kept
    (directory : ∀ place, tree.node? place = some .directory → other.node? place = some .directory)
    (link : ∀ place target, tree.linkTarget? place = some target →
      other.linkTarget? place = some target)
    (h : tree.placeOf cwd followLast path = .ok place)
    (last : tree.linkTarget? place = none → other.linkTarget? place = none) :
    other.placeOf cwd followLast path = .ok place := by
  rw [placeOf_eq_ok_iff] at h ⊢
  exact ⟨h.1, h.2.1, locate_of_kept directory link h.2.2 last⟩

end Following

end Reimport.FileTree
