import Reimport.Proofs.FileTree.Building

/-!
# Trees without a NUL

The system has no name and no target of a link that holds a NUL.  In a tree like that every
path without a NUL leads to a place without one (`Reaches.nulFree`), so what is built along
such paths is a tree of that kind again (`Built.nulFree`), and no change along them is refused
over a NUL.  In particular a directory can be copied as far as the system lets it
(`sound_copyTree`): the one error that a copy passes on, instead of reporting it, does not
come up.
-/
namespace Reimport

/-- No name of a path holds a NUL. -/
def Path.NulFree (path : Path) : Prop := ∀ part ∈ path.parts, '\x00' ∉ part

theorem Path.NulFree.child {path : Path} (h : path.NulFree) {name : Name} (hn : '\x00' ∉ name) :
    (path.child name).NulFree := by
  intro part hm
  rcases List.mem_append.1 hm with hm | hm
  · exact h part hm
  · rwa [List.mem_singleton.1 hm]

theorem Path.NulFree.parent {path : Path} (h : path.NulFree) : path.parent.NulFree :=
  fun part hm => h part ((List.dropLast_prefix _).subset hm)

theorem Path.NulFree.name {path : Path} (h : path.NulFree) : '\x00' ∉ path.name := by
  rw [Path.name]
  cases hl : path.parts.getLast? with
  | none => simp
  | some last => exact h last (List.mem_of_getLast? hl)

/-- The names between the slashes of a text hold no other characters than the text. -/
theorem Path.nulFree_partsOf {text : Text} (h : '\x00' ∉ text) :
    ∀ part ∈ Path.partsOf text, '\x00' ∉ part := by
  intro part hm hc
  refine h ?_
  rw [← Text.intercalate_splitAt '/' text]
  exact (Text.mem_intercalate (by decide) _).2 ⟨part, (List.mem_filter.1 hm).1, hc⟩

namespace FileTree

/-- No name and no target of a link holds a NUL. -/
structure NulFree (tree : FileTree) : Prop where
  name : ∀ place node, tree.node? place = some node → ∀ name ∈ place, '\x00' ∉ name
  target : ∀ place target, tree.linkTarget? place = some target → '\x00' ∉ target

theorem nulFree_of_entries {tree : FileTree}
    (h : ∀ entry ∈ tree.entries, (∀ name ∈ entry.1, '\x00' ∉ name) ∧
      ∀ target, entry.2 = .link target → '\x00' ∉ target) : tree.NulFree := by
  refine ⟨fun place node hn => ?_, fun place target hl => ?_⟩
  · by_cases ne : place = []
    · rw [ne]
      exact fun _ hm => absurd hm List.not_mem_nil
    · exact (h _ (mem_entries_of_node? hn ne)).1
  · have hn := linkTarget?_eq_some.1 hl
    have ne : place ≠ [] := by
      rintro rfl
      cases hn
    exact (h _ (mem_entries_of_node? hn ne)).2 target rfl

section Leading
variable {tree : FileTree} {cwd here place : Place} {names : List Name} {path : Path}

theorem Leads.nulFree {count : Nat} (h : Leads tree here names place count)
    (free : tree.NulFree) (hh : ∀ name ∈ here, '\x00' ∉ name)
    (hn : ∀ name ∈ names, '\x00' ∉ name) : ∀ name ∈ place, '\x00' ∉ name := by
  induction h with
  | done here => exact hh
  | stay _ ih => exact ih hh fun name hm => hn name (List.mem_cons_of_mem _ hm)
  | up _ ih =>
    exact ih (fun name hm => hh name ((List.dropLast_prefix _).subset hm))
      fun name hm => hn name (List.mem_cons_of_mem _ hm)
  | down _ _ _ ih =>
    refine ih (fun name hm => ?_) fun name hm => hn name (List.mem_cons_of_mem _ hm)
    rcases List.mem_append.1 hm with hm | hm
    · exact hh name hm
    · rw [List.mem_singleton.1 hm]
      exact hn _ List.mem_cons_self
  | through _ hl _ _ ih ih' =>
    refine ih' (ih ?_ (Path.nulFree_partsOf (free.target _ _ hl))) fun name hm =>
      hn name (List.mem_cons_of_mem _ hm)
    rw [targetBase]
    split
    · exact hh
    · exact fun _ hm => absurd hm List.not_mem_nil

/-- A path without a NUL leads to a place without one. -/
theorem Reaches.nulFree (h : tree.Reaches cwd path place) (free : tree.NulFree)
    (home : ∀ name ∈ cwd, '\x00' ∉ name) (hp : path.NulFree) : ∀ name ∈ place, '\x00' ∉ name := by
  obtain ⟨count, hl⟩ := h
  refine hl.nulFree free ?_ hp
  rw [start]
  split
  · exact fun _ hm => absurd hm List.not_mem_nil
  · exact home

/-- Names without a NUL are resolved to a place without one. -/
theorem nulFree_resolveFrom (free : tree.NulFree) {depth : Nat} {following : List Place}
    (hh : ∀ name ∈ here, '\x00' ∉ name) (hn : ∀ name ∈ names, '\x00' ∉ name) :
    ∀ name ∈ (tree.resolveFrom depth following here names).place, '\x00' ∉ name :=
  forall_resolveFrom (fun place target hl name hm _ =>
    Path.nulFree_partsOf (free.target place target hl) name hm) hh fun name hm _ => hn name hm

theorem nulFree_of_placeOf {followLast : Bool} (h : tree.placeOf cwd followLast path = .ok place) :
    path.NulFree :=
  Path.contains_nul_eq_false.1 (placeOf_eq_ok h).1

theorem system_ne_nul (cause : SystemError) (path : Text) :
    FileError.system cause path ≠ .embeddedNul := by
  intro h
  cases h

theorem placeOf_ne_nul (hp : path.NulFree) {followLast : Bool} {e : FileError}
    (h : tree.placeOf cwd followLast path = .error e) : e ≠ .embeddedNul := by
  obtain ⟨nul, -⟩ | ⟨-, cause, rfl, -⟩ := placeOf_error h
  · rw [Path.contains_nul_eq_false.2 hp] at nul
    cases nul
  · exact system_ne_nul cause path.text

theorem status_ne_nul (hp : path.NulFree) {e : FileError} (h : tree.status cwd path = .error e) :
    e ≠ .embeddedNul := by
  rw [status] at h
  cases hl : tree.placeOf cwd true path with
  | error cause =>
    rw [hl] at h
    cases h
    exact placeOf_ne_nul hp hl
  | ok place =>
    rw [hl] at h
    simp only [Bind.bind, Except.bind] at h
    split at h
    · cases h
    · cases h
      exact system_ne_nul _ _

theorem read_ne_nul (hp : path.NulFree) {e : FileError} (h : tree.read cwd path = .error e) :
    e ≠ .embeddedNul := by
  rw [read] at h
  cases hs : tree.status cwd path with
  | error cause =>
    rw [hs] at h
    cases h
    exact status_ne_nul hp hs
  | ok node =>
    rw [hs] at h
    simp only [Bind.bind, Except.bind] at h
    cases node <;> cases h <;> exact system_ne_nul _ _

theorem list_ne_nul (hp : path.NulFree) {e : FileError} (h : tree.list cwd path = .error e) :
    e ≠ .embeddedNul := by
  rw [list] at h
  cases hl : tree.placeOf cwd true path with
  | error cause =>
    rw [hl] at h
    cases h
    exact placeOf_ne_nul hp hl
  | ok place =>
    rw [hl] at h
    simp only [Bind.bind, Except.bind] at h
    split at h <;> cases h <;> exact system_ne_nul _ _

end Leading

theorem Stands.nulFree {tree : FileTree} {place : Place} (stands : tree.Stands place)
    (free : tree.NulFree) : ∀ name ∈ place, '\x00' ∉ name :=
  free.name place _ (stands.directory place List.prefix_rfl)

/-- What is put at a place without a NUL leaves a tree without one, if it is no link. -/
theorem NulFree.put {tree : FileTree} {place : Place} {node : Node} (free : tree.NulFree)
    (nonempty : place ≠ []) (hp : ∀ name ∈ place, '\x00' ∉ name)
    (unlinked : ∀ target, node ≠ .link target) : (tree.put place node).NulFree := by
  refine ⟨fun other old hn => ?_, fun other target hl => ?_⟩
  · rw [node?_put tree nonempty] at hn
    split at hn
    · rename_i he
      rwa [he]
    · exact free.name other old hn
  · rw [linkTarget?_eq_some, node?_put tree nonempty] at hl
    split at hl
    · exact absurd (Option.some.inj hl) (unlinked target)
    · exact free.target other target (linkTarget?_eq_some.2 hl)

theorem NulFree.removeBelow {tree : FileTree} (free : tree.NulFree) (root : Place) :
    (tree.removeBelow root).NulFree := by
  have left : ∀ place node, (tree.removeBelow root).node? place = some node →
      tree.node? place = some node := by
    intro place node hn
    by_cases ne : place = []
    · rwa [ne, node?_nil] at hn ⊢
    · rw [node?_removeBelow _ _ ne] at hn
      split at hn
      · cases hn
      · exact hn
  exact ⟨fun place node hn => free.name place node (left place node hn), fun place target hl =>
    free.target place target (linkTarget?_eq_some.2 (left _ _ (linkTarget?_eq_some.1 hl)))⟩

/-- **What is built in a tree without a NUL is one.** -/
theorem Built.nulFree {cwd : Place} {directories files : Path → Prop} {before after : FileTree}
    (h : Built cwd directories files before after) (free : before.NulFree)
    (home : before.Stands cwd) : after.NulFree := by
  induction h with
  | refl => exact free
  | made hb _ hp hn ih =>
    have vacant := vacant_of_none hn
    have names := (reaches_of_placeOf hp vacant.link).nulFree ih
      ((hb.keeps.stands home).nulFree ih) (nulFree_of_placeOf hp)
    exact ih.put vacant.ne_nil names fun _ he => by cases he
  | written hb _ hp hn ih =>
    have vacant := vacant_of_written hn
    have names := (reaches_of_placeOf hp vacant.link).nulFree ih
      ((hb.keeps.stands home).nulFree ih) (nulFree_of_placeOf hp)
    exact ih.put vacant.ne_nil names fun _ he => by cases he

/-! ## Changes that meet no NUL -/

/-- A tree in which the working directory stands and nothing holds a NUL. -/
structure Fit (cwd : Place) (tree : FileTree) : Prop where
  wellFormed : tree.WellFormed
  home : tree.Stands cwd
  free : tree.NulFree

theorem Fit.of_built {cwd : Place} {directories files : Path → Prop} {before after : FileTree}
    (fit : Fit cwd before) (h : Built cwd directories files before after) : Fit cwd after :=
  ⟨h.wellFormed fit.wellFormed fit.home, h.keeps.stands fit.home, h.nulFree fit.free fit.home⟩

/-- A change keeps trees fit and is not refused over a NUL. -/
def Sound {α : Type} (cwd : Place) (change : Change α) : Prop :=
  ∀ tree, Fit cwd tree →
    Fit cwd (reached (change tree)) ∧ ∀ after, change tree ≠ .error .embeddedNul after

namespace Sound
variable {α β : Type} {cwd : Place} {path source target : Path}

theorem of_builds {change : Change α} (builds : Builds cwd (fun _ => True) (fun _ => True) change)
    (refused : ∀ tree, Fit cwd tree → ∀ after, change tree ≠ .error .embeddedNul after) :
    Sound cwd change :=
  fun tree fit => ⟨fit.of_built (builds tree fit.wellFormed fit.home), refused tree fit⟩

theorem pure (value : α) : Sound cwd (pure value : Change α) := fun _ fit => ⟨fit, fun _ he => by cases he⟩

theorem bind {first : Change α} {next : α → Change β} (hf : Sound cwd first)
    (hn : ∀ a, Sound cwd (next a)) : Sound cwd (first >>= next) := by
  intro tree fit
  obtain ⟨middle, refused⟩ := hf tree fit
  rw [bind_eq]
  cases h : first tree with
  | ok a after =>
    rw [h] at middle
    exact hn a after middle
  | error e after =>
    rw [h] at middle
    exact ⟨middle, fun other he => by cases he; exact refused _ h⟩

theorem foldlM {step : β → α → Change β} {items : List α}
    (h : ∀ item ∈ items, ∀ value, Sound cwd (step value item)) (value : β) :
    Sound cwd (items.foldlM step value) := by
  induction items generalizing value with
  | nil => exact .pure value
  | cons item rest ih =>
    rw [List.foldlM_cons]
    exact .bind (h item List.mem_cons_self value)
      fun next => ih (fun other ho => h other (List.mem_cons_of_mem _ ho)) next

theorem makeDirectory (hp : path.NulFree) : Sound cwd (makeDirectory cwd path) := by
  refine .of_builds (.makeDirectory trivial) fun tree _ after h => ?_
  rw [FileTree.makeDirectory] at h
  split at h
  · rename_i hl
    cases h
    exact placeOf_ne_nul hp hl rfl
  · split at h <;> cases h

theorem ensureDirectory (hp : path.NulFree) : Sound cwd (ensureDirectory cwd path) := by
  refine .of_builds (.ensureDirectory trivial) fun tree fit after h => ?_
  rw [FileTree.ensureDirectory] at h
  split at h
  · cases h
  · rename_i hm
    split at h
    · cases h
    · cases h
      exact (makeDirectory hp tree fit).2 _ hm

theorem write {mode : WriteMode} {content : Bytes} (hp : path.NulFree) :
    Sound cwd (write cwd mode path content) := by
  refine .of_builds (.write trivial) fun tree _ after h => ?_
  rw [FileTree.write] at h
  split at h
  · rename_i hl
    cases h
    exact placeOf_ne_nul hp hl rfl
  · split at h <;> cases h

theorem makeWay (hp : path.NulFree) : Sound cwd (makeWay cwd path) := by
  intro tree fit
  fun_induction FileTree.makeWay cwd path tree with
  | case1 path _ _ => exact ensureDirectory hp tree fit
  | case2 path _ text made hm _ ih =>
    have above := (ih hp.parent).1
    rw [hm] at above
    exact ensureDirectory hp _ above
  | case3 path _ e made _ hm _ ih =>
    have above := ih hp.parent
    rw [hm] at above
    exact ⟨above.1, fun after h => by cases h; exact above.2 _ rfl⟩
  | case4 path _ _ made hm _ ih =>
    have above := (ih hp.parent).1
    rw [hm] at above
    exact ensureDirectory hp _ above
  | case5 path _ => exact ensureDirectory hp tree fit

theorem copyFile (hs : source.NulFree) (ht : target.NulFree) :
    Sound cwd (copyFile cwd source target) := by
  intro tree fit
  rw [FileTree.copyFile]
  cases hr : tree.read cwd source with
  | error e => exact ⟨fit, fun after h => by cases h; exact read_ne_nul hs hr rfl⟩
  | ok content =>
    refine write ?_ tree fit
    split
    · exact ht.child hs.name
    · exact ht

theorem copyEntry {copyDirectory : Path → Path → Change (List CopyFault)} (hs : source.NulFree)
    (ht : target.NulFree) (hd : Sound cwd (copyDirectory source target)) :
    Sound cwd (copyEntry cwd copyDirectory source target) := by
  intro tree fit
  have copied := copyFile hs ht tree fit
  rw [FileTree.copyEntry]
  split
  · exact hd tree fit
  · split
    · rename_i h
      rw [h] at copied
      exact ⟨copied.1, fun _ he => by cases he⟩
    · rename_i h
      rw [h] at copied
      exact ⟨copied.1, fun after he => by cases he; exact copied.2 _ rfl⟩
  · split
    · rename_i h
      rw [h] at copied
      exact ⟨copied.1, fun _ he => by cases he⟩
    · rename_i h
      rw [h] at copied
      exact ⟨copied.1, fun after he => by cases he; exact copied.2 _ rfl⟩
  · rename_i hstatus
    exact ⟨fit, fun after h => by cases h; exact status_ne_nul hs hstatus rfl⟩

theorem reporting {copy : Change (List CopyFault)} (h : Sound cwd copy) :
    Sound cwd (reporting source target copy) := by
  intro tree fit
  have copied := h tree fit
  rw [FileTree.reporting]
  cases hc : copy tree with
  | ok faults after =>
    rw [hc] at copied
    exact ⟨copied.1, fun _ he => by cases he⟩
  | error e after =>
    rw [hc] at copied
    cases e with
    | embeddedNul => exact absurd rfl (copied.2 after)
    | system _ _ => exact ⟨copied.1, fun _ he => by cases he⟩
    | linkCycle _ => exact ⟨copied.1, fun _ he => by cases he⟩

end Sound

/-- The names in a directory are names of the tree. -/
theorem nulFree_of_list {tree : FileTree} {cwd : Place} {path : Path} {names : List Name}
    (free : tree.NulFree) (h : tree.list cwd path = .ok names) : ∀ name ∈ names, '\x00' ∉ name := by
  obtain ⟨place, -, h⟩ := except_bind_ok.1 h
  split at h
  · cases h
    intro name hm
    obtain ⟨node, hn⟩ := node?_of_mem_childNames hm
    exact free.name _ node hn name (by simp)
  · cases h
  · cases h

/-- **Copying a directory is not refused over a NUL.** -/
theorem sound_copyTree (cwd : Place) (depth : Nat) {source target : Path} (hs : source.NulFree)
    (ht : target.NulFree) : Sound cwd (copyTree cwd depth source target) := by
  induction depth generalizing source target with
  | zero => exact fun tree fit => ⟨fit, fun _ he => by cases he⟩
  | succ depth ih =>
    intro tree fit
    rw [copyTree, bind_eq, inspect]
    cases hl : tree.list cwd source with
    | error e => exact ⟨fit, fun after h => by cases h; exact list_ne_nul hs hl rfl⟩
    | ok names =>
      refine Sound.bind (.makeWay ht) (fun _ => ?_) tree fit
      refine .foldlM (fun name hm faults => ?_) []
      have hn := nulFree_of_list fit.free hl name hm
      exact .bind (.reporting (.copyEntry (hs.child hn) (ht.child hn) (ih (hs.child hn)
        (ht.child hn)))) fun _ => .pure _

end FileTree
end Reimport
