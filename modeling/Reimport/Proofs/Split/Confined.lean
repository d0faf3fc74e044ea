import Reimport.Proofs.FileTree.NulFree
import Reimport.Proofs.Invariance
import Reimport.Proofs.Split.Faithful

/-!
# What splitting can touch

A source is written to the place that its name is resolved to, if that is inside the working
directory.  Resolving follows every link on the way, so no link is left on the way to that
place, and making and writing what leads there stays inside (`resolvesInside_of_complete`).
So it is for one section after the other, whatever was in the working directory before: links
and directories are kept (`maintains_writeSection`), and nothing outside is changed
(`keptOutside_writeSection`).  The first section whose name is empty or leads elsewhere ends
the splitting (`writeSections_of_refused`), and what the sections before it have written stays
as it is (`split_confined`).

The exception are links that lead in a circle.  Behind one, the names that are left are no
longer looked at but taken as they are, and a link among them leads out of the working
directory (`written_past_circle`).
-/
namespace Reimport

namespace FileTree

/-! ## Resolving leaves no link -/

/-- **No link is on the way to a place that was resolved**, unless a circle was met. -/
theorem isStraight_resolveFrom {tree : FileTree} {depth : Nat} {following : List Place}
    {here : Place} {names : List Name} (straight : tree.IsStraight here)
    (plain : Path.dot ∉ names)
    (complete : (tree.resolveFrom depth following here names).complete = true) :
    tree.IsStraight (tree.resolveFrom depth following here names).place := by
  fun_induction resolveFrom tree depth following here names with
  | case1 => exact straight
  | case2 depth following here rest ih =>
    exact ih (straight.of_prefix (List.dropLast_prefix here))
      (fun hm => plain (List.mem_cons_of_mem _ hm)) complete
  | case3 depth following here name rest hup next hl ih =>
    refine ih ⟨proper_child straight.proper ⟨?_, hup⟩, fun above hp => ?_⟩
      (fun hm => plain (List.mem_cons_of_mem _ hm)) complete
    · exact fun he => plain (he ▸ List.mem_cons_self)
    · rcases List.prefix_concat_iff.1 hp with he | hp
      · rw [he]
        exact hl
      · exact straight.unlinked above hp
  | case4 => cases complete
  | case5 => cases complete
  | case6 following here name rest hup next target _ _ depth reached hc ih _ ih' =>
    -- the target of a link is resolved from where it stands or from the root
    have base : tree.IsStraight (targetBase target here) := by
      rw [targetBase]
      split
      · exact straight
      · exact (stands_nil tree).isStraight
    exact ih' (ih base (Path.dot_not_mem_partsOf target) hc)
      (fun hm => plain (List.mem_cons_of_mem _ hm)) complete
  | case7 => cases complete

/-- What resolving the name of a source comes to, read from the working directory at `root`. -/
def resolveName (tree : FileTree) (root : Place) (name : Text) : Resolved :=
  tree.resolveFrom tree.entries.length [] []
    ((Path.ofPlace root).under (Path.parse name)).parts

/-- If the name of a source is resolved to a place inside the working directory, no link is on
the way there. -/
def ResolvesInside (tree : FileTree) (root : Place) (name : Text) : Prop :=
  Below root (tree.resolveName root name).place →
    tree.IsStraight (tree.resolveName root name).place

theorem start_under (cwd root : Place) (path : Path) :
    start cwd ((Path.ofPlace root).under path) = [] := by
  have absolute : ((Path.ofPlace root).under path).isAbsolute = true := by
    rw [Path.under]
    split
    · assumption
    · rfl
  rw [start, if_pos absolute]

section Names
variable {tree other : FileTree} {cwd root place : Place} {name : Text}

/-- **A name is resolved inside if no circle of links is met.** -/
theorem resolvesInside_of_complete (proper : ∀ name ∈ root, Path.IsProper name)
    (complete : (tree.resolveName root name).complete = true) : tree.ResolvesInside root name :=
  fun _ => isStraight_resolveFrom (stands_nil tree).isStraight
    (Path.dot_not_mem_under proper name) complete

/-- What a name is resolved to depends on the links alone. -/
theorem resolveName_congr (same : ∀ place, tree.linkTarget? place = other.linkTarget? place)
    (root : Place) (name : Text) : tree.resolveName root name = other.resolveName root name :=
  resolveFrom_congr same (room_nil tree) (room_nil other) _ _

theorem place_eq_resolveName
    (h : tree.canonicalPlace cwd ((Path.ofPlace root).under (Path.parse name)) = .ok place) :
    place = (tree.resolveName root name).place := by
  have settled := (canonicalPlace_eq_ok.1 h).2
  rw [start_under] at settled
  exact settle_eq_ok settled

theorem Keeps.isStraight (keeps : tree.Keeps other) (straight : tree.IsStraight place) :
    other.IsStraight place :=
  ⟨straight.proper, fun above hp => (keeps.link above).trans (straight.unlinked above hp)⟩

end Names

/-! ## What is made and written on a way without links -/

/-- Nothing is different but below `root`. -/
def UnchangedOutside (before : FileTree) (root : Place) (after : FileTree) : Prop :=
  ∀ place, ¬ Below root place → after.node? place = before.node? place

section Ways
variable {tree : FileTree} {cwd root place : Place}

/-- However making a way without links ends, it has made directories on that way only. -/
theorem grown_reached_makePath {way : Place} (wellFormed : tree.WellFormed)
    (home : tree.Stands cwd) (straight : tree.IsStraight way) :
    tree.Grown (reached (makePath cwd (Path.ofPlace way) tree)) way := by
  have built : Built cwd (OnWay (Path.ofPlace way)) (fun _ => False) tree
      (reached (makePath cwd (Path.ofPlace way) tree)) :=
    Builds.makePath (fun _ h => h) tree wellFormed home
  intro other
  rcases built.added other with he | ⟨⟨⟨_, above⟩, ⟨rfl, onWay⟩, reaches⟩, hn, hd⟩ | ⟨⟨_, hf, _⟩, _⟩
  · exact .inl he
  · have at_above : other = above := (straight.of_prefix onWay).reaches_eq reaches
    exact .inr ⟨hn, hd, at_above ▸ onWay⟩
  · exact hf.elim

theorem unchangedOutside_makePath (wellFormed : tree.WellFormed) (home : tree.Stands cwd)
    (stands : tree.Stands root) (below : Below root place) (straight : tree.IsStraight place) :
    tree.UnchangedOutside root (reached (makePath cwd (Path.ofPlace place.dropLast) tree)) := by
  have way := List.dropLast_prefix place
  intro other outside
  rcases grown_reached_makePath wellFormed home (straight.of_prefix way) other with he | ⟨hn, -, hp⟩
  · exact he
  -- the directories on the way to the working directory are there already
  · rw [stands.directory other (below.above (hp.trans way) outside)] at hn
    cases hn

theorem unchangedOutside_write (wellFormed : tree.WellFormed) (home : tree.Stands cwd)
    (below : Below root place) (straight : tree.IsStraight place) (mode : WriteMode)
    (content : Bytes) :
    tree.UnchangedOutside root (reached (write cwd mode (Path.ofPlace place) content tree)) := by
  have built : Built cwd (fun _ => False) (Path.ofPlace place = ·) tree
      (reached (write cwd mode (Path.ofPlace place) content tree)) :=
    Builds.write rfl tree wellFormed home
  intro other outside
  rcases built.added other with he | ⟨⟨_, hd, _⟩, _⟩ | ⟨⟨_, rfl, reaches⟩, _⟩
  · exact he
  · exact hd.elim
  · rw [straight.reaches_eq reaches] at outside
    exact absurd below outside

end Ways

/-- What is in the file at a place; nothing if no file is there. -/
def contentAt (tree : FileTree) (place : Place) : Bytes :=
  match tree.node? place with
  | some (.file content) => content
  | _ => []

/-- Content was added to the end of the file at a place, directories may have been made on the
way there, and everything else is the same. -/
structure Appended (before after : FileTree) (place : Place) (content : Bytes) : Prop where
  file : after.node? place = some (.file (before.contentAt place ++ content))
  elsewhere : ∀ other, other ≠ place → after.node? other = before.node? other ∨
    before.node? other = none ∧ after.node? other = some .directory ∧ other <+: place

/-- **Content goes to the end of the file at the end of a way without links.** -/
theorem appended_of_write {tree made after : FileTree} {cwd place : Place} {content : Bytes}
    (straight : tree.IsStraight place) (ne : place ≠ [])
    (hmade : makePath cwd (Path.ofPlace place.dropLast) tree = .ok () made)
    (hwrite : write cwd .append (Path.ofPlace place) content made = .ok () after) :
    tree.Appended after place content := by
  have way := List.dropLast_prefix place
  have grown := grown_of_makePath (straight.of_prefix way) hmade
  have unmade : made.node? place = tree.node? place :=
    grown.node?_of_not_prefix (not_prefix_dropLast ne)
  obtain ⟨other, hp, hcases⟩ := write_cases hwrite
  rw [placeOf_of_isStraight (grown.isStraight straight) hp, unmade] at hcases
  have put : after = made.put place (.file (tree.contentAt place ++ content)) := by
    rcases hcases with ⟨old, hold, rfl⟩ | ⟨hn, rfl⟩
    · rw [contentAt, hold]
      rfl
    · rw [contentAt, hn, List.nil_append]
  refine ⟨by rw [put, node?_put _ ne, if_pos rfl], fun other hne => ?_⟩
  rw [put, node?_put _ ne, if_neg hne]
  exact (grown other).imp_right fun ⟨hn, hd, hp⟩ => ⟨hn, hd, hp.trans way⟩

end FileTree

namespace MarkerSplit

/-- The directory in which an entry is split, with anything in it: `workdir` is resolved to the
directory at `root`. -/
structure Workplace (world : World) (workdir : Path) (root : Place) : Prop where
  fit : FileTree.Fit world.cwd world.tree
  leads : world.tree.canonical world.cwd workdir = .ok (Path.ofPlace root)
  directory : world.tree.node? root = some .directory

/-- The name of a source is empty or leads to no place inside the working directory. -/
def Refused (world : World) (root : Place) (name : Text) : Prop :=
  name = [] ∨ ∃ place, world.tree.canonicalPlace world.cwd
    ((Path.ofPlace root).under (Path.parse name)) = .ok place ∧ ¬ Below root place

/-! ## One section -/

/-- The world differs in its files, which are well formed and keep the links and directories
that were there. -/
structure FilesKept (before after : World) : Prop where
  wellFormed : after.tree.WellFormed
  keeps : before.tree.Keeps after.tree
  rest : ∃ tree, after = { before with tree := tree }

namespace FilesKept
variable {before middle after : World} {place : Place}

theorem refl (wellFormed : before.tree.WellFormed) : FilesKept before before :=
  ⟨wellFormed, .refl _, before.tree, rfl⟩

theorem cwd (h : FilesKept before after) : after.cwd = before.cwd := by
  obtain ⟨tree, rfl⟩ := h.rest
  rfl

theorem stands (h : FilesKept before after) (stands : before.tree.Stands place) :
    after.tree.Stands place := h.keeps.stands stands

theorem home (h : FilesKept before after) (home : before.tree.Stands before.cwd) :
    after.tree.Stands after.cwd := by
  rw [h.cwd]
  exact h.stands home

theorem trans (h : FilesKept before middle) (h' : FilesKept middle after) :
    FilesKept before after := by
  refine ⟨h'.wellFormed, h.keeps.trans h'.keeps, ?_⟩
  obtain ⟨tree, rfl⟩ := h.rest
  obtain ⟨tree', rfl⟩ := h'.rest
  exact ⟨tree', rfl⟩

/-- The links are those of the beginning, so a name leads where it led, and no link is on the
way there. -/
theorem resolved {root : Place} {name : Text} (h : FilesKept before after)
    (inside : before.tree.ResolvesInside root name)
    (hp : after.tree.canonicalPlace after.cwd ((Path.ofPlace root).under (Path.parse name)) =
      .ok place) (below : Below root place) :
    place = (before.tree.resolveName root name).place ∧ before.tree.IsStraight place := by
  have at_place := FileTree.place_eq_resolveName hp
  rw [← FileTree.resolveName_congr (fun other => (h.keeps.link other).symm)] at at_place
  refine ⟨at_place, ?_⟩
  rw [at_place] at below ⊢
  exact inside below

end FilesKept

section Changes
variable {α : Type} {before : World} {change : Place → FileTree.Change α}

/-- What a change of the files does to the world. -/
theorem reached_change (change : Place → FileTree.Change α) (world : World) :
    reached (Act.change change world) =
      { world with tree := reached (change world.cwd world.tree) } := by
  rw [Act.change]
  cases change world.cwd world.tree <;> rfl

theorem maintains_change (home : before.tree.Stands before.cwd)
    (builds : ∀ cwd, FileTree.Builds cwd (fun _ => True) (fun _ => True) (change cwd)) :
    Maintains (FilesKept before) (Act.change change) := by
  intro world kept
  have standing := kept.home home
  have built := builds world.cwd world.tree kept.wellFormed standing
  rw [reached_change]
  exact kept.trans ⟨built.wellFormed kept.wellFormed standing, built.keeps, _, rfl⟩

end Changes

/-- **One section keeps links and directories**, however that ends. -/
theorem maintains_writeSection {world : World} (home : world.tree.Stands world.cwd)
    (entry : Entry) (root : Path) (source : Section) :
    Maintains (FilesKept world) (writeSection entry root source) := by
  rw [writeSection]
  refine .bind (.ask _) fun target => ?_
  split
  · exact .throw _
  · exact .bind (maintains_change home fun _ => .makePath fun _ _ => trivial) fun _ =>
      maintains_change home fun _ => .write trivial

/-- The world differs in files inside the working directory at `root` only. -/
structure KeptOutside (before : World) (root : Place) (after : World) : Prop where
  kept : FilesKept before after
  outside : before.tree.UnchangedOutside root after.tree

section Outside
variable {before world : World} {root place : Place} {source : Section}
  (home : before.tree.Stands before.cwd) (stands : before.tree.Stands root)
include home

theorem KeptOutside.change {change : Place → FileTree.Change Unit}
    (builds : ∀ cwd, FileTree.Builds cwd (fun _ => True) (fun _ => True) (change cwd))
    (unchanged : ∀ cwd tree, tree.WellFormed → tree.Stands cwd → before.tree.Keeps tree →
      tree.UnchangedOutside root (reached (change cwd tree))) :
    Maintains (KeptOutside before root) (Act.change change) := by
  intro world h
  refine ⟨maintains_change home builds world h.kept, fun place outside => ?_⟩
  rw [reached_change, ← h.outside place outside]
  exact unchanged _ _ h.kept.wellFormed (h.kept.home home) h.kept.keeps place outside

include stands

/-- **One section changes nothing outside the working directory**, however that ends, if its
name is resolved inside. -/
theorem keptOutside_writeSection (inside : before.tree.ResolvesInside root source.name)
    (entry : Entry) :
    Maintains (KeptOutside before root) (writeSection entry (Path.ofPlace root) source) := by
  rw [writeSection]
  refine .bind_of_ok (.ask _) fun world target after h ha => ?_
  obtain ⟨hc, rfl⟩ := Act.ask_ok.1 ha
  obtain ⟨place, hp, rfl⟩ := FileTree.canonical_eq_ok hc
  split
  · exact h
  rename_i guard
  rw [guard_iff, not_or, not_not] at guard
  have below := guard.2
  obtain ⟨-, straight⟩ := h.kept.resolved inside hp below
  have written : Maintains (KeptOutside before root) (do
      Act.change fun cwd => FileTree.makePath cwd (Path.ofPlace place).parent
      Act.change fun cwd => FileTree.write cwd .append (Path.ofPlace place)
        (Utf8.encode source.body)) :=
    .bind (KeptOutside.change home (fun _ => .makePath fun _ _ => trivial)
        fun _ _ wellFormed home keeps => FileTree.unchangedOutside_makePath wellFormed home
          (keeps.stands stands) below (keeps.isStraight straight)) fun _ =>
      KeptOutside.change home (fun _ => .write trivial)
        fun _ _ wellFormed home keeps => FileTree.unchangedOutside_write wellFormed home below
          (keeps.isStraight straight) _ _
  exact written after h

/-- **Sections change nothing outside the working directory**, by induction on those that are
still to be written. -/
theorem keptOutside_writeSections {sources : List Section}
    (inside : ∀ source ∈ sources, before.tree.ResolvesInside root source.name) (entry : Entry) :
    Maintains (KeptOutside before root) (writeSections entry (Path.ofPlace root) sources) := by
  induction sources with
  | nil => exact .pure ()
  | cons source rest ih =>
    exact .bind (keptOutside_writeSection home stands (inside source List.mem_cons_self) entry)
      fun _ => ih fun other ho => inside other (List.mem_cons_of_mem _ ho)

end Outside

/-! ## Names that are refused -/

section Refusals
variable {world after : World} {root : Place} {entry : Entry} {source : Section} {name : Text}

/-- The empty name leads to the working directory itself. -/
theorem canonicalPlace_empty (straight : world.tree.IsStraight root)
    (nul : ∀ name ∈ root, '\x00' ∉ name) :
    world.tree.canonicalPlace world.cwd ((Path.ofPlace root).under (Path.parse [])) = .ok root := by
  have here : (Path.ofPlace root).under (Path.parse []) = Path.ofPlace root := by
    rw [Path.under, if_neg (by decide)]
    exact congrArg (Path.mk .single) (List.append_nil root)
  rw [here]
  exact FileTree.canonicalPlace_of_isStraight straight nul world.cwd

/-- A section whose name is refused ends the splitting before anything is done to it. -/
theorem writeSection_of_refused (straight : world.tree.IsStraight root)
    (nul : ∀ name ∈ root, '\x00' ∉ name) (refused : Refused world root source.name) :
    writeSection entry (Path.ofPlace root) source world =
      .error (.abort (.splitter (.invalidName entry source.name))) world := by
  obtain ⟨place, hp, hn⟩ : ∃ place, world.tree.canonicalPlace world.cwd
      ((Path.ofPlace root).under (Path.parse source.name)) = .ok place ∧
      (source.name = [] ∨ ¬ Below root place) := by
    rcases refused with he | ⟨place, hp, outside⟩
    · exact ⟨root, he ▸ canonicalPlace_empty straight nul, .inl he⟩
    · exact ⟨place, hp, .inr outside⟩
  have asked : Act.ask (fun tree cwd => tree.canonical cwd
      ((Path.ofPlace root).under (Path.parse source.name))) world = .ok (Path.ofPlace place) world :=
    Act.ask_ok.2 ⟨by rw [FileTree.canonical, hp]; rfl, rfl⟩
  rw [writeSection, bind_of_ok asked, if_pos]
  · rfl
  · exact guard_iff.2 hn

/-- Only a section whose name is refused ends the splitting that way. -/
theorem refused_of_writeSection
    (h : writeSection entry (Path.ofPlace root) source world =
      .error (.abort (.splitter (.invalidName entry name))) after) :
    name = source.name ∧ after = world ∧ Refused world root name := by
  rw [writeSection] at h
  rcases bind_error.1 h with h | ⟨target, middle, ha, h⟩
  · rw [Act.ask] at h
    split at h <;> cases h
  obtain ⟨hc, rfl⟩ := Act.ask_ok.1 ha
  obtain ⟨place, hp, rfl⟩ := FileTree.canonical_eq_ok hc
  split at h
  · rename_i guard
    cases h
    exact ⟨rfl, rfl, (guard_iff.1 guard).imp_right fun outside => ⟨place, hp, outside⟩⟩
  -- making directories and writing fail by mishaps only
  · have mild : Act.Mild (do
        Act.change fun cwd => FileTree.makePath cwd (Path.ofPlace place).parent
        Act.change fun cwd => FileTree.write cwd .append (Path.ofPlace place)
          (Utf8.encode source.body)) := .bind (.change _) fun _ => .change _
    cases mild _ _ _ h

end Refusals

/-! ## All sections of an entry -/

theorem writeSections_append (entry : Entry) (root : Path) (earlier later : List Section) :
    writeSections entry root (earlier ++ later) =
      writeSections entry root earlier >>= fun _ => writeSections entry root later :=
  List.forM_append

section Runs
variable {world middle after : World} {root : Place} {entry : Entry} {name : Text}

/-- **Sections keep links and directories**, however that ends. -/
theorem maintains_writeSections (home : world.tree.Stands world.cwd) (entry : Entry) (root : Path)
    (sources : List Section) : Maintains (FilesKept world) (writeSections entry root sources) := by
  induction sources with
  | nil => exact .pure ()
  | cons source rest ih => exact .bind (maintains_writeSection home entry root source) fun _ => ih

theorem filesKept_of_ok (wellFormed : world.tree.WellFormed) (home : world.tree.Stands world.cwd)
    {root : Path} {sources : List Section}
    (h : writeSections entry root sources world = .ok () middle) : FilesKept world middle := by
  have kept := maintains_writeSections home entry root sources world (.refl wellFormed)
  rwa [h] at kept

/-- **The first section that is refused ends the splitting.** -/
theorem writeSections_of_refused (wellFormed : world.tree.WellFormed)
    (home : world.tree.Stands world.cwd) (stands : world.tree.Stands root)
    (nul : ∀ name ∈ root, '\x00' ∉ name) {earlier later : List Section} {source : Section}
    (written : writeSections entry (Path.ofPlace root) earlier world = .ok () middle)
    (refused : Refused middle root source.name) :
    writeSections entry (Path.ofPlace root) (earlier ++ source :: later) world =
      .error (.abort (.splitter (.invalidName entry source.name))) middle := by
  have straight := ((filesKept_of_ok wellFormed home written).stands stands).isStraight
  rw [writeSections_append, bind_of_ok written]
  exact bind_of_error (writeSection_of_refused straight nul refused)

/-- **Sections fail by one of them**, when those before it are written: by induction on the
sections before it. -/
theorem writeSections_error {sources : List Section} {root : Path} {failure : Failure}
    (h : writeSections entry root sources world = .error failure after) :
    ∃ earlier source later middle, sources = earlier ++ source :: later ∧
      writeSections entry root earlier world = .ok () middle ∧
      writeSection entry root source middle = .error failure after := by
  induction sources generalizing world with
  | nil => cases h
  | cons source rest ih =>
    rcases bind_error.1 h with h | ⟨_, next, hs, h⟩
    · exact ⟨[], source, rest, world, rfl, rfl, h⟩
    · obtain ⟨earlier, other, later, middle, rfl, hw, he⟩ := ih h
      exact ⟨source :: earlier, other, later, middle, rfl, (bind_of_ok hs).trans hw, he⟩

/-- Splitting ends that way at a section that is refused. -/
theorem refused_of_writeSections {sources : List Section}
    (h : writeSections entry (Path.ofPlace root) sources world =
      .error (.abort (.splitter (.invalidName entry name))) after) :
    ∃ earlier source later, sources = earlier ++ source :: later ∧ source.name = name ∧
      writeSections entry (Path.ofPlace root) earlier world = .ok () after ∧
      Refused after root name := by
  obtain ⟨earlier, source, later, middle, he, written, failed⟩ := writeSections_error h
  obtain ⟨rfl, rfl, refused⟩ := refused_of_writeSection failed
  exact ⟨earlier, source, later, he, rfl, written, refused⟩

/-- A section that is written goes to the end of the file that its name is resolved to. -/
theorem appended_of_writeSection {before : World} {source : Section} (kept : FilesKept before world)
    (inside : before.tree.ResolvesInside root source.name)
    (h : writeSection entry (Path.ofPlace root) source world = .ok () after) :
    Below root (before.tree.resolveName root source.name).place ∧
      world.tree.Appended after.tree (before.tree.resolveName root source.name).place
        (Utf8.encode source.body) := by
  obtain ⟨place, made, tree, hp, below, hmade, hwrite, rfl⟩ := writeSection_cases h
  obtain ⟨rfl, straight⟩ := kept.resolved inside hp below
  exact ⟨below, FileTree.appended_of_write (kept.keeps.isStraight straight) below.ne_nil hmade hwrite⟩

end Runs

/-- The sections of an entry; an entry that cannot be read or is not marked has none. -/
def sectionsOf (world : World) (entry : Entry) : List Section :=
  match world.tree.read world.cwd entry.path with
  | .error _ => []
  | .ok content =>
    match Utf8.decode content with
    | .error _ => []
    | .ok text => (Section.ofText? text).getD []

theorem sectionsOf_eq {world : World} {entry : Entry} {text : Text}
    (readable : world.tree.read world.cwd entry.path = .ok (Utf8.encode text)) :
    sectionsOf world entry = (Section.ofText? text).getD [] := by
  rw [sectionsOf, readable]
  dsimp only
  rw [Utf8.decode_encode]

/-- A way to end a split that changes nothing. -/
inductive Ending : Act SplitResult → Prop
  | result (result : SplitResult) : Ending (pure result)
  | mishap (error : FileError) : Ending (throw (.file error))

/-- **An entry is split by writing its sections.** -/
theorem split_eq_writeSections {world : World} {workdir : Path} {root : Place}
    (leads : world.tree.canonical world.cwd workdir = .ok (Path.ofPlace root)) (entry : Entry) :
    ∃ ending, Ending ending ∧ split entry workdir world =
      (writeSections entry (Path.ofPlace root) (sectionsOf world entry) >>= fun _ => ending)
        world := by
  rw [split, sectionsOf, bind_eq, Act.ask]
  cases world.tree.read world.cwd entry.path with
  | error error => exact ⟨_, .mishap error, rfl⟩
  | ok content =>
    dsimp only
    cases Utf8.decode content with
    | error fault => exact ⟨_, .result _, rfl⟩
    | ok text =>
      dsimp only
      cases Section.ofText? text with
      | none => exact ⟨_, .result _, rfl⟩
      | some sources =>
        refine ⟨_, .result (.multiple ((sources.map Section.name).eraseDups.map Path.parse)), ?_⟩
        exact bind_of_ok (Act.ask_ok.2 ⟨leads, rfl⟩)

theorem reached_ending {ending : Act SplitResult} (h : Ending ending) (world : World) :
    reached (ending world) = world := by
  cases h <;> rfl

/-- The sections of a marked entry are written, and their names are listed. -/
theorem split_of_sections {world after : World} {entry : Entry} {workdir : Path} {root : Place}
    {text : Text} {sources : List Section}
    (readable : world.tree.read world.cwd entry.path = .ok (Utf8.encode text))
    (leads : world.tree.canonical world.cwd workdir = .ok (Path.ofPlace root))
    (sections : Section.ofText? text = some sources)
    (written : writeSections entry (Path.ofPlace root) sources world = .ok () after) :
    split entry workdir world =
      .ok (.multiple ((sources.map Section.name).eraseDups.map Path.parse)) after := by
  rw [split, bind_of_ok (Act.ask_ok.2 ⟨readable, rfl⟩), Utf8.decode_encode]
  dsimp only
  rw [sections]
  dsimp only
  rw [bind_of_ok (Act.ask_ok.2 ⟨leads, rfl⟩), bind_of_ok written]
  rfl

/-- **What splitting can touch**, and where it stops. -/
structure Confined (world : World) (entry : Entry) (workdir : Path) (root : Place) : Prop where
  /-- Nothing outside the working directory is changed, however the split ends, if every name is
  resolved inside. -/
  inside : (∀ source ∈ sectionsOf world entry, world.tree.ResolvesInside root source.name) →
    world.tree.UnchangedOutside root (reached (split entry workdir world)).tree
  /-- A section that is written goes to the end of the file that its name is resolved to. -/
  appended : ∀ earlier source later middle after,
    sectionsOf world entry = earlier ++ source :: later →
    world.tree.ResolvesInside root source.name →
    writeSections entry (Path.ofPlace root) earlier world = .ok () middle →
    writeSection entry (Path.ofPlace root) source middle = .ok () after →
    Below root (world.tree.resolveName root source.name).place ∧
      middle.tree.Appended after.tree (world.tree.resolveName root source.name).place
        (Utf8.encode source.body)
  /-- A section whose name is refused ends the split, and what is left is what the sections
  before it have written. -/
  refused : ∀ earlier source later middle,
    sectionsOf world entry = earlier ++ source :: later →
    writeSections entry (Path.ofPlace root) earlier world = .ok () middle →
    Refused middle root source.name →
    split entry workdir world = .error (.abort (.splitter (.invalidName entry source.name))) middle
  /-- No other section is said to have an invalid name. -/
  named : ∀ name after,
    split entry workdir world = .error (.abort (.splitter (.invalidName entry name))) after →
    ∃ earlier source later, sectionsOf world entry = earlier ++ source :: later ∧
      source.name = name ∧ writeSections entry (Path.ofPlace root) earlier world = .ok () after ∧
      Refused after root name

/-- **Splitting is confined to the working directory** as far as names are resolved inside, and
ends with the first section whose name is refused. -/
theorem split_confined {world : World} {workdir : Path} {root : Place}
    (workplace : Workplace world workdir root) (entry : Entry) :
    Confined world entry workdir root := by
  obtain ⟨wellFormed, home, free⟩ := workplace.fit
  have stands := wellFormed.stands workplace.directory
  have nul := free.name root _ workplace.directory
  obtain ⟨ending, he, hsplit⟩ := split_eq_writeSections workplace.leads entry
  refine ⟨fun inside => ?_, ?_, ?_, ?_⟩
  · rw [hsplit]
    have start : KeptOutside world root world := ⟨.refl wellFormed, fun _ _ => rfl⟩
    have written := keptOutside_writeSections home stands inside entry world start
    have ended : Maintains (KeptOutside world root) ending := fun world h => by
      rwa [reached_ending he]
    exact (Maintains.after (fun _ => ended) written).outside
  · intro earlier source later middle after _ inside hw hs
    exact appended_of_writeSection (filesKept_of_ok wellFormed home hw) inside hs
  · intro earlier source later middle sections hw refused
    rw [hsplit, sections]
    exact bind_of_error (writeSections_of_refused wellFormed home stands nul hw refused)
  · intro name after h
    rw [hsplit] at h
    rcases bind_error.1 h with h | ⟨_, middle, _, h⟩
    · exact refused_of_writeSections h
    · cases he <;> cases h

/-- A world with an entry `/e`, a file `/v`, and a directory `/w` that holds something. -/
def workWorld (entry beside : Text) (held : List (Place × Node)) : World :=
  ⟨⟨([['e']], .file (Utf8.encode entry)) :: ([['v']], .file (Utf8.encode beside)) ::
    ([['w']], .directory) :: held⟩, [], [], []⟩

theorem read_workWorld (entry beside : Text) (held : List (Place × Node)) :
    (workWorld entry beside held).tree.read (workWorld entry beside held).cwd
      interleavedEntry.path = .ok (Utf8.encode entry) := by
  cbv

/-- A directory, a link to it, and a link that leads out of the working directory. -/
def linkedDirectory : List (Place × Node) :=
  [([['w'], ['d']], .directory), ([['w'], ['i']], .link "d"), ([['w'], ['o']], .link "../v")]

/-- One source goes through the link to the directory, and the next one through the other. -/
def linkedSources : Text := "==== Source: i/a ====\nx\n==== Source: o ====\ny\n"

/-- The world in which these sources are split. -/
def linkedWorld : World := workWorld linkedSources "old\n" linkedDirectory

theorem workplace_linkedWorld : Workplace linkedWorld (Path.ofPlace [['w']]) [['w']] := by
  refine ⟨⟨FileTree.wellFormed_of_entries ?_, FileTree.stands_nil _,
    FileTree.nulFree_of_entries ?_⟩, by cbv, by cbv⟩
  · simp only [Path.IsProper]
    decide
  · simp [linkedWorld, workWorld, linkedDirectory]

theorem split_confined_linkedWorld :
    ∃ middle,
      split interleavedEntry (Path.ofPlace [['w']]) linkedWorld =
        .error (.abort (.splitter (.invalidName interleavedEntry "o"))) middle ∧
      linkedWorld.tree.UnchangedOutside [['w']] middle.tree ∧
      middle.tree.node? [['w'], ['d'], ['a']] = some (.file (Utf8.encode "x\n")) := by
  have confined := split_confined workplace_linkedWorld interleavedEntry
  have sections : sectionsOf linkedWorld interleavedEntry =
      [⟨"i/a", "x\n"⟩] ++ ⟨"o", "y\n"⟩ :: [] := by
    rw [linkedWorld, sectionsOf_eq (read_workWorld _ _ _)]
    decide +kernel
  have written : writeSections interleavedEntry (Path.ofPlace [['w']]) [⟨"i/a", "x\n"⟩]
      linkedWorld = .ok () (workWorld linkedSources "old\n" (linkedDirectory ++
        [([['w'], ['d'], ['a']], .file (Utf8.encode "x\n"))])) := by
    cbv
  have stopped := confined.refused _ _ _ _ sections written
    (.inr ⟨[['v']], by cbv, fun h => absurd h.1 (by decide)⟩)
  refine ⟨_, stopped, ?_, by cbv⟩
  have proper : ∀ name ∈ ([['w']] : Place), Path.IsProper name := by
    simp only [Path.IsProper]
    decide
  have inside : ∀ source ∈ sectionsOf linkedWorld interleavedEntry,
      linkedWorld.tree.ResolvesInside [['w']] source.name := by
    rw [sections]
    intro source hm
    refine FileTree.resolvesInside_of_complete proper ?_
    rcases List.mem_cons.1 hm with rfl | hm
    · cbv
    · rw [List.mem_singleton.1 hm]
      cbv
  have unchanged := confined.inside inside
  rwa [stopped] at unchanged

/-- A link to itself, and a link that leads out of the working directory. -/
def circularLinks : List (Place × Node) :=
  [([['w'], ['l']], .link "l"), ([['w'], ['o']], .link "../v")]

/-- A source whose name passes the circle. -/
def circularSource : Text := "==== Source: l/../o ====\nnew\n"

/-- The world in which that source is split. -/
def circularWorld : World := workWorld circularSource "old\n" circularLinks

/-- **Behind a circle of links a name leads out of the working directory**: it is resolved to
the link `/w/o`, which is inside, and the source is written to `/v`, where that link leads. -/
theorem written_past_circle :
    Workplace circularWorld (Path.ofPlace [['w']]) [['w']] ∧ ¬ Below [['w']] [['v']] ∧
      circularWorld.tree.node? [['v']] = some (.file (Utf8.encode "old\n")) ∧
      ∃ after,
        split interleavedEntry (Path.ofPlace [['w']]) circularWorld =
          .ok (.multiple [Path.parse "l/../o"]) after ∧
        after.tree.node? [['v']] = some (.file (Utf8.encode "old\nnew\n")) := by
  have fit : FileTree.Fit [] circularWorld.tree := by
    refine ⟨FileTree.wellFormed_of_entries ?_, FileTree.stands_nil _,
      FileTree.nulFree_of_entries ?_⟩
    · simp only [Path.IsProper]
      decide
    · simp [circularWorld, workWorld, circularLinks]
  have leads : circularWorld.tree.canonical [] (Path.ofPlace [['w']]) =
      .ok (Path.ofPlace [['w']]) := by
    cbv
  have sections : Section.ofText? circularSource = some [⟨"l/../o", "new\n"⟩] := by
    decide +kernel
  have written : writeSections interleavedEntry (Path.ofPlace [['w']]) [⟨"l/../o", "new\n"⟩]
      circularWorld = .ok () (workWorld circularSource "old\nnew\n" circularLinks) := by
    cbv
  have whole := split_of_sections (read_workWorld _ _ _) leads sections written
  exact ⟨⟨fit, leads, by cbv⟩, fun h => absurd h.1 (by decide), by cbv, _, whole, by cbv⟩

end MarkerSplit
end Reimport
