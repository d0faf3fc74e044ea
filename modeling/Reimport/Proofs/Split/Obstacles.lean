import Reimport.Proofs.FileTree.NulFree
import Reimport.Proofs.Split.Listed

/-!
# What a split ends with

A splitter has two ways to end an entry: it answers what the sources are, or it reports a fault
of its own, after which no result is trusted.  A split by markers has a third one, because it
hands the names of the sources to the file system.  A name that is refused is reported.  But a
name can lead to a place inside the working directory and still not be written there: it holds a
NUL, it leads in a circle of links, it is too long, or its place and that of an earlier source
are directory and file of each other (`Obstructed`).  Nobody reports that, and the error of the
file system comes through.

These are all the ways: what stands in the working directory when a section has its turn is
known from the names before it (`occupied_of_writeSections`), so a section that is neither
refused nor obstructed is written (`writeSection_of_free`), and one that was written was neither.
Which of the three ends a split has is then told by the first section that is not written
(`split_ends`), and the two that are promised are all iff no section is obstructed.
-/
namespace Reimport

namespace FileTree

/-- A path is resolved unless it holds a NUL or leads in a circle. -/
theorem canonicalPlace_error {tree : FileTree} {cwd : Place} {path : Path} {error : FileError}
    (h : tree.canonicalPlace cwd path = .error error) :
    path.text.contains '\x00' = true ∨ ∃ text, error = .linkCycle text := by
  rw [canonicalPlace_eq] at h
  split at h
  · exact .inl ‹_›
  · rw [settle] at h
    split at h
    · cases h
    · split at h
      · cases h
        exact .inr ⟨_, rfl⟩
      · cases h

end FileTree

namespace Path

/-- The names between the slashes of a text hold every NUL of the text. -/
theorem nul_mem_partsOf {text : Text} (h : '\x00' ∈ text) :
    ∃ part ∈ partsOf text, '\x00' ∈ part := by
  rw [← Text.intercalate_splitAt '/' text, Text.mem_intercalate (by decide)] at h
  obtain ⟨part, hm, hn⟩ := h
  refine ⟨part, List.mem_filter.2 ⟨hm, ?_⟩, hn⟩
  -- what is left out is empty or a dot
  have ne : part ≠ [] := List.ne_nil_of_mem hn
  have plain : part ≠ dot := by
    rintro rfl
    exact absurd hn (by decide)
  simp [ne, plain]

/-- A source leads along a NUL iff its name holds one. -/
theorem contains_nul_under {root : Place} (nul : ∀ name ∈ root, '\x00' ∉ name) {name : Text} :
    ((ofPlace root).under (parse name)).text.contains '\x00' = true ↔ '\x00' ∈ name := by
  rw [← not_iff_not, Bool.not_eq_true, contains_nul_eq_false]
  constructor
  · intro free hn
    obtain ⟨part, hm, hp⟩ := nul_mem_partsOf hn
    refine free part ?_ hp
    rw [under]
    split
    · exact hm
    · exact List.mem_append_right _ hm
  · intro hn
    have free := nulFree_partsOf hn
    rw [under]
    split
    · exact free
    · intro part hm
      rcases List.mem_append.1 hm with hm | hm
      · exact nul part hm
      · exact free part hm

end Path

namespace MarkerSplit

/-! ## What the sections before have left -/

/-- What stands below the working directory at `root` once some sections are written. -/
structure Occupied (world : World) (root : Place) (done : List Section) (tree : FileTree) :
    Prop where
  /-- Every section went to a place inside. -/
  inside : ∀ source ∈ done, Below root (world.tree.resolveName root source.name).place
  /-- The files are at these places. -/
  file : ∀ place, Below root place →
    ((∃ content, tree.node? place = some (.file content)) ↔
      ∃ source ∈ done, place = (world.tree.resolveName root source.name).place)
  /-- The directories are those that lead there. -/
  directory : ∀ place, Below root place →
    (tree.node? place = some .directory ↔
      ∃ source ∈ done, Below place (world.tree.resolveName root source.name).place)

namespace Occupied
variable {world : World} {workdir : Path} {root : Place} {done : List Section} {source : Section}
  {tree after : FileTree} {content : Bytes}

theorem nil (workplace : EmptyWorkdir world workdir root) :
    Occupied world root [] world.tree := by
  refine ⟨fun _ hm => (nomatch hm), fun place below => ?_, fun place below => ?_⟩
  · rw [workplace.nothing place below]
    simp
  · rw [workplace.nothing place below]
    simp

/-- One more section adds its file and the directories that lead to it. -/
theorem concat (occupied : Occupied world root done tree) (keeps : tree.Keeps after)
    (wellFormed : after.WellFormed)
    (below : Below root (world.tree.resolveName root source.name).place)
    (appended : tree.Appended after (world.tree.resolveName root source.name).place content) :
    Occupied world root (done ++ [source]) after := by
  constructor
  case inside =>
    intro other hm
    rcases List.mem_append.1 hm with hm | hm
    · exact occupied.inside other hm
    · rwa [List.mem_singleton.1 hm]
  case file =>
    intro place hb
    by_cases he : place = (world.tree.resolveName root source.name).place
    · exact iff_of_true ⟨_, he ▸ appended.file⟩ ⟨source, by simp, he⟩
    -- anywhere else no file has come to be, and the section adds nothing
    have elsewhere : (∃ other ∈ done ++ [source],
        place = (world.tree.resolveName root other.name).place) ↔
        ∃ other ∈ done, place = (world.tree.resolveName root other.name).place := by
      simp [or_and_right, exists_or, he]
    rw [elsewhere, ← occupied.file place hb]
    rcases appended.elsewhere place he with same | ⟨none, made, -⟩
    · rw [same]
    · rw [none, made]
      simp
  case directory =>
    intro place hb
    constructor
    · intro hd
      have ne : place ≠ (world.tree.resolveName root source.name).place := by
        intro he
        rw [he, appended.file] at hd
        cases hd
      rcases appended.elsewhere place ne with same | ⟨-, -, way⟩
      · rw [same] at hd
        obtain ⟨other, hm, leads⟩ := (occupied.directory place hb).1 hd
        exact ⟨other, List.mem_append_left _ hm, leads⟩
      · exact ⟨source, by simp, way, ne.symm⟩
    · rintro ⟨other, hm, leads⟩
      rcases List.mem_append.1 hm with hm | hm
      · exact keeps.directory place ((occupied.directory place hb).2 ⟨other, hm, leads⟩)
      · rw [List.mem_singleton.1 hm] at leads
        exact (wellFormed.reached appended.file).directory place leads.1 leads.2.symm

/-- No section that is written goes below another one. -/
theorem apart (occupied : Occupied world root done tree) {other : Section} (hs : source ∈ done)
    (ho : other ∈ done) : ¬ Below (world.tree.resolveName root source.name).place
      (world.tree.resolveName root other.name).place := by
  intro nested
  have inside := occupied.inside source hs
  obtain ⟨held, file⟩ := (occupied.file _ inside).2 ⟨source, hs, rfl⟩
  have directory := (occupied.directory _ inside).2 ⟨other, ho, nested⟩
  rw [file] at directory
  cases directory

end Occupied

section Runs
variable {world middle after : World} {workdir : Path} {root : Place} {entry : Entry}
  {sources : List Section} (workplace : EmptyWorkdir world workdir root)
  (wellFormed : world.tree.WellFormed)
include workplace wellFormed

/-- **The names tell what stands in the working directory**, by induction on the sections that
are written. -/
theorem occupied_of_writeSections
    (written : writeSections entry (Path.ofPlace root) sources world = .ok () after) :
    Occupied world root sources after.tree := by
  induction sources using List.reverseRecOn generalizing after with
  | nil =>
    cases written
    exact .nil workplace
  | append_singleton done source ih =>
    rw [writeSections_append] at written
    obtain ⟨_, middle, hd, hs⟩ := bind_ok.1 written
    obtain ⟨_, next, hs, hn⟩ := bind_ok.1
      (show (writeSection entry (Path.ofPlace root) source >>= fun _ => pure PUnit.unit) middle =
        .ok () after from hs)
    cases hn
    have kept := filesKept_of_ok wellFormed workplace.home hd
    have step := maintains_writeSection (kept.home workplace.home) entry (Path.ofPlace root) source
      middle (.refl kept.wellFormed)
    rw [hs, reached_ok] at step
    obtain ⟨below, appended⟩ := appended_of_writeSection kept (resolvesInside workplace _) hs
    exact (ih hd).concat step.keeps step.wellFormed below appended

end Runs

/-! ## What keeps a section from being written -/

/-- What can be in the way of a source when it is its turn: the sections `earlier` are written,
which has led from `world` to `middle`. -/
inductive Obstructed (world middle : World) (root : Place) (earlier : List Section)
    (name : Text) : Prop
  /-- The name holds a NUL. -/
  | nul (holds : '\x00' ∈ name)
  /-- The name leads in a circle of links. -/
  | circle (text : Text) (leads : middle.tree.canonicalPlace middle.cwd
      ((Path.ofPlace root).under (Path.parse name)) = .error (.linkCycle text))
  /-- A name on the way to the place of the source, or the path of that place, is too long. -/
  | tooLong (below : Below root (world.tree.resolveName root name).place)
      (long : (∃ part ∈ (world.tree.resolveName root name).place,
          FileTree.nameLimit < Utf8.size part) ∨
        FileTree.pathLimit ≤ Utf8.size (Path.ofPlace (world.tree.resolveName root name).place).text)
  /-- The place of the source is below that of an earlier one, or the other way around. -/
  | inTheWay (other : Section) (before : other ∈ earlier)
      (below : Below root (world.tree.resolveName root name).place)
      (nested : Below (world.tree.resolveName root other.name).place
          (world.tree.resolveName root name).place ∨
        Below (world.tree.resolveName root name).place
          (world.tree.resolveName root other.name).place)

section Turns
variable {world middle after : World} {workdir : Path} {root : Place} {entry : Entry}
  {earlier : List Section} {source : Section} (workplace : EmptyWorkdir world workdir root)
  (fit : FileTree.Fit world.cwd world.tree)
  (written : writeSections entry (Path.ofPlace root) earlier world = .ok () middle)
include workplace fit written

/-- Where a name leads at its turn is where it led before anything was written. -/
theorem eq_resolveName_of_written {place : Place} {name : Text}
    (hp : middle.tree.canonicalPlace middle.cwd ((Path.ofPlace root).under (Path.parse name)) =
      .ok place) : place = (world.tree.resolveName root name).place := by
  have kept := filesKept_of_ok fit.wellFormed workplace.home written
  rw [FileTree.place_eq_resolveName hp]
  exact congrArg _ (FileTree.resolveName_congr (fun other => kept.keeps.link other) root name)

/-- No link and no file is on the way to a place that is below none of the earlier ones. -/
theorem isClear_of_free {place : Place} (below : Below root place)
    (proper : ∀ name ∈ place, Path.IsProper name)
    (free : ∀ other ∈ earlier, ¬ Below (world.tree.resolveName root other.name).place place) :
    middle.tree.IsClear place.dropLast := by
  have kept := filesKept_of_ok fit.wellFormed workplace.home written
  have occupied := occupied_of_writeSections workplace fit.wellFormed written
  have way := List.dropLast_prefix place
  refine ⟨fun name hm => proper name (way.subset hm), fun above hp => ?_⟩
  by_cases hb : Below root above
  swap
  · have onRoot := below.above (hp.trans way) hb
    exact .inr ((kept.stands workplace.stands).directory above onRoot)
  cases hn : middle.tree.node? above with
  | none => exact .inl rfl
  | some node =>
    cases node with
    | directory => exact .inr rfl
    | link target =>
      have unlinked := (kept.keeps.link above).trans (workplace.filled.unlinked above hb)
      rw [FileTree.linkTarget?_eq_some.2 hn] at unlinked
      cases unlinked
    -- a file is the place of an earlier source, and this place would be below it
    | file content =>
      obtain ⟨other, hm, rfl⟩ := (occupied.file above hb).1 ⟨content, hn⟩
      refine absurd ⟨hp.trans way, fun he => ?_⟩ (free other hm)
      rw [← he] at hp
      exact not_prefix_dropLast below.ne_nil hp

/-- **A section is written that nothing is in the way of**: its place is inside and nameable, and
neither above nor below that of an earlier one. -/
theorem writeSection_of_free {place : Place} (named : source.name ≠ [])
    (hp : middle.tree.canonicalPlace middle.cwd
      ((Path.ofPlace root).under (Path.parse source.name)) = .ok place)
    (below : Below root place) (nameable : FileTree.Nameable place)
    (notBelow : ∀ other ∈ earlier, ¬ Below (world.tree.resolveName root other.name).place place)
    (notAbove : ∀ other ∈ earlier, ¬ Below place (world.tree.resolveName root other.name).place) :
    ∃ next, writeSection entry (Path.ofPlace root) source middle = .ok () next := by
  have kept := filesKept_of_ok fit.wellFormed workplace.home written
  have occupied := occupied_of_writeSections workplace fit.wellFormed written
  have straight : middle.tree.IsStraight place := by
    obtain ⟨-, straight⟩ := kept.resolved (resolvesInside workplace source.name) hp below
    exact kept.keeps.isStraight straight
  have clear := isClear_of_free workplace fit written below straight.proper notBelow
  have free : ∃ before : Bytes, middle.tree.node? place = none ∧ before = [] ∨
      middle.tree.node? place = some (.file before) := by
    cases hn : middle.tree.node? place with
    | none => exact ⟨[], .inl ⟨rfl, rfl⟩⟩
    | some node =>
      cases node with
      | file old => exact ⟨old, .inr rfl⟩
      | link target =>
        have unlinked := straight.unlinked place (List.prefix_refl _)
        rw [FileTree.linkTarget?_eq_some.2 hn] at unlinked
        cases unlinked
      -- a directory leads to the place of an earlier source
      | directory =>
        obtain ⟨other, hm, leads⟩ := (occupied.directory place below).1 hn
        exact absurd leads (notAbove other hm)
  obtain ⟨before, free⟩ := free
  obtain ⟨made, -, done⟩ := writeSection_ok _ named hp below nameable straight clear free
  exact ⟨_, done⟩

/-- A section that is not written is refused or obstructed. -/
theorem writeSection_of_unobstructed (accepted : ¬ Refused middle root source.name)
    (unobstructed : ¬ Obstructed world middle root earlier source.name) :
    ∃ next, writeSection entry (Path.ofPlace root) source middle = .ok () next := by
  have nul : '\x00' ∉ source.name := fun hn => unobstructed (.nul hn)
  have rooted := fit.free.name root _ workplace.directory
  cases hp : middle.tree.canonicalPlace middle.cwd
      ((Path.ofPlace root).under (Path.parse source.name)) with
  | error error =>
    rcases FileTree.canonicalPlace_error hp with hn | ⟨text, rfl⟩
    · exact absurd ((Path.contains_nul_under rooted).1 hn) nul
    · exact absurd (.circle text hp) unobstructed
  | ok place =>
    have named : source.name ≠ [] := fun he => accepted (.inl he)
    have below : Below root place := not_not.1 fun outside => accepted (.inr ⟨place, hp, outside⟩)
    -- it is resolved to where it was before the sections that come earlier
    obtain rfl := eq_resolveName_of_written workplace fit written hp
    have short := mt (Obstructed.tooLong below) unobstructed
    rw [not_or, not_exists] at short
    have nameable : FileTree.Nameable (world.tree.resolveName root source.name).place := by
      refine ⟨fun part hm => ?_, Nat.not_le.1 short.2, ?_⟩
      · exact Nat.not_lt.1 fun long => short.1 part ⟨hm, long⟩
      · have free : ((Path.ofPlace root).under (Path.parse source.name)).NulFree := by
          rw [Path.NulFree, ← Path.contains_nul_eq_false, ← Bool.not_eq_true,
            Path.contains_nul_under rooted]
          exact nul
        exact FileTree.nulFree_resolveFrom fit.free (fun _ hm => nomatch hm) free
    refine writeSection_of_free workplace fit written named hp below nameable ?_ ?_
    · exact fun other hm nested => unobstructed (.inTheWay other hm below (.inl nested))
    · exact fun other hm nested => unobstructed (.inTheWay other hm below (.inr nested))

/-- The path of a section that was written is short enough for the system. -/
theorem passable_of_writeSection
    (h : writeSection entry (Path.ofPlace root) source middle = .ok () after) :
    ∃ tree : FileTree, tree.Passable middle.cwd
      (Path.ofPlace (world.tree.resolveName root source.name).place) := by
  have kept := filesKept_of_ok fit.wellFormed workplace.home written
  have step := maintains_writeSection (kept.home workplace.home) entry (Path.ofPlace root) source
    middle (.refl kept.wellFormed)
  rw [h, reached_ok] at step
  obtain ⟨below, appended⟩ := appended_of_writeSection kept (resolvesInside workplace _) h
  obtain ⟨place, made, tree, hp, -, hmade, hwrite, rfl⟩ := writeSection_cases h
  obtain rfl := eq_resolveName_of_written workplace fit written hp
  obtain ⟨-, straight⟩ := kept.resolved (resolvesInside workplace source.name) hp below
  have way := kept.keeps.isStraight straight
  have grown := FileTree.grown_of_makePath (way.of_prefix (List.dropLast_prefix _)) hmade
  have opened := FileTree.placeOf_of_write (grown.isStraight way) hwrite
  have now := step.keeps.isStraight way
  refine ⟨tree, (FileTree.placeOf_iff_of_unlinked step.wellFormed
    (FileTree.placeOf_eq_ok opened).1 (fun hm => (straight.proper _ hm).1 rfl)
    now.unlinked_names ?_ appended.file true).1 opened⟩
  exact FileTree.climb_of_proper straight.proper

/-- **A section that is obstructed is not written.** -/
theorem unobstructed_of_writeSection
    (h : writeSection entry (Path.ofPlace root) source middle = .ok () after) :
    ¬ Obstructed world middle root earlier source.name := by
  obtain ⟨place, -, -, hp, -⟩ := writeSection_cases h
  intro obstructed
  cases obstructed with
  | nul holds =>
    have rooted := fit.free.name root _ workplace.directory
    have free := (FileTree.canonicalPlace_eq_ok.1 hp).1
    rw [(Path.contains_nul_under rooted).2 holds] at free
    cases free
  | circle text leads =>
    rw [leads] at hp
    cases hp
  | tooLong below long =>
    obtain ⟨tree, passable⟩ := passable_of_writeSection workplace fit written h
    rcases long with ⟨part, hm, long⟩ | long
    · exact absurd long (Nat.not_lt.2 (passable.names part hm))
    · exact absurd passable.length (Nat.not_lt.2 long)
  | inTheWay other before below nested =>
    have both : writeSections entry (Path.ofPlace root) (earlier ++ [source]) world =
        .ok () after := by
      rw [writeSections_append, bind_of_ok written]
      exact bind_ok.2 ⟨(), after, h, rfl⟩
    have occupied := occupied_of_writeSections workplace fit.wellFormed both
    have ho : other ∈ earlier ++ [source] := List.mem_append_left _ before
    have hs : source ∈ earlier ++ [source] := by simp
    rcases nested with nested | nested
    · exact occupied.apart ho hs nested
    · exact occupied.apart hs ho nested

/-- A section that is refused is not obstructed. -/
theorem Refused.unobstructed (refused : Refused middle root source.name) :
    ¬ Obstructed world middle root earlier source.name := by
  have kept := filesKept_of_ok fit.wellFormed workplace.home written
  have rooted := fit.free.name root _ workplace.directory
  obtain ⟨place, hp, outside⟩ : ∃ place, middle.tree.canonicalPlace middle.cwd
      ((Path.ofPlace root).under (Path.parse source.name)) = .ok place ∧ ¬ Below root place := by
    rcases refused with he | outside
    · refine ⟨root, ?_, fun below => below.2 rfl⟩
      rw [he]
      exact canonicalPlace_empty (kept.stands workplace.stands).isStraight rooted
    · exact outside
  have at_place := eq_resolveName_of_written workplace fit written hp
  intro obstructed
  cases obstructed with
  | nul holds =>
    have free := (FileTree.canonicalPlace_eq_ok.1 hp).1
    rw [(Path.contains_nul_under rooted).2 holds] at free
    cases free
  | circle text leads =>
    rw [leads] at hp
    cases hp
  | tooLong below => exact outside (at_place ▸ below)
  | inTheWay _ _ below => exact outside (at_place ▸ below)

end Turns

/-! ## The ends of a split -/

/-- It is the turn of a section of an entry: those before it are written. -/
structure AtTurn (world : World) (entry : Entry) (root : Place) (earlier : List Section)
    (source : Section) (middle : World) : Prop where
  among : ∃ later, sectionsOf world entry = earlier ++ source :: later
  written : writeSections entry (Path.ofPlace root) earlier world = .ok () middle

theorem failure_of_change {change : Place → FileTree.Change Unit} {world after : World}
    {failure : Failure} (h : Act.change change world = .error failure after) :
    ∃ error, failure = .file error := by
  rw [Act.change] at h
  split at h
  · cases h
  · cases h
    exact ⟨_, rfl⟩

/-- A section fails by its name or by the file system. -/
theorem failure_of_writeSection {entry : Entry} {root : Path} {source : Section}
    {world after : World} {failure : Failure}
    (h : writeSection entry root source world = .error failure after) :
    failure = .abort (.splitter (.invalidName entry source.name)) ∨
      ∃ error, failure = .file error := by
  rw [writeSection] at h
  rcases bind_error.1 h with h | ⟨target, middle, -, h⟩
  · rw [Act.ask] at h
    split at h
    · cases h
    · cases h
      exact .inr ⟨_, rfl⟩
  · split at h
    · cases h
      exact .inl rfl
    · rcases bind_error.1 h with h | ⟨_, _, -, h⟩
      · exact .inr (failure_of_change h)
      · exact .inr (failure_of_change h)

/-- **What a split ends with.** -/
structure Ends (world : World) (entry : Entry) (workdir : Path) (root : Place) : Prop where
  /-- It answers iff no section is refused and none is obstructed. -/
  answers : (∃ result after, split entry workdir world = .ok result after) ↔
    ∀ earlier source middle, AtTurn world entry root earlier source middle →
      ¬ Refused middle root source.name ∧ ¬ Obstructed world middle root earlier source.name
  /-- It reports a fault of the splitter iff the section is refused whose turn it is. -/
  reports : (∃ fault after, split entry workdir world = .error (.abort (.splitter fault)) after) ↔
    ∃ earlier source middle, AtTurn world entry root earlier source middle ∧
      Refused middle root source.name
  /-- An error of the file system comes through iff that section is obstructed. -/
  escapes : (∃ error after, split entry workdir world = .error (.file error) after) ↔
    ∃ earlier source middle, AtTurn world entry root earlier source middle ∧
      Obstructed world middle root earlier source.name
  /-- So it ends as is promised iff no section is obstructed. -/
  promised : ((∃ result after, split entry workdir world = .ok result after) ∨
      ∃ fault after, split entry workdir world = .error (.abort (.splitter fault)) after) ↔
    ∀ earlier source middle, AtTurn world entry root earlier source middle →
      ¬ Obstructed world middle root earlier source.name

section Ends
variable {world middle : World} {workdir : Path} {root : Place} {entry : Entry} {content : Bytes}
  {earlier : List Section} {source : Section} (workplace : EmptyWorkdir world workdir root)
  (fit : FileTree.Fit world.cwd world.tree)
  (readable : world.tree.read world.cwd entry.path = .ok content)

include readable workplace in
/-- A split answers if all sections of the entry are written. -/
theorem split_of_written {after : World}
    (written : writeSections entry (Path.ofPlace root) (sectionsOf world entry) world =
      .ok () after) : ∃ result, split entry workdir world = .ok result after := by
  cases hd : Utf8.decode content with
  | error fault =>
    rw [sectionsOf, readable] at written
    simp only [hd] at written
    cases written
    exact ⟨_, split_undecodable readable hd⟩
  | ok text =>
    obtain rfl := Utf8.decode_eq_ok_iff.1 hd
    rw [sectionsOf_eq readable] at written
    cases hs : Section.ofText? text with
    | none =>
      rw [hs] at written
      cases written
      refine ⟨.single entry.path, ?_⟩
      rw [split, bind_of_ok (Act.ask_ok.2 ⟨readable, rfl⟩), Utf8.decode_encode]
      dsimp only
      rw [hs]
      rfl
    | some sources =>
      rw [hs] at written
      exact ⟨_, split_of_sections readable workplace.canonical_workdir hs written⟩

include workplace in
/-- A section that fails at its turn ends the split. -/
theorem split_of_error {failure : Failure} {after : World}
    (turn : AtTurn world entry root earlier source middle)
    (failed : writeSection entry (Path.ofPlace root) source middle = .error failure after) :
    split entry workdir world = .error failure after := by
  obtain ⟨later, sections⟩ := turn.among
  obtain ⟨ending, -, hsplit⟩ := split_eq_writeSections workplace.canonical_workdir entry
  have whole : writeSections entry (Path.ofPlace root) (sectionsOf world entry) world =
      .error failure after := by
    rw [sections, writeSections_append, bind_of_ok turn.written]
    exact bind_of_error failed
  rw [hsplit]
  exact bind_of_error whole

include fit workplace

theorem split_of_refused (turn : AtTurn world entry root earlier source middle)
    (refused : Refused middle root source.name) :
    split entry workdir world =
      .error (.abort (.splitter (.invalidName entry source.name))) middle := by
  have kept := filesKept_of_ok fit.wellFormed workplace.home turn.written
  have straight := (kept.stands workplace.stands).isStraight
  have rooted := fit.free.name root _ workplace.directory
  exact split_of_error workplace turn (writeSection_of_refused straight rooted refused)

theorem split_of_obstructed (turn : AtTurn world entry root earlier source middle)
    (obstructed : Obstructed world middle root earlier source.name) :
    ∃ error after, split entry workdir world = .error (.file error) after := by
  cases hs : writeSection entry (Path.ofPlace root) source middle with
  | ok done next =>
    exact absurd obstructed (unobstructed_of_writeSection workplace fit turn.written hs)
  | error failure after =>
    rcases failure_of_writeSection hs with rfl | ⟨error, rfl⟩
    · obtain ⟨-, -, refused⟩ := refused_of_writeSection hs
      exact absurd obstructed (refused.unobstructed workplace fit turn.written)
    · exact ⟨error, after, split_of_error workplace turn hs⟩

include readable

/-- All sections are written, or the turn comes to one that is refused or obstructed. -/
theorem split_cases :
    (∃ result after, split entry workdir world = .ok result after) ∨
      ∃ earlier source middle, AtTurn world entry root earlier source middle ∧
        (Refused middle root source.name ∨
          Obstructed world middle root earlier source.name) := by
  cases hw : writeSections entry (Path.ofPlace root) (sectionsOf world entry) world with
  | ok done after =>
    obtain ⟨result, answered⟩ := split_of_written workplace readable hw
    exact .inl ⟨result, after, answered⟩
  | error failure after =>
    obtain ⟨earlier, source, later, middle, sections, written, failed⟩ := writeSections_error hw
    refine .inr ⟨earlier, source, middle, ⟨⟨later, sections⟩, written⟩, ?_⟩
    by_contra free
    rw [not_or] at free
    obtain ⟨next, hs⟩ := writeSection_of_unobstructed workplace fit written free.1 free.2
    rw [hs] at failed
    cases failed

/-- **How a split ends is told by the first section that is not written**: it answers if there
is none, and reports it if its name is refused; what obstructs it comes through. -/
theorem split_ends : Ends world entry workdir root := by
  have whole := split_cases workplace fit readable
  have refuses : ∀ {earlier source middle}, AtTurn world entry root earlier source middle →
      Refused middle root source.name →
        ∃ fault after, split entry workdir world = .error (.abort (.splitter fault)) after :=
    fun turn refused => ⟨_, _, split_of_refused workplace fit turn refused⟩
  have comes : ∀ {earlier source middle}, AtTurn world entry root earlier source middle →
      Obstructed world middle root earlier source.name →
        ∃ error after, split entry workdir world = .error (.file error) after :=
    fun turn obstructed => split_of_obstructed workplace fit turn obstructed
  -- a split has one end, so each excludes the other two
  constructor
  case answers =>
    constructor
    · rintro ⟨result, after, h⟩ earlier source middle turn
      constructor
      · intro refused
        obtain ⟨_, _, reported⟩ := refuses turn refused
        cases h.symm.trans reported
      · intro obstructed
        obtain ⟨_, _, failed⟩ := comes turn obstructed
        cases h.symm.trans failed
    · intro free
      rcases whole with answered | ⟨earlier, source, middle, turn, kept⟩
      · exact answered
      · exact absurd kept (not_or.2 (free earlier source middle turn))
  case reports =>
    constructor
    · rintro ⟨fault, after, h⟩
      rcases whole with ⟨_, _, answered⟩ | ⟨earlier, source, middle, turn, refused | obstructed⟩
      · cases h.symm.trans answered
      · exact ⟨earlier, source, middle, turn, refused⟩
      · obtain ⟨_, _, failed⟩ := comes turn obstructed
        cases h.symm.trans failed
    · rintro ⟨earlier, source, middle, turn, refused⟩
      exact refuses turn refused
  case escapes =>
    constructor
    · rintro ⟨error, after, h⟩
      rcases whole with ⟨_, _, answered⟩ | ⟨earlier, source, middle, turn, refused | obstructed⟩
      · cases h.symm.trans answered
      · obtain ⟨_, _, reported⟩ := refuses turn refused
        cases h.symm.trans reported
      · exact ⟨earlier, source, middle, turn, obstructed⟩
    · rintro ⟨earlier, source, middle, turn, obstructed⟩
      exact comes turn obstructed
  case promised =>
    constructor
    · intro kept earlier source middle turn obstructed
      obtain ⟨_, _, failed⟩ := comes turn obstructed
      rcases kept with ⟨_, _, answered⟩ | ⟨_, _, reported⟩
      · cases failed.symm.trans answered
      · cases failed.symm.trans reported
    · intro free
      rcases whole with answered | ⟨earlier, source, middle, turn, refused | obstructed⟩
      · exact .inl answered
      · exact .inr (refuses turn refused)
      · exact absurd obstructed (free earlier source middle turn)

end Ends

theorem fit_splitWorld {text : Text} :
    FileTree.Fit (splitWorld text []).cwd (splitWorld text []).tree := by
  refine ⟨wellFormed_splitWorld text, FileTree.stands_nil _, FileTree.nulFree_of_entries ?_⟩
  simp [splitWorld]

/-- Two sources, the second of which goes where the directory of the first one is. -/
def overlaidSources : Text := "==== Source: l/x ====\nx\n==== Source: l ====\ny\n"

theorem split_ends_overlaid :
    ∃ error after, split interleavedEntry (Path.ofPlace [['w']]) (splitWorld overlaidSources []) =
      .error (.file error) after := by
  have ends := split_ends (emptyWorkdir_splitWorld _) fit_splitWorld
    (read_splitWorld overlaidSources)
  have among : sectionsOf (splitWorld overlaidSources []) interleavedEntry =
      [⟨"l/x", "x\n"⟩] ++ ⟨"l", "y\n"⟩ :: [] := by
    rw [sectionsOf_eq (read_splitWorld _)]
    decide +kernel
  have written : writeSections interleavedEntry (Path.ofPlace [['w']]) [⟨"l/x", "x\n"⟩]
      (splitWorld overlaidSources []) = .ok () (splitWorld overlaidSources
        [([['w'], ['l']], .directory), ([['w'], ['l'], ['x']], .file (Utf8.encode "x\n"))]) := by
    cbv
  have first : ((splitWorld overlaidSources []).tree.resolveName [['w']] "l/x").place =
      [['w'], ['l'], ['x']] := by
    cbv
  have second : ((splitWorld overlaidSources []).tree.resolveName [['w']] "l").place =
      [['w'], ['l']] := by
    cbv
  refine ends.escapes.2 ⟨_, _, _, ⟨⟨[], among⟩, written⟩, ?_⟩
  refine .inTheWay ⟨"l/x", "x\n"⟩ List.mem_cons_self ?_ (.inr ?_)
  · rw [second]
    exact ⟨by decide, by decide⟩
  · rw [first, second]
    exact ⟨by decide, by decide⟩

/-- Two sources, one of whose names is a directory of the other. -/
def nestedSources : Text := "==== Source: a ====\nx\n==== Source: a/b ====\ny\n"

/-- **A split can end with an error of the file system**: the file of `a` is where the directory
of `a/b` would have to be. -/
theorem error_of_nestedSources :
    EmptyWorkdir (splitWorld nestedSources []) (Path.ofPlace [['w']]) [['w']] ∧
      FileTree.Fit (splitWorld nestedSources []).cwd (splitWorld nestedSources []).tree ∧
      (splitWorld nestedSources []).tree.read (splitWorld nestedSources []).cwd
        interleavedEntry.path = .ok (Utf8.encode nestedSources) ∧
      split interleavedEntry (Path.ofPlace [['w']]) (splitWorld nestedSources []) =
        .error (.file (.system .alreadyExists "/w/a"))
          (splitWorld nestedSources [([['w'], ['a']], .file (Utf8.encode "x\n"))]) := by
  refine ⟨emptyWorkdir_splitWorld _, fit_splitWorld, read_splitWorld _, ?_⟩
  have among : sectionsOf (splitWorld nestedSources []) interleavedEntry =
      [⟨"a", "x\n"⟩] ++ ⟨"a/b", "y\n"⟩ :: [] := by
    rw [sectionsOf_eq (read_splitWorld _)]
    decide +kernel
  have written : writeSections interleavedEntry (Path.ofPlace [['w']]) [⟨"a", "x\n"⟩]
      (splitWorld nestedSources []) = .ok () (splitWorld nestedSources
        [([['w'], ['a']], .file (Utf8.encode "x\n"))]) := by
    cbv
  exact split_of_error (emptyWorkdir_splitWorld _) ⟨⟨[], among⟩, written⟩ (by cbv)

end MarkerSplit
end Reimport
