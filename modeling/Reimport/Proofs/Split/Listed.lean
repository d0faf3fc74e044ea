import Reimport.Proofs.FileTree.Climbing
import Reimport.Proofs.Split.Confined
import Reimport.Proofs.Split.Encoding

/-!
# The paths that a split lists

A split lists its sources by the names they have in the entry, while a source is written to the
place that its name is resolved to.  The two go together as far as a listed path leads anywhere
(`Listed.same`).  But resolving passes over directories that are missing, and following a path
does not: past no link, a path can be opened iff every directory that it leaves again by `..` is
there (`Listed.opened`).  One without `..` always can (`split_listed`), and `l/../b` cannot if
no source makes `l` (`listed_unopened`).

Sources are put together by their place and listed by their spelling.  So every file is listed,
and each is listed once iff no two spellings go to one place (`split_listed_once`).  The names
`a` and `./a` are two spellings of one (`listed_twice`).
-/
namespace Reimport

namespace MarkerSplit

section Written
variable {world after : World} {root : Place} {entry : Entry} {sources : List Section}
  {source : Section}

/-- A section that is among those written was written at some time. -/
theorem written_of_mem (wellFormed : world.tree.WellFormed) (home : world.tree.Stands world.cwd)
    (h : writeSections entry (Path.ofPlace root) sources world = .ok () after)
    (hm : source ∈ sources) :
    ∃ middle next, FilesKept world middle ∧
      writeSection entry (Path.ofPlace root) source middle = .ok () next ∧
      FilesKept next after := by
  obtain ⟨earlier, later, rfl⟩ := List.append_of_mem hm
  rw [writeSections_append] at h
  obtain ⟨_, middle, he, h⟩ := bind_ok.1 h
  obtain ⟨_, next, hs, hl⟩ := bind_ok.1
    (show (writeSection entry (Path.ofPlace root) source >>= fun _ =>
      writeSections entry (Path.ofPlace root) later) middle = .ok () after from h)
  have kept := filesKept_of_ok wellFormed home he
  have step := maintains_writeSection (kept.home home) entry (Path.ofPlace root) source middle
    (.refl kept.wellFormed)
  rw [hs, reached_ok] at step
  exact ⟨middle, next, kept, hs, filesKept_of_ok step.wellFormed (step.home (kept.home home)) hl⟩

/-- **Every source that was written can be opened** by the path of its place. -/
theorem placeOf_of_mem (wellFormed : world.tree.WellFormed) (home : world.tree.Stands world.cwd)
    (inside : world.tree.ResolvesInside root source.name)
    (h : writeSections entry (Path.ofPlace root) sources world = .ok () after)
    (hm : source ∈ sources) :
    after.tree.placeOf world.cwd true
        (Path.ofPlace (world.tree.resolveName root source.name).place) =
      .ok (world.tree.resolveName root source.name).place := by
  obtain ⟨middle, next, kept, hs, later⟩ := written_of_mem wellFormed home h hm
  obtain ⟨place, made, tree, hp, below, hmade, hwrite, rfl⟩ := writeSection_cases hs
  obtain ⟨rfl, straight⟩ := kept.resolved inside hp below
  have way := (kept.keeps.isStraight straight)
  have grown := FileTree.grown_of_makePath (way.of_prefix (List.dropLast_prefix _)) hmade
  rw [kept.cwd] at hwrite
  exact later.keeps.placeOf (FileTree.placeOf_of_write (grown.isStraight way) hwrite)

end Written

section Names
variable {world : World} {workdir : Path} {root place : Place} {name : Text}

/-- The names of a path without `..` lead down. -/
theorem proper_of_noUp (noUp : Path.dotDot ∉ (Path.parse name).parts) :
    ∀ part ∈ (Path.parse name).parts, Path.IsProper part := fun _ hm =>
  ⟨fun he => Path.dot_not_mem_partsOf name (he ▸ hm), fun he => noUp (he ▸ hm)⟩

theorem canonicalPlace_of_goalOf (goal : goalOf world workdir name = some place) :
    world.tree.canonicalPlace world.cwd (workdir.under (Path.parse name)) = .ok place := by
  rw [goalOf, FileTree.sourcePlace?] at goal
  cases hp : world.tree.canonicalPlace world.cwd (workdir.under (Path.parse name)) with
  | error error =>
    rw [hp] at goal
    cases goal
  | ok other =>
    rw [hp] at goal
    exact congrArg Except.ok (Option.some.inj goal)

variable (workplace : EmptyWorkdir world workdir root)
include workplace

/-- In an empty working directory no circle of links matters. -/
theorem resolvesInside (name : Text) : world.tree.ResolvesInside root name := fun below =>
  workplace.filled.isStraight workplace below
    (FileTree.proper_resolveFrom (FileTree.stands_nil world.tree).proper
      (workplace.plain_under name))

/-- A name is resolved as its path is from the working directory. -/
theorem resolveName_eq {tree : FileTree} (keeps : world.tree.Keeps tree) (name : Text) :
    world.tree.resolveName root name =
      tree.resolveFrom tree.entries.length [] (FileTree.start root (Path.parse name))
        (Path.parse name).parts := by
  have direct := (keeps.stands workplace.stands).resolveFrom_under world.cwd (Path.parse name)
  rw [FileTree.start_under] at direct
  rw [FileTree.resolveName_congr fun other => (keeps.link other).symm]
  exact direct

theorem eq_resolveName (goal : goalOf world workdir name = some place) :
    place = (world.tree.resolveName root name).place := by
  have settled := (FileTree.canonicalPlace_eq_ok.1 (canonicalPlace_of_goalOf goal)).2
  rw [workplace.resolveFrom_under, ← resolveName_eq workplace (.refl _)] at settled
  exact FileTree.settle_eq_ok settled

/-- No link is in the working directory. -/
theorem unlinked_of_proper {names : List Name} (proper : ∀ name ∈ names, Path.IsProper name) :
    world.tree.Unlinked root names := by
  rintro before rest rfl
  rw [FileTree.climb_of_proper fun name hm => proper name (List.mem_append_left _ hm)]
  by_cases he : before = []
  · rw [he, List.append_nil, FileTree.linkTarget?, workplace.directory]
  · exact workplace.filled.unlinked _ ⟨List.prefix_append _ _, by simpa using he⟩

section Relative
variable (relative : (Path.parse name).isAbsolute = false)
  (noUp : Path.dotDot ∉ (Path.parse name).parts)
include relative noUp

theorem unlinked_of_relative :
    world.tree.Unlinked (FileTree.start root (Path.parse name)) (Path.parse name).parts := by
  rw [FileTree.start, relative, if_neg Bool.false_ne_true]
  exact unlinked_of_proper workplace (proper_of_noUp noUp)

/-- A relative name without `..` goes where it says. -/
theorem eq_of_relative (goal : goalOf world workdir name = some place) :
    place = root ++ (Path.parse name).parts := by
  rw [eq_resolveName workplace goal, resolveName_eq workplace (.refl _),
    FileTree.resolveFrom_of_unlinked (unlinked_of_relative workplace relative noUp),
    FileTree.climb_of_proper (proper_of_noUp noUp), FileTree.start, relative,
    if_neg Bool.false_ne_true]

end Relative

end Names

/-! ## Opening what is listed -/

/-- A source that is listed by `name`: the sections that go to its place are in the file there,
and that is the one file that the name can lead to when it is opened in the working directory. -/
structure Listed (world after : World) (workdir : Path) (root : Place)
    (pieces : List SourcePiece) (name : Text) (place : Place) : Prop where
  goal : goalOf world workdir name = some place
  below : Below root place
  file : after.tree.node? place =
    some (.file (contentFor (goalOf world workdir) place pieces))
  /-- Whatever file is opened is this one. -/
  same : ∀ other, after.tree.placeOf root true (Path.parse name) = .ok other → other = place
  /-- Past no link, the path can be opened iff it and its names are not too long and the
  directories that it leaves again by `..` are there. -/
  opened : world.tree.Unlinked (FileTree.start root (Path.parse name)) (Path.parse name).parts →
    (after.tree.placeOf root true (Path.parse name) = .ok place ↔
      after.tree.Passable root (Path.parse name))
  /-- A relative path without `..` can be opened. -/
  plain : (Path.parse name).isAbsolute = false → Path.dotDot ∉ (Path.parse name).parts →
    after.tree.placeOf root true (Path.parse name) = .ok place

section Opening
variable {world after : World} {workdir : Path} {root place : Place} {name : Text}
  {content : Bytes} (workplace : EmptyWorkdir world workdir root) (kept : FilesKept world after)
  (goal : goalOf world workdir name = some place)
include workplace kept goal

theorem eq_of_placeOf {other : Place}
    (h : after.tree.placeOf root true (Path.parse name) = .ok other) : other = place := by
  have resolved := FileTree.resolveFrom_of_placeOf (Path.dot_not_mem_partsOf name) h
  rw [← resolveName_eq workplace kept.keeps] at resolved
  rw [eq_resolveName workplace goal, resolved]

theorem placeOf_iff_passable (file : after.tree.node? place = some (.file content))
    (unlinked : world.tree.Unlinked (FileTree.start root (Path.parse name))
      (Path.parse name).parts) :
    after.tree.placeOf root true (Path.parse name) = .ok place ↔
      after.tree.Passable root (Path.parse name) := by
  have unlinked' : after.tree.Unlinked (FileTree.start root (Path.parse name))
      (Path.parse name).parts :=
    fun before rest he => (kept.keeps.link _).trans (unlinked before rest he)
  have nul : (Path.parse name).text.contains '\x00' = false := by
    have whole := (FileTree.canonicalPlace_eq_ok.1 (canonicalPlace_of_goalOf goal)).1
    rw [Path.under] at whole
    split at whole
    · exact whole
    · rw [Path.contains_nul_eq_false] at whole ⊢
      exact fun part hm => whole part (List.mem_append_right _ hm)
  refine FileTree.placeOf_iff_of_unlinked kept.wellFormed nul (Path.dot_not_mem_partsOf name)
    unlinked' ?_ file true
  rw [eq_resolveName workplace goal, resolveName_eq workplace kept.keeps,
    FileTree.resolveFrom_of_unlinked unlinked']

theorem placeOf_of_plain (file : after.tree.node? place = some (.file content))
    (below : Below root place)
    (opened : after.tree.placeOf world.cwd true (Path.ofPlace place) = .ok place)
    (relative : (Path.parse name).isAbsolute = false)
    (noUp : Path.dotDot ∉ (Path.parse name).parts) :
    after.tree.placeOf root true (Path.parse name) = .ok place := by
  have proper := proper_of_noUp noUp
  have at_place := eq_of_relative workplace relative noUp goal
  have straight : after.tree.IsStraight place := by
    refine kept.keeps.isStraight (workplace.filled.isStraight workplace below fun part hm => ?_)
    rw [at_place] at hm
    exact (List.mem_append.1 hm).elim (workplace.stands.proper part) (proper part)
  -- the path of the place is longer, and it could be opened
  have passable : after.tree.Passable world.cwd (Path.ofPlace place) := by
    refine (FileTree.placeOf_iff_of_unlinked kept.wellFormed (FileTree.placeOf_eq_ok opened).1
      (fun hm => (straight.proper _ hm).1 rfl) straight.unlinked_names ?_ file true).1 opened
    exact FileTree.climb_of_proper straight.proper
  have written : Path.parse name = ⟨.none, (Path.parse name).parts⟩ := by
    have unrooted : (Path.parse name).root = .none := by simpa [Path.isAbsolute] using relative
    rw [← unrooted]
  have ne : (Path.parse name).parts ≠ [] := by
    intro he
    rw [he, List.append_nil] at at_place
    exact below.2 at_place
  have shorter := Path.size_text_le root _ ne
  rw [← written, ← at_place] at shorter
  refine (placeOf_iff_passable workplace kept goal file
    (unlinked_of_relative workplace relative noUp)).2 ⟨shorter.trans_lt passable.length, fun part hm => passable.names part ?_,
      FileTree.turnsBack_of_proper proper⟩
  rw [at_place]
  exact List.mem_append_right _ hm

end Opening

section Splitting
variable {world after : World} {entry : Entry} {workdir : Path} {root : Place} {paths : List Path}

/-- An entry whose sources are listed is marked: its pieces are its sections, and they were
written. -/
theorem pieces_of_multiple (workplace : EmptyWorkdir world workdir root)
    (h : split entry workdir world = .ok (.multiple paths) after) :
    ∃ pieces, sectionsOf world entry = pieces.map SourcePiece.toSection ∧
      paths = (pieces.map SourcePiece.name).eraseDups.map Path.parse ∧
      Holds world.tree root (goalOf world workdir) pieces after.tree ∧
      writeSections entry (Path.ofPlace root) (pieces.map SourcePiece.toSection) world =
        .ok () after := by
  have asked := h
  rw [split] at asked
  obtain ⟨content, middle, ha, -⟩ := bind_ok.1 asked
  obtain ⟨readable, -⟩ := Act.ask_ok.1 ha
  cases hd : Utf8.decode content with
  | error fault =>
    rw [split_undecodable readable hd] at h
    cases h
  | ok text =>
    obtain rfl := Utf8.decode_eq_ok_iff.1 hd
    by_cases marked : Section.marker <+: text
    swap
    · rw [split_single readable marked] at h
      cases h
    have hs := SourcePiece.isSplit_ofLines marked
    obtain ⟨tree, holds, hresult, rfl⟩ := split_marked workplace readable marked h hs
    refine ⟨_, ?_, SplitResult.multiple.inj hresult, holds, ?_⟩
    · rw [sectionsOf_eq readable, SourcePiece.ofText?_of_isSplit marked hs]
      rfl
    · rw [split_eq_of_marked workplace readable marked hs] at h
      obtain ⟨_, middle, hw, hr⟩ := bind_ok.1 h
      cases hr
      exact hw

/-- **Listed sources can be opened** as far as the directories are there that their names leave
again by `..`, and whatever is opened is the file with their sections. -/
theorem split_listed (workplace : EmptyWorkdir world workdir root)
    (wellFormed : world.tree.WellFormed)
    (h : split entry workdir world = .ok (.multiple paths) after) :
    ∃ pieces, sectionsOf world entry = pieces.map SourcePiece.toSection ∧
      paths = (pieces.map SourcePiece.name).eraseDups.map Path.parse ∧
      ∀ piece ∈ pieces, ∃ place, Listed world after workdir root pieces piece.name place := by
  obtain ⟨pieces, sections, listed, holds, written⟩ := pieces_of_multiple workplace h
  have kept := filesKept_of_ok wellFormed workplace.home written
  refine ⟨pieces, sections, listed, fun piece hm => ?_⟩
  obtain ⟨place, goal, below⟩ := holds.inside piece hm
  have file := (holds.files place _ below).2 ⟨⟨piece, hm, goal⟩, rfl⟩
  -- the file could be opened when it was written, and what led to it was kept
  have opened := placeOf_of_mem wellFormed workplace.home (resolvesInside workplace _) written
    (List.mem_map_of_mem hm)
  rw [show (SourcePiece.toSection piece).name = piece.name from rfl,
    ← eq_resolveName workplace goal] at opened
  exact ⟨place, goal, below, file, fun other => eq_of_placeOf workplace kept goal,
    placeOf_iff_passable workplace kept goal file,
    placeOf_of_plain workplace kept goal file below opened⟩

end Splitting

/-- A world that holds an entry `/e`, the empty directory `/w`, and what was written to it. -/
def splitWorld (text : Text) (written : List (Place × Node)) : World :=
  ⟨⟨([['w']], .directory) :: ([['e']], .file (Utf8.encode text)) :: written⟩, [], [], []⟩

theorem emptyWorkdir_splitWorld (text : Text) :
    EmptyWorkdir (splitWorld text []) (Path.ofPlace [['w']]) [['w']] :=
  emptyWorkdir_beside (Utf8.encode text)

theorem wellFormed_splitWorld (text : Text) : (splitWorld text []).tree.WellFormed := by
  refine FileTree.wellFormed_of_entries fun entry hm => ?_
  simp only [splitWorld, List.mem_cons, List.not_mem_nil, or_false] at hm
  rcases hm with rfl | rfl <;> exact ⟨by simp [Path.IsProper], rfl⟩

theorem read_splitWorld (text : Text) :
    (splitWorld text []).tree.read (splitWorld text []).cwd interleavedEntry.path =
      .ok (Utf8.encode text) := by
  cbv

/-- In that world a split goes as the writing of the sections does. -/
theorem split_splitWorld {text : Text} {sources : List Section} {written : List (Place × Node)}
    (sections : Section.ofText? text = some sources)
    (h : writeSections interleavedEntry (Path.ofPlace [['w']]) sources (splitWorld text []) =
      .ok () (splitWorld text written)) :
    split interleavedEntry (Path.ofPlace [['w']]) (splitWorld text []) =
      .ok (.multiple ((sources.map Section.name).eraseDups.map Path.parse))
        (splitWorld text written) :=
  split_of_sections (read_splitWorld text) (emptyWorkdir_splitWorld text).canonical_workdir
    sections h

/-- The second source leaves again the directory that the first one has made. -/
def turningSources : Text := "==== Source: l/x ====\n==== Source: l/../b ====\nB\n"

/-- What these sources come to. -/
def turningFiles : List (Place × Node) :=
  [([['w'], ['l']], .directory), ([['w'], ['l'], ['x']], .file []),
    ([['w'], ['b']], .file (Utf8.encode "B\n"))]

theorem ofText?_turningSources :
    Section.ofText? turningSources = some [⟨"l/x", []⟩, ⟨"l/../b", "B\n"⟩] := by
  decide +kernel

theorem split_turningSources :
    split interleavedEntry (Path.ofPlace [['w']]) (splitWorld turningSources []) =
      .ok (.multiple [Path.parse "l/x", Path.parse "l/../b"])
        (splitWorld turningSources turningFiles) :=
  split_splitWorld ofText?_turningSources (by cbv)

theorem sectionsOf_turningSources :
    sectionsOf (splitWorld turningSources []) interleavedEntry =
      [⟨"l/x", []⟩, ⟨"l/../b", "B\n"⟩] := by
  rw [sectionsOf_eq (read_splitWorld _), ofText?_turningSources]
  rfl

theorem split_listed_turning :
    ∃ place, goalOf (splitWorld turningSources []) (Path.ofPlace [['w']]) "l/../b" = some place ∧
      (splitWorld turningSources turningFiles).tree.placeOf [['w']] true (Path.parse "l/../b") =
        .ok place := by
  obtain ⟨pieces, sections, -, listed⟩ := split_listed (emptyWorkdir_splitWorld _)
    (wellFormed_splitWorld _) split_turningSources
  rw [sectionsOf_turningSources] at sections
  have second : ⟨"l/../b", "B\n"⟩ ∈ pieces.map SourcePiece.toSection := by
    rw [← sections]
    exact List.mem_cons_of_mem _ List.mem_cons_self
  obtain ⟨piece, hm, hp⟩ := List.mem_map.1 second
  obtain ⟨place, source⟩ := listed piece hm
  rw [show piece.name = "l/../b" from congrArg Section.name hp] at source
  have unlinked : ∀ place, (splitWorld turningSources []).tree.linkTarget? place = none :=
    FileTree.unlinked_of_entries (by simp [splitWorld])
  have made : (splitWorld turningSources turningFiles).tree.TurnsBack [['w']]
      [['l'], ['.', '.'], ['b']] :=
    FileTree.turnsBack_cons.2 ⟨by decide, FileTree.turnsBack_cons.2 ⟨fun _ => by cbv,
      FileTree.turnsBack_cons.2 ⟨by decide, FileTree.turnsBack_nil⟩⟩⟩
  exact ⟨place, source.goal, (source.opened fun _ _ _ => unlinked _).2
    ⟨by decide, by decide, made⟩⟩

/-- A source whose name leaves a directory that nothing makes. -/
def strayingSource : Text := "==== Source: l/../b ====\nB\n"

/-- **A listed source need not be found**: it was written to `/w/b`, and `l/../b` leads through
`/w/l`, which is missing. -/
theorem listed_unopened :
    EmptyWorkdir (splitWorld strayingSource []) (Path.ofPlace [['w']]) [['w']] ∧
      (splitWorld strayingSource []).tree.WellFormed ∧
      ∃ after,
        split interleavedEntry (Path.ofPlace [['w']]) (splitWorld strayingSource []) =
          .ok (.multiple [Path.parse "l/../b"]) after ∧
        after.tree.node? [['w'], ['b']] = some (.file (Utf8.encode "B\n")) ∧
        after.tree.placeOf [['w']] true (Path.parse "l/../b") =
          .error (.system .noEntry "l/../b") := by
  have sections : Section.ofText? strayingSource = some [⟨"l/../b", "B\n"⟩] := by
    decide +kernel
  have written : writeSections interleavedEntry (Path.ofPlace [['w']]) [⟨"l/../b", "B\n"⟩]
      (splitWorld strayingSource []) =
        .ok () (splitWorld strayingSource [([['w'], ['b']], .file (Utf8.encode "B\n"))]) := by
    cbv
  have whole := split_splitWorld sections written
  exact ⟨emptyWorkdir_splitWorld _, wellFormed_splitWorld _, _, whole, by cbv, by cbv⟩

/-! ## Listed once -/

/-- The place for which a listed path stands. -/
def placeFor (world : World) (workdir path : Path) : Option Place :=
  (world.tree.canonicalPlace world.cwd (workdir.under path)).toOption

/-- How often the files are listed. -/
structure ListedOnce (world after : World) (workdir : Path) (root : Place)
    (sources : List Section) (paths : List Path) : Prop where
  /-- What is listed are the files. -/
  listed : ∀ place, Below root place →
    ((∃ content, after.tree.node? place = some (.file content)) ↔
      ∃ path ∈ paths, placeFor world workdir path = some place)
  inside : ∀ path ∈ paths, ∃ place, placeFor world workdir path = some place ∧ Below root place
  /-- A file is listed once for every spelling of its name. -/
  times : ∀ place, (paths.map (placeFor world workdir)).count (some place) =
    ((sources.map Section.name).eraseDups.filter
      fun name => goalOf world workdir name = some place).length
  /-- No two paths stand for one file iff no two spellings go to one place. -/
  distinct : (paths.map (placeFor world workdir)).Nodup ↔
    ∀ first ∈ sources, ∀ second ∈ sources,
      goalOf world workdir first.name = goalOf world workdir second.name →
        first.name = second.name
  /-- It is so if the names are plain. -/
  plain : (∀ source ∈ sources, Section.IsPlainName source.name) →
    (paths.map (placeFor world workdir)).Nodup

theorem nodup_eraseDups (names : List Text) : names.eraseDups.Nodup := by
  cases names with
  | nil => exact List.nodup_nil
  | cons name rest =>
    rw [List.eraseDups_cons, List.nodup_cons]
    exact ⟨by simp, nodup_eraseDups _⟩
termination_by names.length
decreasing_by exact Nat.lt_succ_of_le (List.length_filter_le _ _)

/-- Plain names that go to one place are the same. -/
theorem eq_of_goalOf_eq {world : World} {workdir : Path} {root place : Place} {first second : Text}
    (workplace : EmptyWorkdir world workdir root) (plain : Section.IsPlainName first)
    (plain' : Section.IsPlainName second) (goal : goalOf world workdir first = some place)
    (goal' : goalOf world workdir second = some place) : first = second := by
  have goes : ∀ name, Section.IsPlainName name → goalOf world workdir name = some place →
      place = root ++ Text.splitAt '/' name := by
    intro name plain goal
    have parsed := plain.parse_eq
    have at_place := eq_of_relative workplace (by rw [parsed]; rfl) (fun hm => ?_) goal
    · rwa [parsed] at at_place
    · rw [parsed] at hm
      exact (plain.normal _ hm).2.2 rfl
  have parts : Text.splitAt '/' first = Text.splitAt '/' second :=
    List.append_cancel_left ((goes first plain goal).symm.trans (goes second plain' goal'))
  rw [← Text.intercalate_splitAt '/' first, parts, Text.intercalate_splitAt]

theorem mem_listed {pieces : List SourcePiece} {path : Path} :
    path ∈ (pieces.map SourcePiece.name).eraseDups.map Path.parse ↔
      ∃ piece ∈ pieces, path = Path.parse piece.name := by
  simp only [List.mem_map, List.mem_eraseDups]
  constructor
  · rintro ⟨_, ⟨piece, hm, rfl⟩, rfl⟩
    exact ⟨piece, hm, rfl⟩
  · rintro ⟨piece, hm, rfl⟩
    exact ⟨_, ⟨piece, hm, rfl⟩, rfl⟩

/-- **Every file is listed, once for every spelling of its name.** -/
theorem split_listed_once {world after : World} {entry : Entry} {workdir : Path} {root : Place}
    {paths : List Path} (workplace : EmptyWorkdir world workdir root)
    (h : split entry workdir world = .ok (.multiple paths) after) :
    ListedOnce world after workdir root (sectionsOf world entry) paths := by
  obtain ⟨pieces, sections, rfl, holds, -⟩ := pieces_of_multiple workplace h
  have names : (sectionsOf world entry).map Section.name = pieces.map SourcePiece.name := by
    rw [sections, List.map_map]
    rfl
  -- a path stands for the place to which the name goes that it was read from
  have places : (((pieces.map SourcePiece.name).eraseDups.map Path.parse).map
      (placeFor world workdir)) =
        (pieces.map SourcePiece.name).eraseDups.map (goalOf world workdir) := by
    rw [List.map_map]
    rfl
  have distinct : (((pieces.map SourcePiece.name).eraseDups.map Path.parse).map
      (placeFor world workdir)).Nodup ↔
        ∀ first ∈ sectionsOf world entry, ∀ second ∈ sectionsOf world entry,
          goalOf world workdir first.name = goalOf world workdir second.name →
            first.name = second.name := by
    rw [places, List.nodup_map_iff_inj_on (nodup_eraseDups _), ← names]
    simp only [List.mem_eraseDups, List.forall_mem_map]
  refine ⟨fun place below => ⟨?_, ?_⟩, fun path hm => ?_, fun place => ?_, distinct,
    fun plain => ?_⟩
  · rintro ⟨content, hn⟩
    obtain ⟨piece, hm, goal⟩ := ((holds.files place content below).1 hn).1
    exact ⟨_, mem_listed.2 ⟨piece, hm, rfl⟩, goal⟩
  · rintro ⟨path, hm, goal⟩
    obtain ⟨piece, hp, rfl⟩ := mem_listed.1 hm
    exact ⟨_, (holds.files place _ below).2 ⟨⟨piece, hp, goal⟩, rfl⟩⟩
  · obtain ⟨piece, hp, rfl⟩ := mem_listed.1 hm
    exact holds.inside piece hp
  · rw [places, names, List.count, List.countP_map, List.countP_eq_length_filter]
    exact congrArg List.length (List.filter_congr fun name _ =>
      Bool.eq_iff_iff.2 (beq_iff_eq.trans decide_eq_true_iff.symm))
  · refine distinct.2 fun first hf second hs same => ?_
    obtain ⟨place, goal, -⟩ : ∃ place, goalOf world workdir first.name = some place ∧
        Below root place := by
      rw [sections] at hf
      obtain ⟨piece, hm, rfl⟩ := List.mem_map.1 hf
      exact holds.inside piece hm
    exact eq_of_goalOf_eq workplace (plain first hf) (plain second hs) goal (same ▸ goal)

theorem split_listed_once_turning :
    (([Path.parse "l/x", Path.parse "l/../b"] : List Path).map
      (placeFor (splitWorld turningSources []) (Path.ofPlace [['w']]))).Nodup := by
  have once := split_listed_once (emptyWorkdir_splitWorld _) split_turningSources
  have first : goalOf (splitWorld turningSources []) (Path.ofPlace [['w']]) "l/x" =
      some [['w'], ['l'], ['x']] := by
    cbv
  have second : goalOf (splitWorld turningSources []) (Path.ofPlace [['w']]) "l/../b" =
      some [['w'], ['b']] := by
    cbv
  refine once.distinct.2 ?_
  rw [sectionsOf_turningSources]
  intro source hs other ho same
  simp only [List.mem_cons, List.not_mem_nil, or_false] at hs ho
  rcases hs with rfl | rfl <;> rcases ho with rfl | rfl
  · rfl
  · rw [first, second] at same
    simp at same
  · rw [first, second] at same
    simp at same
  · rfl

/-- Two sources whose names are spelled differently. -/
def respelledSources : Text := "==== Source: a ====\nx\n==== Source: ./a ====\ny\n"

/-- **One file can be listed twice**: `a` and `./a` are read as the same path. -/
theorem listed_twice :
    EmptyWorkdir (splitWorld respelledSources []) (Path.ofPlace [['w']]) [['w']] ∧
      ∃ after,
        split interleavedEntry (Path.ofPlace [['w']]) (splitWorld respelledSources []) =
          .ok (.multiple [Path.parse "a", Path.parse "./a"]) after ∧
        Path.parse "a" = Path.parse "./a" ∧
        after.tree.node? [['w'], ['a']] = some (.file (Utf8.encode "x\ny\n")) := by
  have sections : Section.ofText? respelledSources = some [⟨"a", "x\n"⟩, ⟨"./a", "y\n"⟩] := by
    decide +kernel
  have written : writeSections interleavedEntry (Path.ofPlace [['w']])
      [⟨"a", "x\n"⟩, ⟨"./a", "y\n"⟩] (splitWorld respelledSources []) =
        .ok () (splitWorld respelledSources
          [([['w'], ['a']], .file (Utf8.encode "x\ny\n"))]) := by
    cbv
  have whole := split_splitWorld sections written
  exact ⟨emptyWorkdir_splitWorld _, _, whole, by decide, by cbv⟩

end MarkerSplit
end Reimport
