import Mathlib
import Reimport.Proofs.Results
import Reimport.Proofs.Split.SourcePiece
import Reimport.Proofs.Split.Target
import Reimport.Split.Marker

/-!
# Splitting by markers loses, alters and misplaces nothing

A marked entry that is split without a failure is cut into its pieces, and what is
then in the working directory is told by the pieces alone: which files there are and
which bytes each of them holds (`Holds`).  Writing one section keeps this for one
piece more (`Holds.step`), so it holds of all of them at the end (`Holds.run`).  An
entry that is not marked, and one that is no UTF-8, leave the world as it was.
-/
namespace Reimport

namespace MarkerSplit

/-- The sources that go to a place, one after the other. -/
def contentFor (goal : Text → Option Place) (place : Place) (pieces : List SourcePiece) : Bytes :=
  (pieces.filter fun piece => goal piece.name = some place).flatMap fun piece =>
    Utf8.encode piece.source

/-- The tree after some pieces were written: every piece goes to a place properly below
`root`; the files there are the places to which a piece goes, each with the sources
that go there; and nothing else but directories has come to be. -/
structure Holds (before : FileTree) (root : Place) (goal : Text → Option Place)
    (pieces : List SourcePiece) (tree : FileTree) : Prop where
  inside : ∀ piece ∈ pieces, ∃ place, goal piece.name = some place ∧ Below root place
  files : ∀ place content, Below root place →
    (tree.node? place = some (.file content) ↔
      (∃ piece ∈ pieces, goal piece.name = some place) ∧ content = contentFor goal place pieces)
  filled : before.Filled root tree

theorem below_iff {root place : Place} :
    ((Path.ofPlace root).parts.isPrefixOf (Path.ofPlace place).parts &&
      decide (Path.ofPlace root ≠ Path.ofPlace place)) = true ↔ Below root place := by
  rw [Bool.and_eq_true, decide_eq_true_eq, List.isPrefixOf_iff_prefix]
  refine and_congr Iff.rfl ⟨fun h he => h (by rw [he]), fun h he => h ?_⟩
  exact (congrArg Path.parts he).symm

/-- The test that a section has to stand before it is written. -/
theorem guard_iff {name : Text} {root place : Place} :
    (decide (name = []) || !((Path.ofPlace root).parts.isPrefixOf (Path.ofPlace place).parts &&
      decide (Path.ofPlace root ≠ Path.ofPlace place))) = true ↔ name = [] ∨ ¬ Below root place := by
  rw [Bool.or_eq_true, decide_eq_true_eq, Bool.not_eq_true', ← Bool.not_eq_true, below_iff]

theorem writeSection_cases {entry : Entry} {root : Place} {source : Section}
    {world after : World} (h : writeSection entry (Path.ofPlace root) source world = .ok () after) :
    ∃ place made tree,
      world.tree.canonicalPlace world.cwd ((Path.ofPlace root).under (Path.parse source.name)) =
        .ok place ∧ Below root place ∧
      FileTree.makePath world.cwd (Path.ofPlace place.dropLast) world.tree = .ok () made ∧
      FileTree.write world.cwd .append (Path.ofPlace place) (Utf8.encode source.body) made =
        .ok () tree ∧
      after = { world with tree := tree } := by
  rw [writeSection] at h
  obtain ⟨target, middle, ha, h⟩ := bind_ok.1 h
  obtain ⟨hc, rfl⟩ := Act.ask_ok.1 ha
  obtain ⟨place, hp, rfl⟩ := FileTree.canonical_eq_ok hc
  split at h
  · exact nomatch h
  rename_i guard
  obtain ⟨_, middle', hm, hw⟩ := bind_ok.1 h
  obtain ⟨made, hmade, rfl⟩ := Act.change_ok.1 hm
  obtain ⟨tree, hwrite, rfl⟩ := Act.change_ok.1 hw
  refine ⟨place, made, tree, hp, below_iff.1 ?_, hmade, hwrite, rfl⟩
  rw [Bool.or_eq_true, not_or, Bool.not_eq_true', Bool.not_eq_false] at guard
  exact guard.2

theorem contentFor_concat (goal : Text → Option Place) (place : Place) (done : List SourcePiece)
    (piece : SourcePiece) :
    contentFor goal place (done ++ [piece]) =
      contentFor goal place done ++
        if goal piece.name = some place then Utf8.encode piece.source else [] := by
  rw [contentFor, contentFor, List.filter_append, List.flatMap_append]
  by_cases h : goal piece.name = some place <;> simp [h]

section Writing
variable {world : World} {workdir : Path} {root : Place} {goal : Text → Option Place}

theorem holds_nil (workplace : EmptyWorkdir world workdir root) (goal : Text → Option Place) :
    Holds world.tree root goal [] world.tree := by
  refine ⟨fun _ hm => (nomatch hm), fun place content hb => ?_, workplace.filled⟩
  rw [workplace.nothing place hb]
  simp

/-- Nothing is at a place yet to which no piece goes so far. -/
theorem Holds.contentFor_eq_nil {done : List SourcePiece} {tree : FileTree} {place : Place}
    (holds : Holds world.tree root goal done tree) (hb : Below root place)
    (hn : tree.node? place = none) : contentFor goal place done = [] := by
  have nobody : ∀ piece ∈ done, ¬ goal piece.name = some place := by
    intro piece hm hg
    have := (holds.files place (contentFor goal place done) hb).2 ⟨⟨piece, hm, hg⟩, rfl⟩
    rw [hn] at this
    cases this
  rw [contentFor, List.filter_eq_nil_iff.2 (by simpa using nobody), List.flatMap_nil]

/-- What one more piece adds: directories on the way to its place, and the file there. -/
theorem Holds.put {done : List SourcePiece} {piece : SourcePiece} {place : Place}
    {tree made : FileTree}
    (workplace : EmptyWorkdir world workdir root)
    (holds : Holds world.tree root goal done tree) (hg : goal piece.name = some place)
    (hb : Below root place) (grown : tree.Grown made place.dropLast) :
    Holds world.tree root goal (done ++ [piece])
      (made.put place (.file (contentFor goal place (done ++ [piece])))) := by
  refine ⟨fun other hm => ?_, fun other content ho => ?_, fun other ho => ?_, fun other ho => ?_⟩
  · rcases List.mem_append.1 hm with hm | hm
    · exact holds.inside other hm
    · rw [List.mem_singleton.1 hm]
      exact ⟨place, hg, hb⟩
  -- Only the file at the place of the piece is another one than before.
  · rw [FileTree.node?_put _ hb.ne_nil]
    by_cases he : other = place
    · subst he
      rw [if_pos rfl]
      simp [hg, eq_comm]
    have elsewhere : ¬ goal piece.name = some other := by
      rw [hg]
      exact fun h => he (Option.some.inj h).symm
    have before := holds.files other content ho
    rw [if_neg he, contentFor_concat, if_neg elsewhere, List.append_nil]
    have same : (∃ p ∈ done ++ [piece], goal p.name = some other) ↔
        ∃ p ∈ done, goal p.name = some other := by
      simp [elsewhere]
    rw [same, ← before]
    rcases grown other with hs | ⟨hn, hd, -⟩
    · rw [hs]
    · rw [hn, hd]
      simp
  · have ne : other ≠ place := fun he => ho (he ▸ hb)
    rw [FileTree.node?_put _ hb.ne_nil, if_neg ne]
    rcases grown other with hs | ⟨hn, -, hp⟩
    · rw [hs, holds.filled.outside other ho]
    · -- no directory is missing on the way to the working directory
      have above := hb.above (hp.trans (List.dropLast_prefix place)) ho
      rw [holds.filled.outside other ho, workplace.stands.directory other above] at hn
      cases hn
  · by_cases he : other = place
    · rw [FileTree.linkTarget?, FileTree.node?_put _ hb.ne_nil, if_pos he]
    · have same : (made.put place (.file (contentFor goal place (done ++ [piece])))).node? other =
          made.node? other := by
        rw [FileTree.node?_put _ hb.ne_nil, if_neg he]
      rw [FileTree.linkTarget?_of_node? same, grown.linkTarget?, holds.filled.unlinked other ho]

/-- The place to which the source called `name` goes. -/
abbrev goalOf (world : World) (workdir : Path) (name : Text) : Option Place :=
  world.tree.sourcePlace? world.cwd workdir name

/-- **Writing one more section.** -/
theorem Holds.step {entry : Entry} {piece : SourcePiece} {done : List SourcePiece}
    {current after : World}
    (workplace : EmptyWorkdir world workdir root) (same : current.cwd = world.cwd)
    (holds : Holds world.tree root (goalOf world workdir) done current.tree)
    (h : writeSection entry (Path.ofPlace root) piece.toSection current = .ok () after) :
    ∃ tree, after = { current with tree := tree } ∧
      Holds world.tree root (goalOf world workdir) (done ++ [piece]) tree := by
  obtain ⟨place, made, tree, hp, hb, hmade, hwrite, rfl⟩ := writeSection_cases h
  rw [same] at hp
  obtain ⟨hfirst, proper⟩ :=
    holds.filled.canonicalPlace_eq workplace (workplace.plain_under _) hp hb
  have hg : goalOf world workdir piece.name = some place := workplace.sourcePlace?_eq hfirst
  have straight := holds.filled.isStraight workplace hb proper
  have grown := FileTree.grown_of_makePath
    (straight.of_prefix (List.dropLast_prefix place)) hmade
  -- The directories that were made lie above the place.
  have unmade : made.node? place = current.tree.node? place := by
    rcases grown place with hs | ⟨-, -, hp⟩
    · exact hs
    · have := hp.length_le
      have := List.length_pos_iff.2 hb.ne_nil
      rw [List.length_dropLast] at *
      omega
  refine ⟨tree, rfl, ?_⟩
  have written := holds.put workplace hg hb grown
  rw [contentFor_concat, if_pos hg] at written
  obtain ⟨place', hplace, hcases⟩ := FileTree.write_cases hwrite
  rw [FileTree.placeOf_of_isStraight (grown.isStraight straight) hplace, unmade] at hcases
  -- The source goes to the end of a file that earlier pieces have filled, or into a new one.
  rcases hcases with ⟨old, hold, rfl⟩ | ⟨hn, rfl⟩
  · rw [((holds.files place old hb).1 hold).2]
    exact written
  · rw [holds.contentFor_eq_nil hb hn, List.nil_append] at written
    exact written

/-- **Writing all sections**, by induction on those still to be written. -/
theorem Holds.run {entry : Entry} {pieces done : List SourcePiece} {current after : World}
    (workplace : EmptyWorkdir world workdir root) (same : current.cwd = world.cwd)
    (holds : Holds world.tree root (goalOf world workdir) done current.tree)
    (h : writeSections entry (Path.ofPlace root) (pieces.map SourcePiece.toSection) current =
      .ok () after) :
    ∃ tree, after = { current with tree := tree } ∧
      Holds world.tree root (goalOf world workdir) (done ++ pieces) tree := by
  induction pieces generalizing done current with
  | nil =>
    cases h
    exact ⟨_, rfl, by rwa [List.append_nil]⟩
  | cons piece rest ih =>
    have both : (writeSection entry (Path.ofPlace root) piece.toSection >>= fun _ =>
        writeSections entry (Path.ofPlace root) (rest.map SourcePiece.toSection)) current =
        .ok () after := h
    obtain ⟨_, middle, hs, hr⟩ := bind_ok.1 both
    obtain ⟨tree, rfl, now⟩ := holds.step workplace same hs
    have same' : ({ current with tree := tree } : World).cwd = world.cwd := same
    obtain ⟨final, rfl, all⟩ := ih same' now hr
    rw [List.append_assoc] at all
    exact ⟨final, rfl, all⟩

end Writing

/-- The bytes of a piece as they stand in the entry. -/
def bytesOf (piece : SourcePiece) : Bytes := Utf8.encode piece.head ++ Utf8.encode piece.source

theorem encode_of_isSplit {text : Text} {pieces : List SourcePiece}
    (h : SourcePiece.IsSplit text pieces) :
    Utf8.encode text = pieces.flatMap bytesOf := by
  rw [← h.cut.joined]
  clear h
  induction pieces with
  | nil => rfl
  | cons piece rest ih =>
    rw [List.flatMap_cons, List.flatten_append, Utf8.encode_append, ih, List.flatMap_cons, bytesOf,
      ← Utf8.encode_append]
    rfl

section Cases
variable {world after : World} {entry : Entry} {workdir : Path} {root : Place} {content : Bytes}
  {text : Text} {result : SplitResult}

theorem split_undecodable {fault : Utf8.Fault}
    (readable : world.tree.read world.cwd entry.path = .ok content)
    (hd : Utf8.decode content = .error fault) :
    split entry workdir world = .ok (undecodable entry fault) world := by
  rw [split, bind_of_ok (Act.ask_ok.2 ⟨readable, rfl⟩), hd]
  rfl

theorem split_single (readable : world.tree.read world.cwd entry.path = .ok (Utf8.encode text))
    (unmarked : ¬ Section.marker <+: text) :
    split entry workdir world = .ok (.single entry.path) world := by
  rw [split, bind_of_ok (Act.ask_ok.2 ⟨readable, rfl⟩), Utf8.decode_encode]
  dsimp only
  rw [SourcePiece.ofText?_eq_none unmarked]
  rfl

/-- A marked entry is split by writing its sections. -/
theorem split_eq_of_marked (workplace : EmptyWorkdir world workdir root)
    (readable : world.tree.read world.cwd entry.path = .ok (Utf8.encode text))
    (marked : Section.marker <+: text) {pieces : List SourcePiece}
    (hs : SourcePiece.IsSplit text pieces) :
    split entry workdir world =
      (writeSections entry (Path.ofPlace root) (pieces.map SourcePiece.toSection) >>= fun _ =>
        pure (.multiple ((pieces.map SourcePiece.name).eraseDups.map Path.parse))) world := by
  rw [split, bind_of_ok (Act.ask_ok.2 ⟨readable, rfl⟩), Utf8.decode_encode]
  dsimp only
  rw [SourcePiece.ofText?_of_isSplit marked hs]
  dsimp only
  rw [bind_of_ok (Act.ask_ok.2 ⟨workplace.canonical_workdir, rfl⟩), List.map_map]
  rfl

theorem split_marked (workplace : EmptyWorkdir world workdir root)
    (readable : world.tree.read world.cwd entry.path = .ok (Utf8.encode text))
    (marked : Section.marker <+: text) (h : split entry workdir world = .ok result after)
    {pieces : List SourcePiece} (hs : SourcePiece.IsSplit text pieces) :
    ∃ tree, Holds world.tree root (goalOf world workdir) pieces tree ∧
      result = .multiple ((pieces.map SourcePiece.name).eraseDups.map Path.parse) ∧
      after = { world with tree := tree } := by
  rw [split_eq_of_marked workplace readable marked hs] at h
  obtain ⟨_, middle, hw, hr⟩ := bind_ok.1 h
  obtain ⟨tree, rfl, holds⟩ := (holds_nil workplace _).run workplace rfl hw
  cases hr
  rw [List.nil_append] at holds
  exact ⟨tree, holds, rfl, rfl⟩

end Cases

/-- **Splitting by markers loses, alters and misplaces nothing.** -/
theorem split_faithful {world : World} {entry : Entry} {workdir : Path} {root : Place}
    {content : Bytes} (workplace : EmptyWorkdir world workdir root)
    (readable : world.tree.read world.cwd entry.path = .ok content) :
    (∀ text result after, content = Utf8.encode text → Section.marker <+: text →
      split entry workdir world = .ok result after →
      ∃ pieces tree, SourcePiece.IsSplit text pieces ∧
        (∀ other, SourcePiece.IsSplit text other → other = pieces) ∧
        content = pieces.flatMap bytesOf ∧
        Holds world.tree root (goalOf world workdir) pieces tree ∧
        result = .multiple ((pieces.map SourcePiece.name).eraseDups.map Path.parse) ∧
        after = { world with tree := tree }) ∧
    (∀ text, content = Utf8.encode text → ¬ Section.marker <+: text →
      split entry workdir world = .ok (.single entry.path) world) ∧
    ((¬ ∃ text, content = Utf8.encode text) →
      ∃ fault, Utf8.decode content = .error fault ∧
        split entry workdir world = .ok (undecodable entry fault) world) := by
  refine ⟨?_, ?_, ?_⟩
  · rintro text result after rfl marked h
    have hs := SourcePiece.isSplit_ofLines marked
    obtain ⟨tree, holds, hresult, hafter⟩ := split_marked workplace readable marked h hs
    refine ⟨_, tree, hs, ?_, encode_of_isSplit hs, holds, hresult, hafter⟩
    intro other ho
    exact (SourcePiece.isSplit_iff marked).1 ho
  · rintro text rfl unmarked
    exact split_single readable unmarked
  · intro invalid
    cases hd : Utf8.decode content with
    | ok text => exact absurd ⟨text, Utf8.decode_eq_ok_iff.1 hd⟩ invalid
    | error fault => exact ⟨fault, rfl, split_undecodable readable hd⟩

/-- An entry in which one source comes in two parts, with another one between them. -/
def interleaved : Text :=
  "==== Source: a ====\nx\n==== Source: b/c ====\ny\r\n==== Source: a ====\nz"

/-- A world that holds the entry `/e` and the empty directory `/w`. -/
def interleavedWorld : World :=
  ⟨⟨[([['w']], .directory), ([['e']], .file (Utf8.encode interleaved))]⟩, [], [], []⟩

/-- In a world that holds nothing but a file `/e` and a directory `/w`, a split can work
in `/w`. -/
theorem emptyWorkdir_beside (content : Bytes) :
    EmptyWorkdir ⟨⟨[([['w']], .directory), ([['e']], .file content)]⟩, [], [], []⟩
      (Path.ofPlace [['w']]) [['w']] := by
  refine ⟨FileTree.stands_nil _, by decide, by cbv, rfl, fun place hb => ?_⟩
  have hw : place ≠ [['w']] := hb.2
  have he : place ≠ [['e']] := by
    rintro rfl
    exact absurd hb.1 (by decide)
  rw [FileTree.node?, if_neg hb.ne_nil, FileTree.lookup_cons_eq, if_neg hw,
    FileTree.lookup_cons_eq, if_neg he]
  rfl

theorem emptyWorkdir_interleaved :
    EmptyWorkdir interleavedWorld (Path.ofPlace [['w']]) [['w']] :=
  emptyWorkdir_beside (Utf8.encode interleaved)

/-- The entry of that world. -/
def interleavedEntry : Entry := ⟨Path.ofPlace [['e']]⟩

theorem split_faithful_interleaved :
    ∃ result after,
      split interleavedEntry (Path.ofPlace [['w']]) interleavedWorld = .ok result after ∧
      ∃ pieces tree, SourcePiece.IsSplit interleaved pieces ∧
        (∀ other, SourcePiece.IsSplit interleaved other → other = pieces) ∧
        Utf8.encode interleaved = pieces.flatMap bytesOf ∧
        Holds interleavedWorld.tree [['w']]
          (goalOf interleavedWorld (Path.ofPlace [['w']])) pieces tree ∧
        result = .multiple ((pieces.map SourcePiece.name).eraseDups.map Path.parse) ∧
        after = { interleavedWorld with tree := tree } := by
  have readable : interleavedWorld.tree.read interleavedWorld.cwd interleavedEntry.path =
      .ok (Utf8.encode interleaved) := by
    cbv
  have marked : Section.marker <+: interleaved := by decide
  have sections : (SourcePiece.ofLines (Text.lines interleaved)).map SourcePiece.toSection =
      [⟨['a'], ['x', '\n']⟩, ⟨['b', '/', 'c'], ['y', '\r', '\n']⟩, ⟨['a'], ['z']⟩] := by
    decide +kernel
  have written : writeSections interleavedEntry (Path.ofPlace [['w']])
      [⟨['a'], ['x', '\n']⟩, ⟨['b', '/', 'c'], ['y', '\r', '\n']⟩, ⟨['a'], ['z']⟩]
      interleavedWorld =
      .ok () { interleavedWorld with tree := ⟨interleavedWorld.tree.entries ++
        [([['w'], ['a']], .file [120, 10, 122]), ([['w'], ['b']], .directory),
          ([['w'], ['b'], ['c']], .file [121, 13, 10])]⟩ } := by
    cbv
  rw [← sections] at written
  have hs := (split_eq_of_marked emptyWorkdir_interleaved readable marked
    (SourcePiece.isSplit_ofLines marked)).trans (bind_of_ok written)
  refine ⟨_, _, hs, ?_⟩
  exact (split_faithful emptyWorkdir_interleaved readable).1 interleaved _ _ rfl marked hs

end MarkerSplit
end Reimport
