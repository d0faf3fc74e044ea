import Reimport.Proofs.FileTree.Making
import Reimport.Proofs.Split.Faithful
import Reimport.Proofs.Text.LineCut

/-!
# Splitting undoes writing

A corpus file of several sources is written section by section, each under a marker
line that ends in a line feed or in a carriage return and a line feed.  If the names
are different paths in normal form, none of them the directory of another, and no body
can be taken for more than a body (`Encodable`), the text is cut where it was put
together (`isSplit_corpusText`), every section finds its place free and its directories
in place or missing (`Laid.next`), and the split gives back the names in order and, in
the working directory, exactly the bodies under their names (`split_corpusText`).
-/
namespace Reimport

/-! ## Blanks around a text -/

namespace Text

theorem dropRightWhile_append {drop : Char → Bool} {after : Text} (h : ∀ c ∈ after, drop c = true)
    (text : Text) : dropRightWhile drop (text ++ after) = dropRightWhile drop text := by
  rw [dropRightWhile, List.reverse_append, List.dropWhile_append_of_pos, dropRightWhile]
  exact fun c hc => h c (List.mem_reverse.1 hc)

theorem dropRightWhile_concat {drop : Char → Bool} {c : Char} (h : drop c = false) (text : Text) :
    dropRightWhile drop (text ++ [c]) = text ++ [c] := by
  rw [dropRightWhile, List.reverse_append, List.reverse_singleton, List.singleton_append,
    List.dropWhile_cons_of_neg (by simp [h]), List.reverse_cons, List.reverse_reverse]

theorem length_dropRightWhile_le (drop : Char → Bool) (text : Text) :
    (dropRightWhile drop text).length ≤ text.length := by
  rw [dropRightWhile, List.length_reverse]
  exact (List.dropWhile_sublist drop).length_le.trans_eq List.length_reverse

/-- A text that has no blanks to strip has none at either end. -/
theorem ends_of_strip {text : Text} (h : strip text = text) :
    text.dropWhile isBlank = text ∧ stripRight text = text := by
  have first : text.dropWhile isBlank = text := by
    refine (List.dropWhile_suffix isBlank).eq_of_length_le ?_
    have := length_dropRightWhile_le isBlank (text.dropWhile isBlank)
    rw [strip, stripRight] at h
    rwa [h] at this
  rw [strip, first] at h
  exact ⟨first, h⟩

end Text

/-! ## Corpus files of several sources -/

/-- How a marker line ends. -/
inductive LineEnd where
  /-- In a line feed. -/
  | feed
  /-- In a carriage return and a line feed. -/
  | returnFeed
  deriving DecidableEq, Repr

/-- What stands before the line feed. -/
def LineEnd.before : LineEnd → Text
  | .feed => []
  | .returnFeed => ['\r']

/-- The characters that end the line. -/
def LineEnd.text (ending : LineEnd) : Text := ending.before ++ ['\n']

namespace Section

/-- The line that begins a section. -/
def markerLine (name : Text) (ending : LineEnd) : Text :=
  .join [marker, " ", name, " ", markerEnd, ending.text]

/-- A section as a corpus file has it, whose marker line ends as given. -/
def writtenWith (source : Section) (ending : LineEnd) : Text :=
  markerLine source.name ending ++ source.body

/-- A marker line that ends with a line feed alone is the usual one. -/
theorem writtenWith_feed (source : Section) : source.writtenWith .feed = source.written := by
  simp [writtenWith, markerLine, written, LineEnd.text, LineEnd.before]

/-- A corpus file with some sections, each with the end of its marker line. -/
def corpusText (sources : List (Section × LineEnd)) : Text :=
  sources.flatMap fun source => source.1.writtenWith source.2

/-- The names that lead from the working directory to a source. -/
def parts (source : Section) : List Name := Text.splitAt '/' source.name

/-- A relative path in normal form that fits between the blanks of a marker line. -/
structure IsPlainName (name : Text) : Prop where
  normal : ∀ part ∈ Text.splitAt '/' name, part ≠ [] ∧ Path.IsProper part
  oneLine : '\n' ∉ name
  trimmed : Text.strip name = name

/-- Sections that can be told apart and written below `root`. -/
structure Encodable (root : Place) (sources : List Section) : Prop where
  nonempty : sources ≠ []
  plain : ∀ source ∈ sources, IsPlainName source.name
  distinct : (sources.map Section.name).Nodup
  apart : ∀ source ∈ sources, ∀ other ∈ sources, ¬ Below source.parts other.parts
  nameable : ∀ source ∈ sources, FileTree.Nameable (root ++ source.parts)
  unmarked : ∀ source ∈ sources, ∀ line ∈ Text.lines source.body, ¬ marker <+: line
  ended : ∀ source ∈ sources.dropLast, source.body = [] ∨ source.body.getLast? = some '\n'

section Names
variable {name : Text}

theorem IsPlainName.parse_eq (h : IsPlainName name) :
    Path.parse name = ⟨.none, Text.splitAt '/' name⟩ := by
  have relative : Path.rootOf name = .none := by
    unfold Path.rootOf
    split
    case h_4 => rfl
    all_goals
      refine absurd rfl (h.normal [] ?_).1
      simp [Text.splitAt]
  have kept : Path.partsOf name = Text.splitAt '/' name := by
    refine List.filter_eq_self.2 fun part hm => ?_
    simpa using ⟨(h.normal part hm).1, (h.normal part hm).2.1⟩
  rw [Path.parse, relative, kept]

theorem IsPlainName.text_parse (h : IsPlainName name) : (Path.parse name).text = name := by
  have nonempty := Text.splitAt_ne_nil '/' name
  rw [h.parse_eq, Path.text]
  split
  · rename_i hp
    exact absurd hp nonempty
  · exact Text.intercalate_splitAt '/' name
  all_goals contradiction

theorem IsPlainName.ne_nil (h : IsPlainName name) : name ≠ [] := by
  rintro rfl
  exact (h.normal [] (by simp [Text.splitAt])).1 rfl

theorem isBlank_of_mem_lineEnd {ending : LineEnd} : ∀ c ∈ ending.text, Text.isBlank c = true := by
  have feed : Text.isBlank '\n' = true := by decide
  have back : Text.isBlank '\r' = true := by decide
  cases ending <;> simp [LineEnd.text, LineEnd.before, feed, back]

/-- **The name on a marker line is read as it was written**, whatever it ends in. -/
theorem IsPlainName.nameOf_markerLine (h : IsPlainName name) (ending : LineEnd) :
    nameOf (markerLine name ending) = name := by
  obtain ⟨front, back⟩ := Text.ends_of_strip h.trimmed
  have space : ∀ c ∈ [' '], Text.isBlank c = true := by
    intro c hm
    rw [List.mem_singleton.1 hm]
    decide
  have behind : (markerLine name ending).drop marker.length =
      [' '] ++ (name ++ (" ====" : Text) ++ ending.text) := by
    rw [markerLine, Text.join_cons, List.drop_left]
    simp [markerEnd]
  -- stripping takes the blank before the name and the end of the line away
  have stripped : Text.strip ([' '] ++ (name ++ (" ====" : Text) ++ ending.text)) =
      name ++ (" ====" : Text) := by
    rw [Text.strip, List.dropWhile_append_of_pos space, List.append_assoc,
      List.dropWhile_append, front, if_neg (by simp [h.ne_nil]), ← List.append_assoc,
      Text.stripRight, Text.dropRightWhile_append isBlank_of_mem_lineEnd]
    have last : name ++ (" ====" : Text) = name ++ (" ===" : Text) ++ ['='] := by simp
    rw [last, Text.dropRightWhile_concat (by decide)]
  have closed : markerEnd.isSuffixOf (name ++ (" ====" : Text)) = true := by
    rw [List.isSuffixOf_iff_suffix]
    exact ⟨name ++ [' '], by simp [markerEnd]⟩
  -- the end of the marker is cut off, and what is left is the name and a blank
  have cut : (name ++ (" ====" : Text)).take ((name ++ (" ====" : Text)).length - markerEnd.length) =
      name ++ [' '] := by
    have apart : name ++ (" ====" : Text) = (name ++ [' ']) ++ markerEnd := by simp [markerEnd]
    rw [apart, List.length_append, Nat.add_sub_cancel, List.take_left]
  rw [nameOf, behind, stripped]
  simp only [closed, if_true, cut]
  rw [Text.stripRight, Text.dropRightWhile_append space]
  exact back

theorem IsPlainName.isLine_markerLine (h : IsPlainName name) (ending : LineEnd) :
    Text.IsLine (markerLine name ending) ∧ (markerLine name ending).getLast? = some '\n' := by
  have apart : markerLine name ending =
      (marker ++ [' '] ++ name ++ [' '] ++ markerEnd ++ ending.before) ++ ['\n'] := by
    simp [markerLine, LineEnd.text]
  have inside : '\n' ∉ ending.before := by cases ending <;> simp [LineEnd.before]
  have first : '\n' ∉ marker := by decide
  have last : '\n' ∉ markerEnd := by decide
  rw [apart, Text.IsLine, List.dropLast_concat, List.getLast?_concat]
  refine ⟨⟨List.append_ne_nil_of_right_ne_nil _ (List.cons_ne_nil _ _), ?_⟩, rfl⟩
  simp only [List.mem_append, List.mem_singleton, first, last, inside, h.oneLine, or_self,
    or_false, false_or]
  decide

theorem marker_prefix_markerLine (name : Text) (ending : LineEnd) :
    marker <+: markerLine name ending := by
  rw [markerLine, Text.join_cons]
  exact List.prefix_append _ _

end Names

/-- The piece that a written section is. -/
def piece (source : Section × LineEnd) : SourcePiece :=
  ⟨markerLine source.1.name source.2, Text.lines source.1.body⟩

section Text
variable {root : Place} {sources : List (Section × LineEnd)}

theorem toSection_piece {source : Section × LineEnd} (h : IsPlainName source.1.name) :
    (piece source).toSection = source.1 := by
  rw [SourcePiece.toSection, SourcePiece.name, SourcePiece.source, piece,
    h.nameOf_markerLine, Text.flatten_lines]

theorem lines_corpusText (plain : ∀ source ∈ sources, IsPlainName source.1.name)
    (ended : ∀ source ∈ sources.dropLast,
      source.1.body = [] ∨ source.1.body.getLast? = some '\n') :
    Text.lines (corpusText sources) = (sources.map piece).flatMap SourcePiece.lines := by
  induction sources with
  | nil => rfl
  | cons source rest ih =>
    obtain ⟨isLine, complete⟩ := (plain source List.mem_cons_self).isLine_markerLine source.2
    have whole : corpusText (source :: rest) =
        markerLine source.1.name source.2 ++ (source.1.body ++ corpusText rest) := by
      rw [corpusText, List.flatMap_cons, writtenWith, List.append_assoc, corpusText]
    have onward : Text.lines (source.1.body ++ corpusText rest) =
        Text.lines source.1.body ++ (rest.map piece).flatMap SourcePiece.lines := by
      cases rest with
      | nil => simp [corpusText]
      | cons next more =>
        have hb := ended source (by rw [List.dropLast_cons_cons]; exact List.mem_cons_self)
        rw [Text.lines_append_of_ended hb, ih (fun other ho => plain other (List.mem_cons_of_mem _ ho))]
        intro other ho
        refine ended other ?_
        rw [List.dropLast_cons_cons]
        exact List.mem_cons_of_mem _ ho
    rw [whole, Text.lines_append isLine complete, onward]
    rfl

/-- **The text is cut where it was put together.** -/
theorem isSplit_corpusText (h : Encodable root (sources.map Prod.fst)) :
    SourcePiece.IsSplit (corpusText sources) (sources.map piece) := by
  refine ⟨?_, ?_, ?_⟩
  · refine Text.isCut_iff.2 (lines_corpusText (fun source hm => ?_) fun source hm => ?_)
    · exact h.plain source.1 (List.mem_map_of_mem hm)
    · refine h.ended source.1 ?_
      rw [← List.map_dropLast]
      exact List.mem_map_of_mem hm
  · intro _ hp
    obtain ⟨source, -, rfl⟩ := List.mem_map.1 hp
    exact marker_prefix_markerLine _ _
  · intro _ hp
    obtain ⟨source, hm, rfl⟩ := List.mem_map.1 hp
    exact h.unmarked source.1 (List.mem_map_of_mem hm)

theorem marker_prefix_corpusText (nonempty : sources ≠ []) : marker <+: corpusText sources := by
  obtain ⟨source, rest, rfl⟩ := List.exists_cons_of_ne_nil nonempty
  rw [corpusText, List.flatMap_cons, writtenWith, List.append_assoc]
  exact (marker_prefix_markerLine _ _).trans (List.prefix_append _ _)

end Text

end Section

namespace MarkerSplit
open Section

section Writing
variable {world current : World} {workdir : Path} {root : Place}
  {done sources : List (Section × LineEnd)} {source : Section × LineEnd} {tree : FileTree}
  {entry : Entry}

/-- **A section is written** where nothing or a file is, if directories can be made on the way. -/
theorem writeSection_ok (entry : Entry) {written : Section} {place : Place} {before : Bytes}
    (named : written.name ≠ [])
    (hp : current.tree.canonicalPlace current.cwd
      ((Path.ofPlace root).under (Path.parse written.name)) = .ok place)
    (below : Below root place) (nameable : FileTree.Nameable place)
    (straight : current.tree.IsStraight place) (clear : current.tree.IsClear place.dropLast)
    (free : current.tree.node? place = none ∧ before = [] ∨
      current.tree.node? place = some (.file before)) :
    ∃ made, current.tree.Grown made place.dropLast ∧
      writeSection entry (Path.ofPlace root) written current =
        .ok () { current with
          tree := made.put place (.file (before ++ Utf8.encode written.body)) } := by
  obtain ⟨made, hmade, stands⟩ := FileTree.makePath_ok current.cwd
    (nameable.of_prefix (List.dropLast_prefix place)) clear
  have grown := FileTree.grown_of_makePath clear.isStraight hmade
  have unmade := grown.node?_of_not_prefix (not_prefix_dropLast below.ne_nil)
  have above := FileTree.reached_of_dropLast straight.proper stands
  have hwrite : FileTree.write current.cwd .append (Path.ofPlace place)
      (Utf8.encode written.body) made =
        .ok () (made.put place (.file (before ++ Utf8.encode written.body))) := by
    rcases free with ⟨absent, rfl⟩ | there
    · exact FileTree.write_ok _ _ _ nameable above (unmade.trans absent)
    · exact FileTree.write_ok_of_file _ _ _ nameable above (unmade.trans there)
  have asked : Act.ask (fun tree cwd => tree.canonical cwd
      ((Path.ofPlace root).under (Path.parse written.name))) current =
        .ok (Path.ofPlace place) current :=
    Act.ask_ok.2 ⟨by rw [FileTree.canonical, hp]; rfl, rfl⟩
  refine ⟨made, grown, ?_⟩
  rw [writeSection, bind_of_ok asked, if_neg fun guard => (guard_iff.1 guard).elim named (· below)]
  exact bind_ok.2 ⟨(), _, Act.change_ok.2 ⟨made, hmade, rfl⟩, Act.change_ok.2 ⟨_, hwrite, rfl⟩⟩

theorem below_append {first second : List Name} :
    Below (root ++ first) (root ++ second) ↔ Below first second := by
  rw [Below, Below, List.prefix_append_right_inj, ne_eq, List.append_cancel_left_eq]

theorem name_eq_of_parts_eq {first second : Section} (h : first.parts = second.parts) :
    first.name = second.name := by
  have := congrArg (Text.intercalate ['/']) h
  rwa [Section.parts, Section.parts, Text.intercalate_splitAt, Text.intercalate_splitAt] at this

theorem below_parts (root : Place) (source : Section) : Below root (root ++ source.parts) :=
  ⟨List.prefix_append _ _, by simpa [Section.parts] using Text.splitAt_ne_nil '/' source.name⟩

/-- The tree after some sections were written: it holds their pieces, and the directories
that have come to be lead to them. -/
structure Laid (world : World) (workdir : Path) (root : Place) (done : List (Section × LineEnd))
    (tree : FileTree) : Prop where
  holds : Holds world.tree root (goalOf world workdir) (done.map piece) tree
  directories : ∀ place, Below root place → tree.node? place = some .directory →
    ∃ source ∈ done, Below place (root ++ source.1.parts)

theorem under_parse (plain : IsPlainName source.1.name) (root : Place) :
    (Path.ofPlace root).under (Path.parse source.1.name) =
      Path.ofPlace (root ++ source.1.parts) := by
  rw [plain.parse_eq]
  rfl

theorem proper_parts (workplace : EmptyWorkdir world workdir root)
    (plain : IsPlainName source.1.name) :
    ∀ name ∈ root ++ source.1.parts, Path.IsProper name := by
  intro name hm
  rcases List.mem_append.1 hm with hm | hm
  · exact workplace.stands.proper name hm
  · exact (plain.normal name hm).2

/-- A plain name goes where it says. -/
theorem goalOf_piece (workplace : EmptyWorkdir world workdir root)
    (plain : IsPlainName source.1.name) (nul : ∀ name ∈ root ++ source.1.parts, '\x00' ∉ name) :
    goalOf world workdir (piece source).name = some (root ++ source.1.parts) := by
  have straight := workplace.filled.isStraight workplace (below_parts root source.1)
    (proper_parts workplace plain)
  have hname : (piece source).name = source.1.name := plain.nameOf_markerLine source.2
  refine workplace.sourcePlace?_eq ?_
  rw [hname, under_parse plain]
  exact FileTree.canonicalPlace_of_isStraight straight nul _

theorem goalOf_of_mem (workplace : EmptyWorkdir world workdir root)
    (encodable : Encodable root (sources.map Prod.fst)) (hm : source ∈ sources) :
    goalOf world workdir (piece source).name = some (root ++ source.1.parts) :=
  goalOf_piece workplace (encodable.plain _ (List.mem_map_of_mem hm))
    (encodable.nameable _ (List.mem_map_of_mem hm)).nul

theorem laid_nil (workplace : EmptyWorkdir world workdir root) :
    Laid world workdir root [] world.tree := by
  refine ⟨holds_nil workplace _, fun place hb hd => ?_⟩
  rw [workplace.nothing place hb] at hd
  cases hd

section Next
variable (workplace : EmptyWorkdir world workdir root)
  (encodable : Encodable root ((done ++ source :: sources).map Prod.fst))
  (laid : Laid world workdir root done tree)
include workplace encodable laid

/-- A file below `root` is a section that was written. -/
theorem Laid.section_of_file {place : Place} {content : Bytes} (hb : Below root place)
    (hf : tree.node? place = some (.file content)) :
    ∃ other ∈ done, place = root ++ other.1.parts := by
  obtain ⟨⟨_, hp, hg⟩, -⟩ := (laid.holds.files place content hb).1 hf
  obtain ⟨other, hm, rfl⟩ := List.mem_map.1 hp
  rw [goalOf_of_mem workplace encodable (List.mem_append_left _ hm)] at hg
  exact ⟨other, hm, (Option.some.inj hg).symm⟩

/-- On the way to the next section nothing but directories stands. -/
theorem Laid.isClear : tree.IsClear (root ++ source.1.parts).dropLast := by
  have hm : source.1 ∈ (done ++ source :: sources).map Prod.fst := by simp
  have proper := proper_parts workplace (encodable.plain _ hm)
  have way := List.dropLast_prefix (root ++ source.1.parts)
  refine ⟨fun name hn => proper name (way.subset hn), fun above hp => ?_⟩
  by_cases hb : Below root above
  swap
  · have onRoot := (below_parts root source.1).above (hp.trans way) hb
    rw [laid.holds.filled.outside above hb]
    exact .inr (workplace.stands.directory above onRoot)
  cases hn : tree.node? above with
  | none => exact .inl rfl
  | some node =>
    cases node with
    | directory => exact .inr rfl
    | link target =>
      have := laid.holds.filled.unlinked above hb
      rw [FileTree.linkTarget?_eq_some.2 hn] at this
      cases this
    -- A file on the way would be another section, and this one below it.
    | file content =>
      obtain ⟨other, ho, rfl⟩ := laid.section_of_file workplace encodable hb hn
      have hother : other.1 ∈ (done ++ source :: sources).map Prod.fst :=
        List.mem_map_of_mem (List.mem_append_left _ ho)
      refine absurd (below_append.1 ⟨hp.trans way, fun he => ?_⟩)
        (encodable.apart other.1 hother source.1 hm)
      rw [← he] at hp
      exact not_prefix_dropLast (below_parts root source.1).ne_nil hp

/-- Nothing is where the next section goes. -/
theorem Laid.absent : tree.node? (root ++ source.1.parts) = none := by
  have hm : source.1 ∈ (done ++ source :: sources).map Prod.fst := by simp
  have hb := below_parts root source.1
  cases hn : tree.node? (root ++ source.1.parts) with
  | none => rfl
  | some node =>
    cases node with
    | link target =>
      have := laid.holds.filled.unlinked _ hb
      rw [FileTree.linkTarget?_eq_some.2 hn] at this
      cases this
    -- A directory there would lead to another section below this one.
    | directory =>
      obtain ⟨other, ho, below⟩ := laid.directories _ hb hn
      have hother : other.1 ∈ (done ++ source :: sources).map Prod.fst :=
        List.mem_map_of_mem (List.mem_append_left _ ho)
      exact absurd (below_append.1 below) (encodable.apart source.1 hm other.1 hother)
    -- A file there would be another section of this name.
    | file content =>
      obtain ⟨other, ho, he⟩ := laid.section_of_file workplace encodable hb hn
      have same := name_eq_of_parts_eq (List.append_cancel_left he)
      have distinct := encodable.distinct
      rw [List.map_map, List.map_append, List.nodup_append, List.map_cons] at distinct
      exact absurd same.symm
        (distinct.2.2 _ (List.mem_map_of_mem ho) _ List.mem_cons_self)

/-- **The next section can be written**, and what it adds is laid as the others are. -/
theorem Laid.next (same : current.cwd = world.cwd) (htree : current.tree = tree) :
    ∃ after, writeSection entry (Path.ofPlace root) source.1 current =
        .ok () { current with tree := after } ∧
      Laid world workdir root (done ++ [source]) after := by
  have hm : source.1 ∈ (done ++ source :: sources).map Prod.fst := by simp
  have plain := encodable.plain _ hm
  have nameable := encodable.nameable _ hm
  have below := below_parts root source.1
  subst htree
  have straight := laid.holds.filled.isStraight workplace below (proper_parts workplace plain)
  have hp : current.tree.canonicalPlace current.cwd
      ((Path.ofPlace root).under (Path.parse source.1.name)) = .ok (root ++ source.1.parts) := by
    rw [under_parse plain]
    exact FileTree.canonicalPlace_of_isStraight straight nameable.nul _
  obtain ⟨made, grown, written⟩ := writeSection_ok entry plain.ne_nil hp below nameable straight
    (laid.isClear workplace encodable) (.inl ⟨laid.absent workplace encodable, rfl⟩)
  rw [List.nil_append] at written
  refine ⟨_, written, ?_, fun other ho hd => ?_⟩
  -- it holds the pieces before, and that of this section
  · generalize made.put (root ++ source.1.parts) (.file (Utf8.encode source.1.body)) = after
      at written ⊢
    rw [← toSection_piece plain] at written
    obtain ⟨tree, he, holds⟩ := laid.holds.step workplace same written
    obtain rfl : after = tree := congrArg World.tree he
    rwa [List.map_append]
  -- a directory was there before or is on the way to this section
  · rw [FileTree.node?_put _ below.ne_nil] at hd
    split at hd
    · cases hd
    rcases grown other with hs | ⟨-, -, above⟩
    · rw [hs] at hd
      obtain ⟨earlier, he, hb⟩ := laid.directories other ho hd
      exact ⟨earlier, List.mem_append_left _ he, hb⟩
    · refine ⟨source, by simp, above.trans (List.dropLast_prefix _), fun he => ?_⟩
      rw [he] at above
      exact not_prefix_dropLast ho.ne_nil above

end Next

/-- **All sections can be written**, by induction on those still to be written. -/
theorem Laid.run (workplace : EmptyWorkdir world workdir root)
    (encodable : Encodable root ((done ++ sources).map Prod.fst))
    (same : current.cwd = world.cwd) (laid : Laid world workdir root done current.tree) :
    ∃ after, writeSections entry (Path.ofPlace root) (sources.map Prod.fst) current =
        .ok () { current with tree := after } ∧
      Laid world workdir root (done ++ sources) after := by
  induction sources generalizing done current with
  | nil => exact ⟨current.tree, rfl, by rwa [List.append_nil]⟩
  | cons source rest ih =>
    obtain ⟨tree, hs, now⟩ := laid.next workplace encodable same rfl
    have encodable' : Encodable root ((done ++ [source] ++ rest).map Prod.fst) := by
      rwa [List.append_assoc]
    obtain ⟨after, hr, all⟩ := ih encodable'
      (show ({ current with tree := tree } : World).cwd = world.cwd from same) now
    refine ⟨after, ?_, by rwa [List.append_assoc] at all⟩
    have both : writeSections entry (Path.ofPlace root) ((source :: rest).map Prod.fst) current =
        (writeSection entry (Path.ofPlace root) source.1 >>= fun _ =>
          writeSections entry (Path.ofPlace root) (rest.map Prod.fst)) current := rfl
    rw [both, bind_of_ok hs, hr]

/-- Different names stay as they are. -/
theorem eraseDups_of_nodup {names : List Text} (h : names.Nodup) : names.eraseDups = names := by
  induction names with
  | nil => rfl
  | cons name rest ih =>
    obtain ⟨hn, hr⟩ := List.nodup_cons.1 h
    rw [List.eraseDups_cons, List.filter_eq_self.2, ih hr]
    intro other ho
    have : other ≠ name := fun he => hn (he ▸ ho)
    simpa using this

/-- Where every piece goes to a place of its own, each place gets the source of its piece. -/
theorem contentFor_of_pairwise {goal : Text → Option Place} {pieces : List SourcePiece}
    {piece : SourcePiece} {place : Place}
    (apart : pieces.Pairwise fun first second => goal first.name ≠ goal second.name)
    (hm : piece ∈ pieces) (hg : goal piece.name = some place) :
    contentFor goal place pieces = Utf8.encode piece.source := by
  have alone : pieces.filter (fun other => goal other.name = some place) = [piece] := by
    induction pieces with
    | nil => cases hm
    | cons first rest ih =>
      obtain ⟨different, apart⟩ := List.pairwise_cons.1 apart
      rcases List.mem_cons.1 hm with rfl | hm
      · rw [List.filter_cons_of_pos (by simpa using hg), List.filter_eq_nil_iff.2]
        intro other ho
        have := different other ho
        rw [hg] at this
        simpa using this.symm
      · have := different piece hm
        rw [hg] at this
        rw [List.filter_cons_of_neg (by simpa using this), ih apart hm]
  rw [contentFor, alone, List.flatMap_singleton]

/-- The places of the sections hold their bodies, and no other file is below `root`. -/
theorem Laid.files (workplace : EmptyWorkdir world workdir root)
    (encodable : Encodable root (sources.map Prod.fst))
    (laid : Laid world workdir root sources tree) {place : Place} {content : Bytes}
    (below : Below root place) :
    tree.node? place = some (.file content) ↔
      ∃ source ∈ sources, place = root ++ source.1.parts ∧
        content = Utf8.encode source.1.body := by
  have goal : ∀ source ∈ sources, goalOf world workdir (piece source).name =
      some (root ++ source.1.parts) := fun source hm => goalOf_of_mem workplace encodable hm
  have apart : (sources.map piece).Pairwise fun first second =>
      goalOf world workdir first.name ≠ goalOf world workdir second.name := by
    have distinct := encodable.distinct
    rw [List.map_map, List.Nodup, List.pairwise_map] at distinct
    rw [List.pairwise_map]
    refine distinct.imp_of_mem fun {first second} hf hs hne he => hne ?_
    rw [goal first hf, goal second hs] at he
    exact name_eq_of_parts_eq (List.append_cancel_left (Option.some.inj he))
  have source_piece : ∀ source, (piece source).source = source.1.body := fun source =>
    Text.flatten_lines source.1.body
  rw [laid.holds.files place content below]
  constructor
  · rintro ⟨⟨_, hp, hg⟩, rfl⟩
    obtain ⟨source, hm, rfl⟩ := List.mem_map.1 hp
    refine ⟨source, hm, ?_, by rw [contentFor_of_pairwise apart hp hg, source_piece]⟩
    rw [goal source hm] at hg
    exact (Option.some.inj hg).symm
  · rintro ⟨source, hm, rfl, rfl⟩
    have hp := List.mem_map_of_mem (f := piece) hm
    refine ⟨⟨_, hp, goal source hm⟩, ?_⟩
    rw [contentFor_of_pairwise apart hp (goal source hm), source_piece]

end Writing

/-- **Splitting undoes writing.**  A corpus file of sections that can be told apart is
split without a failure into exactly these sections: their names are given back in
order, the files of the working directory are the bodies under their names, and nothing
else has changed. -/
theorem split_corpusText {world : World} {entry : Entry} {workdir : Path} {root : Place}
    {sources : List (Section × LineEnd)} (workplace : EmptyWorkdir world workdir root)
    (encodable : Encodable root (sources.map Prod.fst))
    (readable : world.tree.read world.cwd entry.path = .ok (Utf8.encode (corpusText sources))) :
    ∃ paths tree, split entry workdir world = .ok (.multiple paths) { world with tree := tree } ∧
      paths = sources.map (Path.parse ·.1.name) ∧
      paths.map Path.text = sources.map (·.1.name) ∧
      (∀ place content, Below root place →
        (tree.node? place = some (.file content) ↔
          ∃ source ∈ sources, place = root ++ source.1.parts ∧
            content = Utf8.encode source.1.body)) ∧
      world.tree.Filled root tree := by
  have nonempty : sources ≠ [] := fun h => encodable.nonempty (by rw [h, List.map_nil])
  have hsplit := isSplit_corpusText encodable
  have sections : (sources.map piece).map SourcePiece.toSection = sources.map Prod.fst := by
    rw [List.map_map]
    exact List.map_congr_left fun source hm =>
      toSection_piece (encodable.plain _ (List.mem_map_of_mem hm))
  have distinct : (sources.map (·.1.name)).Nodup := by
    have := encodable.distinct
    rwa [List.map_map] at this
  have names : ((sources.map piece).map SourcePiece.name).eraseDups = sources.map (·.1.name) := by
    rw [List.map_map, List.map_congr_left fun source hm => ?_, eraseDups_of_nodup distinct]
    exact (encodable.plain _ (List.mem_map_of_mem hm)).nameOf_markerLine source.2
  obtain ⟨tree, hwrite, laid⟩ := (laid_nil workplace).run workplace
    (show Encodable root (([] ++ sources).map Prod.fst) from encodable) rfl
  refine ⟨_, tree, ?_, rfl, ?_, fun place content hb => laid.files workplace encodable hb,
    laid.holds.filled⟩
  · rw [split_eq_of_marked workplace readable (marker_prefix_corpusText nonempty) hsplit, sections,
      bind_of_ok hwrite, names, List.map_map]
    rfl
  · rw [List.map_map]
    refine List.map_congr_left fun source hm => ?_
    exact (encodable.plain _ (List.mem_map_of_mem hm)).text_parse

/-- Three sections: a name with a blank and a directory, one that ends like a marker line
with nothing under it, and a last one without a line feed at its end. -/
def mixedSources : List (Section × LineEnd) :=
  [(⟨"lib/a b.sol", "x\n"⟩, .feed), (⟨"b ====", []⟩, .returnFeed), (⟨"lib/c", "\r==== \u2028y"⟩, .feed)]

/-- A world that holds these sections as the entry `/e` and the empty directory `/w`. -/
def mixedWorld : World :=
  ⟨⟨[([['w']], .directory), ([['e']], .file (Utf8.encode (corpusText mixedSources)))]⟩, [], [], []⟩

theorem encodable_mixed : Encodable [['w']] (mixedSources.map Prod.fst) := by
  refine ⟨by decide, fun source hm => ?_, by decide, ?_, fun source hm => ?_, ?_, by decide⟩
  · simp only [mixedSources, List.map_cons, List.map_nil, List.mem_cons, List.not_mem_nil,
      or_false] at hm
    rcases hm with rfl | rfl | rfl <;>
      exact ⟨by simp only [Path.IsProper]; decide, by decide, by decide +kernel⟩
  · simp only [Below]
    decide
  · simp only [mixedSources, List.map_cons, List.map_nil, List.mem_cons, List.not_mem_nil,
      or_false] at hm
    rcases hm with rfl | rfl | rfl <;>
      exact ⟨by decide +kernel, by decide +kernel, by decide⟩
  · decide

theorem split_corpusText_mixed :
    ∃ paths tree,
      split interleavedEntry (Path.ofPlace [['w']]) mixedWorld =
        .ok (.multiple paths) { mixedWorld with tree := tree } ∧
      paths = mixedSources.map (Path.parse ·.1.name) ∧
      paths.map Path.text = mixedSources.map (·.1.name) ∧
      (∀ place content, Below [['w']] place →
        (tree.node? place = some (.file content) ↔
          ∃ source ∈ mixedSources, place = [['w']] ++ source.1.parts ∧
            content = Utf8.encode source.1.body)) ∧
      mixedWorld.tree.Filled [['w']] tree :=
  split_corpusText (emptyWorkdir_beside _) encodable_mixed (by cbv)

end MarkerSplit
end Reimport
