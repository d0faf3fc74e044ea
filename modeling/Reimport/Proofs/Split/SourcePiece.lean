import Reimport.Split.Section
import Reimport.Proofs.Text.Lines

/-!
# The pieces of a marked text

A marked text is cut into pieces, each a marker line and the lines up to the next
one.  `IsSplit` says so without saying how the pieces are found: their lines, in
order, are the lines of the text, a piece begins with a marker line, and no other
line of it is one.  A text that begins with the marker is split in exactly one way
(`isSplit_iff`), and its sections are the pieces' names and sources
(`ofText?_of_isSplit`); any other text has no sections.
-/
namespace Reimport

/-- A marker line of a text with the lines up to the next one. -/
structure SourcePiece where
  /-- The marker line. -/
  head : Text
  /-- The lines after it. -/
  body : List Text
  deriving DecidableEq, Repr

namespace SourcePiece

/-- The lines of a piece. -/
def lines (piece : SourcePiece) : List Text := piece.head :: piece.body

/-- The name on the marker line. -/
def name (piece : SourcePiece) : Text := Section.nameOf piece.head

/-- The source after the marker line. -/
def source (piece : SourcePiece) : Text := piece.body.flatten

/-- The section that a piece stands for. -/
def toSection (piece : SourcePiece) : Section := ⟨piece.name, piece.source⟩

/-- The pieces of some lines; lines before the first marker belong to none. -/
def ofLines : List Text → List SourcePiece
  | [] => []
  | line :: rest =>
    if Section.isMarker line then
      ⟨line, rest.takeWhile (!Section.isMarker ·)⟩ :: ofLines rest
    else ofLines rest

/-- A text is made of the pieces: their lines are its lines, and the marker lines
among them are the pieces' heads. -/
structure IsSplit (text : Text) (pieces : List SourcePiece) : Prop where
  cut : Text.IsCut text (pieces.flatMap lines)
  marked : ∀ piece ∈ pieces, Section.marker <+: piece.head
  plain : ∀ piece ∈ pieces, ∀ line ∈ piece.body, ¬ Section.marker <+: line

theorem isMarker_iff {line : Text} : Section.isMarker line = true ↔ Section.marker <+: line :=
  List.isPrefixOf_iff_prefix

theorem map_toSection_ofLines (lines : List Text) :
    (ofLines lines).map toSection = Section.ofLines lines := by
  induction lines with
  | nil => rfl
  | cons line rest ih =>
    rw [ofLines, Section.ofLines]
    split
    · rw [List.map_cons, ih]
      rfl
    · exact ih

/-- Nothing from the first marker line on is left out. -/
theorem flatMap_lines_ofLines (all : List Text) :
    (ofLines all).flatMap lines = all.dropWhile (!Section.isMarker ·) := by
  induction all with
  | nil => rfl
  | cons line rest ih =>
    rw [ofLines]
    split
    · rename_i h
      rw [List.flatMap_cons, ih, lines, List.cons_append, List.takeWhile_append_dropWhile]
      simp [h]
    · rename_i h
      rw [ih]
      simp [h]

theorem marked_of_mem_ofLines {all : List Text} {piece : SourcePiece} (h : piece ∈ ofLines all) :
    Section.marker <+: piece.head ∧ ∀ line ∈ piece.body, ¬ Section.marker <+: line := by
  induction all with
  | nil => cases h
  | cons line rest ih =>
    rw [ofLines] at h
    split at h
    · rename_i hm
      rcases List.mem_cons.1 h with rfl | h
      · refine ⟨isMarker_iff.1 hm, fun other ho => ?_⟩
        have := List.all_eq_true.1 List.all_takeWhile other ho
        rw [← isMarker_iff]
        simpa using this
      · exact ih h
    · exact ih h

theorem ofLines_append {plain rest : List Text}
    (h : ∀ line ∈ plain, ¬ Section.marker <+: line) : ofLines (plain ++ rest) = ofLines rest := by
  induction plain with
  | nil => rfl
  | cons line more ih =>
    have hl := h line List.mem_cons_self
    rw [← isMarker_iff] at hl
    rw [List.cons_append, ofLines, if_neg hl]
    exact ih fun other ho => h other (List.mem_cons_of_mem _ ho)

/-- The lines of pieces that begin at their marker lines give these pieces back. -/
theorem ofLines_flatMap_lines {pieces : List SourcePiece}
    (marked : ∀ piece ∈ pieces, Section.marker <+: piece.head)
    (plain : ∀ piece ∈ pieces, ∀ line ∈ piece.body, ¬ Section.marker <+: line) :
    ofLines (pieces.flatMap lines) = pieces := by
  induction pieces with
  | nil => rfl
  | cons piece rest ih =>
    have hm := marked piece List.mem_cons_self
    have hp := plain piece List.mem_cons_self
    have hr := ih (fun p h => marked p (List.mem_cons_of_mem _ h))
      fun p h => plain p (List.mem_cons_of_mem _ h)
    -- the body ends where the next piece begins, or where there is none
    have body : (piece.body ++ rest.flatMap lines).takeWhile (!Section.isMarker ·) =
        piece.body := by
      rw [List.takeWhile_append_of_pos fun line hl => by
        simpa [← isMarker_iff] using hp line hl]
      cases rest with
      | nil => simp
      | cons next more =>
        have hn := isMarker_iff.2 (marked next (List.mem_cons_of_mem _ List.mem_cons_self))
        simp [lines, hn]
    rw [List.flatMap_cons, lines, List.cons_append, ofLines, if_pos (isMarker_iff.2 hm), body,
      ofLines_append hp, hr]

/-- A text begins with the marker iff its first line does. -/
theorem marker_prefix_iff {text first : Text} {rest : List Text}
    (h : Text.lines text = first :: rest) :
    Section.marker <+: text ↔ Section.marker <+: first := by
  have cut := Text.isCut_iff.2 h
  have joined : first ++ rest.flatten = text := cut.joined
  refine ⟨fun hm => ?_, fun hm => hm.trans ⟨_, joined⟩⟩
  have hf : first <+: text := ⟨_, joined⟩
  rcases Nat.le_total Section.marker.length first.length with hl | hl
  · exact List.prefix_of_prefix_length_le hm hf hl
  · cases rest with
    | nil =>
      rw [List.flatten_nil, List.append_nil] at joined
      rwa [joined]
    | cons next more =>
      -- a shorter first line would have its line feed inside the marker
      have he := cut.ended first (by rw [List.dropLast_cons_cons]; exact List.mem_cons_self)
      have hsub := (List.prefix_of_prefix_length_le hf hm hl).subset (List.mem_of_getLast? he)
      exact absurd hsub (by decide)

theorem isSplit_ofLines {text : Text} (h : Section.marker <+: text) :
    IsSplit text (ofLines (Text.lines text)) := by
  cases hl : Text.lines text with
  | nil =>
    have := Text.flatten_lines text
    rw [hl] at this
    subst this
    exact absurd h (by decide)
  | cons first rest =>
    have hm := isMarker_iff.2 ((marker_prefix_iff hl).1 h)
    refine ⟨?_, fun p hp => (marked_of_mem_ofLines hp).1, fun p hp => (marked_of_mem_ofLines hp).2⟩
    rw [flatMap_lines_ofLines]
    simpa [hm] using Text.isCut_iff.2 hl

/-- **A text that begins with the marker is split in one way.** -/
theorem isSplit_iff {text : Text} {pieces : List SourcePiece} (h : Section.marker <+: text) :
    IsSplit text pieces ↔ pieces = ofLines (Text.lines text) := by
  refine ⟨fun hs => ?_, ?_⟩
  · rw [Text.isCut_iff.1 hs.cut, ofLines_flatMap_lines hs.marked hs.plain]
  · rintro rfl
    exact isSplit_ofLines h

theorem ofText?_of_isSplit {text : Text} {pieces : List SourcePiece} (h : Section.marker <+: text)
    (hs : IsSplit text pieces) : Section.ofText? text = some (pieces.map toSection) := by
  rw [(isSplit_iff h).1 hs, map_toSection_ofLines, Section.ofText?]
  cases hl : Text.lines text with
  | nil =>
    have := Text.flatten_lines text
    rw [hl] at this
    subst this
    exact absurd h (by decide)
  | cons first rest => exact if_pos (isMarker_iff.2 ((marker_prefix_iff hl).1 h))

theorem ofText?_eq_none {text : Text} (h : ¬ Section.marker <+: text) :
    Section.ofText? text = none := by
  rw [Section.ofText?]
  cases hl : Text.lines text with
  | nil => rfl
  | cons first rest => exact if_neg fun hm => h ((marker_prefix_iff hl).2 (isMarker_iff.1 hm))

end SourcePiece
end Reimport
