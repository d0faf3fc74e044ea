import Mathlib.Data.List.Basic
import Reimport.Proofs.Text.Lines

/-!
# Where a text is cut

The lines of a text are its only cut (`isCut_iff`), so everything else about them follows from
what a cut is: the empty text has no lines, and two texts that are put together keep their lines
iff the first one ends in a line feed or one of them is empty (`lines_append_iff`).  No other
character ends a line.

The same lines come from the pieces between the line feeds: each piece gets a line feed, the last
one gives it back, and then the last one goes if nothing is left of it (`lines_eq_ofPieces`).
-/
namespace Reimport.Text

/-! ## Lines from pieces -/

/-- Each piece with a line feed behind it. -/
def ended (pieces : List Text) : List Text := pieces.map (· ++ ['\n'])

/-- The pieces, of which the last has lost its last character. -/
def shortenLast : List Text → List Text
  | [] => []
  | [last] => [last.dropLast]
  | piece :: next :: rest => piece :: shortenLast (next :: rest)

/-- The pieces without the last one if that is empty. -/
def withoutEmptyLast (pieces : List Text) : List Text :=
  if pieces.getLast? = some [] then pieces.dropLast else pieces

/-- The lines of which the pieces between line feeds are the parts. -/
def ofPieces (pieces : List Text) : List Text := withoutEmptyLast (shortenLast (ended pieces))

theorem shortenLast_ne_nil {pieces : List Text} (h : pieces ≠ []) : shortenLast pieces ≠ [] := by
  cases pieces with
  | nil => exact absurd rfl h
  | cons piece rest =>
    cases rest with
    | nil => exact List.cons_ne_nil _ _
    | cons next rest => exact List.cons_ne_nil _ _

theorem withoutEmptyLast_cons (piece : Text) {rest : List Text} (h : rest ≠ []) :
    withoutEmptyLast (piece :: rest) = piece :: withoutEmptyLast rest := by
  have last : (piece :: rest).getLast? = rest.getLast? := by
    obtain ⟨next, more, rfl⟩ := List.exists_cons_of_ne_nil h
    exact List.getLast?_cons_cons
  rw [withoutEmptyLast, withoutEmptyLast, last, List.dropLast_cons_of_ne_nil h]
  split <;> rfl

/-- Every piece but the last makes a line with its line feed. -/
theorem ofPieces_cons (piece : Text) {rest : List Text} (h : rest ≠ []) :
    ofPieces (piece :: rest) = (piece ++ ['\n']) :: ofPieces rest := by
  obtain ⟨next, more, rfl⟩ := List.exists_cons_of_ne_nil h
  have remain : shortenLast (ended (next :: more)) ≠ [] :=
    shortenLast_ne_nil (List.cons_ne_nil _ _)
  exact withoutEmptyLast_cons (piece ++ ['\n']) remain

/-- The last piece makes a line unless it is empty. -/
theorem ofPieces_singleton (piece : Text) :
    ofPieces [piece] = if piece = [] then [] else [piece] := by
  have shortened : shortenLast (ended [piece]) = [piece] := by
    rw [ended, List.map_singleton, shortenLast, List.dropLast_concat]
  rw [ofPieces, shortened, withoutEmptyLast]
  simp

/-- **The lines of a text come from its pieces between line feeds.** -/
theorem lines_eq_ofPieces (text : Text) : lines text = ofPieces (splitAt '\n' text) := by
  induction text with
  | nil => rfl
  | cons c rest ih =>
    by_cases hc : c = '\n'
    · rw [splitAt, if_pos hc, ofPieces_cons [] (splitAt_ne_nil _ _), ← ih, lines, if_pos hc, hc]
      rfl
    · obtain ⟨piece, more, cut⟩ := List.exists_cons_of_ne_nil (splitAt_ne_nil '\n' rest)
      have joined : splitAt '\n' (c :: rest) = (c :: piece) :: more := by
        rw [splitAt, if_neg hc, cut]
      rw [cut] at ih
      rw [joined, lines, if_neg hc, ih]
      cases more with
      | nil =>
        rw [ofPieces_singleton, ofPieces_singleton, if_neg (List.cons_ne_nil _ _)]
        cases piece with
        | nil => rfl
        | cons d piece => rfl
      | cons next more =>
        rw [ofPieces_cons _ (List.cons_ne_nil _ _), ofPieces_cons _ (List.cons_ne_nil _ _)]
        rfl

/-! ## Texts put together -/

theorem lines_eq_nil_iff {text : Text} : lines text = [] ↔ text = [] := by
  constructor
  · intro h
    rw [← flatten_lines text, h]
    rfl
  · rintro rfl
    rfl

/-- The last line of a text ends as the text does. -/
theorem getLast?_of_lines {text line : Text} (h : (lines text).getLast? = some line) :
    line.getLast? = text.getLast? := by
  obtain ⟨before, hb⟩ := List.getLast?_eq_some_iff.1 h
  have nonempty : line ≠ [] := ((isCut_lines text).isLine line (by simp [hb])).1
  have joined : before.flatten ++ line = text := by
    rw [← flatten_lines text, hb, List.flatten_append, List.flatten_singleton]
  rw [← joined, List.getLast?_append_of_ne_nil _ nonempty]

/-- Every line of a complete text ends in a line feed. -/
theorem fed_of_mem_lines {text line : Text} (fed : text.getLast? = some '\n')
    (h : line ∈ lines text) : line.getLast? = some '\n' := by
  rcases List.eq_nil_or_concat (lines text) with hl | ⟨before, last, hl⟩
  · rw [hl] at h
    cases h
  · rw [List.concat_eq_append] at hl
    rw [hl] at h
    rcases List.mem_append.1 h with h | h
    · exact (isCut_lines text).ended line (by rwa [hl, List.dropLast_concat])
    · have isLast : (lines text).getLast? = some last := by rw [hl, List.getLast?_concat]
      rw [List.mem_singleton.1 h, getLast?_of_lines isLast, fed]

/-- Complete lines are the first lines of what they begin. -/
theorem lines_append_of_ended {text : Text} (complete : text = [] ∨ text.getLast? = some '\n')
    (rest : Text) : lines (text ++ rest) = lines text ++ lines rest := by
  rcases complete with rfl | fed
  · rfl
  refine isCut_iff.1 ⟨?_, ?_, ?_⟩
  · rw [List.flatten_append, flatten_lines, flatten_lines]
  · intro line h
    rcases List.mem_append.1 h with h | h
    · exact (isCut_lines text).isLine line h
    · exact (isCut_lines rest).isLine line h
  · intro line h
    rcases List.eq_nil_or_concat (lines rest) with hr | ⟨before, last, hr⟩
    · rw [hr, List.append_nil] at h
      exact fed_of_mem_lines fed (List.dropLast_subset _ h)
    · rw [List.dropLast_append_of_ne_nil (by simp [hr])] at h
      rcases List.mem_append.1 h with h | h
      · exact fed_of_mem_lines fed h
      · exact (isCut_lines rest).ended line h

/-- **Two texts keep their lines when they are put together** iff the first one ends in a line
feed or one of them is empty. -/
theorem lines_append_iff {front back : Text} :
    lines (front ++ back) = lines front ++ lines back ↔
      front = [] ∨ back = [] ∨ front.getLast? = some '\n' := by
  constructor
  · intro h
    by_cases hf : front = []
    · exact .inl hf
    by_cases hb : back = []
    · exact .inr (.inl hb)
    -- The last line of the first text is followed by another, so it ends in a line feed.
    obtain ⟨before, last, hl⟩ :=
      (List.eq_nil_or_concat (lines front)).resolve_left (mt lines_eq_nil_iff.1 hf)
    rw [List.concat_eq_append] at hl
    have followed : last ∈ (lines (front ++ back)).dropLast := by
      rw [h, hl, List.append_assoc, List.dropLast_append_of_ne_nil (by simp)]
      refine List.mem_append_right _ ?_
      rw [List.singleton_append, List.dropLast_cons_of_ne_nil (mt lines_eq_nil_iff.1 hb)]
      exact List.mem_cons_self
    have fed := (isCut_lines (front ++ back)).ended last followed
    exact .inr (.inr ((getLast?_of_lines (by simp [hl])).symm.trans fed))
  · rintro (rfl | rfl | fed)
    · rfl
    · rw [List.append_nil, lines, List.append_nil]
    · exact lines_append_of_ended (.inr fed) back

/-- **The lines of a text are its only cut.**  A row of pieces is the lines of a text iff they are
the text when they are joined, none of them is empty, a line feed stands in a piece at its end or
not at all, and every piece but the last has one.  So the empty text and no other has no lines,
the lines are those that come from the pieces between the line feeds, and a text is cut between
two parts iff the first part ends in a line feed or one of them is empty. -/
theorem lines_only_cut (text : Text) :
    (∀ pieces, lines text = pieces ↔ pieces.flatten = text ∧
      (∀ line ∈ pieces, line ≠ [] ∧ '\n' ∉ line.dropLast) ∧
      ∀ line ∈ pieces.dropLast, line.getLast? = some '\n') ∧
    (lines text = [] ↔ text = []) ∧
    lines text = ofPieces (splitAt '\n' text) ∧
    ∀ front back, lines (front ++ back) = lines front ++ lines back ↔
      front = [] ∨ back = [] ∨ front.getLast? = some '\n' := by
  refine ⟨fun pieces => isCut_iff.symm.trans ⟨?_, ?_⟩, lines_eq_nil_iff, lines_eq_ofPieces text,
    fun _ _ => lines_append_iff⟩
  · exact fun cut => ⟨cut.joined, cut.isLine, cut.ended⟩
  · rintro ⟨joined, isLine, ended⟩
    exact ⟨joined, isLine, ended⟩

/-- A carriage return or a separator of paragraphs ends no line. -/
example : lines "a\r\nb\u2029c" = [("a\r\n" : Text), "b\u2029c"] := by decide

end Reimport.Text
