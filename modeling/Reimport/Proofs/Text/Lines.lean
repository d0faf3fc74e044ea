import Reimport.Text.Lines

/-!
# Lines end at line feeds only

A cut of a text says what its lines are without saying how they are found: the
pieces are the text when they are joined, a line feed stands in a piece at its end
or not at all, and every piece but the last has one.  A text has one such cut and
`lines` gives it (`isCut_iff`), so no other character ends a line and nothing is
lost, whether or not the text ends with a line feed.
-/
namespace Reimport.Text

/-- One line: at least one character, and no line feed but at the end. -/
def IsLine (line : Text) : Prop := line ≠ [] ∧ '\n' ∉ line.dropLast

/-- The pieces are the lines of a text. -/
structure IsCut (text : Text) (pieces : List Text) : Prop where
  joined : pieces.flatten = text
  isLine : ∀ line ∈ pieces, IsLine line
  ended : ∀ line ∈ pieces.dropLast, line.getLast? = some '\n'

theorem IsLine.tail {c d : Char} {line : Text} (h : IsLine (c :: d :: line)) :
    c ≠ '\n' ∧ IsLine (d :: line) := by
  obtain ⟨-, hd⟩ := h
  rw [List.dropLast_cons_cons, List.mem_cons, not_or] at hd
  exact ⟨Ne.symm hd.1, List.cons_ne_nil _ _, hd.2⟩

theorem isLine_cons {c : Char} {line : Text} (hc : c ≠ '\n') (h : IsLine line) :
    IsLine (c :: line) := by
  refine ⟨List.cons_ne_nil _ _, ?_⟩
  rw [List.dropLast_cons_of_ne_nil h.1, List.mem_cons, not_or]
  exact ⟨hc.symm, h.2⟩

theorem isLine_singleton (c : Char) : IsLine [c] := ⟨List.cons_ne_nil _ _, List.not_mem_nil⟩

theorem isCut_nil : IsCut [] [] :=
  ⟨rfl, fun _ h => (nomatch h), fun _ h => (nomatch h)⟩

theorem IsCut.cons {line text : Text} {pieces : List Text} (hline : IsLine line)
    (ended : line.getLast? = some '\n') (h : IsCut text pieces) :
    IsCut (line ++ text) (line :: pieces) := by
  refine ⟨by rw [List.flatten_cons, h.joined], ?_, ?_⟩
  · intro other hm
    rcases List.mem_cons.1 hm with rfl | hm
    · exact hline
    · exact h.isLine other hm
  · intro other hm
    rcases List.eq_nil_or_concat pieces with rfl | ⟨_, _, hp⟩
    · cases hm
    · have ne : pieces ≠ [] := by simp [hp]
      rw [List.dropLast_cons_of_ne_nil ne] at hm
      rcases List.mem_cons.1 hm with rfl | hm
      · exact ended
      · exact h.ended other hm

theorem IsCut.cons_char {c : Char} {line text : Text} {more : List Text} (hc : c ≠ '\n')
    (h : IsCut text (line :: more)) : IsCut (c :: text) ((c :: line) :: more) := by
  have hline := h.isLine line List.mem_cons_self
  refine ⟨by rw [← h.joined]; rfl, ?_, ?_⟩
  · intro other hm
    rcases List.mem_cons.1 hm with rfl | hm
    · exact isLine_cons hc hline
    · exact h.isLine other (List.mem_cons_of_mem _ hm)
  · intro other hm
    cases more with
    | nil => cases hm
    | cons next more =>
      rw [List.dropLast_cons_cons] at hm
      rcases List.mem_cons.1 hm with rfl | hm
      · have := h.ended line (by rw [List.dropLast_cons_cons]; exact List.mem_cons_self)
        rw [List.getLast?_cons, this]
        rfl
      · exact h.ended other (by
          rw [List.dropLast_cons_cons]
          exact List.mem_cons_of_mem _ hm)

theorem isCut_lines (text : Text) : IsCut text (lines text) := by
  fun_induction lines text with
  | case1 => exact isCut_nil
  | case2 rest ih => exact ih.cons (isLine_singleton _) rfl
  | case3 c rest hc hl ih =>
    rw [hl] at ih
    have hr : rest = [] := by rw [← ih.joined]; rfl
    subst hr
    refine ⟨rfl, ?_, fun _ h => (nomatch h)⟩
    intro line hm
    rw [List.mem_singleton.1 hm]
    exact isLine_singleton c
  | case4 c rest hc line more hl ih =>
    rw [hl] at ih
    exact ih.cons_char hc

/-- A line with its line feed is the first line of what it begins. -/
theorem lines_append {line : Text} (hline : IsLine line) (ended : line.getLast? = some '\n')
    (rest : Text) : lines (line ++ rest) = line :: lines rest := by
  induction line with
  | nil => exact absurd rfl hline.1
  | cons c line ih =>
    cases line with
    | nil =>
      have hc : c = '\n' := Option.some.inj ended
      subst hc
      simp [lines]
    | cons d line =>
      obtain ⟨hc, hrest⟩ := hline.tail
      have he : (d :: line).getLast? = some '\n' := by
        rw [List.getLast?_cons_cons] at ended
        exact ended
      rw [List.cons_append, lines, if_neg hc, ih hrest he]

theorem lines_of_isLine {line : Text} (hline : IsLine line) : lines line = [line] := by
  induction line with
  | nil => exact absurd rfl hline.1
  | cons c line ih =>
    cases line with
    | nil => by_cases hc : c = '\n' <;> simp [lines, hc]
    | cons d line =>
      obtain ⟨hc, hrest⟩ := hline.tail
      rw [lines, if_neg hc, ih hrest]

theorem IsCut.lines_eq {text : Text} {pieces : List Text} (h : IsCut text pieces) :
    lines text = pieces := by
  induction pieces generalizing text with
  | nil =>
    rw [← h.joined]
    rfl
  | cons line more ih =>
    have hline := h.isLine line List.mem_cons_self
    cases more with
    | nil =>
      rw [← h.joined, List.flatten_cons, List.flatten_nil, List.append_nil]
      exact lines_of_isLine hline
    | cons next more =>
      have he := h.ended line (by rw [List.dropLast_cons_cons]; exact List.mem_cons_self)
      -- A line that is not the last ends with its line feed, so the cut goes on behind it.
      have hrest : IsCut (next :: more).flatten (next :: more) := by
        refine ⟨rfl, fun other hm => h.isLine other (List.mem_cons_of_mem _ hm), ?_⟩
        intro other hm
        apply h.ended other
        rw [List.dropLast_cons_cons]
        exact List.mem_cons_of_mem _ hm
      rw [← h.joined, List.flatten_cons, lines_append hline he, ih hrest]

/-- **A text has one cut into lines.** -/
theorem isCut_iff {text : Text} {pieces : List Text} :
    IsCut text pieces ↔ lines text = pieces := by
  refine ⟨IsCut.lines_eq, ?_⟩
  rintro rfl
  exact isCut_lines text

end Reimport.Text
