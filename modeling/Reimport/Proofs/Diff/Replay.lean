import Reimport.Diff
import Reimport.Proofs.Diff.Layout

/-!
# A unified diff can be replayed

A hunk is an edit: at a line of either side, some lines of the one stand for some
lines of the other.  `replay` carries out edits on the left side as a patch tool
would, copying the lines between them; an edit that comes too early, does not find
its lines or does not agree with the line numbers of the other side fails.  The hunks
of a comparison replay to the right side (`replay_hunks`) and, turned around, from the
right side to the left one (`replay_back_hunks`).

In print an edit is a `Passage`: its lines under marks, below a header whose two
ranges count those lines.  `unifiedLines_eq` reads the lines of a diff as passages, so
the ranges and the lines that they count can be taken from the print alone.
-/
namespace Reimport.Diff

/-- Lines of the left side and the lines of the right side that stand for them. -/
structure Edit (α : Type) where
  /-- The number of lines on the left before the edit. -/
  oldStart : Nat
  /-- The number of lines on the right before the edit. -/
  newStart : Nat
  /-- The lines on the left. -/
  old : List α
  /-- The lines on the right. -/
  new : List α
  deriving DecidableEq, Repr

section Edits
variable {α : Type}

namespace Edit

/-- The edit from the right side to the left one. -/
def back (edit : Edit α) : Edit α := ⟨edit.newStart, edit.oldStart, edit.new, edit.old⟩

/-- An edit can be carried out on `lines`, the left side from line `i` on, when line
`j` is next on the right. -/
def Applies (i j : Nat) (lines : List α) (edit : Edit α) : Prop :=
  i ≤ edit.oldStart ∧ edit.newStart = j + (edit.oldStart - i) ∧
    edit.oldStart - i ≤ lines.length ∧
    (lines.drop (edit.oldStart - i)).take edit.old.length = edit.old

instance [DecidableEq α] (i j : Nat) (lines : List α) (edit : Edit α) :
    Decidable (edit.Applies i j lines) :=
  inferInstanceAs (Decidable (_ ∧ _ ∧ _ ∧ _))

end Edit

/-- The right side from line `j` on, by the edits of the left side from line `i` on. -/
def replay [DecidableEq α] (i j : Nat) (lines : List α) : List (Edit α) → Option (List α)
  | [] => some lines
  | edit :: edits =>
    if edit.Applies i j lines then
      (replay (edit.oldStart + edit.old.length) (edit.newStart + edit.new.length)
        (lines.drop (edit.oldStart - i + edit.old.length)) edits).map
          (lines.take (edit.oldStart - i) ++ edit.new ++ ·)
    else none

/-- The edit of a hunk. -/
def Hunk.edit (hunk : Hunk α) : Edit α :=
  ⟨hunk.oldStart, hunk.newStart, oldOf hunk.runs, newOf hunk.runs⟩

theorem Hunk.edit_flip (hunk : Hunk α) : hunk.flip.edit = hunk.edit.back := by
  simp only [Hunk.flip, Hunk.edit, Edit.back, oldOf_map_flip, newOf_map_flip]

variable [DecidableEq α] {i j : Nat} {old new : List α} {hunks : List (Hunk α)}

theorem Laid.replay (h : Laid i j old new hunks) :
    replay i j old (hunks.map Hunk.edit) = some new := by
  induction h with
  | shared => rfl
  | @hunk i j lines runs old new hunks _ _ _ ih =>
    have skipped : i + lines.length - i = lines.length := Nat.add_sub_cancel_left _ _
    have applies : Edit.Applies i j (lines ++ (oldOf runs ++ old))
        ⟨i + lines.length, j + lines.length, oldOf runs, newOf runs⟩ := by
      refine ⟨Nat.le_add_right _ _, ?_, ?_, ?_⟩
      · show j + lines.length = j + (i + lines.length - i)
        rw [skipped]
      · show i + lines.length - i ≤ (lines ++ (oldOf runs ++ old)).length
        rw [skipped, List.length_append]
        exact Nat.le_add_right _ _
      · show ((lines ++ (oldOf runs ++ old)).drop (i + lines.length - i)).take _ = oldOf runs
        rw [skipped, List.drop_left, List.take_left]
    have past : (lines ++ (oldOf runs ++ old)).drop (lines.length + (oldOf runs).length) = old := by
      rw [← List.drop_drop, List.drop_left, List.drop_left]
    rw [List.map_cons, Diff.replay, Hunk.edit, if_pos applies]
    simp only [skipped, past, ih, List.take_left, Option.map_some, List.append_assoc]

/-- **The hunks of a comparison replay the left side to the right one.** -/
theorem replay_hunks (old new : List α) :
    replay 0 0 old ((Diff.hunks (runs old new)).map Hunk.edit) = some new := by
  have laid := laid_hunks (separated_runs old new)
  rw [oldOf_runs, newOf_runs] at laid
  exact laid.replay

/-- **The hunks of a comparison, turned around, replay the right side to the left
one.** -/
theorem replay_back_hunks (old new : List α) :
    replay 0 0 new ((Diff.hunks (runs old new)).map (Edit.back ∘ Hunk.edit)) = some old := by
  have laid := laid_hunks (separated_runs old new)
  rw [oldOf_runs, newOf_runs] at laid
  have flipped : Hunk.edit ∘ Hunk.flip = Edit.back ∘ Hunk.edit :=
    funext fun hunk : Hunk α => hunk.edit_flip
  rw [← flipped, ← List.map_map]
  exact laid.flip.replay

/-- Different sides have a hunk. -/
theorem hunks_ne_nil (h : old ≠ new) : Diff.hunks (runs old new) ≠ [] := by
  intro hn
  have laid := laid_hunks (separated_runs old new)
  rw [hn, oldOf_runs, newOf_runs] at laid
  exact h laid.eq_of_nil

end Edits

/-- An edit in print: where it is on either side, and its marked lines. -/
structure Passage where
  /-- The number of lines on the left before the passage. -/
  oldStart : Nat
  /-- The number of lines on the right before the passage. -/
  newStart : Nat
  /-- The lines, each after its mark. -/
  body : List Text
  deriving DecidableEq, Repr

namespace Passage

/-- A line without its mark, if that is a blank or `mark`. -/
def unmarked (mark : Char) : Text → Option Text
  | [] => none
  | c :: line => if c = ' ' ∨ c = mark then some line else none

/-- The lines of the left side: those after a blank or `-`. -/
def old (passage : Passage) : List Text := passage.body.filterMap (unmarked '-')

/-- The lines of the right side: those after a blank or `+`. -/
def new (passage : Passage) : List Text := passage.body.filterMap (unmarked '+')

/-- The edit that a passage shows. -/
def edit (passage : Passage) : Edit Text :=
  ⟨passage.oldStart, passage.newStart, passage.old, passage.new⟩

/-- The line above a passage: the ranges of its lines on either side. -/
def header (passage : Passage) : Text :=
  .join ["@@ -", range passage.oldStart passage.old.length, " +",
    range passage.newStart passage.new.length, " @@\n"]

/-- The lines of a passage in print. -/
def printed (passage : Passage) : List Text := passage.header :: passage.body

/-- Every line has a mark. -/
def Marked (passage : Passage) : Prop :=
  ∀ line ∈ passage.body, ∃ mark rest, line = mark :: rest ∧
    (mark = ' ' ∨ mark = '-' ∨ mark = '+')

end Passage

/-- The passage that prints a hunk. -/
def Hunk.passage (hunk : Hunk Text) : Passage :=
  ⟨hunk.oldStart, hunk.newStart, hunk.runs.flatMap Run.marked⟩

section Print

theorem filterMap_unmarked_of_eq {mark c : Char} (h : c = ' ' ∨ c = mark) (lines : List Text) :
    (lines.map (c :: ·)).filterMap (Passage.unmarked mark) = lines := by
  induction lines with
  | nil => rfl
  | cons line lines ih =>
    rw [List.map_cons, List.filterMap_cons_some (by rw [Passage.unmarked, if_pos h]), ih]

theorem filterMap_unmarked_of_ne {mark c : Char} (h : ¬(c = ' ' ∨ c = mark))
    (lines : List Text) : (lines.map (c :: ·)).filterMap (Passage.unmarked mark) = [] := by
  induction lines with
  | nil => rfl
  | cons line lines ih =>
    rw [List.map_cons, List.filterMap_cons_none (by rw [Passage.unmarked, if_neg h]), ih]

theorem old_marked (runs : List (Run Text)) :
    (runs.flatMap Run.marked).filterMap (Passage.unmarked '-') = oldOf runs := by
  induction runs with
  | nil => rfl
  | cons run runs ih =>
    rw [List.flatMap_cons, List.filterMap_append, ih, oldOf_cons]
    cases run with
    | kept lines => rw [Run.marked, filterMap_unmarked_of_eq (.inl rfl), Run.old]
    | changed removed added =>
      rw [Run.marked, List.filterMap_append, filterMap_unmarked_of_eq (.inr rfl),
        filterMap_unmarked_of_ne (by decide), List.append_nil, Run.old]

theorem new_marked (runs : List (Run Text)) :
    (runs.flatMap Run.marked).filterMap (Passage.unmarked '+') = newOf runs := by
  induction runs with
  | nil => rfl
  | cons run runs ih =>
    rw [List.flatMap_cons, List.filterMap_append, ih, newOf_cons]
    cases run with
    | kept lines => rw [Run.marked, filterMap_unmarked_of_eq (.inl rfl), Run.new]
    | changed removed added =>
      rw [Run.marked, List.filterMap_append, filterMap_unmarked_of_ne (by decide),
        filterMap_unmarked_of_eq (.inr rfl), List.nil_append, Run.new]

namespace Hunk
variable (hunk : Hunk Text)

/-- The lines in print are those of the hunk. -/
theorem edit_passage : hunk.passage.edit = hunk.edit := by
  simp only [Passage.edit, Passage.old, Passage.new, passage, old_marked, new_marked, edit]

theorem printed_passage : hunk.passage.printed = hunk.marked := by
  simp only [Passage.printed, Passage.header, Passage.old, Passage.new, passage, old_marked,
    new_marked, marked, old, new, oldOf, newOf]

theorem marked_passage : hunk.passage.Marked := by
  intro line hm
  obtain ⟨run, -, hr⟩ := List.mem_flatMap.1 hm
  cases run with
  | kept lines =>
    obtain ⟨line, -, rfl⟩ := List.mem_map.1 hr
    exact ⟨' ', line, rfl, .inl rfl⟩
  | changed removed added =>
    rcases List.mem_append.1 hr with hr | hr
    · obtain ⟨line, -, rfl⟩ := List.mem_map.1 hr
      exact ⟨'-', line, rfl, .inr (.inl rfl)⟩
    · obtain ⟨line, -, rfl⟩ := List.mem_map.1 hr
      exact ⟨'+', line, rfl, .inr (.inr rfl)⟩

end Hunk

/-- The two lines above a diff. -/
def labelLines (oldLabel newLabel : Text) : List Text :=
  [.join ["--- ", oldLabel, "\n"], .join ["+++ ", newLabel, "\n"]]

/-- The passages of the diff of two lists of lines. -/
def passages (old new : List Text) : List Passage := (hunks (runs old new)).map Hunk.passage

/-- **The lines of a diff are the label lines and the passages.** -/
theorem unifiedLines_eq (oldLabel newLabel : Text) {old new : List Text} (h : old ≠ new) :
    unifiedLines oldLabel newLabel old new =
      labelLines oldLabel newLabel ++ (passages old new).flatMap Passage.printed := by
  have printed : (passages old new).flatMap Passage.printed =
      (hunks (runs old new)).flatMap Hunk.marked := by
    rw [passages, List.flatMap_map]
    exact congrArg (List.flatMap · _) (funext Hunk.printed_passage)
  rw [unifiedLines, printed]
  split
  · rename_i hn
    exact absurd hn (hunks_ne_nil h)
  · rfl

theorem map_edit_passages (old new : List Text) :
    (passages old new).map Passage.edit = (hunks (runs old new)).map Hunk.edit := by
  rw [passages, List.map_map]
  exact congrArg (List.map · _) (funext Hunk.edit_passage)

end Print

end Reimport.Diff
