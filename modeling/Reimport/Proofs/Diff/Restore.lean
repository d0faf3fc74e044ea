import Reimport.Proofs.Diff.Replay
import Reimport.Proofs.Text.BrokenLines
import Reimport.Proofs.Text.Decimal

/-!
# A diff and its left side determine its right side

A diff is handed on as one text, and nothing in it separates its lines: a line without
a break runs into the one after it.  `restore` reads the right side back all the same.
A kept or removed line is as long as the line of the left side that it repeats.  An
added line ends at its own break; without one it is the last line of the right side,
and because removed lines come before added ones and no change follows a change, it is
the last of the diff as well.  A header ends at its line feed and says where on the
left the next passage begins.

`compare_lossless` puts together what a comparison reports.
-/
namespace Reimport.Diff

/-- The number of lines before a range in print, at the beginning of a text. -/
def startOf (text : Text) : Nat :=
  let first := Text.ofDecimalDigits (text.takeWhile Char.isDigit)
  match text.dropWhile Char.isDigit with
  | ',' :: '0' :: _ => first
  | _ => first - 1

/-- The right side that a diff below its labels shows, where `old` is the left side
from line `i` on. -/
def restoreFrom (i : Nat) (old : List Text) (diff : Text) : Option (List Text) :=
  match diff with
  | [] => some old
  | mark :: rest =>
    if mark = '@' then
      let start := startOf (rest.drop 3)
      (restoreFrom start (old.drop (start - i)) (rest.dropWhile (· ≠ '\n')).tail).map
        (old.take (start - i) ++ ·)
    else if mark = '+' then
      match Text.brokenLines rest with
      | [] => none
      | line :: _ => (restoreFrom i old (rest.drop line.length)).map (line :: ·)
    else match old with
      | [] => none
      | line :: old =>
        (restoreFrom (i + 1) old (rest.drop line.length)).map
          ((if mark = ' ' then [line] else []) ++ ·)
termination_by diff.length
decreasing_by
  · have := (List.dropWhile_sublist (· ≠ '\n') (l := rest)).length_le
    simp only [List.length_tail, List.length_cons]
    omega
  · simp only [List.length_drop, List.length_cons]
    omega
  · simp only [List.length_drop, List.length_cons]
    omega

/-- The right side of a diff with the labels, of the left side `old`. -/
def restore (oldLabel newLabel old diff : Text) : Option Text :=
  if diff = [] then some old
  else (restoreFrom 0 (Text.brokenLines old)
    (diff.drop (labelLines oldLabel newLabel).flatten.length)).map List.flatten

section Reading
variable {i : Nat} {old : List Text} {line text : Text}

theorem restoreFrom_kept : restoreFrom i (line :: old) (' ' :: (line ++ text)) =
    (restoreFrom (i + 1) old text).map (line :: ·) := by
  rw [restoreFrom, if_neg (by decide), if_neg (by decide), List.drop_left]
  rfl

theorem restoreFrom_removed : restoreFrom i (line :: old) ('-' :: (line ++ text)) =
    restoreFrom (i + 1) old text := by
  rw [restoreFrom, if_neg (by decide), if_neg (by decide), List.drop_left]
  exact Option.map_id'

theorem restoreFrom_added (h : Text.brokenLines (line ++ text) = line :: Text.brokenLines text) :
    restoreFrom i old ('+' :: (line ++ text)) = (restoreFrom i old text).map (line :: ·) := by
  rw [restoreFrom.eq_def]
  dsimp only
  rw [if_neg (by decide), if_pos rfl]
  split
  · rename_i hn
    cases h.symm.trans hn
  · rename_i first _ hl
    obtain ⟨rfl, -⟩ := List.cons.inj (h.symm.trans hl)
    rw [List.drop_left]

theorem takeWhile_digits (n : Nat) {c : Char} (hc : c.isDigit = false) (rest : Text) :
    (Text.decimalNat n ++ c :: rest).takeWhile Char.isDigit = Text.decimalNat n := by
  rw [List.takeWhile_append_of_pos fun _ h => Text.isDigit_of_mem_decimalNat h,
    List.takeWhile_cons_of_neg (by rw [hc]; decide), List.append_nil]

theorem dropWhile_digits (n : Nat) {c : Char} (hc : c.isDigit = false) (rest : Text) :
    (Text.decimalNat n ++ c :: rest).dropWhile Char.isDigit = c :: rest := by
  rw [List.dropWhile_append_of_pos fun _ h => Text.isDigit_of_mem_decimalNat h,
    List.dropWhile_cons_of_neg (by rw [hc]; decide)]

/-- A range in print says where it begins. -/
theorem startOf_range (start length : Nat) (rest : Text) :
    startOf (range start length ++ ' ' :: rest) = start := by
  rw [range]
  split
  · rw [startOf, takeWhile_digits _ rfl, dropWhile_digits _ rfl, Text.ofDecimalDigits_decimalNat]
    rfl
  · split
    · have printed : Text.join [Text.decimalNat start, ",0"] ++ ' ' :: rest =
          Text.decimalNat start ++ ',' :: '0' :: ' ' :: rest := by
        simp
      rw [printed, startOf, takeWhile_digits _ rfl, dropWhile_digits _ rfl,
        Text.ofDecimalDigits_decimalNat]
      rfl
    · rename_i nonzero
      obtain ⟨c, digits, he, hc⟩ := Text.decimalNat_eq_cons length
      have notZero : c ≠ '0' := by
        rintro rfl
        exact absurd (hc nonzero) (by decide)
      have printed : Text.join [Text.decimalNat (start + 1), ",", Text.decimalNat length] ++
          ' ' :: rest = Text.decimalNat (start + 1) ++ ',' :: c :: (digits ++ ' ' :: rest) := by
        simp [he]
      rw [printed, startOf, takeWhile_digits _ rfl, dropWhile_digits _ rfl,
        Text.ofDecimalDigits_decimalNat]
      split
      · rename_i hz
        exact absurd (List.cons.inj (List.cons.inj hz).2).1 notZero
      · rfl

theorem mem_range {start length : Nat} {c : Char} (h : c ∈ range start length) :
    c.isDigit = true ∨ c = ',' := by
  have digit : ∀ {n : Nat}, c ∈ Text.decimalNat n → c.isDigit = true ∨ c = ',' :=
    fun h => .inl (Text.isDigit_of_mem_decimalNat h)
  rw [range] at h
  split at h
  · exact digit h
  · split at h
    · simp only [Text.join_cons, Text.join_nil, List.append_nil, List.mem_append] at h
      rcases h with h | h
      · exact digit h
      · rcases List.mem_cons.1 h with rfl | h
        · exact .inr rfl
        · rw [List.mem_singleton.1 h]
          exact .inl rfl
    · simp only [Text.join_cons, Text.join_nil, List.append_nil, List.mem_append] at h
      rcases h with h | h | h
      · exact digit h
      · exact .inr (List.mem_singleton.1 h)
      · exact digit h

/-- A header says where on the left its passage begins and ends at its line feed. -/
theorem restoreFrom_header (passage : Passage) :
    restoreFrom i old (passage.header ++ text) =
      (restoreFrom passage.oldStart (old.drop (passage.oldStart - i)) text).map
        (old.take (passage.oldStart - i) ++ ·) := by
  let line := Text.join ["@ -", range passage.oldStart passage.old.length, " +",
    range passage.newStart passage.new.length, " @@"]
  have printed : passage.header ++ text = '@' :: (line ++ '\n' :: text) := by
    simp [Passage.header, line]
  have begin : ∃ rest, (line ++ '\n' :: text).drop 3 =
      range passage.oldStart passage.old.length ++ ' ' :: rest :=
    ⟨'+' :: (range passage.newStart passage.new.length ++ (" @@" ++ '\n' :: text)), by simp [line]⟩
  have unbroken : ∀ c ∈ line, c ≠ '\n' := by
    have range_unbroken : ∀ {start length : Nat}, ∀ c ∈ range start length, c ≠ '\n' := by
      rintro start length c hc rfl
      exact absurd (mem_range hc) (by decide)
    simp only [line, Text.join_cons, Text.join_nil, List.append_nil, List.forall_mem_append]
    exact ⟨by simp, range_unbroken, by simp, range_unbroken, by simp⟩
  have past : (line ++ '\n' :: text).dropWhile (· ≠ '\n') = '\n' :: text := by
    rw [List.dropWhile_append_of_pos fun c hc => decide_eq_true (unbroken c hc),
      List.dropWhile_cons_of_neg (by decide)]
  obtain ⟨rest, hr⟩ := begin
  rw [printed, restoreFrom.eq_def]
  dsimp only
  rw [if_pos rfl, hr, startOf_range, past, List.tail_cons]

end Reading

section Sides
variable {i j : Nat} {old new : List Text} {text : Text}

theorem flatten_markedLines (mark : Char) (line : Text) (lines : List Text) :
    ((line :: lines).map (mark :: ·)).flatten ++ text =
      mark :: (line ++ ((lines.map (mark :: ·)).flatten ++ text)) := by
  simp

theorem restoreFrom_keptLines (lines : List Text) :
    restoreFrom i (lines ++ old) ((lines.map (' ' :: ·)).flatten ++ text) =
      (restoreFrom (i + lines.length) old text).map (lines ++ ·) := by
  induction lines generalizing i with
  | nil => exact Option.map_id'.symm
  | cons line lines ih =>
    rw [flatten_markedLines, List.cons_append, restoreFrom_kept, ih, Option.map_map,
      List.length_cons, Nat.add_assoc, Nat.add_comm 1]
    rfl

theorem restoreFrom_removedLines (lines : List Text) :
    restoreFrom i (lines ++ old) ((lines.map ('-' :: ·)).flatten ++ text) =
      restoreFrom (i + lines.length) old text := by
  induction lines generalizing i with
  | nil => rfl
  | cons line lines ih =>
    rw [flatten_markedLines, List.cons_append, restoreFrom_removed, ih, List.length_cons,
      Nat.add_assoc, Nat.add_comm 1]

/-- What follows a line of a diff begins with a mark, never with a line feed. -/
theorem head?_markedLines {mark : Char} (hm : mark ≠ '\n') (unfed : text.head? ≠ some '\n')
    (lines : List Text) : ((lines.map (mark :: ·)).flatten ++ text).head? ≠ some '\n' := by
  cases lines with
  | nil => exact unfed
  | cons => exact fun h => hm (Option.some.inj h)

/-- Added lines end at their breaks, the last line of the right side at the end of the
diff. -/
theorem restoreFrom_addedLines {lines : List Text} (broken : Text.IsBroken (lines ++ new))
    (unfed : text.head? ≠ some '\n') (ended : new = [] → text = []) :
    restoreFrom i old ((lines.map ('+' :: ·)).flatten ++ text) =
      (restoreFrom i old text).map (lines ++ ·) := by
  induction lines with
  | nil => exact Option.map_id'.symm
  | cons line lines ih =>
    have notFeed : '+' ≠ '\n' := by decide
    have last : lines ++ new = [] → (lines.map ('+' :: ·)).flatten ++ text = [] := by
      intro hn
      obtain ⟨rfl, hn⟩ := List.append_eq_nil_iff.1 hn
      exact ended hn
    have first := broken.first (head?_markedLines notFeed unfed lines) last
    rw [flatten_markedLines, restoreFrom_added first, ih broken.tail, Option.map_map]
    rfl

theorem head?_marked (unfed : text.head? ≠ some '\n') (runs : List (Run Text)) :
    ((runs.flatMap Run.marked).flatten ++ text).head? ≠ some '\n' := by
  induction runs with
  | nil => exact unfed
  | cons run runs ih =>
    rw [List.flatMap_cons, List.flatten_append, List.append_assoc]
    cases run with
    | kept => exact head?_markedLines (by decide) ih _
    | changed =>
      rw [Run.marked, List.flatten_append, List.append_assoc]
      exact head?_markedLines (by decide) (head?_markedLines (by decide) ih _) _

/-- The lines of a hunk are read back, whatever follows them. -/
theorem restoreFrom_runs {runs : List (Run Text)} (separated : Separated runs)
    (broken : Text.IsBroken (newOf runs ++ new)) (unfed : text.head? ≠ some '\n')
    (ended : new = [] → text = []) :
    restoreFrom i (oldOf runs ++ old) ((runs.flatMap Run.marked).flatten ++ text) =
      (restoreFrom (i + (oldOf runs).length) old text).map (newOf runs ++ ·) := by
  induction runs generalizing i with
  | nil => exact Option.map_id'.symm
  | cons run runs ih =>
    rw [newOf_cons, List.append_assoc] at broken
    have rest : ∀ k, restoreFrom k (oldOf runs ++ old) _ = _ :=
      fun k => ih separated.tail broken.of_append
    rw [List.flatMap_cons, List.flatten_append, oldOf_cons, newOf_cons, List.append_assoc,
      List.append_assoc, List.length_append, ← Nat.add_assoc]
    cases run with
    | kept lines =>
      rw [Run.marked, Run.old, Run.new, restoreFrom_keptLines, rest, Option.map_map]
      congr 1
      exact funext fun tail => (List.append_assoc _ _ _).symm
    | changed removed added =>
      have broken : Text.IsBroken (added ++ (newOf runs ++ new)) := broken
      have last : newOf runs ++ new = [] → (runs.flatMap Run.marked).flatten ++ text = [] := by
        intro hn
        obtain ⟨hr, hn⟩ := List.append_eq_nil_iff.1 hn
        rw [separated.eq_nil hr, ended hn]
        rfl
      rw [Run.marked, Run.old, Run.new, List.flatten_append, List.append_assoc,
        restoreFrom_removedLines, restoreFrom_addedLines broken (head?_marked unfed runs) last,
        rest, Option.map_map]
      congr 1
      exact funext fun tail => (List.append_assoc _ _ _).symm

/-- The text of passages that lie over two sides is read back. -/
theorem restoreFrom_laid {hunks : List (Hunk Text)} (h : Laid i j old new hunks)
    (broken : Text.IsBroken new) :
    restoreFrom i old ((hunks.map Hunk.passage).flatMap Passage.printed).flatten = some new := by
  induction h with
  | shared i j lines =>
    rw [restoreFrom.eq_def]
    rfl
  | @hunk i j lines runs old new hunks separated more _ ih =>
    have rest := ih broken.of_append.of_append
    generalize ht : ((hunks.map Hunk.passage).flatMap Passage.printed).flatten = text at rest
    have unfed : text.head? ≠ some '\n' := by
      rw [← ht]
      cases hunks with
      | nil => exact fun h => (nomatch h)
      | cons => exact fun h => absurd (Option.some.inj h) (by decide)
    have ended : new = [] → text = [] := by
      intro hn
      rcases more with rfl | ⟨-, some⟩
      · exact ht.symm
      · exact absurd hn some
    rw [List.map_cons, List.flatMap_cons, List.flatten_append, ht, Passage.printed,
      List.flatten_cons, List.append_assoc, restoreFrom_header]
    simp only [Hunk.passage]
    rw [Nat.add_sub_cancel_left, List.drop_left, List.take_left,
      restoreFrom_runs separated broken.of_append unfed ended, rest]
    rfl

end Sides

section Texts
variable {old new : Text}

theorem compare_of_ne (h : old ≠ new) (oldLabel newLabel : Text) :
    compare old new oldLabel newLabel =
      ⟨.join (labelLines oldLabel newLabel ++
        (passages (Text.brokenLines old) (Text.brokenLines new)).flatMap Passage.printed), true⟩ := by
  rw [compare, if_neg h, unifiedLines_eq _ _ fun he => h (Text.brokenLines_injective he)]

/-- A diff is empty if there is nothing to show. -/
theorem diff_eq_nil_iff {oldLabel newLabel : Text} :
    (compare old new oldLabel newLabel).diff = [] ↔ old = new := by
  refine ⟨fun hd => Decidable.byContradiction fun hne => ?_, fun he => ?_⟩
  · rw [compare_of_ne hne] at hd
    cases hd
  · rw [compare, if_pos he]

theorem changed_iff {oldLabel newLabel : Text} :
    (compare old new oldLabel newLabel).changed = true ↔ old ≠ new := by
  rw [compare]
  split
  · rename_i he
    exact ⟨fun h => (nomatch h), fun h => absurd he h⟩
  · rename_i hne
    exact ⟨fun _ => hne, fun _ => rfl⟩

/-- **A diff and its left side give the right side back.** -/
theorem restore_compare (old new oldLabel newLabel : Text) :
    restore oldLabel newLabel old (compare old new oldLabel newLabel).diff = some new := by
  by_cases he : old = new
  · rw [restore, if_pos (diff_eq_nil_iff.2 he), he]
  · have laid := laid_hunks (separated_runs (Text.brokenLines old) (Text.brokenLines new))
    rw [oldOf_runs, newOf_runs] at laid
    rw [restore, if_neg fun hn => he (diff_eq_nil_iff.1 hn), compare_of_ne he, Text.join,
      List.flatten_append, List.drop_left, passages,
      restoreFrom_laid laid (Text.isBroken_brokenLines new), Option.map_some,
      Text.flatten_brokenLines]

/-- A line without a break runs into the next one in print and is read back by its
length. -/
example : restore "old" "new" "a" "--- old\n+++ new\n@@ -1 +1,2 @@\n-a+a\n+b" =
    some ['a', '\n', 'b'] := by
  cbv

/-- A comparison of two texts, told by its diff. -/
structure Lossless (old new oldLabel newLabel : Text) : Prop where
  /-- The texts are reported as changed if they differ. -/
  changed : (compare old new oldLabel newLabel).changed = true ↔ old ≠ new
  /-- There is no diff only if they do not. -/
  empty : (compare old new oldLabel newLabel).diff = [] ↔ old = new
  /-- The diff is its lines, which are the labels and passages; the passages replay the
  lines of the left text to those of the right one, and back. -/
  replayed : old ≠ new → ∃ shown : List Passage, shown ≠ [] ∧
    (∀ passage ∈ shown, passage.Marked) ∧
    (compare old new oldLabel newLabel).diff = Text.join
      (unifiedLines oldLabel newLabel (Text.brokenLines old) (Text.brokenLines new)) ∧
    unifiedLines oldLabel newLabel (Text.brokenLines old) (Text.brokenLines new) =
      labelLines oldLabel newLabel ++ shown.flatMap Passage.printed ∧
    replay 0 0 (Text.brokenLines old) (shown.map Passage.edit) = some (Text.brokenLines new) ∧
    replay 0 0 (Text.brokenLines new) (shown.map (Edit.back ∘ Passage.edit)) =
      some (Text.brokenLines old)
  /-- The diff and the left text give the right text. -/
  restored : restore oldLabel newLabel old (compare old new oldLabel newLabel).diff = some new
  /-- No other text has the same diff. -/
  determined : ∀ other : Text,
    (compare old other oldLabel newLabel).diff = (compare old new oldLabel newLabel).diff →
      other = new

/-- **A diff loses nothing.** -/
theorem compare_lossless (old new oldLabel newLabel : Text) :
    Lossless old new oldLabel newLabel where
  changed := changed_iff
  empty := diff_eq_nil_iff
  replayed := by
    intro hne
    have lines : Text.brokenLines old ≠ Text.brokenLines new :=
      fun he => hne (Text.brokenLines_injective he)
    refine ⟨passages (Text.brokenLines old) (Text.brokenLines new), ?_, ?_, ?_,
      unifiedLines_eq _ _ lines, ?_, ?_⟩
    · exact fun hn => hunks_ne_nil lines (List.map_eq_nil_iff.1 hn)
    · intro passage hm
      obtain ⟨hunk, -, rfl⟩ := List.mem_map.1 hm
      exact hunk.marked_passage
    · rw [compare, if_neg hne]
    · rw [map_edit_passages]
      exact replay_hunks _ _
    · rw [← List.map_map, map_edit_passages, List.map_map]
      exact replay_back_hunks _ _
  restored := restore_compare old new oldLabel newLabel
  determined := by
    intro other he
    have read := restore_compare old other oldLabel newLabel
    rw [he, restore_compare] at read
    exact (Option.some.inj read).symm

end Texts

end Reimport.Diff
