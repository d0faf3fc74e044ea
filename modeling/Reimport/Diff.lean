import Reimport.Diff.Hunk

/-!
# Unified diffs

The unified form of a comparison of two texts: two label lines, then each hunk
under a line that counts its lines on either side.  A kept line is written after
a blank, a removed one after `-` and an added one after `+`.  Lines keep their
breaks, so a text that differs in a line break alone has a difference to show.
-/
namespace Reimport.Diff

/-- The range of a hunk on one side: the number of its first line and, unless it
is one line, how many there are.  An empty range is named by the line before. -/
def range (start length : Nat) : Text :=
  if length = 1 then Text.decimalNat (start + 1)
  else if length = 0 then .join [Text.decimalNat start, ",0"]
  else .join [Text.decimalNat (start + 1), ",", Text.decimalNat length]

/-- The lines of a run, marked by the side they belong to. -/
def Run.marked : Run Text → List Text
  | .kept lines => lines.map (' ' :: ·)
  | .changed removed added => removed.map ('-' :: ·) ++ added.map ('+' :: ·)

/-- The lines of a hunk under its ranges. -/
def Hunk.marked (hunk : Hunk Text) : List Text :=
  .join ["@@ -", range hunk.oldStart hunk.old.length, " +", range hunk.newStart hunk.new.length,
    " @@\n"] :: hunk.runs.flatMap Run.marked

/-- The lines of the unified diff of two lists of lines: none if no hunk is. -/
def unifiedLines (oldLabel newLabel : Text) (old new : List Text) : List Text :=
  match hunks (runs old new) with
  | [] => []
  | hunks =>
    .join ["--- ", oldLabel, "\n"] :: .join ["+++ ", newLabel, "\n"] ::
      hunks.flatMap Hunk.marked

/-- What a comparison of two texts finds. -/
structure Difference where
  /-- The unified diff; nothing if the texts are equal. -/
  diff : Text
  /-- Whether the texts differ. -/
  changed : Bool
  deriving DecidableEq, Repr

/-- Compares two texts character by character and shows how their lines differ. -/
def compare (old new oldLabel newLabel : Text) : Difference :=
  if old = new then ⟨[], false⟩
  else ⟨.join (unifiedLines oldLabel newLabel (Text.brokenLines old) (Text.brokenLines new)), true⟩

end Reimport.Diff
