import Reimport.Diff.Matching
import Reimport.Text.Decimal
import Reimport.Text.Lines

/-!
# Hunks

A comparison of two lists of lines is a list of runs: lines that both sides
keep, and places where lines of the left side are replaced by lines of the right
side.  `runs` reads them off the matching blocks.  A hunk is a stretch of runs
around changes, with up to three kept lines at either end; longer stretches of
kept lines separate two hunks.
-/
namespace Reimport.Diff

variable {α : Type} [DecidableEq α]

/-- A stretch of a comparison. -/
inductive Run (α : Type) where
  /-- Lines of both sides. -/
  | kept (lines : List α)
  /-- Lines of the left side alone, and lines of the right side alone that stand
  in their place. -/
  | changed (removed added : List α)
  deriving Repr

namespace Run

/-- The lines of a run on the left side. -/
def old : Run α → List α
  | .kept lines => lines
  | .changed removed _ => removed

/-- The lines of a run on the right side. -/
def new : Run α → List α
  | .kept lines => lines
  | .changed _ added => added

/-- Whether a run is the same on both sides. -/
def isKept : Run α → Bool
  | .kept _ => true
  | .changed _ _ => false

end Run

/-- The run for lines of the two sides that do not match, if there are any. -/
def changedRun (removed added : List α) : List (Run α) :=
  if removed = [] ∧ added = [] then [] else [.changed removed added]

/-- The runs of the lines `left` and `right`, which begin at the lines `i` and
`j` of their sides, along the matching blocks from there on. -/
def runsFrom (i j : Nat) (left right : List α) : List Block → List (Run α)
  | [] => changedRun left right
  | block :: blocks =>
    let rest := left.drop (block.left - i)
    changedRun (left.take (block.left - i)) (right.take (block.right - j)) ++
      .kept (rest.take block.size) ::
        runsFrom (block.left + block.size) (block.right + block.size) (rest.drop block.size)
          (right.drop (block.right - j + block.size)) blocks

/-- The runs of two lists of lines. -/
def runs (left right : List α) : List (Run α) :=
  runsFrom 0 0 left right (matchingBlocks left right)

/-- A stretch of runs with the number of lines before it on either side. -/
structure Hunk (α : Type) where
  /-- The number of lines on the left before the hunk. -/
  oldStart : Nat
  /-- The number of lines on the right before the hunk. -/
  newStart : Nat
  /-- The runs of the hunk. -/
  runs : List (Run α)
  deriving Repr

namespace Hunk

/-- The lines of a hunk on the left side. -/
def old (hunk : Hunk α) : List α := hunk.runs.flatMap Run.old

/-- The lines of a hunk on the right side. -/
def new (hunk : Hunk α) : List α := hunk.runs.flatMap Run.new

end Hunk

/-- The number of kept lines at either end of a hunk. -/
def context : Nat := 3

/-- The hunk of some runs, if any of them is a change. -/
def hunkOf (oldStart newStart : Nat) (runs : List (Run α)) : List (Hunk α) :=
  if runs.all Run.isKept then [] else [⟨oldStart, newStart, runs⟩]

/-- The hunks of the runs from the lines `i` and `j` on, where `begun` are the
runs of the hunk begun at the lines `oldStart` and `newStart`. -/
def hunksFrom (i j oldStart newStart : Nat) (begun : List (Run α)) :
    List (Run α) → List (Hunk α)
  | [] => hunkOf oldStart newStart begun
  | .kept lines :: rest =>
    let length := lines.length
    if 2 * context < length then
      ⟨oldStart, newStart, begun ++ [.kept (lines.take context)]⟩ ::
        hunksFrom (i + length) (j + length) (i + length - context) (j + length - context)
          [.kept (lines.drop (length - context))] rest
    else hunksFrom (i + length) (j + length) oldStart newStart (begun ++ [.kept lines]) rest
  | .changed removed added :: rest =>
    hunksFrom (i + removed.length) (j + added.length) oldStart newStart
      (begun ++ [.changed removed added]) rest

/-- Runs whose last one, if it is kept, has no more lines than a hunk ends with. -/
def trimEnd : List (Run α) → List (Run α)
  | [] => []
  | [.kept lines] => [.kept (lines.take context)]
  | run :: rest => run :: trimEnd rest

/-- The hunks of a comparison: kept lines before the first and after the last
change are left out but for the nearest ones. -/
def hunks (runs : List (Run α)) : List (Hunk α) :=
  match runs with
  | .kept lines :: rest =>
    let skipped := lines.length - context
    match rest with
    | [] => []
    | _ => hunksFrom lines.length lines.length skipped skipped [.kept (lines.drop skipped)]
        (trimEnd rest)
  | runs => hunksFrom 0 0 0 0 [] (trimEnd runs)

end Reimport.Diff
