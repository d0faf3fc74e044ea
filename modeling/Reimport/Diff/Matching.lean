/-!
# Matching blocks

Two lists of lines are aligned by their matching blocks: runs of equal lines in
both, in the same order on both sides.  The longest block comes first, the one
that begins earliest on the left and then on the right among several, and what
is before and after it is aligned in the same way.

Lines that occur very often on the right say little about where a block is.
When the right side has two hundred lines or more, a line that makes up more
than a hundredth of them takes no part in the search; it still extends a block
that was found next to it.
-/
namespace Reimport.Diff

/-- A run of equal lines: where it begins on either side, and its length. -/
structure Block where
  /-- The first line on the left. -/
  left : Nat
  /-- The first line on the right. -/
  right : Nat
  /-- The number of lines. -/
  size : Nat
  deriving DecidableEq, Repr

/-- A range of lines on either side, ends excluded. -/
structure Window where
  /-- The first line on the left. -/
  leftStart : Nat
  /-- The line after the last on the left. -/
  leftStop : Nat
  /-- The first line on the right. -/
  rightStart : Nat
  /-- The line after the last on the right. -/
  rightStop : Nat
  deriving DecidableEq, Repr

variable {α : Type} [DecidableEq α]

/-- The elements of a list from `start` up to `stop`. -/
def slice (xs : List α) (start stop : Nat) : List α := (xs.drop start).take (stop - start)

/-- The length of the longest common beginning of two lists. -/
def commonLength : List α → List α → Nat
  | x :: xs, y :: ys => if x = y then commonLength xs ys + 1 else 0
  | _, _ => 0

/-- The least number of lines on the right from which on frequent lines are left
out of the search. -/
def popularFrom : Nat := 200

/-- Whether a line is too frequent among `lines` to be searched for. -/
def isPopular (lines : List α) (line : α) : Bool :=
  popularFrom ≤ lines.length && lines.length / 100 + 1 < lines.count line

/-- The positions of a line among lines that are counted from `start` on. -/
def positions (line : α) (start : Nat) : List α → List Nat
  | [] => []
  | other :: rest =>
    if other = line then start :: positions line (start + 1) rest
    else positions line (start + 1) rest

/-- For each line on the left, the lines on the right where a block through it
may be searched. -/
def candidates (left right : List α) : List (List Nat) :=
  left.map fun line => if isPopular right line then [] else positions line 0 right

/-- The lengths of the runs that end at one line on the left, by the line on the
right where they end, from those that end at the line before. -/
def nextRuns (before : List (Nat × Nat)) (ends : List Nat) : List (Nat × Nat) :=
  ends.map fun j => (j, (if j = 0 then 0 else (before.lookup (j - 1)).getD 0) + 1)

/-- The longer of the best block so far and the runs that end at line `i` on the
left; the one found first wins a tie. -/
def better (i : Nat) (best : Block) (runs : List (Nat × Nat)) : Block :=
  runs.foldl (fun best run =>
    if best.size < run.2 then ⟨i + 1 - run.2, run.1 + 1 - run.2, run.2⟩ else best) best

/-- The longest run through the candidates of the lines from `i` on. -/
def longestRun (window : Window) (i : Nat) (before : List (Nat × Nat)) (best : Block) :
    List (List Nat) → Block
  | [] => best
  | ends :: rest =>
    let inside := ends.filter fun j => window.rightStart ≤ j && j < window.rightStop
    let runs := nextRuns before inside
    longestRun window (i + 1) runs (better i best runs) rest

/-- A block made longer at both ends by all equal lines next to it. -/
def extend (left right : List α) (window : Window) (block : Block) : Block :=
  let before := commonLength (slice left window.leftStart block.left).reverse
    (slice right window.rightStart block.right).reverse
  let after := commonLength (slice left (block.left + block.size) window.leftStop)
    (slice right (block.right + block.size) window.rightStop)
  ⟨block.left - before, block.right - before, before + block.size + after⟩

/-- The longest block in a window; of no length where nothing matches. -/
def longestBlock (left right : List α) (ends : List (List Nat)) (window : Window) : Block :=
  extend left right window <|
    longestRun window window.leftStart [] ⟨window.leftStart, window.rightStart, 0⟩
      (slice ends window.leftStart window.leftStop)

/-- The blocks of a window in order.  A window without a block ends the search,
and so would a block outside the window. -/
def blocksIn (left right : List α) (ends : List (List Nat)) (window : Window) : List Block :=
  let block := longestBlock left right ends window
  if _h : 0 < block.size ∧ window.leftStart ≤ block.left ∧
      block.left + block.size ≤ window.leftStop then
    let before : Window := ⟨window.leftStart, block.left, window.rightStart, block.right⟩
    let after : Window := ⟨block.left + block.size, window.leftStop,
      block.right + block.size, window.rightStop⟩
    blocksIn left right ends before ++ block :: blocksIn left right ends after
  else []
termination_by window.leftStop - window.leftStart
decreasing_by
  all_goals
    obtain ⟨_, _, _⟩ := _h
    simp only [block] at *
    omega

/-- Neighbouring blocks that touch on both sides as one. -/
def mergeBlocks : List Block → List Block
  | [] => []
  | block :: rest =>
    match mergeBlocks rest with
    | [] => [block]
    | next :: more =>
      if block.left + block.size = next.left ∧ block.right + block.size = next.right then
        ⟨block.left, block.right, block.size + next.size⟩ :: more
      else block :: next :: more

/-- The matching blocks of two lists of lines, in order, none touching the next
on both sides. -/
def matchingBlocks (left right : List α) : List Block :=
  mergeBlocks (blocksIn left right (candidates left right)
    ⟨0, left.length, 0, right.length⟩)

end Reimport.Diff
