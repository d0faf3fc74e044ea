import Reimport.Text

/-!
# Lines

Two ways to cut a text into lines, both keeping each line's terminator with it.

* `lines` ends a line at a line feed and nowhere else.  Sources handed to a
  compiler are cut this way, because a carriage return, a form feed or a Unicode
  separator inside a line belongs to the source.
* `brokenLines` ends a line at every line break that Unicode-aware text tools
  know: LF, CR, CR LF taken together, VT, FF, the three separators
  U+001C–U+001E, U+0085, U+2028 and U+2029.  Diffs are computed on these lines.

Joining the lines gives the text back in both cases (`flatten_lines`,
`flatten_brokenLines`).
-/
namespace Reimport.Text

/-- The lines of a text, each with its line feed; only the last may lack one. -/
def lines : Text → List Text
  | [] => []
  | c :: rest =>
    if c = '\n' then [c] :: lines rest
    else match lines rest with
      | [] => [[c]]
      | line :: more => (c :: line) :: more

/-- **The lines are the text**: nothing is dropped, added or moved. -/
theorem flatten_lines (text : Text) : (lines text).flatten = text := by
  induction text with
  | nil => rfl
  | cons c rest ih =>
    simp only [lines]
    split
    · simp [ih]
    · split
      · rename_i h; rw [h] at ih; simpa using ih
      · rename_i h; rw [h] at ih; simpa using ih

/-- A character that ends a line, other than the pair CR LF. -/
def isLineBreak (c : Char) : Bool :=
  c = '\n' || c = '\r' || c = '\x0b' || c = '\x0c' || c = '\x1c' || c = '\x1d' || c = '\x1e' ||
    c = '\u0085' || c = '\u2028' || c = '\u2029'

/-- The lines of a text under the wide notion of a line break, terminators kept. -/
def brokenLines : Text → List Text
  | [] => []
  | '\r' :: '\n' :: rest => ['\r', '\n'] :: brokenLines rest
  | c :: rest =>
    if isLineBreak c then [c] :: brokenLines rest
    else match brokenLines rest with
      | [] => [[c]]
      | line :: more => (c :: line) :: more

theorem flatten_brokenLines (text : Text) : (brokenLines text).flatten = text := by
  fun_induction brokenLines text with
  | case1 => rfl
  | case2 rest ih => simp [ih]
  | case3 c rest _ hc ih => simp [ih]
  | case4 c rest _ hc h ih => rw [h] at ih; simpa using ih
  | case5 c rest _ hc line more h ih => rw [h] at ih; simpa using ih

/-- A line without the break that ends it. -/
def withoutBreak (line : Text) : Text :=
  match line.reverse with
  | '\n' :: '\r' :: before => before.reverse
  | c :: before => if isLineBreak c then before.reverse else line
  | [] => []

end Reimport.Text
