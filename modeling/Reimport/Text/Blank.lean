import Reimport.Text

/-!
# Blanks

The characters that separate words and are stripped from the ends of a text:
the Unicode white space together with the four information separators
U+001C–U+001F.  U+200B, a space of no width, is none of them.
-/
namespace Reimport.Text

/-- A character that separates words. -/
def isBlank (c : Char) : Bool :=
  ('\t' ≤ c && c ≤ '\r') || ('\x1c' ≤ c && c ≤ ' ') || c = '\u0085' || c = '\u00a0' ||
    c = '\u1680' || ('\u2000' ≤ c && c ≤ '\u200a') || c = '\u2028' || c = '\u2029' ||
    c = '\u202f' || c = '\u205f' || c = '\u3000'

/-- Core's white space is blank. -/
theorem isBlank_of_isWhitespace {c : Char} (h : c.isWhitespace = true) : isBlank c = true := by
  simp only [Char.isWhitespace, Bool.or_eq_true, decide_eq_true_eq] at h
  rcases h with ((rfl | rfl) | rfl) | rfl <;> decide

/-- The text without blanks at its end. -/
def stripRight (text : Text) : Text := dropRightWhile isBlank text

/-- The text without blanks at either end. -/
def strip (text : Text) : Text := stripRight (text.dropWhile isBlank)

/-- The words of a text: its maximal runs of characters that are not blank. -/
def words : Text → List Text
  | [] => []
  | c :: rest =>
    if isBlank c then words rest
    else match rest with
      | [] => [[c]]
      | d :: _ =>
        if isBlank d then [c] :: words rest
        else match words rest with
          | [] => [[c]]
          | word :: more => (c :: word) :: more

end Reimport.Text
