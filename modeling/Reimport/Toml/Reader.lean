import Reimport.Toml.Value

/-!
# Reading a document piece by piece

A reader takes something off the front of a text and leaves the rest, or finds
the document at fault.  The pieces here are the ones that every other piece is
separated by: blanks, comments and line feeds.  A line that ends in carriage
return and line feed ends in a line feed; a carriage return that stands alone is
a control character, and no control character but the tab is allowed anywhere.
-/
namespace Reimport.Toml

/-- Why a document cannot be read. -/
inductive Fault where
  /-- It does not keep to the rules of the format. -/
  | malformed
  /-- A decimal numeral has more digits than are taken for a number. -/
  | numeralTooLong (digits : Nat)
  deriving DecidableEq, Repr

/-- Takes something off the front of a text. -/
abbrev Reader := StateT Text (Except Fault)

/-- Line feeds in place of the pairs that end lines. -/
def unifyLineEnds : Text → Text
  | '\r' :: '\n' :: rest => '\n' :: unifyLineEnds rest
  | c :: rest => c :: unifyLineEnds rest
  | [] => []

/-- A character that separates the pieces of a line. -/
def isSpace (c : Char) : Bool := c = ' ' || c = '\t'

/-- A character that separates the items of an array. -/
def isSpaceOrLineFeed (c : Char) : Bool := isSpace c || c = '\n'

/-- A control character, which stands nowhere in a document. -/
def isControl (c : Char) : Bool := (c < ' ' && c ≠ '\t') || c = '\x7f'

/-- A control character other than the line feed. -/
def isControlInLines (c : Char) : Bool := isControl c && c ≠ '\n'

namespace Reader

/-- The document is at fault. -/
def fail {α : Type} : Reader α := throw .malformed

/-- The next character, which is left where it is. -/
def peek? : Reader (Option Char) := return (← get).head?

/-- Whether the text goes on with `token`, which is left where it is. -/
def startsWith (token : Text) : Reader Bool := return token.isPrefixOf (← get)

/-- Takes `token` off if the text goes on with it, and says whether it did. -/
def accept (token : Text) : Reader Bool := fun text =>
  if token.isPrefixOf text then .ok (true, text.drop token.length) else .ok (false, text)

/-- Takes `token` off; without it the document is at fault. -/
def expect (token : Text) : Reader Unit := do
  if !(← accept token) then fail

/-- Takes off the characters at the front that satisfy `p`. -/
def takeWhile (p : Char → Bool) : Reader Text := fun text =>
  .ok (text.takeWhile p, text.dropWhile p)

/-- Drops the characters at the front that satisfy `p`. -/
def skipWhile (p : Char → Bool) : Reader Unit := modify (·.dropWhile p)

/-- Drops blanks. -/
def spaces : Reader Unit := skipWhile isSpace

/-- Drops a comment, up to the end of its line. -/
def comment : Reader Unit := do
  if ← accept ['#'] then
    if (← takeWhile (· ≠ '\n')).any isControl then fail

/-- Drops blanks, line feeds and comments.  There are no more comments than
characters. -/
def gap : Reader Unit := do go (← get).length
where
  go : Nat → Reader Unit
    | 0 => pure ()
    | more + 1 => do
      skipWhile isSpaceOrLineFeed
      if (← peek?) = some '#' then
        comment
        go more

end Reader
end Reimport.Toml
