import Reimport.Text.Width

/-!
# What a terminal receives

Before a text is printed, the control characters that would move the cursor or
ring the bell are taken out, and every tab is filled up with blanks to the next
column that is a multiple of eight.
-/
namespace Reimport.Terminal

/-- A control character that is taken out: bell, backspace, vertical tab, form
feed and carriage return. -/
def isDropped (c : Char) : Bool :=
  c = '\x07' || c = '\x08' || c = '\x0b' || c = '\x0c' || c = '\r'

/-- The text without the control characters that are taken out. -/
def withoutControls (text : Text) : Text := text.filter (!isDropped ·)

/-- The blanks from a column to the next multiple of eight. -/
def blanksToStop (column : Nat) : Nat := (8 - column % 8) % 8

/-- The parts of one line between its tabs, joined by blanks.  A tab is one blank at
least, which takes part in the measure of what stands before it. -/
def fillTabs (column : Nat) : List Text → Text
  | [] => []
  | [part] => part
  | part :: rest =>
    let reached := column + Text.width (part ++ [' '])
    part ++ List.replicate (blanksToStop reached + 1) ' ' ++
      fillTabs (reached + blanksToStop reached) rest

/-- One line with its tabs filled up. -/
def expandLine (line : Text) : Text := fillTabs 0 (Text.splitAt '\t' line)

/-- The lines of a text as they are shown, cut at line feeds: one more than there
are line feeds. -/
def shownLines (text : Text) : List Text :=
  (Text.splitAt '\n' (withoutControls text)).map expandLine

/-- A text as it is shown. -/
def display (text : Text) : Text := .intercalate ['\n'] (shownLines text)

/-- A log line: the level in eight columns, a blank, and the message, whose
further lines are set under its first one. -/
def logEntry (level message : Text) : Text :=
  match shownLines message with
  | [] => Text.padRight 9 level ++ ['\n']
  | first :: more =>
    Text.padRight 8 level ++ ' ' :: (first ++ ['\n']) ++
      more.flatMap fun line => List.replicate 9 ' ' ++ line ++ ['\n']

end Reimport.Terminal
