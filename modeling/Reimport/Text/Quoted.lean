import Reimport.Text.Decimal
import Reimport.Text.Printable

/-!
# Quoted literals

An error message shows a path or an argument between quotes, so that blanks and
unprintable characters in it can be seen.  Single quotes are used unless the
text holds a single quote and no double quote.  A backslash and the chosen quote
get a backslash in front, line feed, carriage return and tab their letters, and
any other unprintable character its number in hexadecimal.
-/
namespace Reimport.Text

/-- The quote around a literal. -/
def quoteFor (text : Text) : Char :=
  if text.contains '\x27' && !text.contains '\x22' then '\x22' else '\x27'

/-- One character inside a literal between the quotes `quote`. -/
def escapeChar (quote c : Char) : Text :=
  if c = quote || c = '\\' then ['\\', c]
  else if c = '\n' then ['\\', 'n']
  else if c = '\r' then ['\\', 'r']
  else if c = '\t' then ['\\', 't']
  else if isPrintable c then [c]
  else
    let n := c.toNat
    if n < 0x100 then '\\' :: 'x' :: hexPadded 2 n
    else if n < 0x10000 then '\\' :: 'u' :: hexPadded 4 n
    else '\\' :: 'U' :: hexPadded 8 n

/-- The text as a quoted literal. -/
def quoted (text : Text) : Text :=
  let quote := quoteFor text
  quote :: (text.flatMap (escapeChar quote) ++ [quote])

end Reimport.Text
