import Reimport.Text

/-!
# Shell words

An argument vector is printed so that a POSIX shell reads it back: a word of
harmless characters stands as it is, any other word stands between single
quotes, and a single quote inside it is written `'"'"'`, which closes the
quotation, quotes the quote, and opens the quotation again.  `tokens?` is the
reading side: blanks outside quotes separate words, quotes are removed, and a
character with a special meaning to the shell may not stand unquoted.
-/
namespace Reimport.Shell

/-- The single quote. -/
abbrev apostrophe : Char := '\x27'

/-- The double quote. -/
abbrev quotation : Char := '\x22'

/-- A character that a shell takes literally wherever it stands in a word. -/
def isHarmless (c : Char) : Bool :=
  ('a' ≤ c && c ≤ 'z') || ('A' ≤ c && c ≤ 'Z') || ('0' ≤ c && c ≤ '9') ||
    c = '@' || c = '%' || c = '_' || c = '+' || c = '=' || c = ':' || c = ',' || c = '.' ||
    c = '/' || c = '-'

/-- The inside of a single-quoted word. -/
def quoteInside (word : Text) : Text :=
  word.flatMap fun c => if c = apostrophe then [apostrophe, quotation, apostrophe, quotation, apostrophe] else [c]

/-- One word as the shell has to read it. -/
def quote (word : Text) : Text :=
  if word = [] then [apostrophe, apostrophe]
  else if word.all isHarmless then word
  else apostrophe :: (quoteInside word ++ [apostrophe])

/-- A command line: its words, quoted where needed, with one blank between. -/
def render (words : List Text) : Text := Text.intercalate [' '] (words.map quote)

/-- Where a reader of a command line stands. -/
inductive Mode where
  /-- Between words. -/
  | gap
  /-- Inside a word, outside quotes. -/
  | bare
  /-- Between single quotes. -/
  | single
  /-- Between double quotes. -/
  | double
  deriving DecidableEq, Repr

/-- Reads a command line with the part of the current word read so far.  Between
double quotes the characters that stay special there are refused. -/
def read : Mode → Text → Text → Option (List Text)
  | .gap, _, [] => some []
  | .bare, word, [] => some [word]
  | .single, _, [] => none
  | .double, _, [] => none
  | .gap, _, c :: rest =>
    if c = ' ' || c = '\t' || c = '\n' then read .gap [] rest
    else if c = apostrophe then read .single [] rest
    else if c = quotation then read .double [] rest
    else if isHarmless c then read .bare [c] rest
    else none
  | .bare, word, c :: rest =>
    if c = ' ' || c = '\t' || c = '\n' then (read .gap [] rest).map (word :: ·)
    else if c = apostrophe then read .single word rest
    else if c = quotation then read .double word rest
    else if isHarmless c then read .bare (word ++ [c]) rest
    else none
  | .single, word, c :: rest =>
    if c = apostrophe then read .bare word rest else read .single (word ++ [c]) rest
  | .double, word, c :: rest =>
    if c = quotation then read .bare word rest
    else if c = '$' || c = '\x60' || c = '\\' then none
    else read .double (word ++ [c]) rest

/-- The words of a command line in which nothing is expanded, or nothing if a
quotation is left open or an unquoted character has a special meaning. -/
def tokens? (line : Text) : Option (List Text) := read .gap [] line

end Reimport.Shell
