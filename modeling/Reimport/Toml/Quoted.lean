import Reimport.Toml.Reader

/-!
# Texts and names

A text stands between quotes, which take escapes, or between apostrophes, which
take none.  Three quotes or apostrophes at either end let it run over several
lines; one or two more at its end belong to the text.  A name is a bare word or
a text of one line, and a key is one name or several with dots between them.
-/
namespace Reimport.Toml

/-- The quotation mark. -/
abbrev quote : Char := '"'

/-- The apostrophe. -/
abbrev apostrophe : Char := '\x27'

/-- The character that a short escape stands for. -/
def shortEscape? : Char → Option Char
  | 'b' => some '\x08'
  | 't' => some '\t'
  | 'n' => some '\n'
  | 'f' => some '\x0c'
  | 'r' => some '\r'
  | '"' => some '"'
  | '\\' => some '\\'
  | _ => none

/-- The character with the number that a row of hexadecimal digits denotes. -/
def charOfHex? (digits : Text) : Option Char := do
  let code := Text.ofDigits 16 (← digits.mapM Text.hexValue?)
  if code.isValidChar then some (Char.ofNat code) else none

/-- The rest of a line after which a text of several lines goes on: no blanks nor
line feeds.  Something else before the line feed is a fault; the end of the
document is left for the text to find. -/
def continuation? (text : Text) : Option Text :=
  match text.dropWhile isSpace with
  | '\n' :: rest => some (rest.dropWhile isSpaceOrLineFeed)
  | [] => some []
  | _ => none

/-- What an escape stands for, with the text after it.  `text` follows the
backslash. -/
def escape? (multiline : Bool) (text : Text) : Option (Text × Text) :=
  match text with
  | 'u' :: rest => numbered 4 rest
  | 'U' :: rest => numbered 8 rest
  | c :: rest =>
    if multiline && isSpaceOrLineFeed c then (continuation? text).map fun rest => ([], rest)
    else (shortEscape? c).map fun meant => ([meant], rest)
  | [] => none
where
  numbered (width : Nat) (rest : Text) : Option (Text × Text) :=
    if (rest.take width).length < width then none
    else (charOfHex? (rest.take width)).map fun c => ([c], rest.drop width)

theorem continuation?_length {text rest : Text} (h : continuation? text = some rest) :
    rest.length ≤ text.length := by
  have shorter : (text.dropWhile isSpace).length ≤ text.length :=
    (List.dropWhile_sublist _).length_le
  unfold continuation? at h
  split at h
  · rename_i tail eq
    have : (tail.dropWhile isSpaceOrLineFeed).length ≤ tail.length :=
      (List.dropWhile_sublist _).length_le
    cases h
    simp only [eq, List.length_cons] at shorter
    omega
  · cases h; simp
  · cases h

/-- What an escape leaves is no longer than what it was found in. -/
theorem escape?_length {multiline : Bool} {text meant rest : Text}
    (h : escape? multiline text = some (meant, rest)) : rest.length ≤ text.length := by
  unfold escape? at h
  split at h
  case h_1 tail => exact Nat.le_succ_of_le (numbered_length h)
  case h_2 tail => exact Nat.le_succ_of_le (numbered_length h)
  case h_3 c tail _ _ =>
    split at h
    · obtain ⟨left, found, eq⟩ := Option.map_eq_some_iff.1 h
      cases eq
      exact continuation?_length found
    · obtain ⟨meant, _, eq⟩ := Option.map_eq_some_iff.1 h
      cases eq
      simp
  case h_4 => cases h
where
  numbered_length {width : Nat} {text meant rest : Text}
      (h : escape?.numbered width text = some (meant, rest)) : rest.length ≤ text.length := by
    unfold escape?.numbered at h
    split at h
    · cases h
    · obtain ⟨c, _, eq⟩ := Option.map_eq_some_iff.1 h
      cases eq
      simp

/-- The text up to its closing quotes, and what follows them. -/
def quotedText? (multiline : Bool) : Text → Option (Text × Text)
  | [] => none
  | c :: rest =>
    if c = quote then
      if !multiline then some ([], rest)
      else if [quote, quote].isPrefixOf rest then some ([], rest.drop 2)
      else (quotedText? multiline rest).map fun (text, after) => (c :: text, after)
    else if c = '\\' then
      match _h : escape? multiline rest with
      | some (meant, left) =>
        (quotedText? multiline left).map fun (text, after) => (meant ++ text, after)
      | none => none
    else if isControl c && !(multiline && c = '\n') then none
    else (quotedText? multiline rest).map fun (text, after) => (c :: text, after)
termination_by text => text.length
decreasing_by
  · simp
  · have := escape?_length _h
    simp only [List.length_cons]
    omega
  · simp

/-- The text up to the first of `width` closing apostrophes, and what follows
them. -/
def literalText? (width : Nat) : Text → Option (Text × Text)
  | [] => none
  | c :: rest =>
    if (List.replicate width apostrophe).isPrefixOf (c :: rest) then
      some ([], (c :: rest).drop width)
    else (literalText? width rest).map fun (text, after) => (c :: text, after)

/-- A key: a name, and the names of the tables that the dots lead through. -/
structure Key where
  /-- The names before the last one, outermost first. -/
  tables : List Text
  /-- The last name. -/
  name : Text
  deriving DecidableEq, Repr

/-- The names of a key, outermost first. -/
def Key.names (key : Key) : List Text := key.tables ++ [key.name]

namespace Reader

/-- A result with the text that it leaves. -/
def ofOption {α : Type} (read : Text → Option (α × Text)) : Reader α := fun text =>
  match read text with
  | some (value, rest) => .ok (value, rest)
  | none => .error .malformed

/-- A text of one line between quotes. -/
def quoted : Reader Text := do
  expect [quote]
  ofOption (quotedText? false)

/-- A text of one line between apostrophes. -/
def literal : Reader Text := do
  expect [apostrophe]
  let text ← ofOption (literalText? 1)
  if text.any isControl then fail else return text

/-- Up to two closing marks that belong to the text before them. -/
def surplus (mark : Char) : Reader Text := do
  if ← accept [mark] then
    if ← accept [mark] then return [mark, mark] else return [mark]
  else return []

/-- A text of several lines between quotes.  A line feed right after the opening
quotes is not part of it. -/
def quotedLines : Reader Text := do
  expect [quote, quote, quote]
  let _ ← accept ['\n']
  let text ← ofOption (quotedText? true)
  return text ++ (← surplus quote)

/-- A text of several lines between apostrophes. -/
def literalLines : Reader Text := do
  expect [apostrophe, apostrophe, apostrophe]
  let _ ← accept ['\n']
  let text ← ofOption (literalText? 3)
  if text.any isControlInLines then fail else return text ++ (← surplus apostrophe)

/-- A character of a bare name. -/
def isBare (c : Char) : Bool := c.isAlphanum || c = '-' || c = '_'

/-- One name. -/
def name : Reader Text := do
  match ← peek? with
  | some c =>
    if c = quote then quoted
    else if c = apostrophe then literal
    else if isBare c then takeWhile isBare
    else fail
  | none => fail

/-- A key.  Each of its names takes at least one character. -/
def key : Reader Key := do go (← get).length
where
  go : Nat → Reader Key
    | 0 => fail
    | more + 1 => do
      let first ← name
      spaces
      if ← accept ['.'] then
        spaces
        let inner ← go more
        return ⟨first :: inner.tables, inner.name⟩
      else return ⟨[], first⟩

end Reader
end Reimport.Toml
