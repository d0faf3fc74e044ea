import Reimport.Toml.Draft
import Reimport.Toml.Number
import Reimport.Toml.Quoted

/-!
# Statements

A document is a row of lines, each of them empty or with one statement: a key
with its value, the header of a table, or the header of the next item of an
array of tables.  Only arrays and texts of several lines let a statement run on.
Statements are read one after the other up to the first fault, and the fault is
kept beside those before it.
-/
namespace Reimport.Toml

/-- What a line of a document states. -/
inductive Statement where
  /-- A key has a value. -/
  | pair (key : Key) (value : Value)
  /-- The lines that follow belong to the table of a key. -/
  | table (key : Key)
  /-- The lines that follow belong to a new item of the array of a key. -/
  | item (key : Key)

namespace Reader

mutual

/-- A value, with at most `fuel` values and items inside one another. -/
def value (fuel : Nat) : Reader Value :=
  match fuel with
  | 0 => fail
  | fuel + 1 => do
    if ← startsWith [quote, quote, quote] then return .text (← quotedLines)
    else if ← startsWith [quote] then return .text (← quoted)
    else if ← startsWith [apostrophe, apostrophe, apostrophe] then return .text (← literalLines)
    else if ← startsWith [apostrophe] then return .text (← literal)
    else if ← accept ['['] then
      gap
      return .array (← items fuel)
    else if ← accept ['{'] then
      spaces
      if ← accept ['}'] then return .table []
      else return .table (Draft.finishedEntries (← members fuel []))
    else if ← accept "true" then return .boolean true
    else if ← accept "false" then return .boolean false
    else scalar

/-- The items of an array up to its closing bracket. -/
def items (fuel : Nat) : Reader (List Value) :=
  match fuel with
  | 0 => fail
  | fuel + 1 => do
    if ← accept [']'] then return []
    else
      let first ← value fuel
      gap
      if ← accept [','] then
        gap
        return first :: (← items fuel)
      else
        expect [']']
        return [first]

/-- The members of an inline table up to its closing brace, after those that were
found before. -/
def members (fuel : Nat) (found : Draft.Entries) : Reader Draft.Entries :=
  match fuel with
  | 0 => fail
  | fuel + 1 => do
    let key ← key
    expect ['=']
    spaces
    let value ← value fuel
    match Draft.descend Draft.passHeader (Draft.put key.name value) key.tables found with
    | none => fail
    | some found =>
      spaces
      if ← accept ['}'] then return found
      else
        expect [',']
        spaces
        members fuel found

end

/-- A key and its value.  Of two nested steps of reading a value, at least one
takes a character off. -/
def pair : Reader Statement := do
  let key ← key
  expect ['=']
  spaces
  return .pair key (← value (2 * (← get).length + 1))

/-- A header. -/
def header : Reader Statement := do
  if ← accept ['[', '['] then
    spaces
    let key ← key
    expect [']', ']']
    return .item key
  else
    expect ['[']
    spaces
    let key ← key
    expect [']']
    return .table key

/-- A line with its statement, if it has one. -/
def line : Reader (Option Statement) := do
  spaces
  let statement ← match ← peek? with
    | none | some '\n' | some '#' => pure none
    | some '[' => some <$> header
    | some _ => some <$> pair
  spaces
  comment
  if (← get) ≠ [] then expect ['\n']
  return statement

end Reader

/-- The statements of a document up to its first fault. -/
structure Statements where
  /-- The statements in order. -/
  list : List Statement
  /-- The fault after them, if there is one. -/
  fault? : Option Fault

/-- Reads the lines of a text, each of which has at least one character. -/
def Statements.ofText (text : Text) : Statements := go text.length text
where
  go (lines : Nat) (text : Text) : Statements :=
    match lines, text with
    | _, [] => ⟨[], none⟩
    | 0, _ => ⟨[], none⟩
    | lines + 1, text =>
      match Reader.line text with
      | .error fault => ⟨[], some fault⟩
      | .ok (statement, rest) =>
        let more := go lines rest
        ⟨statement.toList ++ more.list, more.fault?⟩

end Reimport.Toml
