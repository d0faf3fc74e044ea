import Reimport.Tally

/-!
# Reports

A report is the final counters of a run and whether it succeeded, written as a
JSON object: two blanks of indentation, the members in the order of their names,
and no line feed at the end.  `Report.ofText?` reads any flat JSON object of truth
values and whole numbers, however it is laid out.
-/
namespace Reimport

/-- The value of a member of a report. -/
inductive Report.Value where
  /-- A truth value. -/
  | flag (value : Bool)
  /-- A whole number. -/
  | count (value : Int)
  deriving DecidableEq, Repr

/-- A report: its members in order. -/
abbrev Report := List (Text × Report.Value)

namespace Report

/-- The report on a run. -/
def ofRun (s : Statistics) (succeeded : Bool) : Report := [
  ("exit_on_first_failure", .flag s.exitOnFirstFailure),
  ("failed", .count s.failed),
  ("halted_early", .flag s.haltedEarly),
  ("succeeded", .flag succeeded),
  ("tested", .count s.tested),
  ("total_sources", .count s.totalSources),
  ("uncompilable", .count s.uncompilable)]

/-! ## Writing -/

/-- A written truth value. -/
def flagText (value : Bool) : Text := if value then "true" else "false"

/-- A written value. -/
def Value.text : Value → Text
  | .flag value => flagText value
  | .count value => Text.decimal value

/-- A written member. -/
def memberText (member : Text × Value) : Text :=
  .join ["\n  \"", member.1, "\": ", member.2.text]

/-- A written report. -/
def text (report : Report) : Text :=
  .join ["\x7b", .intercalate [','] (report.map memberText), "\n\x7d"]

/-! ## Reading -/

/-- A piece of a JSON text. -/
inductive Token where
  /-- A brace, a colon or a comma. -/
  | mark (mark : Char)
  /-- A name between quotes, without escapes. -/
  | name (name : Text)
  /-- A word that stands for a value. -/
  | word (word : Text)
  deriving DecidableEq, Repr

/-- A blank between pieces. -/
def isBlank (c : Char) : Bool := c = ' ' || c = '\t' || c = '\n' || c = '\r'

/-- A piece of one character. -/
def isMark (c : Char) : Bool := c = '\x7b' || c = '\x7d' || c = ':' || c = ','

/-- A character of a word. -/
def isWordChar (c : Char) : Bool := !isBlank c && !isMark c && c ≠ '"'

/-- The pieces of a JSON text; a name without a closing quote, or with a backslash
in it, is none. -/
def tokens? : Text → Option (List Token)
  | [] => some []
  | c :: rest =>
    if isBlank c then tokens? rest
    else if isMark c then (tokens? rest).map (.mark c :: ·)
    else if c = '"' then
      let name := rest.takeWhile (· ≠ '"')
      match _h : rest.dropWhile (· ≠ '"') with
      | [] => none
      | _ :: after => if name.contains '\\' then none else (tokens? after).map (.name name :: ·)
    else
      (tokens? (rest.dropWhile isWordChar)).map (.word (c :: rest.takeWhile isWordChar) :: ·)
termination_by text => text.length
decreasing_by
  · simp
  · simp
  · have shorter : (rest.dropWhile (· ≠ '"')).length ≤ rest.length :=
      (List.dropWhile_sublist _).length_le
    rw [_h] at shorter
    simp only [List.length_cons] at shorter ⊢
    omega
  · have shorter : (rest.dropWhile isWordChar).length ≤ rest.length :=
      (List.dropWhile_sublist _).length_le
    simp only [List.length_cons]
    omega

/-- The value that a word stands for. -/
def Value.ofWord? (word : Text) : Option Value :=
  if word = flagText true then some (.flag true)
  else if word = flagText false then some (.flag false)
  else (Text.integer? word).map .count

/-- The members up to the closing brace, which ends the text. -/
def ofTokens? : List Token → Option Report
  | .name name :: .mark ':' :: .word word :: .mark mark :: rest =>
    match Value.ofWord? word with
    | none => none
    | some value =>
      if mark = ',' then (ofTokens? rest).map ((name, value) :: ·)
      else if mark = '\x7d' && rest.isEmpty then some [(name, value)]
      else none
  | _ => none

/-- Reads a JSON object. -/
def ofText? (text : Text) : Option Report :=
  match tokens? text with
  | some [.mark '\x7b', .mark '\x7d'] => some []
  | some (.mark '\x7b' :: rest) => ofTokens? rest
  | _ => none

end Report
end Reimport
