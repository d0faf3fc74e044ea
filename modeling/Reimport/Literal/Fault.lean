import Reimport.Text.Digit
import Reimport.Text.Printable

/-!
# What can be wrong with a literal

A text may fail to be an expression at all, which is a fault of form, or it may be an
expression that stands for no value, which is a fault of value.
-/
namespace Reimport.Literal

/-- The notation of a numeral. -/
inductive Notation where
  | hexadecimal | octal | binary | decimal | imaginary
  deriving DecidableEq, Repr

/-- The name of a notation. -/
def Notation.name : Notation → Text
  | .hexadecimal => "hexadecimal"
  | .octal => "octal"
  | .binary => "binary"
  | .decimal => "decimal"
  | .imaginary => "imaginary"

/-- Why an escape in a string stands for no character. -/
inductive EscapeFault where
  /-- There are too few hexadecimal digits after this letter, which wants so many. -/
  | truncated (letter : Char) (digits : Nat)
  /-- There is no character of this number. -/
  | beyond
  /-- A character's name does not stand between braces. -/
  | unnamed
  deriving DecidableEq, Repr

/-- The wording of a fault. -/
def EscapeFault.message : EscapeFault → Text
  | .truncated letter digits =>
    .join ["truncated \\", [letter], List.replicate digits 'X', " escape"]
  | .beyond => "illegal Unicode character"
  | .unnamed => "malformed \\N character escape"

/-- Why a text is no expression. -/
inductive FormFault where
  /-- The words stand in no order that makes sense. -/
  | invalid
  /-- A bracket is opened and never closed. -/
  | unclosed (bracket : Char)
  /-- A bracket is closed that was never opened. -/
  | unmatched (bracket : Char)
  /-- A bracket is closed by one of another shape.  The line is that of the opening
  bracket, if it is another one. -/
  | crossed (closing opening : Char) (line : Option Nat)
  /-- Brackets are nested too deeply. -/
  | tooDeep
  /-- A string does not end.  The line is the one where that was found out. -/
  | unterminated (triple : Bool) (line : Nat)
  /-- A numeral is not written as its notation wants it. -/
  | badNumeral (kind : Notation)
  /-- A numeral holds a digit that its notation does not have. -/
  | badDigit (digit : Char) (kind : Notation)
  /-- A decimal numeral begins with a zero. -/
  | leadingZeros
  /-- A decimal numeral has more digits than are read. -/
  | overlong (digits : Nat)
  /-- A character can be part of no word. -/
  | badCharacter (c : Char)
  /-- A backslash that is to continue the line is not its last character. -/
  | afterContinuation
  /-- The text ends where a line is to go on. -/
  | unexpectedEnd
  /-- A line begins further right than the one before. -/
  | indented
  /-- An escape between these two bytes of a string stands for no character. -/
  | badEscape (first last : Nat) (cause : EscapeFault)
  /-- An escape at this byte of a byte string stands for no byte. -/
  | badByte (position : Nat)
  /-- A byte string holds a character that is no byte. -/
  | beyondBytes
  /-- Strings and byte strings stand side by side. -/
  | mixedStrings
  /-- Two expressions follow one another inside brackets. -/
  | forgottenComma
  /-- A choice has a condition and no other side. -/
  | missingElse
  /-- A function's argument follows its name without parentheses. -/
  | bareCall (name : Text)
  /-- A value of this kind is given a name in passing. -/
  | namedTarget (kind : Text)
  /-- An equals sign stands where two of them, or a colon before it, could be meant. -/
  | singleEquals
  /-- A value of this kind is assigned to in an expression. -/
  | assignedTarget (kind : Text)
  /-- A value of this kind is assigned to. -/
  | unassignable (kind : Text)
  /-- A star stands before the only item in parentheses. -/
  | starred
  /-- Two stars stand before the only item in parentheses. -/
  | doubleStarred
  /-- An entry has no colon after its key. -/
  | missingColon
  /-- An entry has nothing after its colon. -/
  | missingValue
  /-- A star stands before the value of an entry. -/
  | starredValue
  /-- A star stands before what is repeated. -/
  | starredRepetition
  /-- What is repeated consists of several items without parentheses. -/
  | bareRepetition
  /-- Two stars stand before what is repeated. -/
  | doubleStarredRepetition
  /-- An argument is an expression that is repeated without parentheses. -/
  | bareGenerator
  /-- Starred arguments come after doubly starred ones. -/
  | starredAfterDouble
  /-- An argument without a name comes after one with a name. -/
  | positionalAfterNamed
  /-- An argument without a name comes after doubly starred ones. -/
  | positionalAfterDouble
  /-- An argument's name is an expression. -/
  | assignedArgument
  deriving DecidableEq, Repr

/-- The number of a character in at least four hexadecimal digits. -/
def codePoint (c : Char) : Text :=
  let n := c.toNat
  (Text.hexPadded (if n < 0x10000 then 4 else if n < 0x100000 then 5 else 6) n).map Char.toUpper

/-- The wording of a fault. -/
def FormFault.message : FormFault → Text
  | .invalid => "invalid syntax"
  | .unclosed bracket => .join ["'", [bracket], "' was never closed"]
  | .unmatched bracket => .join ["unmatched '", [bracket], "'"]
  | .crossed closing opening line =>
    .join ["closing parenthesis '", [closing], "' does not match opening parenthesis '", [opening],
      "'", line.elim [] fun line => .join [" on line ", Text.decimalNat line]]
  | .tooDeep => "too many nested parentheses"
  | .unterminated triple line =>
    .join ["unterminated ", if triple then "triple-quoted string" else "string",
      " literal (detected at line ", Text.decimalNat line, ")"]
  | .badNumeral kind => .join ["invalid ", kind.name, " literal"]
  | .badDigit digit kind => .join ["invalid digit '", [digit], "' in ", kind.name, " literal"]
  | .leadingZeros =>
    .join ["leading zeros in decimal integer literals are not permitted; ",
      "use an 0o prefix for octal integers"]
  | .overlong digits =>
    .join [Text.tooManyDigits digits,
      " - Consider hexadecimal for huge integer literals to avoid decimal conversion limits."]
  | .badCharacter c =>
    if Text.isPrintable c then .join ["invalid character '", [c], "' (U+", codePoint c, ")"]
    else .join ["invalid non-printable character U+", codePoint c]
  | .afterContinuation => "unexpected character after line continuation character"
  | .unexpectedEnd => "unexpected EOF while parsing"
  | .indented => "unexpected indent"
  | .badEscape first last cause =>
    .join ["(unicode error) 'unicodeescape' codec can't decode bytes in position ",
      Text.decimalNat first, "-", Text.decimalNat last, ": ", cause.message]
  | .badByte position =>
    .join ["(value error) invalid \\x escape at position ", Text.decimalNat position]
  | .beyondBytes => "bytes can only contain ASCII literal characters"
  | .mixedStrings => "cannot mix bytes and nonbytes literals"
  | .forgottenComma => "invalid syntax. Perhaps you forgot a comma?"
  | .missingElse => "expected 'else' after 'if' expression"
  | .bareCall name =>
    .join ["Missing parentheses in call to '", name, "'. Did you mean ", name, "(...)?"]
  | .namedTarget kind => .join ["cannot use assignment expressions with ", kind]
  | .singleEquals => "invalid syntax. Maybe you meant '==' or ':=' instead of '='?"
  | .assignedTarget kind =>
    .join ["cannot assign to ", kind, " here. Maybe you meant '==' instead of '='?"]
  | .unassignable kind => .join ["cannot assign to ", kind]
  | .starred => "cannot use starred expression here"
  | .doubleStarred => "cannot use double starred expression here"
  | .missingColon => "':' expected after dictionary key"
  | .missingValue => "expression expected after dictionary key and ':'"
  | .starredValue => "cannot use a starred expression in a dictionary value"
  | .starredRepetition => "iterable unpacking cannot be used in comprehension"
  | .bareRepetition => "did you forget parentheses around the comprehension target?"
  | .doubleStarredRepetition => "dict unpacking cannot be used in dict comprehension"
  | .bareGenerator => "Generator expression must be parenthesized"
  | .starredAfterDouble => "iterable argument unpacking follows keyword argument unpacking"
  | .positionalAfterNamed => "positional argument follows keyword argument"
  | .positionalAfterDouble => "positional argument follows keyword argument unpacking"
  | .assignedArgument => "expression cannot contain assignment, perhaps you meant \"==\"?"

/-- Why an expression stands for no value. -/
inductive ValueFault where
  /-- The text holds the character of number zero. -/
  | nul
  /-- The expression is no literal. -/
  | notLiteral (line : Nat)
  /-- An entry of a dictionary has no key. -/
  | missingKey
  /-- A value of this kind can be no key and no member of a set. -/
  | unhashable (kind : Text)
  deriving DecidableEq, Repr

/-- The wording of a fault. -/
def ValueFault.message : ValueFault → Text
  | .nul => "source code string cannot contain null bytes"
  | .notLiteral line => .join ["malformed node or string on line ", Text.decimalNat line]
  | .missingKey => "malformed node or string: None"
  | .unhashable kind => .join ["unhashable type: '", kind, "'"]

/-- Why a text is no literal. -/
inductive Fault where
  /-- It is no expression. -/
  | form (fault : FormFault)
  /-- It stands for no value. -/
  | value (fault : ValueFault)
  deriving DecidableEq, Repr

end Reimport.Literal
