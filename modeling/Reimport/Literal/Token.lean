import Reimport.Literal.Fault
import Reimport.Text.Letter

/-!
# Tokens

An expression is read as a row of tokens: names, numerals, strings, and signs, which
are the operators, the brackets and the words with a meaning of their own.  Blanks and
comments stand between tokens.  A line feed ends a line only outside brackets.

The row may break off where the text holds no token.  Whether that matters depends on
how far the expression reaches, so a break is kept beside the tokens before it.
-/
namespace Reimport.Literal

/-! ## Kinds -/

/-- What a token is. -/
inductive Kind where
  | name | numeral | string | sign | lineEnd | indent | textEnd
  deriving DecidableEq, Repr

/-- A token. -/
structure Token where
  /-- What it is. -/
  kind : Kind
  /-- What is written. -/
  text : Text
  /-- The number of brackets that are open behind it. -/
  depth : Nat
  /-- The line that it ends on. -/
  line : Nat
  deriving DecidableEq, Repr

/-- The words that are no names. -/
def reservedWords : List String :=
  ["False", "None", "True", "and", "as", "assert", "async", "await", "break", "class", "continue",
    "def", "del", "elif", "else", "except", "finally", "for", "from", "global", "if", "import",
    "in", "is", "lambda", "nonlocal", "not", "or", "pass", "raise", "return", "try", "while",
    "with", "yield"]

/-- The signs of several characters, the longer ones first. -/
def longSigns : List String :=
  ["**=", "//=", ">>=", "<<=", "...", "!=", "%=", "&=", "**", "*=", "+=", "-=", "->", "//", "/=",
    ":=", "<<", "<=", "<>", "==", ">=", ">>", "@=", "^=", "|="]

/-! ## Numerals -/

/-- A character that may go on with a name or a numeral as far as ASCII can tell. -/
def joins (c : Char) : Bool := c.isAlphanum || c = '_' || 0x80 ≤ c.toNat

/-- The words that may follow a numeral without a blank. -/
def numeralFollowers : List String := ["and", "else", "for", "or", "not"]

/-- The beginnings of more words that may, whatever they go on with. -/
def numeralFollowerStarts : List String := ["if", "in", "is"]

/-- Whether a word that may follow a numeral comes next. -/
def continuesNumeral (text : Text) : Bool :=
  numeralFollowerStarts.any (fun start => start.toList.isPrefixOf text) ||
    numeralFollowers.any fun word => word.toList = text.takeWhile joins

/-- Finds that a numeral ends before the text. -/
def endNumeral (kind : Notation) (text : Text) : Except FormFault Text :=
  if text.head?.any (fun c => c.isAlphanum || c = '_') && !continuesNumeral text then
    .error (.badNumeral kind)
  else .ok text

/-- What follows the digits at the start of a text, the first of which has been read.
A single underscore may stand between digits. -/
def afterDigits : Text → Except FormFault Text
  | '_' :: c :: rest => if c.isDigit then afterDigits rest else .error (.badNumeral .decimal)
  | ['_'] => .error (.badNumeral .decimal)
  | c :: rest => if c.isDigit then afterDigits rest else .ok (c :: rest)
  | [] => .ok []

/-- What follows the digits of another notation at the start of a text.  `wanted` says
that a digit has to come, which one underscore may precede. -/
def afterDigitsIn (kind : Notation) (isDigit : Char → Bool) (wanted : Bool) :
    Text → Except FormFault Text
  | '_' :: c :: rest =>
    if isDigit c then afterDigitsIn kind isDigit false rest else refuse (some c)
  | ['_'] => refuse none
  | c :: rest =>
    if isDigit c then afterDigitsIn kind isDigit false rest
    else if wanted || (c.isDigit && kind ≠ .hexadecimal) then refuse (some c)
    else endNumeral kind (c :: rest)
  | [] => if wanted then refuse none else .ok []
where
  refuse (found : Option Char) : Except FormFault Text :=
    match found with
    | some c =>
      if c.isDigit && kind ≠ .hexadecimal then .error (.badDigit c kind)
      else .error (.badNumeral kind)
    | none => .error (.badNumeral kind)

/-- What follows the imaginary unit that a numeral may end with. -/
def afterUnit (text : Text) : Except FormFault Text :=
  match text with
  | 'j' :: rest | 'J' :: rest => endNumeral .imaginary rest
  | _ => endNumeral .decimal text

/-- What follows the exponent that may stand here, and the imaginary unit. -/
def afterExponent (text : Text) : Except FormFault Text :=
  match text with
  | 'e' :: rest | 'E' :: rest =>
    match rest with
    | '+' :: c :: more | '-' :: c :: more =>
      if c.isDigit then afterDigits more >>= afterUnit else .error (.badNumeral .decimal)
    | ['+'] | ['-'] => .error (.badNumeral .decimal)
    | c :: more => if c.isDigit then afterDigits more >>= afterUnit else endNumeral .decimal text
    | [] => endNumeral .decimal text
  | _ => afterUnit text

/-- What follows the digits behind a point, the exponent and the imaginary unit. -/
def afterFraction (text : Text) : Except FormFault Text :=
  match text with
  | c :: rest => if c.isDigit then afterDigits rest >>= afterExponent else afterExponent text
  | [] => .ok []

/-- What follows the fraction that may stand here, the exponent and the imaginary unit. -/
def afterWhole (text : Text) : Except FormFault Text :=
  match text with
  | '.' :: rest => afterFraction rest
  | _ => afterExponent text

/-- What follows the zeros at the start of a text. -/
def afterZeros : Text → Except FormFault Text
  | '0' :: rest => afterZeros rest
  | '_' :: c :: rest =>
    if c = '0' then afterZeros rest
    else if c.isDigit then .ok (c :: rest)
    else .error (.badNumeral .decimal)
  | ['_'] => .error (.badNumeral .decimal)
  | rest => .ok rest

/-- What follows a numeral that begins with a zero, which has been read. -/
def afterZero (text : Text) : Except FormFault Text :=
  match text with
  | 'x' :: rest | 'X' :: rest =>
    afterDigitsIn .hexadecimal (fun c => (Text.hexValue? c).isSome) true rest
  | 'o' :: rest | 'O' :: rest => afterDigitsIn .octal (fun c => '0' ≤ c && c ≤ '7') true rest
  | 'b' :: rest | 'B' :: rest => afterDigitsIn .binary (fun c => c = '0' || c = '1') true rest
  | _ => do
    match ← afterZeros text with
    | c :: rest =>
      if c.isDigit then
        match ← afterDigits rest with
        | d :: more =>
          if d = '.' || d = 'e' || d = 'E' || d = 'j' || d = 'J' then afterWhole (d :: more)
          else .error .leadingZeros
        | [] => .error .leadingZeros
      else afterWhole (c :: rest)
    | [] => .ok []

/-- What follows the numeral at the start of a text. -/
def afterNumeral (text : Text) : Except FormFault Text :=
  match text with
  | '.' :: rest => afterFraction rest
  | '0' :: rest => afterZero rest
  | _ :: rest => afterDigits rest >>= afterWhole
  | [] => .ok []

/-! ## Strings -/

/-- The letters that may stand before the quote of a string. -/
def stringLetters : List String := ["", "r", "u", "b", "f", "br", "rb", "fr", "rf"]

/-- What follows a string, and the line there.  The text comes after the opening quote. -/
def afterString (quote : Char) (line : Nat) : Text → Except FormFault (Text × Nat)
  | [] => .error (.unterminated false line)
  | '\\' :: c :: rest => afterString quote (if c = '\n' then line + 1 else line) rest
  | c :: rest =>
    if c = quote then .ok (rest, line)
    else if c = '\n' then .error (.unterminated false line)
    else afterString quote line rest

/-- What follows a string between triple quotes, and the line there.  The text comes
after the opening quotes. -/
def afterTriple (quote : Char) (line : Nat) : Text → Except FormFault (Text × Nat)
  | [] => .error (.unterminated true line)
  | '\\' :: c :: rest => afterTriple quote (if c = '\n' then line + 1 else line) rest
  | c :: rest =>
    if c = quote && [quote, quote].isPrefixOf rest then .ok (rest.drop 2, line)
    else afterTriple quote (if c = '\n' then line + 1 else line) rest

/-- What follows a string whose opening quote has been read, and the line there. -/
def afterQuote (quote : Char) (line : Nat) (text : Text) : Except FormFault (Text × Nat) :=
  if [quote, quote].isPrefixOf text then afterTriple quote line (text.drop 2)
  else afterString quote line text

/-- The quote of the string at the start of a text, and what follows that quote. -/
def openedString? (text : Text) : Option (Char × Text) :=
  let letters := text.takeWhile fun c => ("rRuUbBfF".toList).contains c
  if stringLetters.any fun allowed => allowed.toList = letters.map Char.toLower then
    match text.drop letters.length with
    | c :: rest => if c = '\x27' || c = '\x22' then some (c, rest) else none
    | [] => none
  else none

/-! ## Names -/

/-- The first character that may not stand where it does in a name. -/
def misplaced? (name : Text) : Option Char :=
  match name with
  | c :: rest => if Text.startsName c then rest.find? (!Text.continuesName ·) else some c
  | [] => none

/-! ## The row of tokens -/

/-- How a row of tokens ends. -/
inductive Ending where
  /-- With the text. -/
  | complete
  /-- With something that can be no token. -/
  | broken (fault : FormFault)
  /-- Before its time, perhaps inside a bracket that was opened on some line.  This is a
  fault only if more tokens are wanted. -/
  | early (fault : FormFault) (bracket : Option (Char × Nat))
  deriving DecidableEq, Repr

/-- Where the reading of tokens stands. -/
structure Place where
  /-- The open brackets with their lines, innermost first. -/
  brackets : List (Char × Nat)
  /-- The line. -/
  line : Nat
  /-- The columns of the lines that the present one is indented under, last one first. -/
  columns : List Nat
  /-- Whether the line has had no token so far. -/
  fresh : Bool

/-- The deepest nesting of brackets. -/
def deepest : Nat := 200

/-- The bracket that closes what another one opens. -/
def closing (bracket : Char) : Char :=
  if bracket = '(' then ')' else if bracket = '[' then ']' else '}'

/-- The open brackets after a sign. -/
def Place.bracketsAfter (place : Place) (sign : Char) : Except FormFault (List (Char × Nat)) :=
  if sign = '(' || sign = '[' || sign = '{' then
    if place.brackets.length < deepest then .ok ((sign, place.line) :: place.brackets)
    else .error .tooDeep
  else if sign = ')' || sign = ']' || sign = '}' then
    match place.brackets with
    | [] => .error (.unmatched sign)
    | (opening, line) :: outer =>
      if closing opening = sign then .ok outer
      else .error (.crossed sign opening (if line = place.line then none else some line))
  else .ok place.brackets

/-- The column that blanks at the start of a line lead to. -/
def columnAfter (blanks : Text) : Nat :=
  blanks.foldl (fun column c =>
    if c = '\t' then (column / 8 + 1) * 8 else if c = '\x0c' then 0 else column + 1) 0

/-- Whether a character is passed over between tokens. -/
def isGap (c : Char) : Bool := c = ' ' || c = '\t' || c = '\x0c'

/-- The end of a row of tokens inside the innermost open bracket, or outside. -/
def Place.earlyEnd (place : Place) (fault : FormFault) : Ending :=
  .early (place.brackets.head?.elim fault fun bracket => .unclosed bracket.1) place.brackets.head?

/-- The tokens of a text from a given place on, at most as many as `bound`. -/
def tokensFrom (bound : Nat) (place : Place) (text : Text) : List Token × Ending :=
  match bound with
  | 0 => ([], .complete)
  | bound + 1 =>
    let token (kind : Kind) (written : Text) (next : Place) (rest : Text) : List Token × Ending :=
      let (tokens, ending) := tokensFrom bound { next with fresh := false } rest
      (⟨kind, written, next.brackets.length, next.line⟩ :: tokens, ending)
    let sign (written rest : Text) : List Token × Ending :=
      match place.bracketsAfter (written.head?.getD ' ') with
      | .ok brackets => token .sign written { place with brackets := brackets } rest
      | .error fault => ([], .broken fault)
    match text with
    | [] =>
      if place.brackets = [] then ([⟨.textEnd, [], 0, place.line⟩], .complete)
      else ([], place.earlyEnd .unexpectedEnd)
    | '\\' :: '\n' :: rest =>
      if rest = [] then ([], place.earlyEnd .unexpectedEnd)
      else tokensFrom bound { place with line := place.line + 1 } rest
    | '\\' :: _ => ([], .early .afterContinuation place.brackets.head?)
    | '\n' :: rest =>
      let blanks := rest.takeWhile isGap
      let column := columnAfter blanks
      let next := { place with line := place.line + 1, fresh := true }
      let after (text : Text) : List Token × Ending :=
        let start := text.drop blanks.length
        if place.brackets ≠ [] || start.head?.any (fun c => c = '\n' || c = '#') then
          tokensFrom bound next start
        else
          let outer := place.columns.dropWhile (column < ·)
          if outer.head?.getD 0 = column then tokensFrom bound { next with columns := outer } start
          else if outer = place.columns then
            token .indent [] { next with columns := column :: outer } start
          else ([], .early .indented none)
      if place.brackets ≠ [] || place.fresh then after rest
      else
        let (tokens, ending) := after rest
        (⟨.lineEnd, ['\n'], 0, place.line⟩ :: tokens, ending)
    | c :: rest =>
      if isGap c then tokensFrom bound place rest
      else if c = '#' then tokensFrom bound place (rest.dropWhile (· ≠ '\n'))
      else match openedString? text with
        | some (quote, inside) =>
          match afterQuote quote place.line inside with
          | .ok (after, line) =>
            token .string (text.take (text.length - after.length)) { place with line := line } after
          | .error fault => ([], .broken fault)
        | none =>
          if c.isDigit || (c = '.' && rest.head?.any Char.isDigit) then
            match afterNumeral text with
            | .ok after => token .numeral (text.take (text.length - after.length)) place after
            | .error fault => ([], .broken fault)
          else if joins c then
            let name := text.takeWhile joins
            match misplaced? name with
            | some c => ([], .broken (.badCharacter c))
            | none =>
              let kind := if reservedWords.any (·.toList = name) then Kind.sign else Kind.name
              token kind name place (text.dropWhile joins)
          else if !Text.isPrintable c then ([], .broken (.badCharacter c))
          else match longSigns.find? fun long => long.toList.isPrefixOf text with
            | some long => sign long.toList (text.drop long.length)
            | none => sign [c] rest

/-- A text in which every line ends with a line feed alone. -/
def withLineFeeds : Text → Text
  | '\r' :: '\n' :: rest => '\n' :: withLineFeeds rest
  | c :: rest => (if c = '\r' then '\n' else c) :: withLineFeeds rest
  | [] => []

/-- The tokens of a text. -/
def tokens (text : Text) : List Token × Ending :=
  tokensFrom (2 * text.length + 2) ⟨[], 1, [], true⟩ (withLineFeeds text)

end Reimport.Literal
