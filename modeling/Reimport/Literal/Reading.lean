import Std.Data.HashMap
import Reimport.Literal.Grammar

/-!
# Reading expressions

An expression is read by the forms of its phrases, twice if need be: first to find out
what it is, and if it is none, once more with an eye to mistakes that have a name.  What
is found of some phrases is remembered for the rest of a reading.
-/
namespace Reimport.Literal

/-- What an expression consists of.  A phrase with only one part is that part. -/
inductive Tree where
  /-- A token. -/
  | token (token : Token)
  /-- The parts of a phrase. -/
  | node (phrase : Phrase) (parts : List Tree)
  deriving Repr

/-- The tree of a phrase with these parts. -/
def Tree.of (phrase : Phrase) (parts : List Tree) : Tree :=
  match parts with
  | [part] => part
  | parts => .node phrase parts

/-! ## Names of kinds of expressions -/

/-- Whether the letters before the quote of a string include a given one. -/
def hasLetter (letter : Char) (written : Text) : Bool :=
  ((written.takeWhile fun c => c ≠ '\x27' && c ≠ '\x22').map Char.toLower).contains letter

/-- What a kind of expression is called in a message. -/
def Tree.kindName : Tree → Text
  | .token ⟨.name, _, _, _⟩ => "name"
  | .token ⟨.string, written, _, _⟩ =>
    if hasLetter 'f' written then "f-string expression" else "literal"
  | .token ⟨.sign, written, _, _⟩ => if written = ['.', '.', '.'] then "ellipsis" else written
  | .token _ => "literal"
  | .node .strings (.token ⟨_, written, _, _⟩ :: _) =>
    if hasLetter 'f' written then "f-string expression" else "literal"
  | .node .group [_, inner, _] => inner.kindName
  | .node .primary parts => match parts.getLast? with
    | some (.node .trailer (.token ⟨_, written, _, _⟩ :: _)) =>
      if written = ['.'] then "attribute" else "function call"
    | _ => "function call"
  | .node phrase _ => match phrase with
    | .comparison => "comparison"
    | .item | .calmItem => "conditional expression"
    | .named => "named expression"
    | .tuple | .items | .starItems => "tuple"
    | .generator => "generator expression"
    | .set => "set display"
    | .dict => "dict literal"
    | .setRepetition => "set comprehension"
    | .dictRepetition => "dict comprehension"
    | .function => "lambda"
    | .produced => "yield expression"
    | .awaited => "await expression"
    | .member | .starred | .starItem => "starred"
    | _ => "expression"

/-- The part of an expression that cannot be assigned to, if there is one.  In the
comparison behind `for` only what stands before `in` is assigned to. -/
def Tree.unassignable? : Tree → Option Tree
  | .token ⟨.name, _, _, _⟩ => none
  | .node .group [_, inner, _] => inner.unassignable?
  | .node .starItem [_, inner] => inner.unassignable?
  | .node .member [_, inner] => inner.unassignable?
  | .node .starItems parts => among parts
  | .node .members parts => among parts
  | .node .tuple parts => among parts
  | .node .comparison (front :: .node .compared (.token ⟨_, written, _, _⟩ :: _) :: _) =>
    if written = ['i', 'n'] then front.unassignable? else none
  | tree => if tree.kindName = "attribute" then none else some tree
where
  among : List Tree → Option Tree
    | [] => none
    | .token ⟨.sign, _, _, _⟩ :: rest => among rest
    | part :: rest => part.unassignable?.or (among rest)

/-! ## Arguments -/

/-- The number of arguments that have no name. -/
def Tree.positionals : Tree → Nat
  | .node .argumentList parts => among parts
  | .node .namedArguments parts => among parts
  | .node .namedOrStarred _ => 0
  | .node .namedOrDouble _ => 0
  | _ => 1
where
  among : List Tree → Nat
    | [] => 0
    | .token ⟨.sign, [','], _, _⟩ :: rest => among rest
    | part :: rest => part.positionals + among rest

/-- Whether an argument has two stars. -/
def Tree.hasDouble : Tree → Bool
  | .node .argumentList parts => among parts
  | .node .namedArguments parts => among parts
  | .node .namedOrDouble (.token ⟨.sign, _, _, _⟩ :: _) => true
  | _ => false
where
  among : List Tree → Bool
    | [] => false
    | part :: rest => part.hasDouble || among rest

/-! ## Refusals -/

/-- The functions that used to be statements. -/
def isFormerStatement (name : Text) : Bool :=
  name = "print".toList || name = "exec".toList

/-- Whether a tree is the name of a function that used to be a statement. -/
def Tree.isFormerStatement : Tree → Bool
  | .token ⟨.name, written, _, _⟩ => Literal.isFormerStatement written
  | _ => false

/-- The fault of a form with these parts, the last token of which has so many open
brackets behind it. -/
def Refusal.fault? (refusal : Refusal) (depth : Nat) (parts : List Tree) : Option FormFault :=
  match refusal, parts with
  | .always fault, _ => some fault
  | .forgottenComma, first :: _ =>
    if first.isFormerStatement || depth = 0 then none else some .forgottenComma
  | .bareCall, .token token :: _ =>
    if isFormerStatement token.text then some (.bareCall token.text) else none
  | .namedTarget, first :: _ => some (.namedTarget first.kindName)
  | .assignedTarget, first :: _ => some (.assignedTarget first.kindName)
  | .unassignable, first :: _ => some (.unassignable first.kindName)
  | .repetitionTarget, parts =>
    (parts.getLast?.bind Tree.unassignable?).map fun tree => .unassignable tree.kindName
  | .bareGenerator, first :: _ => if first.positionals ≤ 1 then none else some .bareGenerator
  | .positional, first :: _ =>
    some (if first.hasDouble then .positionalAfterDouble else .positionalAfterNamed)
  | _, [] => none
  | _, _ => none

/-! ## Strings -/

/-- The end of what is read of the hexadecimal digits of an escape, at most so many, and
their number, if all are there.  The position is that of the first digit. -/
def escapedNumber (wanted position value : Nat) (text : Text) : Nat × Option Nat :=
  match wanted, text with
  | 0, _ => (position, some value)
  | wanted + 1, c :: rest => match Text.hexValue? c with
    | some digit => escapedNumber wanted (position + 1) (value * 16 + digit) rest
    | none => (position, none)
  | _ + 1, [] => (position, none)

/-- The number of bytes that a character of a string takes up when its escapes are read:
beyond ASCII each is an escape itself. -/
def escapedSize (c : Char) : Nat := if c.toNat < 0x80 then 1 else 10

/-- The first bad escape in a string from a given byte on. -/
def escapeFault? (position : Nat) : Text → Option FormFault
  | '\\' :: c :: rest =>
    match if c = 'x' then some 2 else if c = 'u' then some 4 else if c = 'U' then some 8 else none with
    | some wanted => match escapedNumber wanted (position + 2) 0 rest with
      | (last, none) => some (.badEscape position (last - 1) (.truncated c wanted))
      | (last, some value) =>
        if 0x10ffff < value then some (.badEscape position (last - 1) .beyond)
        else escapeFault? (position + 2) rest
    | none =>
      if c = 'N' && rest.head? ≠ some '\x7b' then
        some (.badEscape position (position + 1) .unnamed)
      else escapeFault? (position + (if c.toNat < 0x80 then 2 else 16)) rest
  | c :: rest => escapeFault? (position + escapedSize c) rest
  | [] => none

/-- The first bad escape in a byte string from a given byte on. -/
def byteFault? (position : Nat) : Text → Option FormFault
  | '\\' :: 'x' :: rest => match escapedNumber 2 0 0 rest with
    | (_, none) => some (.badByte position)
    | (_, some _) => byteFault? (position + 2) rest
  | '\\' :: _ :: rest => byteFault? (position + 2) rest
  | _ :: rest => byteFault? (position + 1) rest
  | [] => none

/-- What stands between the quotes of a string. -/
def stringBody (written : Text) : Text :=
  match written.dropWhile fun c => c ≠ '\x27' && c ≠ '\x22' with
  | quote :: rest =>
    if [quote, quote].isPrefixOf rest && 2 < rest.length then
      (rest.drop 2).take (rest.length - 5)
    else rest.dropLast
  | [] => []

/-- What is wrong with a string. -/
def stringFault? (written : Text) : Option FormFault :=
  let body := stringBody written
  let raw := hasLetter 'r' written || !body.contains '\\'
  if hasLetter 'b' written then
    if body.any (0x80 ≤ ·.toNat) then some .beyondBytes
    else if raw then none else byteFault? 0 body
  else if hasLetter 'f' written || raw then none
  else escapeFault? 0 body

/-- What is wrong with strings side by side. -/
def stringsFault? (strings : List Text) : Option FormFault :=
  check strings
where
  bytes : Option Bool := strings.head?.map (hasLetter 'b')
  check : List Text → Option FormFault
    | [] => none
    | string :: rest =>
      if some (hasLetter 'b' string) ≠ bytes then some .mixedStrings
      else (stringFault? string).or (check rest)

/-- What is wrong with a numeral. -/
def numeralFault? (written : Text) : Option FormFault :=
  let digits := written.filter (· ≠ '_')
  if digits.all Char.isDigit && Text.readableDigits < digits.length then
    some (.overlong digits.length)
  else none

/-- The texts of tokens side by side. -/
def writtenAll (parts : List Tree) : List Text :=
  parts.filterMap fun part => match part with
    | .token token => some token.text
    | .node _ _ => none

/-- What is wrong with a phrase that has been read. -/
def partsFault? (phrase : Phrase) (parts : List Tree) : Option FormFault :=
  match phrase, parts with
  | .strings, parts => stringsFault? (writtenAll parts)
  | .atom, [.token ⟨.numeral, written, _, _⟩] => numeralFault? written
  | _, _ => none

/-! ## The reader -/

/-- What is read: tokens and how they end. -/
structure Row where
  /-- The tokens. -/
  tokens : Array Token
  /-- How they end. -/
  ending : Ending

/-- What is known in the course of a reading. -/
structure Memory where
  /-- What was found of phrases at places: where they end, and their trees. -/
  found : Std.HashMap (Phrase × Nat) (Option (Nat × Tree))
  /-- The furthest place that was looked at. -/
  furthest : Nat

/-- A step of a reading, which ends at the first fault. -/
abbrev Read := EStateM FormFault Memory

/-- The token at a place. -/
def Row.look (row : Row) (place : Nat) : Read Token := do
  modify fun memory => { memory with furthest := max memory.furthest place }
  match row.tokens[place]?, row.ending with
  | some token, _ => return token
  | none, .broken fault => throw fault
  | none, .early fault _ => throw fault
  | none, .complete => throw .invalid

/-- Whether the token at a place is written in one of several ways. -/
def Row.shows (row : Row) (place : Nat) (signs : List String) : Read Bool := do
  let token ← row.look place
  return signs.any (·.toList = token.text)

/-- The number of open brackets behind the token before a place. -/
def Row.depthBefore (row : Row) (place : Nat) : Nat :=
  (row.tokens[place - 1]?).elim 0 Token.depth

mutual

/-- Reads a phrase at a place, with an eye to mistakes if `wary`. -/
def readPhrase (row : Row) (fuel : Nat) (wary : Bool) (phrase : Phrase) (place : Nat) :
    Read (Option (Nat × Tree)) :=
  match fuel with
  | 0 => return none
  | fuel + 1 => do
    let _ ← row.look place
    if phrase.isRemembered then
      if let some found := (← get).found[(phrase, place)]? then return found
    let found ← readForms row fuel wary phrase place phrase.forms
    if phrase.isRemembered then
      modify fun memory => { memory with found := memory.found.insert (phrase, place) found }
    return found

/-- Reads the first form that fits. -/
def readForms (row : Row) (fuel : Nat) (wary : Bool) (phrase : Phrase) (place : Nat)
    (forms : List Form) : Read (Option (Nat × Tree)) :=
  match fuel, forms with
  | 0, _ | _, [] => return none
  | fuel + 1, .fits pieces :: rest => do
    match ← readPieces row fuel wary pieces place with
    | some (next, parts) =>
      if let some fault := partsFault? phrase parts then throw fault
      return some (next, .of phrase parts)
    | none => readForms row fuel wary phrase place rest
  | fuel + 1, .refused refusal pieces :: rest => do
    if wary then
      if let some (next, parts) ← readPieces row fuel wary pieces place then
        if let some fault := refusal.fault? (row.depthBefore next) parts then throw fault
    readForms row fuel wary phrase place rest
  | fuel + 1, .alwaysRefused refusal pieces :: rest => do
    if let some (next, parts) ← readPieces row fuel wary pieces place then
      if let some fault := refusal.fault? (row.depthBefore next) parts then throw fault
    readForms row fuel wary phrase place rest

/-- Reads pieces one after the other. -/
def readPieces (row : Row) (fuel : Nat) (wary : Bool) (pieces : List Piece) (place : Nat) :
    Read (Option (Nat × List Tree)) :=
  match fuel, pieces with
  | 0, _ => return none
  | _, [] => return some (place, [])
  | fuel + 1, piece :: rest => do
    match ← readPiece row fuel wary piece place with
    | none => return none
    | some (next, parts) =>
      match ← readPieces row fuel wary rest next with
      | none => return none
      | some (last, more) => return some (last, parts ++ more)

/-- Reads one piece. -/
def readPiece (row : Row) (fuel : Nat) (wary : Bool) (piece : Piece) (place : Nat) :
    Read (Option (Nat × List Tree)) :=
  match fuel with
  | 0 => return none
  | fuel + 1 => do
    match piece with
    | .kind kind =>
      let token ← row.look place
      return if token.kind = kind then some (place + 1, [.token token]) else none
    | .sign signs =>
      if ← row.shows place signs then return some (place + 1, [.token (← row.look place)])
      else return none
    | .phrase phrase =>
      return (← readPhrase row fuel wary phrase place).map fun (next, tree) => (next, [tree])
    | .calm phrase =>
      return (← readPhrase row fuel false phrase place).map fun (next, tree) => (next, [tree])
    | .maybe pieces => return (← readPieces row fuel wary pieces place).getD (place, [])
    | .many pieces =>
      match ← readPieces row fuel wary pieces place with
      | none => return some (place, [])
      | some (next, parts) =>
        match ← readPiece row fuel wary (.many pieces) next with
        | none => return some (next, parts)
        | some (last, more) => return some (last, parts ++ more)
    | .before signs => return if ← row.shows place signs then some (place, []) else none
    | .notBefore signs => return if ← row.shows place signs then none else some (place, [])
    | .notAt phrase =>
      return if (← readPhrase row fuel wary phrase place).isSome then none else some (place, [])

end

/-- A bound on the steps of a reading that are inside one another: a token takes one
through every phrase once at most. -/
def Row.bound (row : Row) : Nat := 400 * (row.tokens.size + 2)

/-- The fault that is reported of a text in which a reading has found one, by the furthest
place that was looked at.  What can be no token has precedence, and so has an open
bracket of an earlier line. -/
def Row.prevailing (row : Row) (found : FormFault) (furthest : Nat) : FormFault :=
  match row.ending with
  | .complete => found
  | .broken fault => fault
  | .early _ bracket => match bracket, row.tokens[furthest]? with
    | some (opening, line), some token => if line < token.line then .unclosed opening else found
    | _, _ => found

/-- Reads the whole row once. -/
def Row.readOnce (row : Row) (wary : Bool) (furthest : Nat) :
    EStateM.Result FormFault Memory (Option (Nat × Tree)) :=
  (readPhrase row row.bound wary .whole 0).run ⟨∅, furthest⟩

/-- The expression that a row of tokens is. -/
def Row.read (row : Row) : Except FormFault Tree :=
  match row.readOnce false 0 with
  | .error fault memory => .error (row.prevailing fault memory.furthest)
  | .ok (some (_, tree)) _ => .ok tree
  | .ok none first =>
    match row.readOnce true first.furthest with
    | .error fault memory => .error (row.prevailing fault memory.furthest)
    | .ok _ memory =>
      if (row.tokens[first.furthest]?).any fun token => token.kind = .indent then .error .indented
      else .error (row.prevailing .invalid memory.furthest)

/-- The expression that is written in a text. -/
def expression (text : Text) : Except FormFault Tree :=
  let (tokens, ending) := tokens text
  (Row.mk tokens.toArray ending).read

end Reimport.Literal
