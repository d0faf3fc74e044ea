import Reimport.Literal.Reading

/-!
# Literals

A literal is an expression that stands for a value by itself: a number, a string, a
truth value, or a tuple, a set or a dictionary of literals.  Nothing here needs the value
itself, so only the part of it is computed that decides whether the literal makes sense:
what is a member of a set or a key of a dictionary must not change, and only a real and
an imaginary number make a sum.
-/
namespace Reimport.Literal

/-- As much of a value as decides where it may stand. -/
inductive Value where
  /-- A number or a text, which stands anywhere. -/
  | atom
  /-- A tuple of values. -/
  | tuple (members : List Value)
  /-- A set. -/
  | set
  /-- A dictionary. -/
  | dict

/-- Finds that a value may be a member of a set or a key of a dictionary. -/
def Value.fixed : Value → Except ValueFault Unit
  | .atom => .ok ()
  | .tuple members => all members
  | .set => .error (.unhashable "set")
  | .dict => .error (.unhashable "dict")
where
  all : List Value → Except ValueFault Unit
    | [] => .ok ()
    | member :: rest => do member.fixed; all rest

/-- The line on which an expression ends that is one token, or its first token. -/
def Tree.line : Tree → Nat
  | .token word => word.line
  | .node _ (part :: _) => part.line
  | .node _ [] => 1

/-- Whether an expression is a number without a sign, and if so, an imaginary one. -/
def Tree.number? : Tree → Option Bool
  | .token ⟨.numeral, written, _, _⟩ =>
    some (written.getLast?.any fun c => (c = 'j' || c = 'J') && !isHexadecimal written)
  | .node .group [_, inner, _] => inner.number?
  | _ => none
where
  isHexadecimal (written : Text) : Bool :=
    ['0', 'x'].isPrefixOf written || ['0', 'X'].isPrefixOf written

/-- Whether an expression is a number, and if so, an imaginary one. -/
def Tree.signedNumber? : Tree → Option Bool
  | .node .signed [.token ⟨_, sign, _, _⟩, inner] =>
    if sign = ['+'] || sign = ['-'] then inner.number? else none
  | .node .group [_, inner, _] => inner.signedNumber?
  | tree => tree.number?

/-- Whether a token only holds a display together. -/
def Token.isPunctuation (token : Token) : Bool :=
  token.kind = .sign && [["("], [")"], ["\x7b"], ["\x7d"], [","]].any fun sign =>
    sign.map String.toList = [token.text]

/-- Whether an expression is the name of the empty set's constructor. -/
def Tree.isSetName : Tree → Bool
  | .token ⟨.name, written, _, _⟩ => written = "set".toList
  | .node .group [_, inner, _] => inner.isSetName
  | _ => false

mutual

/-- The value that an expression stands for. -/
def Tree.value : Tree → Except ValueFault Value
  | .token word =>
    if word.kind = .name || word.text = "yield".toList ||
        (word.kind = .string && hasLetter 'f' word.text) then
      .error (.notLiteral word.line)
    else .ok .atom
  | .node .strings parts =>
    if (writtenAll parts).any (hasLetter 'f') then
      .error (.notLiteral (Tree.node .strings parts).line)
    else .ok .atom
  | .node .group [_, inner, _] => inner.value
  | .node .items parts => return .tuple (← membersValue false parts)
  | .node .tuple parts => return .tuple (← membersValue false parts)
  | .node .set parts => do
    let _ ← membersValue true parts
    return .set
  | .node .dict parts => do
    entriesValue parts
    return .dict
  | .node .primary [name, .node .trailer [opening, closing]] =>
    if name.isSetName then .ok .set
    else .error (.notLiteral (Tree.node .primary [name, opening, closing]).line)
  | .node .sum [left, sign, right] =>
    if left.signedNumber? = some false && right.number? = some true then .ok .atom
    else .error (.notLiteral (Tree.node .sum [left, sign, right]).line)
  | tree =>
    if tree.signedNumber?.isSome then .ok .atom else .error (.notLiteral tree.line)

/-- The values of the members of a tuple or a set; those of a set have to be `fixed`. -/
def membersValue (fixed : Bool) : List Tree → Except ValueFault (List Value)
  | [] => .ok []
  | .node .members parts :: rest => do
    return (← membersValue fixed parts) ++ (← membersValue fixed rest)
  | .token word :: rest =>
    if word.isPunctuation then membersValue fixed rest
    else do
      let value ← (Tree.token word).value
      return value :: (← membersValue fixed rest)
  | part :: rest => do
    let value ← part.value
    if fixed then value.fixed
    return value :: (← membersValue fixed rest)

/-- Finds that the entries of a dictionary stand for values. -/
def entriesValue : List Tree → Except ValueFault Unit
  | [] => .ok ()
  | .node .entries parts :: rest => do entriesValue parts; entriesValue rest
  | .node .pair [key, _, value] :: rest => do
    let key ← key.value
    let _ ← value.value
    key.fixed
    entriesValue rest
  | .node .entry _ :: _ => .error .missingKey
  | _ :: rest => entriesValue rest

end

/-- Finds that an expression with its end is a literal. -/
def Tree.wholeValue : Tree → Except ValueFault Value
  | .node .whole (inner :: _) => inner.value
  | tree => tree.value

/-- Finds out whether a text is a literal. -/
def check (text : Text) : Except Fault Unit :=
  if text.contains '\x00' then .error (.value .nul)
  else match expression text with
    | .error fault => .error (.form fault)
    | .ok tree => match tree.wholeValue with
      | .error fault => .error (.value fault)
      | .ok _ => .ok ()

end Reimport.Literal
