import Reimport.Text.Digit
import Reimport.Text.Quoted

/-!
# Words of a command line

A word of a command line names a switch or is an operand.  A long switch may be
cut short as long as no other switch begins the same way, a value may be attached
to it by an equals sign, and letters may be joined to a short switch.  After a
word that is two hyphens every word is an operand.  So are an empty word, a
single hyphen, a negative number and whatever has a blank in it, unless it names
a switch.
-/
namespace Reimport.CommandLine

/-- What is wrong with a command line. -/
inductive Misuse where
  /-- No command is given. -/
  | commandMissing
  /-- There is no such command. -/
  | commandUnknown (given : Text)
  /-- A word could mean more than one switch. -/
  | ambiguous (word : Text) (meanings : List Text)
  /-- A switch that takes a value is given none. -/
  | valueMissing (switch : Text)
  /-- A switch that takes no value is given one. -/
  | valueIgnored (switch value : Text)
  /-- Some words mean nothing. -/
  | unrecognized (words : List Text)
  deriving DecidableEq, Repr

/-- The name of the only command. -/
def checkCommand : Text := "ast"

/-- The wording of a misuse. -/
def Misuse.message : Misuse → Text
  | .commandMissing => "the following arguments are required: command"
  | .commandUnknown given =>
    .join ["argument command: invalid choice: ", Text.quoted given, " (choose from ",
      Text.quoted checkCommand, ")"]
  | .ambiguous word meanings =>
    .join ["ambiguous option: ", word, " could match ", .intercalate ", " meanings]
  | .valueMissing switch => .join ["argument ", switch, ": expected one argument"]
  | .valueIgnored switch value =>
    .join ["argument ", switch, ": ignored explicit argument ", Text.quoted value]
  | .unrecognized words => .join ["unrecognized arguments: ", .intercalate [' '] words]

/-- What is attached to the word of a switch. -/
inductive Attached where
  /-- Nothing. -/
  | nothing
  /-- A value, after an equals sign. -/
  | value (value : Text)
  /-- Letters, right after the letter of a short switch. -/
  | letters (letters : Text)
  deriving DecidableEq, Repr

/-- What a word of a command line is.  `Switch` are the switches that there are. -/
inductive Word (Switch : Type) where
  /-- An operand. -/
  | operand
  /-- Two hyphens. -/
  | terminator
  /-- A switch. -/
  | switch (switch : Switch) (attached : Attached)
  /-- It looks like a switch and is none. -/
  | unknown
  deriving DecidableEq, Repr

namespace Word

variable {Switch : Type}

/-- The two hyphens. -/
def hyphens : Text := ['-', '-']

/-- Whether a word is a negative number.  A line feed may follow it. -/
def isNegativeNumber (text : Text) : Bool :=
  match text with
  | '-' :: rest =>
    let rest := if rest.getLast? = some '\n' then rest.dropLast else rest
    let places := rest.dropWhile Text.isAnyDigit
    match places with
    | [] => rest ≠ []
    | '.' :: digits => digits ≠ [] && digits.all Text.isAnyDigit
    | _ => false
  | _ => false

/-- The text before the first equals sign, and what follows it if there is one. -/
def cutAtEquals (text : Text) : Text × Option Text :=
  match text.dropWhile (· ≠ '=') with
  | _ :: after => (text.takeWhile (· ≠ '='), some after)
  | [] => (text, none)

/-- What an equals sign attaches. -/
def attachedBy (after : Option Text) : Attached := after.elim .nothing .value

/-- The switches that a word beginning with a hyphen could mean when it is none in
full, each with the way it is spelled. -/
def meanings (spellings : List (Text × Switch)) (text : Text) :
    List (Text × Word Switch) :=
  if hyphens.isPrefixOf text then
    let (start, after) := cutAtEquals text
    (spellings.filter fun (spelling, _) => start.isPrefixOf spelling).map
      fun (spelling, meant) => (spelling, .switch meant (attachedBy after))
  else
    spellings.filterMap fun (spelling, meant) =>
      if spelling = text.take 2 then some (spelling, .switch meant (.letters (text.drop 2)))
      else if text.isPrefixOf spelling then some (spelling, .switch meant .nothing)
      else none

/-- What a word is, by the spellings of the switches. -/
def ofText (spellings : List (Text × Switch)) (text : Text) : Except Misuse (Word Switch) :=
  if text.head? ≠ some '-' then .ok .operand
  else match spellings.lookup text with
    | some meant => .ok (.switch meant .nothing)
    | none =>
      if text = ['-'] then .ok .operand
      else
        let (before, after) := cutAtEquals text
        match after, spellings.lookup before with
        | some value, some meant => .ok (.switch meant (.value value))
        | _, _ =>
          match meanings spellings text with
          | [(_, word)] => .ok word
          | [] => .ok (if isNegativeNumber text || text.contains ' ' then .operand else .unknown)
          | several => .error (.ambiguous text (several.map Prod.fst))

/-- What the words of a command line are, each beside its text. -/
def ofTexts (spellings : List (Text × Switch)) : List Text → Except Misuse (List (Text × Word Switch))
  | [] => .ok []
  | text :: rest =>
    if text = hyphens then .ok ((text, .terminator) :: rest.map fun text => (text, .operand))
    else do
      let word ← ofText spellings text
      return (text, word) :: (← ofTexts spellings rest)

end Word
end Reimport.CommandLine
