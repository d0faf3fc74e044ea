import Reimport.Literal.Token

/-!
# The grammar of expressions

A phrase is a kind of expression or a part of one, and `forms` lists the ways to write
it.  They are tried in order, and the first that fits is taken for good.

Some forms are there to be refused: they say what a writer may have meant.  They are
looked for only when the text has been found to be no expression, except those inside
the braces of a dictionary.
-/
namespace Reimport.Literal

/-- A kind of expression, or a part of one. -/
inductive Phrase where
  | whole | items | item | calmItem | starItems | starItem
  | members | member | named | namedOrItem
  | choice | both | inversion | comparison | compared
  | alternation | exclusion | conjunction | shift | sum | product | signed | power
  | awaited | primary | trailer | atom | strings | ellipsis | truth
  | tuple | group | produced | set | dict | entries | entry | pair
  | generator | setRepetition | dictRepetition | repetitions | repetition
  | targets | target | innerTarget | targetStart
  | arguments | argumentList | argument | plainArgument | starred
  | namedArguments | namedOrStarred | namedOrDouble
  | function | parameter
  | nameBeforeString | unassignable | nameEquals | repetitionHead
  deriving DecidableEq, Repr, Hashable

/-- What may be found in a text, read as a sequence of tokens and phrases. -/
inductive Piece where
  /-- A token of this kind. -/
  | kind (kind : Kind)
  /-- A token that is written in one of these ways. -/
  | sign (signs : List String)
  /-- A phrase. -/
  | phrase (phrase : Phrase)
  /-- A phrase in which nothing is refused. -/
  | calm (phrase : Phrase)
  /-- These pieces, or nothing. -/
  | maybe (pieces : List Piece)
  /-- These pieces, any number of times. -/
  | many (pieces : List Piece)
  /-- Nothing, where one of these signs comes. -/
  | before (signs : List String)
  /-- Nothing, where none of these signs comes. -/
  | notBefore (signs : List String)
  /-- Nothing, where this phrase does not come. -/
  | notAt (phrase : Phrase)

/-- Why a form is refused; some depend on what was written. -/
inductive Refusal where
  /-- For this reason. -/
  | always (fault : FormFault)
  /-- Two expressions follow one another inside brackets. -/
  | forgottenComma
  /-- The name of a function that used to be a statement is followed by an argument. -/
  | bareCall
  /-- The first part cannot be named in passing. -/
  | namedTarget
  /-- The first part cannot be assigned to here. -/
  | assignedTarget
  /-- The first part cannot be assigned to at all. -/
  | unassignable
  /-- The part after `for` may hold something that cannot be assigned to. -/
  | repetitionTarget
  /-- The last of several arguments is repeated. -/
  | bareGenerator
  /-- Arguments without a name come after others. -/
  | positional

/-- A way to write a phrase. -/
inductive Form where
  /-- This sequence. -/
  | fits (pieces : List Piece)
  /-- This sequence would be a mistake. -/
  | refused (refusal : Refusal) (pieces : List Piece)
  /-- This sequence would be a mistake, and is never overlooked. -/
  | alwaysRefused (refusal : Refusal) (pieces : List Piece)

open Piece Form in
/-- Phrases at one level of binding, joined by operators. -/
def joined (signs : List String) (inner : Phrase) : List Form :=
  [fits [phrase inner, many [sign signs, phrase inner]]]

/-- Pieces separated by commas. -/
def Piece.separated (piece : Piece) : List Piece := [piece, .many [.sign [","], piece]]

/-- A comma that may follow the last of several pieces. -/
def Piece.lastComma : Piece := .maybe [.sign [","]]

open Piece Form in
/-- What is refused behind a bracket: a repetition whose item is no single expression. -/
def refusedRepetitions : List Form :=
  [refused (.always .starredRepetition) [sign ["[", "(", "\x7b"], phrase .starred, phrase .repetitions],
    refused (.always .bareRepetition)
      ([sign ["[", "\x7b"], phrase .member, sign [","], phrase .members, phrase .repetitions]),
    refused (.always .bareRepetition)
      [sign ["[", "\x7b"], phrase .member, sign [","], phrase .repetitions]]

open Piece Form in
/-- What is refused in place of a named argument. -/
def refusedNames : List Form :=
  [refused .unassignable [phrase .truth, sign ["="]],
    refused (.always .singleEquals) [kind .name, sign ["="], phrase .item, phrase .repetitions],
    refused (.always .assignedArgument) [notAt .nameEquals, phrase .item, sign ["="]]]

open Piece Form in
/-- What is refused where an entry of a dictionary ends in its value, behind `front`. -/
def refusedEntries (front : List Piece) : List Form :=
  [alwaysRefused (.always .starredValue)
      (front ++ [phrase .item, sign [":"], sign ["*"], phrase .alternation]),
    alwaysRefused (.always .missingValue)
      (front ++ [phrase .item, sign [":"], before ["\x7d", ","]])]

open Piece Form in
/-- The ways to write a phrase. -/
def Phrase.forms : Phrase → List Form
  | whole => [fits [phrase items, many [kind .lineEnd], kind .textEnd]]
  | items => [fits (separated (phrase item) ++ [lastComma])]
  | item =>
    [refused .forgottenComma [notAt nameBeforeString, phrase choice, calm calmItem],
      refused (.always .missingElse)
        [phrase choice, sign ["if"], phrase choice, notBefore ["else", ":"]],
      refused .bareCall [kind .name, notBefore ["("], phrase starItems],
      fits [phrase choice, sign ["if"], phrase choice, sign ["else"], phrase item],
      fits [phrase choice], fits [phrase function]]
  | calmItem =>
    [fits [phrase choice, sign ["if"], phrase choice, sign ["else"], phrase item],
      fits [phrase choice], fits [phrase function]]
  | starItems => [fits (separated (phrase starItem) ++ [lastComma])]
  | starItem => [fits [sign ["*"], phrase alternation], fits [phrase item]]
  | members => [fits (separated (phrase member) ++ [lastComma])]
  | member => [fits [sign ["*"], phrase alternation], fits [phrase namedOrItem]]
  | named => [fits [kind .name, sign [":="], phrase item]]
  | namedOrItem =>
    [fits [phrase named],
      refused .namedTarget [phrase item, sign [":="], phrase item],
      refused (.always .singleEquals)
        [kind .name, sign ["="], phrase alternation, notBefore ["=", ":="]],
      refused .assignedTarget
        [notAt unassignable, phrase alternation, sign ["="], phrase alternation,
          notBefore ["=", ":="]],
      fits [phrase item, notBefore [":="]]]
  | choice => joined ["or"] both
  | both => joined ["and"] inversion
  | inversion => [fits [sign ["not"], phrase inversion], fits [phrase comparison]]
  | comparison => [fits [phrase alternation, many [phrase compared]]]
  | compared =>
    [fits [sign ["==", "!=", "<=", "<", ">=", ">"], phrase alternation],
      fits [sign ["not"], sign ["in"], phrase alternation],
      fits [sign ["in"], phrase alternation],
      fits [sign ["is"], sign ["not"], phrase alternation],
      fits [sign ["is"], phrase alternation]]
  | alternation => joined ["|"] exclusion
  | exclusion => joined ["^"] conjunction
  | conjunction => joined ["&"] shift
  | shift => joined ["<<", ">>"] sum
  | sum => joined ["+", "-"] product
  | product => joined ["*", "/", "//", "%", "@"] signed
  | signed => [fits [sign ["+", "-", "~"], phrase signed], fits [phrase power]]
  | power => [fits [phrase awaited, maybe [sign ["**"], phrase signed]]]
  | awaited => [fits [sign ["await"], phrase primary], fits [phrase primary]]
  | primary => [fits [phrase atom, many [phrase trailer]]]
  | trailer =>
    [fits [sign ["."], kind .name], fits [phrase generator],
      fits [sign ["("], maybe [phrase arguments], sign [")"]]]
  | atom =>
    [fits [kind .name], fits [phrase truth], fits [phrase strings], fits [kind .numeral],
      fits [phrase tuple], fits [phrase group], fits [before ["("], phrase generator],
      fits [phrase dict], fits [phrase set], fits [phrase dictRepetition],
      fits [before ["\x7b"], phrase setRepetition], fits [phrase ellipsis]]
  | strings => [fits [kind .string, many [kind .string]]]
  | ellipsis => [fits [sign ["..."]]]
  | truth => [fits [sign ["True", "False", "None"]]]
  | tuple =>
    [fits [sign ["("], maybe [phrase member, sign [","], maybe [phrase members]], sign [")"]]]
  | group =>
    [fits [sign ["("], phrase produced, sign [")"]],
      fits [sign ["("], phrase namedOrItem, sign [")"]],
      refused (.always .starred) [sign ["("], phrase starred, sign [")"]],
      refused (.always .doubleStarred) [sign ["("], sign ["**"], phrase item, sign [")"]]]
  | produced =>
    [fits [sign ["yield"], sign ["from"], phrase item],
      fits [sign ["yield"], maybe [phrase starItems]]]
  | set => [fits [sign ["\x7b"], phrase members, sign ["\x7d"]]]
  | dict =>
    [fits [sign ["\x7b"], maybe [phrase entries], sign ["\x7d"]]] ++
      [alwaysRefused (.always .missingColon)
        (sign ["\x7b"] :: separated (phrase entry) ++
          [sign [","], phrase item, notBefore [":"]])] ++
      refusedEntries (sign ["\x7b"] :: separated (phrase entry) ++ [sign [","]]) ++
      refusedEntries [sign ["\x7b"]]
  | entries => [fits (separated (phrase entry) ++ [lastComma])]
  | entry => [fits [sign ["**"], phrase alternation], fits [phrase pair]]
  | pair => [fits [phrase item, sign [":"], phrase item]]
  | generator =>
    fits [sign ["("], phrase plainArgument, phrase repetitions, sign [")"]] :: refusedRepetitions
  | setRepetition =>
    fits [sign ["\x7b"], phrase namedOrItem, phrase repetitions, sign ["\x7d"]] ::
      refusedRepetitions
  | dictRepetition =>
    [fits [sign ["\x7b"], phrase pair, phrase repetitions, sign ["\x7d"]],
      refused (.always .doubleStarredRepetition)
        [sign ["\x7b"], sign ["**"], phrase alternation, phrase repetitions, sign ["\x7d"]]]
  | repetitions => [fits [phrase repetition, many [phrase repetition]]]
  | repetition =>
    [fits [maybe [sign ["async"]], sign ["for"], phrase targets, sign ["in"], phrase choice,
        many [sign ["if"], phrase choice]],
      refused .repetitionTarget
        [notAt repetitionHead, maybe [sign ["async"]], sign ["for"], phrase starItems]]
  | repetitionHead => [fits [maybe [sign ["async"]], sign ["for"], phrase targets, sign ["in"]]]
  | targets => [fits (separated (phrase target) ++ [lastComma])]
  | target => [fits [sign ["*"], notBefore ["*"], phrase target], fits [phrase innerTarget]]
  | innerTarget =>
    [fits [phrase targetStart, sign ["."], kind .name, notBefore ["(", "[", "."]],
      fits [kind .name], fits [sign ["("], phrase innerTarget, sign [")"]],
      fits [sign ["("], maybe [phrase targets], sign [")"]]]
  | targetStart =>
    [fits [phrase atom, before ["(", "[", "."],
      many [phrase trailer, before ["(", "[", "."]]]]
  | arguments =>
    [fits [phrase argumentList, lastComma, before [")"]],
      refused (.always .starredAfterDouble) [phrase argumentList, sign [","], sign ["*"]],
      refused (.always .bareGenerator)
        [phrase item, phrase repetitions, sign [","],
          maybe [phrase argumentList]],
      refused (.always .singleEquals)
        [kind .name, sign ["="], phrase item, phrase repetitions],
      refused .bareGenerator [phrase argumentList, phrase repetitions],
      refused (.always .bareGenerator)
        [phrase argumentList, sign [","], phrase item, phrase repetitions],
      refused .positional [phrase argumentList, sign [","], phrase argumentList]]
  | argumentList =>
    [fits (separated (phrase argument) ++ [maybe [sign [","], phrase namedArguments]]),
      fits [phrase namedArguments]]
  | argument => [fits [phrase starred], fits [phrase plainArgument, notBefore ["="]]]
  | plainArgument => [fits [phrase named], fits [phrase item, notBefore [":="]]]
  | starred => [fits [sign ["*"], phrase item]]
  | namedArguments =>
    [fits (separated (phrase namedOrStarred) ++ sign [","] :: separated (phrase namedOrDouble)),
      fits (separated (phrase namedOrStarred)), fits (separated (phrase namedOrDouble))]
  | namedOrStarred =>
    refusedNames ++ [fits [kind .name, sign ["="], phrase item], fits [phrase starred]]
  | namedOrDouble =>
    refusedNames ++ [fits [kind .name, sign ["="], phrase item],
      fits [sign ["**"], phrase item]]
  | function =>
    [fits [sign ["lambda"], maybe (separated (phrase parameter) ++ [lastComma]), sign [":"],
      phrase item]]
  | parameter =>
    [fits [sign ["**", "*"], kind .name], fits [sign ["*", "/"]],
      fits [kind .name, maybe [sign ["="], phrase item]]]
  | nameBeforeString => [fits [kind .name, kind .string], fits [sign ["_", "case", "match"]]]
  | unassignable => [fits [phrase tuple], fits [phrase generator], fits [phrase truth]]
  | nameEquals => [fits [kind .name, sign ["="]]]

/-- Whether what is found of a phrase at some place is remembered, refusals or not. -/
def Phrase.isRemembered : Phrase → Bool
  | item | starItem | choice | both | inversion | alternation | exclusion | conjunction | shift
  | sum | product | signed | awaited | primary | strings | arguments | target | innerTarget
  | targetStart => true
  | _ => false

end Reimport.Literal
