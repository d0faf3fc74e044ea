import Reimport.Literal
import Reimport.Text.Quoted
import Reimport.Text.Style

/-!
# Bracket markup

Messages for the console may hold tags: `[name]` opens a style and `[/name]`
closes the latest open style of that name.  A tag starts with a small letter,
`#`, `/` or `@` after the bracket and ends at the next closing bracket.
Backslashes before a tag are halved, and an odd one makes the tag plain text.

Parameters may follow an equals sign in an opening tag.  Those of a style belong to
its definition.  A tag whose name starts with `@` names a handler instead, and its
parameters are arguments, perhaps with the name of an action before them: once the
tag is closed, the arguments have to be a literal.

`escape` prepares a text for insertion into a message, and `render` gives the
text that is shown, or what is wrong with a tag.  Tags leave nothing behind.
-/
namespace Reimport.Markup

/-- Why a message cannot be rendered. -/
inductive Fault where
  /-- The closing tag with this text, at this position, names no open style. -/
  | unmatched (tag : Text) (position : Nat)
  /-- The tag at this position closes the latest style, but none is open. -/
  | nothingToClose (position : Nat)
  /-- A style has a colour with a part that cannot be read. -/
  | colour (cause : Style.PartFault)
  /-- The arguments in these parameters are no expression. -/
  | arguments (arguments parameters : Text) (cause : Literal.FormFault)
  /-- The arguments in these parameters stand for no value. -/
  | valueless (parameters : Text) (cause : Literal.ValueFault)
  deriving DecidableEq, Repr

/-- The wording of a fault. -/
def Fault.message : Fault → Text
  | .unmatched tag position =>
    .join ["closing tag '[", tag, "]' at position ", Text.decimal position,
      " doesn't match any open tag"]
  | .nothingToClose position =>
    .join ["closing tag '[/]' at position ", Text.decimal position, " has nothing to close"]
  | .colour cause => cause.message
  | .arguments written parameters cause =>
    .join ["error parsing ", Text.quoted written, " in ", Text.quoted parameters, "; ",
      cause.message]
  | .valueless parameters cause =>
    .join ["error parsing ", Text.quoted parameters, "; ", cause.message]

/-- A character that may follow the opening bracket of a tag. -/
def startsTag (c : Char) : Bool := ('a' ≤ c && c ≤ 'z') || c = '#' || c = '/' || c = '@'

/-- The inside of a tag whose opening bracket stands just before the text, and
what follows its closing bracket. -/
def tag? : Text → Option (Text × Text)
  | [] => none
  | c :: rest =>
    if startsTag c then
      match rest.dropWhile fun d => d ≠ ']' && d ≠ '[' with
      | ']' :: after => some (c :: rest.takeWhile (fun d => d ≠ ']' && d ≠ '['), after)
      | _ => none
    else none

theorem tag?_length {text inside after : Text} (h : tag? text = some (inside, after)) :
    after.length < text.length := by
  cases text with
  | nil => simp [tag?] at h
  | cons c rest =>
    simp only [tag?] at h
    split at h
    · split at h
      · rename_i tail heq
        have hlen : (rest.dropWhile fun d => d ≠ ']' && d ≠ '[').length ≤ rest.length :=
          (List.dropWhile_suffix _).sublist.length_le
        rw [heq] at hlen
        simp only [Option.some.injEq, Prod.mk.injEq] at h
        rw [← h.2]
        simp only [List.length_cons] at hlen ⊢
        omega
      · simp at h
    · simp at h

/-- A run of backslashes before a tag, or one character that begins no tag. -/
inductive Piece where
  /-- A character outside tags. -/
  | plain (c : Char)
  /-- A tag with the backslashes before it. -/
  | tag (backslashes : Nat) (inside : Text)
  deriving DecidableEq, Repr

/-- Cuts a message into characters and tags, with `pending` backslashes read
just before the text. -/
def piecesAfter (pending : Nat) : Text → List Piece
  | [] => List.replicate pending (.plain '\\')
  | c :: rest =>
    if c = '\\' then piecesAfter (pending + 1) rest
    else if c = '[' then
      match h : tag? rest with
      | some (inside, after) =>
        have := tag?_length h
        .tag pending inside :: piecesAfter 0 after
      | none => List.replicate pending (.plain '\\') ++ .plain c :: piecesAfter 0 rest
    else List.replicate pending (.plain '\\') ++ .plain c :: piecesAfter 0 rest
termination_by text => text.length
decreasing_by all_goals (simp only [List.length_cons]; omega)

/-- The characters and tags of a message in order. -/
def pieces (message : Text) : List Piece := piecesAfter 0 message

/-- A piece as it has to be written to be shown as it is. -/
def Piece.escaped : Piece → Text
  | .plain c => [c]
  | .tag backslashes inside =>
    List.replicate (2 * backslashes + 1) '\\' ++ '[' :: (inside ++ [']'])

/-- The number of backslashes at the end of a text. -/
def trailingBackslashes (text : Text) : Nat := (text.reverse.takeWhile (· = '\\')).length

/-- The text with every tag in it made plain.  A single backslash at the end is
doubled, so that it cannot make the tag after it plain. -/
def escape (text : Text) : Text :=
  let body := (pieces text).flatMap Piece.escaped
  if trailingBackslashes body = 1 then body ++ ['\\'] else body

/-- The part of a tag before its parameters. -/
def tagName (inside : Text) : Text := inside.takeWhile (· ≠ '=')

/-- The parameters of a tag: what follows the first equals sign, if there is one. -/
def tagParameters? (inside : Text) : Option Text :=
  match inside.dropWhile (· ≠ '=') with
  | _ :: parameters => some parameters
  | [] => none

/-- A tag that has been opened. -/
structure OpenTag where
  /-- The name by which it is closed. -/
  name : Text
  /-- Its parameters, if it has an equals sign. -/
  parameters : Option Text
  deriving DecidableEq, Repr

/-- The name by which a style is opened and closed. -/
def styleName (name : Text) : Except Fault Text := (Style.normalName name).mapError .colour

/-- The open tag with this inside. -/
def OpenTag.ofInside (inside : Text) : Except Fault OpenTag := do
  return ⟨← styleName (tagName inside), tagParameters? inside⟩

/-- The definition of the style that a tag opens. -/
def OpenTag.definition (tag : OpenTag) : Text :=
  tag.name ++ tag.parameters.elim [] fun parameters => ' ' :: parameters

/-- The arguments in the parameters of a handler.  A plain name stands for an action
without arguments, and a name before arguments in parentheses is left out. -/
def handlerArguments (parameters : Text) : Text :=
  let parameters := Text.strip parameters
  let arguments := parameters.dropWhile fun c => Text.isWordChar c || c = '.'
  if arguments = [] then "()"
  else if arguments.head? = some '(' && arguments.getLast? = some ')' &&
      !arguments.contains '\n' then arguments
  else parameters

/-- Finds that a tag may be closed. -/
def OpenTag.close (tag : OpenTag) : Except Fault Unit :=
  match tag.name, tag.parameters with
  | '@' :: _, some parameters =>
    if parameters = [] then .ok ()
    else
      let arguments := handlerArguments parameters
      match Literal.check arguments with
      | .ok () => .ok ()
      | .error (.form cause) => .error (.arguments arguments parameters cause)
      | .error (.value cause) => .error (.valueless parameters cause)
  | _, _ => .ok ()

/-- The latest open tag of a given name, and the tags that are open without it. -/
def takeTag? (name : Text) : List OpenTag → Option (OpenTag × List OpenTag)
  | [] => none
  | tag :: more =>
    if tag.name = name then some (tag, more)
    else (takeTag? name more).map fun (found, rest) => (found, tag :: rest)

/-- Plain characters of a message as they are shown: a backslash before a
bracket goes away. -/
def plainText : Text → Text
  | '\\' :: '[' :: rest => '[' :: plainText rest
  | c :: rest => c :: plainText rest
  | [] => []

/-- Puts the plain characters of a run in front of what is shown after it. -/
def showRun (run : Text) (shown : Except Fault Text) : Except Fault Text :=
  shown.map (plainText run.reverse ++ ·)

/-- Shows the pieces from a given position on, with the open tags, latest first,
and the run of plain characters before the first piece, backwards. -/
def renderFrom (position : Nat) (tags : List OpenTag) (run : Text) :
    List Piece → Except Fault Text
  | [] => showRun run (.ok [])
  | .plain c :: more => renderFrom (position + 1) tags (c :: run) more
  | .tag backslashes inside :: more =>
    let start := position + 2 * (backslashes / 2)
    let next := position + backslashes + inside.length + 2
    showRun run <| Except.map (List.replicate (backslashes / 2) '\\' ++ ·) <|
      if backslashes % 2 = 1 then
        (renderFrom next tags [] more).map (('[' :: plainText (inside ++ [']'])) ++ ·)
      else match tagName inside with
        | '/' :: closed =>
          let closed := Text.strip closed
          if closed = [] then
            match tags with
            | [] => .error (.nothingToClose start)
            | tag :: tags => do
              tag.close
              renderFrom next tags [] more
          else do
            match takeTag? (← styleName closed) tags with
            | some (tag, tags) =>
              tag.close
              renderFrom next tags [] more
            | none => .error (.unmatched inside start)
        | _ => do
          let tag ← OpenTag.ofInside inside
          renderFrom next (tag :: tags) [] more

/-- Finds that the definitions of all styles that are opened can be read. -/
def checkStyles : List Piece → Except Fault Unit
  | [] => .ok ()
  | .plain _ :: more => checkStyles more
  | .tag backslashes inside :: more =>
    if backslashes % 2 = 1 || inside.head? = some '/' then checkStyles more
    else do
      let tag ← OpenTag.ofInside inside
      let _ ← (Style.appearance? tag.definition).mapError .colour
      checkStyles more

/-- The text that a message shows. -/
def render (message : Text) : Except Fault Text := do
  if message.contains '[' then
    let pieces := pieces message
    let shown ← renderFrom 0 [] [] pieces
    checkStyles pieces
    return shown
  else return message

end Reimport.Markup
