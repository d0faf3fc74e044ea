import Reimport.Text.Blank
import Reimport.Text.Digit
import Reimport.Text.Lowercase

/-!
# Styles

A style says how text is shown: looks that are on or off, a colour, a colour
for the background, and a link.  It is defined word by word.  The name of a
look turns it on, after `not` off; a colour after `on` is for the background;
a link follows `link`.  Of several settings of one thing the last one counts, and
the case of letters does not matter except in a link and after `not`.

Several definitions may say the same.  `normalName` gives them one name, which
lists the settings in one order; what defines no style is its own name.
-/
namespace Reimport.Style

/-! ## Looks -/

/-- Something about the look of a text that is on or off. -/
inductive Look where
  | bold | dim | italic | underline | blink | blink2 | reverse | conceal | strike | underline2
  | frame | encircle | overline
  deriving DecidableEq, Repr

namespace Look

/-- All looks, in the order in which a name lists them. -/
def all : List Look :=
  [bold, dim, italic, underline, blink, blink2, reverse, conceal, strike, underline2, frame,
    encircle, overline]

/-- The name of a look. -/
def name : Look → Text
  | bold => "bold"
  | dim => "dim"
  | italic => "italic"
  | underline => "underline"
  | blink => "blink"
  | blink2 => "blink2"
  | reverse => "reverse"
  | conceal => "conceal"
  | strike => "strike"
  | underline2 => "underline2"
  | frame => "frame"
  | encircle => "encircle"
  | overline => "overline"

/-- The short name of a look that has one. -/
def shortName? : Look → Option Text
  | bold => some "b"
  | dim => some "d"
  | italic => some "i"
  | underline => some "u"
  | reverse => some "r"
  | conceal => some "c"
  | strike => some "s"
  | underline2 => some "uu"
  | overline => some "o"
  | blink | blink2 | frame | encircle => none

/-- The look with a given name. -/
def ofName? (word : Text) : Option Look :=
  all.find? fun look => look.name = word || look.shortName? = some word

end Look

/-! ## Colours -/

/-- The names of the colours.  Colours that differ only in what comes last share a
row. -/
def colourNames : List (String × List String) := [
  ("black", [""]), ("red", ["", "1", "3"]), ("green", ["", "1", "3", "4"]),
  ("yellow", ["", "1", "2", "3", "4"]), ("blue", ["", "1", "3"]),
  ("magenta", ["", "1", "2", "3"]), ("cyan", ["", "1", "2", "3"]), ("white", [""]),
  ("bright_", ["black", "red", "green", "yellow", "blue", "magenta", "cyan", "white"]),
  ("grey", greys), ("gray", greys), ("navy_blue", [""]),
  ("dark_", ["blue", "cyan", "goldenrod", "green", "khaki", "magenta", "orange", "orange3",
    "red", "turquoise", "violet"]),
  ("dark_olive_green", ["1", "2", "3"]), ("dark_sea_green", ["", "1", "2", "3", "4"]),
  ("dark_slate_gray", ["1", "2", "3"]), ("deep_pink", ["1", "2", "3", "4"]),
  ("deep_sky_blue", ["1", "2", "3", "4"]), ("dodger_blue", ["1", "2", "3"]),
  ("spring_green", ["1", "2", "3", "4"]), ("turquoise", ["2", "4"]),
  ("purple", ["", "3", "4"]), ("blue_violet", [""]), ("orange", ["1", "3", "4"]),
  ("medium_", ["spring_green", "turquoise", "violet_red"]),
  ("medium_orchid", ["", "1", "3"]), ("medium_purple", ["", "1", "2", "3", "4"]),
  ("slate_blue", ["1", "3"]), ("royal_blue", ["1"]), ("chartreuse", ["1", "2", "3", "4"]),
  ("pale_turquoise", ["1", "4"]), ("pale_green", ["1", "3"]), ("pale_violet_red", ["1"]),
  ("steel_blue", ["", "1", "3"]), ("cornflower_blue", [""]), ("cadet_blue", [""]),
  ("sky_blue", ["1", "2", "3"]), ("sea_green", ["1", "2", "3"]), ("aquamarine", ["1", "3"]),
  ("light_", ["coral", "green", "sea_green", "slate_blue", "slate_gray", "slate_grey"]),
  ("light_cyan", ["1", "3"]), ("light_goldenrod", ["1", "2", "3"]),
  ("light_pink", ["1", "3", "4"]), ("light_salmon", ["1", "3"]),
  ("light_sky_blue", ["1", "3"]), ("light_steel_blue", ["", "1", "3"]),
  ("light_yellow", ["3"]), ("plum", ["1", "2", "3", "4"]), ("wheat", ["1", "4"]),
  ("indian_red", ["", "1"]), ("hot_pink", ["", "2", "3"]), ("rosy_brown", [""]),
  ("gold", ["1", "3"]), ("navajo_white", ["1", "3"]), ("green_yellow", [""]),
  ("orchid", ["", "1", "2"]), ("pink", ["1", "3"]), ("violet", [""]), ("tan", [""]),
  ("misty_rose", ["1", "3"]), ("thistle", ["1", "3"]), ("khaki", ["1", "3"]),
  ("honeydew", ["2"]), ("orange_red", ["1"]), ("salmon", ["1"]), ("sandy_brown", [""]),
  ("cornsilk", ["1"])]
where
  greys : List String := ["0", "3", "7", "11", "15", "19", "23", "27", "30", "35", "37", "39", "42",
    "46", "50", "53", "54", "58", "62", "63", "66", "69", "70", "74", "78", "82", "84", "85", "89",
    "93", "100"]

/-- Whether a word is the name of a colour. -/
def isColourName (word : Text) : Bool :=
  word = "default" ||
    colourNames.any fun (front, ends) => ends.any fun ending => word = (front ++ ending).toList

/-- Why a part of a colour cannot be read as a number. -/
inductive PartFault where
  /-- There is nothing to read. -/
  | empty
  /-- It has so many digits, more than are read. -/
  | tooLong (digits : Nat)
  deriving DecidableEq, Repr

/-- The wording of a fault. -/
def PartFault.message : PartFault → Text
  | .empty => "invalid literal for int() with base 10: ''"
  | .tooLong digits => Text.tooManyDigits digits

/-- The largest value of a part of a colour. -/
def partLimit : Nat := 255

/-- The number that a part of a colour stands for, a run of digits of any script. -/
def part (digits : Text) : Except PartFault Nat :=
  if digits = [] then .error .empty
  else if Text.readableDigits < digits.length then .error (.tooLong digits.length)
  else .ok (Text.ofDigits 10 (digits.map Text.anyDigitValue))

/-- What stands inside `opening` and a closing parenthesis. -/
def inside? (opening word : Text) : Option Text :=
  if opening.isPrefixOf word && word.getLast? = some ')' then
    some (word.drop opening.length).dropLast
  else none

/-- Whether a word in lower case is a colour: a name, `#` and six hexadecimal
digits, `color(…)` with a number, or `rgb(…)` with three numbers. -/
def isColour (word : Text) : Except PartFault Bool :=
  if isColourName word then .ok true
  else match word, inside? "color(" word, inside? "rgb(" word with
    | '#' :: digits, _, _ =>
      .ok (digits.length = 6 && digits.all fun c => (Text.hexValue? c).isSome)
    | _, some digits, _ =>
      .ok (digits ≠ [] && digits.length ≤ 3 && digits.all Char.isDigit &&
        Text.ofDecimalDigits digits ≤ partLimit)
    | _, _, some parts =>
      if parts ≠ [] && parts.all fun c => c = ',' || Text.isAnyDigit c then
        match Text.splitAt ',' parts with
        | [red, green, blue] => do
          let numbers ← [red, green, blue].mapM part
          return numbers.all (· ≤ partLimit)
        | _ => .ok false
      else .ok false
    | _, _, _ => .ok false

/-! ## Definitions -/

/-- How text is shown. -/
structure Appearance where
  /-- The looks that are on or off, the latest setting first. -/
  looks : List (Look × Bool)
  /-- The colour of the text. -/
  colour : Option Text
  /-- The colour of the background. -/
  background : Option Text
  /-- The link that the text leads to. -/
  link : Option Text
  deriving DecidableEq, Repr

/-- Text that is shown as it is. -/
def Appearance.plain : Appearance := ⟨[], none, none, none⟩

/-- Adds the words of a definition to an appearance, or finds that they define no
style. -/
def Appearance.add? (style : Appearance) : List Text → Except PartFault (Option Appearance)
  | [] => .ok (some style)
  | original :: rest =>
    let word := Text.lowercase original
    if word = "on" then
      match rest with
      | [] => .ok none
      | colour :: rest => do
        if ← isColour (Text.lowercase colour) then
          add? { style with background := some (Text.lowercase colour) } rest
        else return none
    else if word = "not" then
      match rest with
      | [] => .ok none
      | name :: rest =>
        match Look.ofName? name with
        | some look => add? { style with looks := (look, false) :: style.looks } rest
        | none => .ok none
    else if word = "link" then
      match rest with
      | [] => .ok none
      | target :: rest => add? { style with link := some target } rest
    else match Look.ofName? word with
      | some look => add? { style with looks := (look, true) :: style.looks } rest
      | none => do
        if ← isColour word then add? { style with colour := some word } rest else return none

/-- The words that set a look, if it is set. -/
def Appearance.setting? (style : Appearance) (look : Look) : Option Text :=
  (style.looks.find? (·.1 = look)).map fun setting =>
    if setting.2 then look.name else ("not " : Text) ++ look.name

/-- The definition of an appearance in which every setting has its place. -/
def Appearance.definition (style : Appearance) : Text :=
  let settings := Look.all.filterMap style.setting? ++ style.colour.toList ++
    (style.background.map (("on " : Text) ++ ·)).toList ++
    (style.link.map (("link " : Text) ++ ·)).toList
  if settings = [] then "none" else .intercalate [' '] settings

/-- The appearance that a definition stands for, if it stands for one. -/
def appearance? (definition : Text) : Except PartFault (Option Appearance) :=
  match Text.words definition with
  | [] => .ok (some .plain)
  | words => if words = [("none" : Text)] then .ok (some .plain) else Appearance.plain.add? words

/-- The name by which a style is opened and closed. -/
def normalName (definition : Text) : Except PartFault Text := do
  match ← appearance? definition with
  | some style => return style.definition
  | none => return Text.lowercase (Text.strip definition)

end Reimport.Style
