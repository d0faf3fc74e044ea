import Reimport.Toml.Reader

/-!
# Numbers and moments

A number is whole unless it has a point or an exponent.  Its digits may be
grouped by single underscores.  Whole numbers can also be written with sixteen,
eight or two digits after `0x`, `0o` and `0b`.  A moment is a date, a time of
day, or both with or without an offset from the meridian; dates are those of the
Gregorian calendar from the year 1 on.
-/
namespace Reimport.Toml

/-! ## Digits -/

/-- The most digits of a decimal numeral that are taken for a whole number. -/
def digitLimit : Nat := 4300

/-- A hexadecimal digit. -/
def isHexDigit (c : Char) : Bool := (Text.hexValue? c).isSome

/-- An octal digit. -/
def isOctalDigit (c : Char) : Bool := '0' ≤ c && c ≤ '7'

/-- A binary digit. -/
def isBinaryDigit (c : Char) : Bool := c = '0' || c = '1'

/-- Whether a text begins with a character that satisfies `p`. -/
def beginsWith (p : Char → Bool) (text : Text) : Bool := text.head?.any p

/-- The digits at the front of a text, without the underscores between them, and
what follows them. -/
def digitRun (p : Char → Bool) : Text → Text × Text
  | [] => ([], [])
  | c :: rest =>
    if p c then ((c :: (digitRun p rest).1), (digitRun p rest).2)
    else if c = '_' && beginsWith p rest then digitRun p rest
    else ([], c :: rest)

/-- The digits at the front of a text, of which there has to be one. -/
def digits? (p : Char → Bool) (text : Text) : Option (Text × Text) :=
  if beginsWith p text then some (digitRun p text) else none

/-- The number that digits in base `base` denote. -/
def numberOf (base : Nat) (digits : Text) : Nat :=
  Text.ofDigits base (digits.filterMap Text.hexValue?)

/-! ## Numbers -/

/-- A sign, if there is one, and whether it is a minus. -/
def sign (text : Text) : Bool × Text :=
  match text with
  | '-' :: rest => (true, rest)
  | '+' :: rest => (false, rest)
  | _ => (false, text)

/-- The digits before the point: a zero that stands alone, or digits that begin
with no zero. -/
def wholeDigits? (text : Text) : Option (Text × Text) :=
  match text with
  | '0' :: rest => some (['0'], rest)
  | _ => digits? Char.isDigit text

/-- The digits after the point, if there is a point with digits after it. -/
def fraction (text : Text) : Text × Text :=
  match text with
  | '.' :: rest => (digits? Char.isDigit rest).getD ([], text)
  | _ => ([], text)

/-- The exponent, if there is one. -/
def exponent? (text : Text) : Option Int × Text :=
  match text with
  | c :: rest =>
    if c = 'e' || c = 'E' then
      let (negative, rest) := sign rest
      match digits? Char.isDigit rest with
      | some (digits, rest) =>
        (some (if negative then -(numberOf 10 digits : Nat) else (numberOf 10 digits : Nat)), rest)
      | none => (none, text)
    else (none, text)
  | [] => (none, text)

/-- A whole number in another base than ten. -/
def basedNumber? (text : Text) : Option (Value × Text) :=
  match text with
  | '0' :: mark :: rest =>
    let read (base : Nat) (p : Char → Bool) : Option (Value × Text) :=
      (digits? p rest).map fun (digits, rest) => (.integer (numberOf base digits), rest)
    if mark = 'x' then read 16 isHexDigit
    else if mark = 'o' then read 8 isOctalDigit
    else if mark = 'b' then read 2 isBinaryDigit
    else none
  | _ => none

/-- A number in base ten. -/
def decimalNumber? (text : Text) : Option (Except Fault (Value × Text)) := do
  let (negative, rest) := sign text
  let (before, rest) ← wholeDigits? rest
  let (after, rest) := fraction rest
  let (exponent, rest) := exponent? rest
  if after = [] && exponent.isNone then
    if before.length > digitLimit then return .error (.numeralTooLong before.length)
    else
      let n := numberOf 10 before
      return .ok (.integer (if negative then -(n : Int) else n), rest)
  else
    let places : Int := exponent.getD 0 - after.length
    return .ok (.real (.ofDecimal negative (numberOf 10 (before ++ after)) places), rest)

/-- A number that has a name and no digits. -/
def namedNumber? (text : Text) : Option (Value × Text) :=
  let (negative, rest) := sign text
  if "inf".toList.isPrefixOf rest then some (.real (.infinite negative), rest.drop 3)
  else if "nan".toList.isPrefixOf rest then some (.real .nan, rest.drop 3)
  else none

/-! ## Moments -/

/-- A number of exactly `width` digits that is at least `least` and at most
`greatest`. -/
def fixedNumber? (width least greatest : Nat) (text : Text) : Option (Nat × Text) :=
  let digits := text.take width
  if digits.length = width && digits.all Char.isDigit then
    let n := numberOf 10 digits
    if least ≤ n && n ≤ greatest then some (n, text.drop width) else none
  else none

/-- One given character. -/
def mark? (mark : Char) (text : Text) : Option Text :=
  match text with
  | c :: rest => if c = mark then some rest else none
  | [] => none

/-- The fraction of a second, if there is one; it is not kept. -/
def secondFraction (text : Text) : Text :=
  match text with
  | '.' :: rest => if beginsWith Char.isDigit rest then rest.dropWhile Char.isDigit else text
  | _ => text

/-- The text after a time of day. -/
def afterTime? (text : Text) : Option Text := do
  let (_, rest) ← fixedNumber? 2 0 23 text
  let (_, rest) ← fixedNumber? 2 0 59 (← mark? ':' rest)
  let (_, rest) ← fixedNumber? 2 0 59 (← mark? ':' rest)
  return secondFraction rest

/-- The text after an offset from the meridian, if there is one. -/
def afterOffset (text : Text) : Text :=
  match text with
  | c :: rest =>
    if c = 'Z' || c = 'z' then rest
    else if c = '+' || c = '-' then
      (do let (_, rest) ← fixedNumber? 2 0 23 rest
          let (_, rest) ← fixedNumber? 2 0 59 (← mark? ':' rest)
          return rest).getD text
    else text
  | [] => text

/-- Whether a year has a 29th of February. -/
def isLeap (year : Nat) : Bool := year % 4 = 0 && (year % 100 ≠ 0 || year % 400 = 0)

/-- The number of days of a month. -/
def daysIn (year month : Nat) : Nat :=
  if month = 2 then if isLeap year then 29 else 28
  else if month = 4 || month = 6 || month = 9 || month = 11 then 30
  else 31

/-- A date and the text after it, whether or not the calendar has that day. -/
def date? (text : Text) : Option ((Nat × Nat × Nat) × Text) := do
  let (year, rest) ← fixedNumber? 4 0 9999 text
  let (month, rest) ← fixedNumber? 2 1 12 (← mark? '-' rest)
  let (day, rest) ← fixedNumber? 2 1 31 (← mark? '-' rest)
  return ((year, month, day), rest)

/-- The text after the time of a date, if a time follows. -/
def afterDate (text : Text) : Text :=
  match text with
  | c :: rest =>
    if c = 'T' || c = 't' || c = ' ' then ((afterTime? rest).map afterOffset).getD text else text
  | [] => text

/-- A date that has to be one of the calendar, with or without a time, or a time. -/
def moment? (text : Text) : Option (Except Fault (Value × Text)) :=
  let upTo (rest : Text) : Value × Text :=
    (.moment (text.take (text.length - rest.length)), rest)
  match date? text with
  | some ((year, month, day), rest) =>
    if 1 ≤ year && day ≤ daysIn year month then some (.ok (upTo (afterDate rest)))
    else some (.error .malformed)
  | none => (afterTime? text).map fun rest => .ok (upTo rest)

/-! ## Both -/

/-- A value that begins with a digit or a sign, or is a number with a name. -/
def scalar : Reader Value := fun text =>
  match moment? text with
  | some read => read
  | none =>
    match basedNumber? text with
    | some read => .ok read
    | none =>
      match decimalNumber? text with
      | some read => read
      | none =>
        match namedNumber? text with
        | some read => .ok read
        | none => .error .malformed

end Reimport.Toml
