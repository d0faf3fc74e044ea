import Reimport.Text

/-!
# Decimal numerals

Counts, statuses and indentation widths are written in decimal without leading
zeros, a negative number with a minus sign in front.  `decimalPadded` adds
leading zeros up to a least width and never cuts a longer numeral, so it stays
injective beyond that width.  `integer?` reads a numeral back.
-/
namespace Reimport.Text

/-- The decimal digit of a number below ten. -/
def digit (n : Nat) : Char := Char.ofNat ('0'.toNat + n)

/-- The decimal numeral of a natural number, most significant digit first. -/
def decimalNat (n : Nat) : Text :=
  if n < 10 then [digit n] else decimalNat (n / 10) ++ [digit (n % 10)]
termination_by n

/-- The decimal numeral of an integer. -/
def decimal : Int → Text
  | .ofNat n => decimalNat n
  | .negSucc n => '-' :: decimalNat (n + 1)

/-- The decimal numeral with zeros in front up to `width` digits. -/
def decimalPadded (width n : Nat) : Text :=
  List.replicate (width - (decimalNat n).length) '0' ++ decimalNat n

/-- The value of a decimal digit. -/
def digitValue? (c : Char) : Option Nat :=
  if '0' ≤ c ∧ c ≤ '9' then some (c.toNat - '0'.toNat) else none

/-- The number that a run of digits in base `base` denotes, most significant
digit first, with the digit values already read. -/
def ofDigits (base : Nat) (digits : List Nat) : Nat :=
  digits.foldl (fun value d => value * base + d) 0

/-- The number that decimal digits denote. -/
def ofDecimalDigits (digits : Text) : Nat := ofDigits 10 (digits.filterMap digitValue?)

/-- A decimal digit other than zero. -/
def isNonzeroDigit (c : Char) : Bool := c.isDigit && c ≠ '0'

/-- The number that a numeral without a sign denotes.  Zero is one digit, and no
other numeral begins with a zero. -/
def natural? (text : Text) : Option Nat :=
  if text.all Char.isDigit && (text = ['0'] || text.head?.any isNonzeroDigit) then
    some (ofDecimalDigits text)
  else none

/-- The number that a numeral denotes, which may have a minus sign. -/
def integer? (text : Text) : Option Int :=
  match text with
  | '-' :: digits => (natural? digits).map fun n => -(n : Int)
  | digits => (natural? digits).map fun n => (n : Int)

/-- The value of a hexadecimal digit, in either case of the letters. -/
def hexValue? (c : Char) : Option Nat :=
  if '0' ≤ c ∧ c ≤ '9' then some (c.toNat - '0'.toNat)
  else if 'a' ≤ c ∧ c ≤ 'f' then some (c.toNat - 'a'.toNat + 10)
  else if 'A' ≤ c ∧ c ≤ 'F' then some (c.toNat - 'A'.toNat + 10)
  else none

/-- The lower-case hexadecimal digit of a number below sixteen. -/
def hexDigit (n : Nat) : Char :=
  if n < 10 then digit n else Char.ofNat ('a'.toNat + (n - 10))

/-- A number in hexadecimal with exactly `width` digits, the lowest ones. -/
def hexPadded : Nat → Nat → Text
  | 0, _ => []
  | width + 1, n => hexPadded width (n / 16) ++ [hexDigit (n % 16)]

end Reimport.Text
