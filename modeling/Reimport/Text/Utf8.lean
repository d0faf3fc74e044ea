import Reimport.Text.Decimal

/-!
# UTF-8

`encode` writes a text as UTF-8 and `decode` reads it back, strictly: an
over-long form, a surrogate, a value beyond U+10FFFF, a stray continuation byte
and a truncated sequence are all refused.  The refusal names the first faulty
bytes, which are the longest start of a well-formed sequence found at that
place, or the one byte that starts none.
-/
namespace Reimport

/-- The content of a file. -/
abbrev Bytes := List UInt8

namespace Utf8

/-- Why a byte sequence is no UTF-8. -/
inductive Reason where
  /-- The byte cannot begin a character. -/
  | invalidStart
  /-- The byte after a proper beginning does not continue it. -/
  | invalidContinuation
  /-- The content ends inside a character. -/
  | unexpectedEnd
  deriving DecidableEq, Repr

/-- The first faulty bytes of a content. -/
structure Fault where
  /-- The position of the first faulty byte. -/
  position : Nat
  /-- How many bytes are at fault. -/
  length : Nat
  /-- The first faulty byte. -/
  byte : UInt8
  /-- What is wrong with them. -/
  reason : Reason
  deriving DecidableEq, Repr

/-- The wording of a reason. -/
def Reason.message : Reason → String
  | .invalidStart => "invalid start byte"
  | .invalidContinuation => "invalid continuation byte"
  | .unexpectedEnd => "unexpected end of data"

/-- Which bytes are no UTF-8, and why. -/
def Fault.message (fault : Fault) : Text :=
  let place : Text :=
    if fault.length = 1 then
      .join ["byte 0x", Text.hexPadded 2 fault.byte.toNat, " in position ",
        Text.decimalNat fault.position]
    else
      .join ["bytes in position ", Text.decimalNat fault.position, "-",
        Text.decimalNat (fault.position + fault.length - 1)]
  .join ["'utf-8' codec can't decode ", place, ": ", fault.reason.message]

/-- The bytes of one character. -/
def encodeChar (c : Char) : Bytes :=
  let n := c.toNat
  if n < 0x80 then [UInt8.ofNat n]
  else if n < 0x800 then [UInt8.ofNat (0xc0 + n / 64), UInt8.ofNat (0x80 + n % 64)]
  else if n < 0x10000 then
    [UInt8.ofNat (0xe0 + n / 4096), UInt8.ofNat (0x80 + n / 64 % 64), UInt8.ofNat (0x80 + n % 64)]
  else
    [UInt8.ofNat (0xf0 + n / 262144), UInt8.ofNat (0x80 + n / 4096 % 64),
      UInt8.ofNat (0x80 + n / 64 % 64), UInt8.ofNat (0x80 + n % 64)]

/-- The UTF-8 form of a text. -/
def encode (text : Text) : Bytes := text.flatMap encodeChar

@[simp] theorem encode_nil : encode [] = [] := rfl

@[simp] theorem encode_cons (c : Char) (text : Text) :
    encode (c :: text) = encodeChar c ++ encode text := rfl

@[simp] theorem encode_append (first second : Text) :
    encode (first ++ second) = encode first ++ encode second := List.flatMap_append

/-- The number of bytes of a text's UTF-8 form. -/
def size (text : Text) : Nat := (encode text).length

/-- A byte that can only stand inside a character. -/
def isContinuation (b : UInt8) : Bool := 0x80 ≤ b && b ≤ 0xbf

/-- The second bytes that may follow the first byte of a three-byte character:
neither over-long forms nor surrogates. -/
def isSecondOfThree (first second : UInt8) : Bool :=
  isContinuation second && (first ≠ 0xe0 || 0xa0 ≤ second) && (first ≠ 0xed || second ≤ 0x9f)

/-- The second bytes that may follow the first byte of a four-byte character:
neither over-long forms nor values beyond U+10FFFF. -/
def isSecondOfFour (first second : UInt8) : Bool :=
  isContinuation second && (first ≠ 0xf0 || 0x90 ≤ second) && (first ≠ 0xf4 || second ≤ 0x8f)

/-- The payload of a continuation byte. -/
def payload (b : UInt8) : Nat := b.toNat - 0x80

/-- Reading from a given position on: the text, or the first fault. -/
def decodeFrom (position : Nat) : Bytes → Except Fault Text
  | [] => .ok []
  | b :: rest =>
    if b < 0x80 then (decodeFrom (position + 1) rest).map (Char.ofNat b.toNat :: ·)
    else if b < 0xc2 then .error ⟨position, 1, b, .invalidStart⟩
    else if b < 0xe0 then
      match rest with
      | [] => .error ⟨position, 1, b, .unexpectedEnd⟩
      | c :: rest =>
        if isContinuation c then
          (decodeFrom (position + 2) rest).map
            (Char.ofNat ((b.toNat - 0xc0) * 64 + payload c) :: ·)
        else .error ⟨position, 1, b, .invalidContinuation⟩
    else if b < 0xf0 then
      match rest with
      | [] => .error ⟨position, 1, b, .unexpectedEnd⟩
      | [c] =>
        if isSecondOfThree b c then .error ⟨position, 2, b, .unexpectedEnd⟩
        else .error ⟨position, 1, b, .invalidContinuation⟩
      | c :: d :: rest =>
        if isSecondOfThree b c then
          if isContinuation d then
            (decodeFrom (position + 3) rest).map
              (Char.ofNat ((b.toNat - 0xe0) * 4096 + payload c * 64 + payload d) :: ·)
          else .error ⟨position, 2, b, .invalidContinuation⟩
        else .error ⟨position, 1, b, .invalidContinuation⟩
    else if b < 0xf5 then
      match rest with
      | [] => .error ⟨position, 1, b, .unexpectedEnd⟩
      | [c] =>
        if isSecondOfFour b c then .error ⟨position, 2, b, .unexpectedEnd⟩
        else .error ⟨position, 1, b, .invalidContinuation⟩
      | [c, d] =>
        if isSecondOfFour b c then
          if isContinuation d then .error ⟨position, 3, b, .unexpectedEnd⟩
          else .error ⟨position, 2, b, .invalidContinuation⟩
        else .error ⟨position, 1, b, .invalidContinuation⟩
      | c :: d :: e :: rest =>
        if isSecondOfFour b c then
          if isContinuation d then
            if isContinuation e then
              (decodeFrom (position + 4) rest).map
                (Char.ofNat ((b.toNat - 0xf0) * 262144 + payload c * 4096 + payload d * 64 +
                  payload e) :: ·)
            else .error ⟨position, 3, b, .invalidContinuation⟩
          else .error ⟨position, 2, b, .invalidContinuation⟩
        else .error ⟨position, 1, b, .invalidContinuation⟩
    else .error ⟨position, 1, b, .invalidStart⟩

/-- The text that a content denotes, or its first fault. -/
def decode (content : Bytes) : Except Fault Text := decodeFrom 0 content

end Utf8
end Reimport
