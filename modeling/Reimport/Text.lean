/-!
# Text

Everything the library reads, compares, quotes and prints goes character by
character, so a text *is* its list of characters.  String literals are coerced
to texts, and `Text.join` writes a message as the list of its pieces, fixed
words and inserted values in reading order.
-/
namespace Reimport

/-- A text: its characters in order. -/
abbrev Text := List Char

instance : Coe String Text := ⟨String.toList⟩

namespace Text

/-- The pieces of a message, one after the other. -/
def join (pieces : List Text) : Text := pieces.flatten

@[simp] theorem join_nil : join [] = [] := rfl

@[simp] theorem join_cons (piece : Text) (pieces : List Text) :
    join (piece :: pieces) = piece ++ join pieces := rfl

/-- The pieces with `separator` between neighbours and at neither end. -/
def intercalate (separator : Text) : List Text → Text
  | [] => []
  | [piece] => piece
  | piece :: next :: rest => piece ++ separator ++ intercalate separator (next :: rest)

/-- The pieces of a text between the occurrences of a separating character: one
more than there are occurrences, so the empty text has one empty piece. -/
def splitAt (separator : Char) : Text → List Text
  | [] => [[]]
  | c :: rest =>
    if c = separator then [] :: splitAt separator rest
    else match splitAt separator rest with
      | [] => [[c]]
      | piece :: pieces => (c :: piece) :: pieces

theorem splitAt_ne_nil (separator : Char) (text : Text) : splitAt separator text ≠ [] := by
  cases text with
  | nil => simp [splitAt]
  | cons c rest =>
    simp only [splitAt]
    split
    · simp
    · split <;> simp

/-- **Nothing is lost by cutting**: the pieces joined by the separator are the text. -/
theorem intercalate_splitAt (separator : Char) (text : Text) :
    intercalate [separator] (splitAt separator text) = text := by
  induction text with
  | nil => rfl
  | cons c rest ih =>
    simp only [splitAt]
    split
    · rename_i hc
      cases h : splitAt separator rest with
      | nil => exact absurd h (splitAt_ne_nil separator rest)
      | cons piece pieces =>
        rw [h] at ih
        simp [intercalate, ih, hc]
    · cases h : splitAt separator rest with
      | nil => exact absurd h (splitAt_ne_nil separator rest)
      | cons piece pieces =>
        rw [h] at ih
        cases pieces with
        | nil => simpa [intercalate] using ih
        | cons next more => simpa [intercalate] using ih

/-- All occurrences of `pattern` replaced, left to right and without looking at
replaced characters again.  An empty pattern occurs before every character and
at the end. -/
def replace (pattern replacement : Text) (text : Text) : Text :=
  match pattern with
  | [] => replacement ++ text.flatMap fun c => c :: replacement
  | first :: more => go (first :: more) (by simp) text
where
  go (pattern : Text) (nonempty : 0 < pattern.length) : Text → Text
    | [] => []
    | c :: rest =>
      if pattern.isPrefixOf (c :: rest) then
        replacement ++ go pattern nonempty ((c :: rest).drop pattern.length)
      else c :: go pattern nonempty rest
  termination_by text => text.length
  decreasing_by
    · simp only [List.length_drop, List.length_cons]; omega
    · simp

/-- Whether `pattern` occurs somewhere in a text. -/
def occursIn (pattern : Text) : Text → Bool
  | [] => pattern = []
  | c :: rest => pattern.isPrefixOf (c :: rest) || occursIn pattern rest

/-- The text in lower case, for ASCII letters. -/
def toLowerAscii (text : Text) : Text := text.map Char.toLower

/-- `text` filled up with blanks on the right to `width` characters. -/
def padRight (width : Nat) (text : Text) : Text :=
  text ++ List.replicate (width - text.length) ' '

/-- The text without the trailing characters that satisfy `drop`. -/
def dropRightWhile (drop : Char → Bool) (text : Text) : Text :=
  (text.reverse.dropWhile drop).reverse

end Text
end Reimport
