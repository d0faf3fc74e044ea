import Reimport.Settings
import Reimport.Text.Blank
import Reimport.Toml.Value

/-!
# Given values

A setting can be given as a value of any kind, and is then read as leniently as
its meaning allows: a whole number may be a real number without a fraction, a
truth value or a numeral, a truth value may be one of a dozen words, a path is a
text.  What cannot be read is a fault of that setting.  `Proposal.check` reads
all of them and reports every fault, in the order of the settings.
-/
namespace Reimport.Settings

/-- A value that a setting is given. -/
inductive Given where
  /-- Explicitly nothing. -/
  | nothing
  /-- A truth value. -/
  | boolean (value : Bool)
  /-- A whole number. -/
  | integer (value : Int)
  /-- A number with a point or an exponent. -/
  | real (value : Binary64)
  /-- A text. -/
  | text (text : Text)
  /-- A path that was read before. -/
  | path (path : Path)
  /-- Values in order. -/
  | list (items : List Given)
  /-- A value of another kind, which no setting can be. -/
  | other
  deriving Repr, Inhabited

mutual

/-- A value of a document as it is given. -/
def Given.ofValue : Toml.Value → Given
  | .text words => .text words
  | .integer value => .integer value
  | .real value => .real value
  | .boolean value => .boolean value
  | .array items => .list (Given.ofValues items)
  | .moment _ | .table _ => .other

/-- The items of an array as they are given. -/
def Given.ofValues : List Toml.Value → List Given
  | [] => []
  | item :: rest => Given.ofValue item :: Given.ofValues rest

end

/-- Why a given value is not what a setting can be. -/
inductive Cause where
  /-- It is no text. -/
  | notText
  /-- It is no path. -/
  | notPath
  /-- It is no list. -/
  | notList
  /-- It is no whole number nor anything that can be read as one. -/
  | notInteger
  /-- It is a text that is no numeral. -/
  | notNumeral
  /-- It is a number with a fraction. -/
  | fraction
  /-- It is a number beyond all finite ones, or none at all. -/
  | notFinite
  /-- It is a number with more digits than are read. -/
  | tooLarge
  /-- It is a number below zero. -/
  | negative
  /-- It is no truth value nor anything that can be read as one. -/
  | notFlag
  /-- It is a number or a word that means neither yes nor no. -/
  | neitherYesNorNo
  /-- It is an extension of blanks alone. -/
  | emptyExtension
  deriving DecidableEq, Repr

/-- The wording of a cause. -/
def Cause.message : Cause → Text
  | .notText => "Not a text"
  | .notPath => "Not a path"
  | .notList => "Not a list"
  | .notInteger => "Not a whole number"
  | .notNumeral => "Not a numeral"
  | .fraction => "Not a whole number but a fraction"
  | .notFinite => "Not a finite number"
  | .tooLarge => "Too large a number"
  | .negative => "A negative number"
  | .notFlag => "Not a truth value"
  | .neitherYesNorNo => "Neither yes nor no"
  | .emptyExtension => "Corpus file extension must not be empty"

/-- A fault of a setting. -/
structure Fault where
  /-- The setting. -/
  field : Field
  /-- The position of the item that is at fault, if it is an item. -/
  index : Option Nat
  /-- What is wrong with it. -/
  cause : Cause
  deriving DecidableEq, Repr

/-- The wording of a fault. -/
def Fault.message (fault : Fault) : Text :=
  let item : Text := fault.index.elim [] fun index => .join [" ", Text.decimalNat index]
  .join [fault.field.name, item, ": ", fault.cause.message]

/-! ## Numerals -/

/-- The most digits of a numeral that are read. -/
def numeralLimit : Nat := 4300

/-- The number from which on a real number is not taken for a whole one, two to the
power of 63. -/
def wordLimit : Int := 9223372036854775808

/-- A blank that may stand around a numeral: any but the information separators. -/
def isOuterBlank (c : Char) : Bool := Text.isBlank c && !('\x1c' ≤ c && c ≤ '\x1f')

/-- The text without the blanks that may stand around a numeral. -/
def trimmed (text : Text) : Text := Text.dropRightWhile isOuterBlank (text.dropWhile isOuterBlank)

/-- Whether a text begins with a numeral that has too many digits to be read.  The
sign is no digit. -/
def isOverlong (text : Text) : Bool :=
  match text with
  | '-' :: digits => run digits > numeralLimit
  | digits => run digits > numeralLimit
where
  run (digits : Text) : Nat :=
    if digits.head?.any Text.isNonzeroDigit then (digits.takeWhile Char.isDigit).length else 0

/-- The numeral without the zeros, and the underscores among them, that stand in
front of its first other digit; one zero stays if there is no other digit before
the point.  A minus may follow the zeros.  A text that does not begin with a digit
is no numeral. -/
def withoutLeadingZeros? (text : Text) : Option Text :=
  match text with
  | [] => none
  | c :: rest =>
    if c = '0' then go c rest
    else if Text.isNonzeroDigit c then some text
    else none
where
  go (last : Char) : Text → Option Text
    | [] => some [last]
    | c :: rest =>
      if c = '0' || c = '_' then go c rest
      else if Text.isNonzeroDigit c || c = '-' then some (c :: rest)
      else if c = '.' then some (last :: c :: rest)
      else none

/-- The numeral without a fraction that is all zeros, one at least. -/
def withoutZeroFraction (text : Text) : Text :=
  match text.dropWhile (· ≠ '.') with
  | _ :: places =>
    if places ≠ [] && places.all (· = '0') then text.takeWhile (· ≠ '.') else text
  | [] => text

/-- The numeral without the single underscores between its characters. -/
def withoutUnderscores (text : Text) : Text :=
  if text.head? = some '_' || text.getLast? = some '_' || Text.occursIn ['_', '_'] text then text
  else text.filter (· ≠ '_')

/-- The plain numeral for a numeral with blanks around it, a sign, zeros in front,
underscores or a fraction of zeros. -/
def plain? (text : Text) : Option Text :=
  match trimmed text with
  | '+' :: rest => plainDigits rest
  | '-' :: rest => (plainDigits rest).map ('-' :: ·)
  | rest => plainDigits rest
where
  plainDigits (text : Text) : Option Text :=
    (withoutLeadingZeros? text).map fun text => withoutUnderscores (withoutZeroFraction text)

/-- The whole number that a text denotes.  Only a text that begins with too many
digits is called too large; a numeral that has too many once it is made plain is
none. -/
def integerOfText (text : Text) : Except Cause Int :=
  if isOverlong text then .error .tooLarge
  else match Text.integer? text with
    | some n => .ok n
    | none =>
      match plain? text with
      | none => .error .notNumeral
      | some plain =>
        match isOverlong plain, Text.integer? plain with
        | false, some n => .ok n
        | _, _ => .error .notNumeral

/-- The whole number that a real number is. -/
def integerOfReal (value : Binary64) : Except Cause Int :=
  if !value.isFinite then .error .notFinite
  else match value.whole? with
    | none => .error .fraction
    | some n => if -wordLimit < n && n < wordLimit then .ok n else .error .tooLarge

/-! ## Reading a value -/

/-- The words for yes. -/
def yesWords : List Text := ["1", "on", "t", "true", "y", "yes"]

/-- The words for no. -/
def noWords : List Text := ["0", "off", "f", "false", "n", "no"]

namespace Given

/-- A value read as a text. -/
def toText : Given → Except Cause Text
  | .text words => .ok words
  | _ => .error .notText

/-- A value read as a path. -/
def toPath : Given → Except Cause Path
  | .text words => .ok (Path.parse words)
  | .path known => .ok known
  | _ => .error .notPath

/-- A value read as a path that may be left out. -/
def toOptionalPath : Given → Except Cause (Option Path)
  | .nothing => .ok none
  | given => given.toPath.map some

/-- A value read as a whole number. -/
def toInteger : Given → Except Cause Int
  | .integer value => .ok value
  | .boolean value => .ok (if value then 1 else 0)
  | .real value => integerOfReal value
  | .text words => integerOfText words
  | _ => .error .notInteger

/-- A value read as a number that is not negative. -/
def toIndent (given : Given) : Except Cause Int := do
  let n ← given.toInteger
  if n < 0 then throw .negative else return n

/-- The answer that a whole number gives. -/
def flagOfInteger (value : Int) : Except Cause Bool :=
  if value = 0 then .ok false else if value = 1 then .ok true else .error .neitherYesNorNo

/-- A value read as a truth value. -/
def toFlag : Given → Except Cause Bool
  | .boolean value => .ok value
  | .integer value =>
    if -wordLimit ≤ value && value < wordLimit then flagOfInteger value else .error .notFlag
  | .real value =>
    match integerOfReal value with
    | .ok n => flagOfInteger n
    | .error _ => .error .notFlag
  | .text words =>
    if yesWords.contains (Text.toLowerAscii words) then .ok true
    else if noWords.contains (Text.toLowerAscii words) then .ok false
    else .error .neitherYesNorNo
  | _ => .error .notFlag

/-- A value read as an extension, which begins with a dot and has no blanks at
either end. -/
def toExtension (given : Given) : Except Cause Text := do
  let words := Text.strip (← given.toText)
  if words = [] then throw .emptyExtension
  else if words.head? = some '.' then return words
  else return '.' :: words

end Given

/-! ## Reading all values -/

/-- A setting that was read, or its faults. -/
abbrev Checked (α : Type) := Except (List Fault) α

/-- The faults of a setting. -/
def faultsOf {α : Type} : Checked α → List Fault
  | .ok _ => []
  | .error faults => faults

/-- A setting read from the value that it is given; one that is given none has its
default. -/
def check {α : Type} (field : Field) (read : Given → Except Cause α) (default : α) :
    Option Given → Checked α
  | none => .ok default
  | some given =>
    match read given with
    | .ok value => .ok value
    | .error cause => .error [⟨field, none, cause⟩]

/-- The items of a list read one by one, counted from `index` on. -/
def checkItems {α : Type} (field : Field) (read : Given → Except Cause α) (index : Nat) :
    List Given → Checked (List α)
  | [] => .ok []
  | item :: rest =>
    match read item, checkItems field read (index + 1) rest with
    | .ok value, .ok values => .ok (value :: values)
    | .ok _, .error faults => .error faults
    | .error cause, others => .error (⟨field, some index, cause⟩ :: faultsOf others)

/-- A setting of several values. -/
def checkList {α : Type} (field : Field) (read : Given → Except Cause α) (default : List α) :
    Option Given → Checked (List α)
  | none => .ok default
  | some (.list items) => checkItems field read 0 items
  | some _ => .error [⟨field, none, .notList⟩]

/-- The values that settings are given; those that are given none have their
defaults. -/
structure Proposal where
  /-- The root of the source tree. -/
  repoRoot : Option Given
  /-- The build directory. -/
  buildDir : Option Given
  /-- The compiler. -/
  compilerPath : Option Given
  /-- The corpus directories. -/
  corpusDirs : Option Given
  /-- The extension of corpus files. -/
  extension : Option Given
  /-- The excluded names. -/
  excludedNames : Option Given
  /-- The indentation of JSON. -/
  jsonIndent : Option Given
  /-- The splitter script. -/
  splitterScript : Option Given
  /-- The place of kept scratch directories. -/
  artifactsDir : Option Given
  /-- Whether the first mismatch halts the run. -/
  exitOnError : Option Given

/-- The proposal that a look-up by the names of settings gives. -/
def Proposal.ofLookup (given : Field → Option Given) : Proposal where
  repoRoot := given .repoRoot
  buildDir := given .buildDir
  compilerPath := given .compilerPath
  corpusDirs := given .corpusDirs
  extension := given .extension
  excludedNames := given .excludedNames
  jsonIndent := given .jsonIndent
  splitterScript := given .splitterScript
  artifactsDir := given .artifactsDir
  exitOnError := given .exitOnError

/-- Reads all settings, with the working directory as the default root of the
source tree. -/
def Proposal.check (proposal : Proposal) (cwd : Path) : Checked Settings :=
  let repoRoot := Settings.check .repoRoot Given.toPath cwd proposal.repoRoot
  let buildDir := Settings.check .buildDir Given.toPath ⟨.none, [buildName]⟩ proposal.buildDir
  let compilerPath :=
    Settings.check .compilerPath Given.toOptionalPath none proposal.compilerPath
  let corpusDirs := checkList .corpusDirs Given.toPath defaultCorpusDirs proposal.corpusDirs
  let extension :=
    Settings.check .extension Given.toExtension defaultExtension proposal.extension
  let excludedNames :=
    checkList .excludedNames Given.toText defaultExcludedNames proposal.excludedNames
  let jsonIndent := Settings.check .jsonIndent Given.toIndent defaultJsonIndent proposal.jsonIndent
  let splitterScript :=
    Settings.check .splitterScript Given.toOptionalPath none proposal.splitterScript
  let artifactsDir :=
    Settings.check .artifactsDir Given.toOptionalPath none proposal.artifactsDir
  let exitOnError := Settings.check .exitOnError Given.toFlag false proposal.exitOnError
  match repoRoot, buildDir, compilerPath, corpusDirs, extension, excludedNames, jsonIndent,
    splitterScript, artifactsDir, exitOnError with
  | .ok repoRoot, .ok buildDir, .ok compilerPath, .ok corpusDirs, .ok extension,
    .ok excludedNames, .ok jsonIndent, .ok splitterScript, .ok artifactsDir, .ok exitOnError =>
    .ok { repoRoot, buildDir, compilerPath, corpusDirs, extension, excludedNames, jsonIndent,
          splitterScript, artifactsDir, exitOnError }
  | _, _, _, _, _, _, _, _, _, _ =>
    .error (faultsOf repoRoot ++ faultsOf buildDir ++ faultsOf compilerPath ++
      faultsOf corpusDirs ++ faultsOf extension ++ faultsOf excludedNames ++
      faultsOf jsonIndent ++ faultsOf splitterScript ++ faultsOf artifactsDir ++
      faultsOf exitOnError)

end Reimport.Settings
